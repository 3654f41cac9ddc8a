import HostConsole.Command.Configuration

/-!
# Precedence of the settings

Each setting is looked for in its flag, in its variable, in the configuration file and at last
among the defaults, and the first of these that gives it counts. No other setting has a say in it.

Laying one layer over another treats the settings alike but not in the same way: some have a
default and some may be missing, some have a flag and some do not, and a variable counts only if
its text can be read as what the setting is. That the variables do not get in each other's way is a
matter of their names, of which there are eight (`settingText?_eq_get?`).

## Main definitions

* `firstOf`: the first of some values that exist
* `settingVariables`: the variables that give settings, each with the setting that it gives
* `Layer.IsConfigured`: the layer of the configuration file, if there is one
* `Precedence`: where each setting comes from

## Main results

* `settingText?_eq_get?`: the text for a setting is that of its variable
* `Globals.precedence_settings`: every setting comes from the first place that gives it
-/

namespace HostConsole

/-- The first of some values that exist. -/
def firstOf {α : Type} (values : List (Option α)) : Option α :=
  values.findSome? id

@[simp] theorem firstOf_nil {α : Type} : firstOf ([] : List (Option α)) = none := rfl

@[simp] theorem firstOf_cons {α : Type} (value : Option α) (values : List (Option α)) :
    firstOf (value :: values) = value.or (firstOf values) := by
  cases value <;> rfl

/-! ## Variables -/

/-- The variables that give settings, each with the setting that it gives. -/
def settingVariables : List (String × String) :=
  [("KATELLO_SERVER__URL", "server.url"),
   ("KATELLO_SERVER__USERNAME", "server.username"),
   ("KATELLO_SERVER__PASSWORD", "server.password"),
   ("KATELLO_SERVER__INSECURE", "server.insecure"),
   ("KATELLO_SERVER__TIMEOUT_SECS", "server.timeout_secs"),
   ("KATELLO_DEFAULTS__ORG", "defaults.org"),
   ("KATELLO_TASKS__TIMEOUT_SECS", "tasks.timeout_secs"),
   ("KATELLO_REPORT_DIR", "report_dir")]

/-- Settings are given by variables of these names only. Variables of other names may be there. -/
def Variables.AreUsual (vars : Variables) : Prop :=
  ∀ entry ∈ vars, ∀ setting, settingName? entry.1 = some setting →
    (entry.1, setting) ∈ settingVariables

variable {vars : Variables} {variableName setting : String}

theorem settingName?_of_mem (h : (variableName, setting) ∈ settingVariables) :
    settingName? variableName = some setting := by
  have named : ∀ entry ∈ settingVariables, settingName? entry.1 = some entry.2 := by
    decide +kernel
  exact named _ h

/-- No two variables give one setting. -/
theorem eq_of_mem_settingVariables {other : String}
    (h : (variableName, setting) ∈ settingVariables) (ho : (other, setting) ∈ settingVariables) :
    other = variableName := by
  have single : ∀ a ∈ settingVariables, ∀ b ∈ settingVariables, a.2 = b.2 → b.1 = a.1 := by
    decide +kernel
  exact single _ h _ ho rfl

/-- No setting is a part of another one. -/
theorem stripPrefix?_of_mem {other : String × String}
    (h : (variableName, setting) ∈ settingVariables) (ho : other ∈ settingVariables) :
    Text.stripPrefix? (setting ++ ".") other.2.toList = none := by
  have apart : ∀ a ∈ settingVariables, ∀ b ∈ settingVariables,
      Text.stripPrefix? (a.2 ++ ".") b.2.toList = none := by
    decide +kernel
  exact apart _ h _ ho

/-- Among usual variables the one for a setting is found by its name as well as by the setting. -/
theorem find?_settingTexts (usual : vars.AreUsual)
    (h : (variableName, setting) ∈ settingVariables) :
    ((settingTexts vars).find? fun entry => entry.1 == setting).map Prod.snd =
      (vars.find? fun entry => entry.1 == variableName).map Prod.snd := by
  -- Induction on the variables: those that give other settings are passed over on both sides.
  induction vars with
  | nil => rfl
  | cons entry vars ih =>
    have rest := ih fun entry mem => usual entry (List.mem_cons_of_mem _ mem)
    obtain ⟨name, value⟩ := entry
    unfold settingTexts at rest ⊢
    cases hs : settingName? name with
    | none =>
      -- The variable gives no setting, so it is not the one.
      have other : (name == variableName) = false := by
        rw [beq_eq_false_iff_ne]
        rintro rfl
        cases hs.symm.trans (settingName?_of_mem h)
      rw [List.filterMap_cons_none (by simp [hs]), List.find?_cons_of_neg (by simp [other])]
      exact rest
    | some given =>
      have mem := usual _ List.mem_cons_self given hs
      rw [List.filterMap_cons_some (by simp [hs] : _ = some (given, value))]
      by_cases same : given = setting
      · subst same
        obtain rfl := eq_of_mem_settingVariables h mem
        rw [List.find?_cons_of_pos (by simp), List.find?_cons_of_pos (by simp)]
        rfl
      · have other : name ≠ variableName := by
          rintro rfl
          exact same (Option.some.inj (hs.symm.trans (settingName?_of_mem h)))
        rw [List.find?_cons_of_neg (by simpa using same),
          List.find?_cons_of_neg (by simpa using other)]
        exact rest

/-- **The text for a setting is that of its variable**, whatever the other variables are. -/
theorem settingText?_eq_get? (usual : vars.AreUsual)
    (h : (variableName, setting) ∈ settingVariables) :
    settingText? vars setting = vars.get? variableName := by
  -- A variable for a part of the setting would make a section of it.
  have whole : ((settingTexts vars).any fun entry =>
      (Text.stripPrefix? (setting ++ ".") entry.1.toList).isSome) = false := by
    rw [List.any_eq_false]
    rintro ⟨given, value⟩ mem
    obtain ⟨⟨name, text⟩, hm, hn⟩ := List.mem_filterMap.mp mem
    obtain ⟨found, hs, he⟩ := Option.map_eq_some_iff.mp hn
    obtain rfl : found = given := congrArg Prod.fst he
    simp [stripPrefix?_of_mem h (usual _ hm _ hs)]
  -- Of several variables of one name the last one counts, on both sides.
  have turned : (settingTexts vars).reverse = settingTexts vars.reverse :=
    (List.filterMap_reverse ..).symm
  have found := @find?_settingTexts vars.reverse _ _
    (fun entry mem => usual entry (List.mem_reverse.mp mem)) h
  simp only [settingText?, whole, Bool.false_eq_true, if_false, Variables.get?, turned]
  exact found

/-! ## The configuration file -/

/-- The file at a path is a text that gives the layer. -/
def Layer.IsIn (files : Files) (path : String) (layer : Layer) : Prop :=
  files.isThere path = true ∧ ∃ bytes text, files.read path = .ok bytes ∧
    Utf8.decode? bytes = some text ∧ Layer.ofText? text = some layer

/-- The layer of the configuration file: of the one that is named, else of the usual one, and of
none if that is not there. -/
inductive Layer.IsConfigured (vars : Variables) (files : Files) : Option String → Layer → Prop where
  | named {path : String} {layer : Layer} (reads : layer.IsIn files path) :
      IsConfigured vars files (some path) layer
  | usual {path : String} {layer : Layer} (place : configurationPath? vars = some path)
      (reads : layer.IsIn files path) : IsConfigured vars files none layer
  | missing (absent : ∀ path, configurationPath? vars = some path → files.isThere path = false) :
      IsConfigured vars files none {}

theorem Layer.IsIn.layerOfFile_eq {files : Files} {path : String} {layer : Layer}
    (h : layer.IsIn files path) : layerOfFile files path = .ok layer := by
  obtain ⟨-, bytes, text, hr, hd, ho⟩ := h
  simp only [layerOfFile, hr, hd, ho]

theorem Layer.IsConfigured.fileLayer_eq {files : Files} {named : Option String} {layer : Layer}
    (h : layer.IsConfigured vars files named) : fileLayer vars files named = .ok layer := by
  cases h with
  | named reads =>
    simp only [fileLayer, reads.1, if_true]
    exact reads.layerOfFile_eq
  | usual place reads =>
    simp only [fileLayer, place, reads.1, if_true]
    exact reads.layerOfFile_eq
  | missing absent =>
    simp only [fileLayer]
    split
    · next path place => simp [absent path place]
    · rfl

/-! ## Layers over each other -/

/-- The timeouts that the environment gives, of those texts that are integers. -/
def Variables.seconds? (vars : Variables) (variableName : String) : Option Nat :=
  ((vars.get? variableName).bind integerOfText?).map Int.toNat

/-- Where each setting comes from: the first of its flag, its variable, the configuration file and
the defaults that gives it. -/
structure Precedence (globals : Globals) (vars : Variables) (file : Layer) (settings : Settings) :
    Prop where
  url : some settings.url = firstOf [globals.url, vars.get? "KATELLO_SERVER__URL", file.url,
    some "https://localhost/katello/api"]
  username : settings.username =
    firstOf [globals.username, vars.get? "KATELLO_SERVER__USERNAME", file.username]
  password : settings.password =
    firstOf [globals.password, vars.get? "KATELLO_SERVER__PASSWORD", file.password]
  insecure : some settings.insecure =
    firstOf [(vars.get? "KATELLO_SERVER__INSECURE").bind flagOfWord?, file.insecure, some false]
  requestTimeout : settings.requestTimeout =
    firstOf [vars.seconds? "KATELLO_SERVER__TIMEOUT_SECS", file.requestTimeout.join]
  org : settings.org = firstOf [vars.get? "KATELLO_DEFAULTS__ORG", file.org]
  taskTimeout : settings.taskTimeout =
    firstOf [globals.taskTimeout, vars.seconds? "KATELLO_TASKS__TIMEOUT_SECS",
      file.taskTimeout.join]
  /-- A path is expanded at last, and kept as it is where that cannot be done. -/
  reportDirectory : ∃ written,
    some written = firstOf [vars.get? "KATELLO_REPORT_DIR", file.reportDirectory, some "."] ∧
      settings.reportDirectory = expand vars written ∧
      (expandVariables? vars (written.toList.length + 1) written.toList = none →
        settings.reportDirectory = written)

/-- A timeout of the environment that is no negative number wins over the others. -/
theorem getD_timeout (text : Option String) (below : Option (Option Nat))
    (h : ∀ n, text.bind integerOfText? = some n → 0 ≤ n) :
    ((text.bind integerOfText?).map timeoutOfInteger).getD (below.getD none) =
      firstOf [(text.bind integerOfText?).map Int.toNat, below.join] := by
  cases hn : text.bind integerOfText? with
  | none =>
    -- The layer below counts, where no seconds are as good as nothing.
    cases below with
    | none => rfl
    | some seconds => simp
  | some n => simp [timeoutOfInteger, h n hn]

theorem expand_of_expandVariables? {path : String}
    (h : expandVariables? vars (path.toList.length + 1) path.toList = none) :
    expand vars path = path := by
  simp only [expand, h]

/-- **Every setting comes from the first place that gives it**, and from no place for another
setting. -/
theorem Globals.precedence_settings {globals : Globals} {files : Files} {file : Layer}
    (configured : file.IsConfigured vars files globals.config) (usual : vars.AreUsual)
    (lasting : ∀ variableName ∈ ["KATELLO_SERVER__TIMEOUT_SECS", "KATELLO_TASKS__TIMEOUT_SECS"],
      ∀ n, (vars.get? variableName).bind integerOfText? = some n → 0 ≤ n) :
    ∃ settings, globals.settings vars files = .ok settings ∧
      Precedence globals vars file settings := by
  have text {variableName setting : String} (h : (variableName, setting) ∈ settingVariables) :=
    settingText?_eq_get? usual h
  have loaded : globals.settings vars files =
      .ok (((({} : Settings).overlay file).overlay (.ofVariables vars)).expandPaths vars |>.overlay
        globals.layer) := by
    rw [Globals.settings, Settings.load, configured.fileLayer_eq]
    rfl
  refine ⟨_, loaded, ?_⟩
  constructor
  case url =>
    have given := @text "KATELLO_SERVER__URL" "server.url" (by decide)
    simp [Settings.overlay, Settings.expandPaths, Globals.layer, Layer.ofVariables, given]
  case username =>
    have given := @text "KATELLO_SERVER__USERNAME" "server.username" (by decide)
    simp [Settings.overlay, Settings.expandPaths, Globals.layer, Layer.ofVariables, given]
  case password =>
    have given := @text "KATELLO_SERVER__PASSWORD" "server.password" (by decide)
    simp [Settings.overlay, Settings.expandPaths, Globals.layer, Layer.ofVariables, given]
  case insecure =>
    have given := @text "KATELLO_SERVER__INSECURE" "server.insecure" (by decide)
    simp [Settings.overlay, Settings.expandPaths, Globals.layer, Layer.ofVariables, given]
  case requestTimeout =>
    have given := @text "KATELLO_SERVER__TIMEOUT_SECS" "server.timeout_secs" (by decide)
    simp only [Settings.overlay, Settings.expandPaths, Globals.layer, Layer.ofVariables, given]
    exact getD_timeout _ _ (lasting _ (by simp))
  case org =>
    have given := @text "KATELLO_DEFAULTS__ORG" "defaults.org" (by decide)
    simp [Settings.overlay, Settings.expandPaths, Globals.layer, Layer.ofVariables, given]
  case taskTimeout =>
    have given := @text "KATELLO_TASKS__TIMEOUT_SECS" "tasks.timeout_secs" (by decide)
    have below := getD_timeout (vars.get? "KATELLO_TASKS__TIMEOUT_SECS") file.taskTimeout
      (lasting _ (by simp))
    simp only [Settings.overlay, Settings.expandPaths, Globals.layer, Layer.ofVariables, given]
    rw [firstOf_cons, Variables.seconds?, ← below]
    cases globals.taskTimeout <;> rfl
  case reportDirectory =>
    have given := @text "KATELLO_REPORT_DIR" "report_dir" (by decide)
    refine ⟨(vars.get? "KATELLO_REPORT_DIR").getD (file.reportDirectory.getD "."), ?_, ?_, ?_⟩
    · simp
    · simp [Settings.overlay, Settings.expandPaths, Globals.layer, Layer.ofVariables, given]
    · intro unexpanded
      simp only [Settings.overlay, Settings.expandPaths, Globals.layer, Layer.ofVariables, given]
      exact expand_of_expandVariables? unexpanded

/-- A flag wins over a variable, and a file over a variable that cannot be read. -/
theorem Globals.precedence_settings_of_three_layers :
    let globals : Globals := { config := some "/c.toml", url := some "http://flag/api" }
    let vars : Variables :=
      [("HOME", "/home/me"), ("KATELLO_SERVER__URL", "http://variable/api"),
       ("KATELLO_TASKS__TIMEOUT_SECS", "ten"), ("KATELLO_REPORT_DIR", "~/reports")]
    let files := Files.ofEntries []
      [(["c.toml"], .file (Utf8.bytes "[tasks]\ntimeout_secs = 60\n[defaults]\norg = \"ACME\"\n"))]
    ∃ settings, globals.settings vars files = .ok settings ∧ settings.url = "http://flag/api" ∧
      settings.taskTimeout = some 60 ∧ settings.org = some "ACME" ∧
      settings.reportDirectory = "/home/me/reports" := by
  intro globals vars files
  let file : Layer := { taskTimeout := some (some 60), org := some "ACME" }
  let written := "[tasks]\ntimeout_secs = 60\n[defaults]\norg = \"ACME\"\n"
  have configured : file.IsConfigured vars files globals.config :=
    .named ⟨by decide +kernel, Utf8.bytes written, written.toList, by rfl, by decide +kernel,
      by decide +kernel⟩
  have usual : vars.AreUsual := by
    have named : ∀ entry ∈ vars, (settingName? entry.1).all
        (fun setting => decide ((entry.1, setting) ∈ settingVariables)) = true := by decide +kernel
    intro entry mem setting hs
    simpa [hs] using named entry mem
  have unread : ∀ name ∈ ["KATELLO_SERVER__TIMEOUT_SECS", "KATELLO_TASKS__TIMEOUT_SECS"],
      (vars.get? name).bind integerOfText? = none := by decide +kernel
  obtain ⟨settings, loaded, first⟩ := precedence_settings configured usual
    fun name mem n read => nomatch (unread name mem).symm.trans read
  obtain ⟨path, hp, expanded, -⟩ := first.reportDirectory
  obtain rfl : path = "~/reports" := Option.some.inj hp
  refine ⟨settings, loaded, Option.some.inj first.url, ?_, first.org, expanded.trans ?_⟩
  · rw [first.taskTimeout, Variables.seconds?, unread _ (by simp)]
    rfl
  · decide +kernel

end HostConsole
