import HostConsole.Proofs.Precedence
import HostConsole.Proofs.Waiting
import Mathlib.Data.Nat.Digits.Defs

/-!
# Timeouts of the environment

A timeout of the environment is given as a text. A text that is no integer of 64 bits gives nothing,
so that the timeout is the one of the layers below. An integer is a timeout if it is not negative.
A negative one is no such text: it takes the timeout of the layers below away, and then a task is
waited for without limit, although the configuration file sets one.

What a text stands for is said by a grammar of its own (`Denotes`, `Reads`), and what comes of it by
four cases (`TimeoutFrom`), of which only the last one takes a timeout away.

## Main definitions

* `Denotes`, `Reads`: the integer that a numeral stands for, and the one that a text is read as
* `TimeoutFrom`: where a timeout comes from
* `Variables.without`: the environment without the variables for a setting

## Main results

* `integerOfText?_eq_some_iff`: which texts are read as which integers
* `settingText?_without`: a setting that is not given does not change what the others give
* `Settings.timeouts_load`: the timeouts that are loaded, and when a wait has a limit
-/

namespace HostConsole

/-! ## Texts that stand for integers -/

variable {s : String} {n : Int} {cs : List Char}

/-- The number of some decimal digits, the last of which counts ones. -/
def decimal (cs : List Char) : Nat :=
  Nat.ofDigits 10 (cs.reverse.map fun c => c.toNat - '0'.toNat)

/-- There are digits, and nothing else. -/
def AreDigits (cs : List Char) : Prop :=
  cs ≠ [] ∧ ∀ c ∈ cs, c.isDigit = true

/-- The integer that a numeral stands for: digits, perhaps with a sign before them. -/
inductive Denotes : List Char → Int → Prop where
  | plain {cs : List Char} (digits : AreDigits cs) : Denotes cs (decimal cs)
  | plus {cs : List Char} (digits : AreDigits cs) : Denotes ('+' :: cs) (decimal cs)
  | minus {cs : List Char} (digits : AreDigits cs) : Denotes ('-' :: cs) (-decimal cs)

/-- The words that stand for one. -/
def yesWords : List String := ["true", "on", "yes"]

/-- The words that stand for zero. -/
def noWords : List String := ["false", "off", "no"]

/-- The integer that a text is read as: a word for yes or no in letters of any case, or a numeral
that fits 64 bits. -/
inductive Reads (s : String) : Int → Prop where
  | yes (word : String.ofList (lowerText s) ∈ yesWords) : Reads s 1
  | no (word : String.ofList (lowerText s) ∈ noWords) : Reads s 0
  | numeral {n : Int} (denotes : Denotes s.toList n) (least : -2 ^ 63 ≤ n) (largest : n < 2 ^ 63) :
      Reads s n

theorem decimalValue?_eq_some_iff {value : Nat} :
    decimalValue? cs = some value ↔ AreDigits cs ∧ decimal cs = value := by
  have folded : cs.foldl (fun n c => n * 10 + (c.toNat - 48)) 0 = decimal cs := by
    rw [decimal, Nat.ofDigits_eq_foldr, List.foldr_map, List.foldr_reverse]
    refine congrArg (fun step => cs.foldl step 0) ?_
    funext n c
    rw [Nat.cast_id, mul_comm, add_comm]
    rfl
  rw [decimalValue?, folded]
  simp [AreDigits]

/-- A number of digits is a numeral, with the sign that a function gives it. -/
theorem map_decimalValue?_eq_some_iff {signed : Nat → Int} :
    (decimalValue? cs).map signed = some n ↔ AreDigits cs ∧ signed (decimal cs) = n := by
  simp [decimalValue?_eq_some_iff]

theorem not_areDigits_of_sign {sign : Char} (h : sign.isDigit = false) :
    ¬ AreDigits (sign :: cs) := by
  rintro ⟨-, digits⟩
  cases h.symm.trans (digits sign List.mem_cons_self)

/-- The integers that fit are read off every numeral. -/
theorem typedInteger?_eq_some_iff :
    typedInteger? s = some n ↔ Denotes s.toList n ∧ -2 ^ 63 ≤ n ∧ n < 2 ^ 63 := by
  have fits : fitsSigned n = true ↔ -2 ^ 63 ≤ n ∧ n < 2 ^ 63 := by
    simp only [fitsSigned, signedBound, Bool.and_eq_true]
    norm_num
  unfold typedInteger?
  rw [Option.filter_eq_some_iff, fits, and_congr_left_iff]
  intro _
  generalize s.toList = text
  -- One kind of numeral for each of the three beginnings. The kinds exclude each other, since no
  -- sign is a digit.
  split
  · next rest =>
    rw [map_decimalValue?_eq_some_iff]
    constructor
    · rintro ⟨digits, rfl⟩
      exact .plus digits
    · rintro (digits | digits | _)
      · exact absurd digits (not_areDigits_of_sign rfl)
      · exact ⟨digits, rfl⟩
  · next rest =>
    rw [map_decimalValue?_eq_some_iff]
    constructor
    · rintro ⟨digits, rfl⟩
      exact .minus digits
    · rintro (digits | _ | digits)
      · exact absurd digits (not_areDigits_of_sign rfl)
      · exact ⟨digits, rfl⟩
  · next text no_plus no_minus =>
    rw [map_decimalValue?_eq_some_iff]
    constructor
    · rintro ⟨digits, rfl⟩
      exact .plain digits
    · intro denotes
      cases denotes with
      | plain digits => exact ⟨digits, rfl⟩
      | plus => exact absurd rfl (no_plus _)
      | minus => exact absurd rfl (no_minus _)

/-- The characters of numerals have no lower case. -/
theorem lowerLetter_of_lt {c : Char} (h : c.toNat < 'A'.toNat) : lowerLetter c = c := by
  have other : c ≠ '\u212A' := by
    rintro rfl
    exact absurd h (by decide)
  have small : ¬ (c.val ≥ 'A'.val ∧ c.val ≤ 'Z'.val) := by
    rintro ⟨letter, -⟩
    exact absurd (UInt32.le_iff_toNat_le.mp letter) (Nat.not_le.mpr h)
  rw [lowerLetter, if_neg other]
  exact dif_neg small

theorem AreDigits.exists_cons (h : AreDigits cs) :
    ∃ c rest, cs = c :: rest ∧ c.toNat < 'A'.toNat := by
  obtain ⟨c, rest, rfl⟩ := List.exists_cons_of_ne_nil h.1
  obtain ⟨-, high⟩ := Char.isDigit_iff_toNat.mp (h.2 c List.mem_cons_self)
  exact ⟨c, rest, rfl, lt_of_le_of_lt high (by decide)⟩

theorem Denotes.exists_cons (h : Denotes cs n) :
    ∃ c rest, cs = c :: rest ∧ c.toNat < 'A'.toNat := by
  cases h with
  | plain digits => exact digits.exists_cons
  | plus => exact ⟨_, _, rfl, by decide⟩
  | minus => exact ⟨_, _, rfl, by decide⟩

/-- No numeral is a word for yes or no: words begin with letters. -/
theorem Denotes.ne_word (h : Denotes s.toList n) {word : String}
    (hw : word ∈ yesWords ++ noWords) : String.ofList (lowerText s) ≠ word := by
  have begins : ∀ word ∈ yesWords ++ noWords, ∀ c ∈ word.toList.head?, 'A'.toNat ≤ c.toNat := by
    simp [yesWords, noWords]
  rintro rfl
  -- A digit or a sign stays itself in lower case, and stands before all letters.
  obtain ⟨c, rest, hc, digit⟩ := h.exists_cons
  have letter := begins _ hw c (by simp [lowerText, hc, lowerLetter_of_lt digit])
  omega

/-- **Which texts are read as which integers.** -/
theorem integerOfText?_eq_some_iff : integerOfText? s = some n ↔ Reads s n := by
  have yes : String.ofList (lowerText s) ∈ yesWords ↔ String.ofList (lowerText s) = "true" ∨
      String.ofList (lowerText s) = "on" ∨ String.ofList (lowerText s) = "yes" := by
    simp [yesWords]
  have no : String.ofList (lowerText s) ∈ noWords ↔ String.ofList (lowerText s) = "false" ∨
      String.ofList (lowerText s) = "off" ∨ String.ofList (lowerText s) = "no" := by
    simp [noWords]
  simp only [integerOfText?, ← yes, ← no]
  by_cases is_yes : String.ofList (lowerText s) ∈ yesWords
  · rw [if_pos is_yes]
    constructor
    · rintro ⟨⟩
      exact .yes is_yes
    · rintro (_ | is_no | ⟨denotes, -, -⟩)
      · rfl
      · -- No word stands for both.
        have apart : ∀ word ∈ yesWords, word ∉ noWords := by decide
        exact absurd is_no (apart _ is_yes)
      · exact absurd rfl (denotes.ne_word (List.mem_append_left _ is_yes))
  · rw [if_neg is_yes]
    by_cases is_no : String.ofList (lowerText s) ∈ noWords
    · rw [if_pos is_no]
      constructor
      · rintro ⟨⟩
        exact .no is_no
      · rintro (is_yes' | _ | ⟨denotes, -, -⟩)
        · exact absurd is_yes' is_yes
        · rfl
        · exact absurd rfl (denotes.ne_word (List.mem_append_right _ is_no))
    · rw [if_neg is_no, typedInteger?_eq_some_iff]
      constructor
      · rintro ⟨denotes, least, largest⟩
        exact .numeral denotes least largest
      · rintro (is_yes' | is_no' | ⟨denotes, least, largest⟩)
        · exact absurd is_yes' is_yes
        · exact absurd is_no' is_no
        · exact ⟨denotes, least, largest⟩

/-! ## A timeout over those of the layers below -/

/-- Where a timeout comes from: from the layers below, where the environment gives no text that can
be read, else from that text. A negative integer leaves no timeout. -/
inductive TimeoutFrom (text : Option String) (below : Option Nat) : Option Nat → Prop where
  | below (unread : ∀ given, text = some given → ∀ n, ¬ Reads given n) :
      TimeoutFrom text below below
  | given {given : String} {seconds : Nat} (gives : text = some given)
      (reads : Reads given seconds) : TimeoutFrom text below (some seconds)
  | taken {given : String} {n : Int} (gives : text = some given) (reads : Reads given n)
      (negative : n < 0) : TimeoutFrom text below none

/-- The timeout that a text of the environment gives over the layer below. -/
def timeoutOver (text : Option String) (below : Option (Option Nat)) : Option Nat :=
  ((text.bind integerOfText?).map timeoutOfInteger).getD (below.getD none)

theorem timeoutOver_of_unread {text : Option String} {below : Option (Option Nat)}
    (unread : ∀ given, text = some given → ∀ n, ¬ Reads given n) :
    timeoutOver text below = below.join := by
  have none_read : text.bind integerOfText? = none := by
    rw [Option.bind_eq_none_iff]
    intro given gives
    rw [Option.eq_none_iff_forall_ne_some]
    intro n read
    exact unread given gives n (integerOfText?_eq_some_iff.mp read)
  rw [timeoutOver, none_read]
  cases below <;> rfl

theorem timeoutOver_of_reads {text : Option String} {below : Option (Option Nat)} {given : String}
    {n : Int} (gives : text = some given) (reads : Reads given n) :
    timeoutOver text below = timeoutOfInteger n := by
  rw [timeoutOver, gives, Option.bind_some, integerOfText?_eq_some_iff.mpr reads, Option.map_some,
    Option.getD_some]

theorem timeoutFrom_timeoutOver (text : Option String) (below : Option (Option Nat)) :
    TimeoutFrom text below.join (timeoutOver text below) := by
  cases read : text.bind integerOfText? with
  | none =>
    have unread : ∀ given, text = some given → ∀ n, ¬ Reads given n := by
      rintro given rfl n reads
      cases read.symm.trans (integerOfText?_eq_some_iff.mpr reads)
    rw [timeoutOver_of_unread unread]
    exact .below unread
  | some n =>
    obtain ⟨given, gives, hn⟩ := Option.bind_eq_some_iff.mp read
    have reads := integerOfText?_eq_some_iff.mp hn
    rw [timeoutOver_of_reads gives reads, timeoutOfInteger]
    by_cases limit : 0 ≤ n
    · rw [if_pos limit]
      exact .given gives (by rwa [Int.toNat_of_nonneg limit])
    · rw [if_neg limit]
      exact .taken gives reads (Int.not_le.mp limit)

/-- Text and layers below leave no choice. -/
theorem TimeoutFrom.eq_timeoutOver {text : Option String} {below : Option (Option Nat)}
    {timeout : Option Nat} (h : TimeoutFrom text below.join timeout) :
    timeout = timeoutOver text below := by
  cases h with
  | below unread => exact (timeoutOver_of_unread unread).symm
  | given gives reads =>
    rw [timeoutOver_of_reads gives reads, timeoutOfInteger, if_pos (Int.natCast_nonneg _)]
    rfl
  | taken gives reads negative =>
    rw [timeoutOver_of_reads gives reads, timeoutOfInteger, if_neg (Int.not_le.mpr negative)]

/-- A timeout of the layers below is taken away by a negative integer and by nothing else. -/
theorem timeoutOver_eq_none_iff {text : Option String} {below : Option (Option Nat)} {limit : Nat}
    (h : below.join = some limit) :
    timeoutOver text below = none ↔ ∃ given n, text = some given ∧ Reads given n ∧ n < 0 := by
  constructor
  · intro away
    have source := timeoutFrom_timeoutOver text below
    rw [away, h] at source
    cases source with
    | taken gives reads negative => exact ⟨_, _, gives, reads, negative⟩
  · rintro ⟨given, n, gives, reads, negative⟩
    rw [timeoutOver_of_reads gives reads, timeoutOfInteger, if_neg (Int.not_le.mpr negative)]

/-! ## The environment without a variable -/

/-- The environment without the variables for a setting. -/
def Variables.without (vars : Variables) (setting : String) : Variables :=
  vars.filter fun entry => settingName? entry.1 != some setting

variable {vars : Variables} {setting other : String}

theorem settingTexts_without :
    settingTexts (vars.without setting) =
      (settingTexts vars).filter fun entry => entry.1 != setting := by
  unfold settingTexts Variables.without
  rw [List.filterMap_filter, List.filter_filterMap]
  refine congrArg (fun f => List.filterMap f vars) (funext fun entry => ?_)
  cases named : settingName? entry.1 with
  | none => simp [named]
  | some given => by_cases same : given = setting <;> simp [named, same, Option.filter]

/-- Variables of other names do not change what a variable is. -/
theorem Variables.get?_filter {entries : Variables} {name : String} {kept : String × String → Bool}
    (h : ∀ entry, entry.1 = name → kept entry = true) :
    Variables.get? (entries.filter kept) name = entries.get? name := by
  unfold Variables.get?
  rw [← List.filter_reverse, List.find?_filter]
  refine congrArg (fun p => (List.find? p entries.reverse).map Prod.snd) (funext fun entry => ?_)
  by_cases same : entry.1 = name <;> simp [same, h entry]

theorem settingText?_without_self : settingText? (vars.without setting) setting = none := by
  have absent : Variables.get? ((settingTexts vars).filter fun entry => entry.1 != setting) setting =
      none := by
    rw [Variables.get?, Option.map_eq_none_iff, List.find?_eq_none]
    intro entry mem
    have other := (List.mem_filter.mp (List.mem_reverse.mp mem)).2
    simpa using other
  rw [settingText?, settingTexts_without, absent]
  exact ite_self none

/-- A setting that is not given does not change what the environment gives for another one. -/
theorem settingText?_without (ne : setting ≠ other)
    (apart : Text.stripPrefix? (other ++ ".") setting.toList = none) :
    settingText? (vars.without setting) other = settingText? vars other := by
  -- A setting with parts has no text of its own, so that the parts have to stay as well.
  have parts : ((settingTexts vars).filter fun entry => entry.1 != setting).any
        (fun entry => (Text.stripPrefix? (other ++ ".") entry.1.toList).isSome) =
      (settingTexts vars).any
        fun entry => (Text.stripPrefix? (other ++ ".") entry.1.toList).isSome := by
    rw [List.any_filter]
    refine congrArg (List.any _) (funext fun entry => ?_)
    by_cases same : entry.1 = setting <;> simp [same, apart]
  have kept : Variables.get? ((settingTexts vars).filter fun entry => entry.1 != setting) other =
      Variables.get? (settingTexts vars) other := by
    refine Variables.get?_filter fun entry named => ?_
    simpa [named] using ne.symm
  rw [settingText?, settingTexts_without, parts, kept]
  rfl

theorem get?_without {name : String} (h : settingName? name = none) :
    (vars.without setting).get? name = vars.get? name := by
  refine Variables.get?_filter fun entry named => ?_
  simp [named, h]

/-- The configuration file is found without a variable for a setting. -/
theorem configurationPath?_without :
    configurationPath? (vars.without setting) = configurationPath? vars := by
  have home : settingName? "HOME" = none := by decide +kernel
  have own : settingName? "XDG_CONFIG_HOME" = none := by decide +kernel
  unfold configurationPath? configurationDirectory? Variables.home?
  rw [get?_without home, get?_without own]

theorem Layer.IsConfigured.without {files : Files} {named : Option String} {file : Layer}
    (h : file.IsConfigured vars files named) (setting : String) :
    file.IsConfigured (vars.without setting) files named := by
  cases h with
  | named reads => exact .named reads
  | usual place reads => exact .usual (configurationPath?_without.trans place) reads
  | missing absent =>
    refine .missing fun path place => absent path ?_
    rwa [configurationPath?_without] at place

/-! ## The timeouts that are loaded -/

theorem Layer.IsConfigured.exists_load {files : Files} {named : Option String} {file : Layer}
    (h : file.IsConfigured vars files named) :
    ∃ settings, Settings.load vars files named = .ok settings ∧
      settings.requestTimeout =
        timeoutOver (settingText? vars "server.timeout_secs") file.requestTimeout ∧
      settings.taskTimeout =
        timeoutOver (settingText? vars "tasks.timeout_secs") file.taskTimeout := by
  have loaded : Settings.load vars files named =
      .ok (((({} : Settings).overlay file).overlay (.ofVariables vars)).expandPaths vars) := by
    rw [Settings.load, h.fileLayer_eq]
    rfl
  exact ⟨_, loaded, rfl, rfl⟩

/-- A text that cannot be read is as good as none, for the timeout that it is about as for others. -/
theorem timeoutOver_without {below : Option (Option Nat)}
    (unread : ∀ given, settingText? vars setting = some given → ∀ n, ¬ Reads given n)
    (apart : Text.stripPrefix? (other ++ ".") setting.toList = none) :
    timeoutOver (settingText? (vars.without setting) other) below =
      timeoutOver (settingText? vars other) below := by
  by_cases same : setting = other
  · subst same
    rw [timeoutOver_of_unread unread, settingText?_without_self]
    exact timeoutOver_of_unread nofun
  · rw [settingText?_without same apart]

/-- A wait is without limit exactly if the settings have no timeout. -/
theorem Session.mostLooks_of (settings : Settings) (globals : Globals) :
    (Session.of settings globals).polling.mostLooks = ⊤ ↔ settings.taskTimeout = none := by
  cases timeout : settings.taskTimeout <;>
    simp [Session.of, Polling.withTimeout, Settings.taskTimeoutMillis, Polling.mostLooks, timeout]

/-- **A text that cannot be read takes no timeout away.** Each timeout is the one of the layers
below, as if its variable were unset, or the integer that the text of its variable is read as. A
negative integer alone takes the timeout away, and by that the limit that the configuration file
sets for waiting. -/
theorem Settings.timeouts_load {files : Files} {named : Option String} {file : Layer}
    (configured : file.IsConfigured vars files named) :
    ∃ settings, Settings.load vars files named = .ok settings ∧
      TimeoutFrom (settingText? vars "server.timeout_secs") file.requestTimeout.join
        settings.requestTimeout ∧
      TimeoutFrom (settingText? vars "tasks.timeout_secs") file.taskTimeout.join
        settings.taskTimeout ∧
      (∀ setting ∈ ["server.timeout_secs", "tasks.timeout_secs"],
        (∀ given, settingText? vars setting = some given → ∀ n, ¬ Reads given n) →
        ∃ other, Settings.load (vars.without setting) files named = .ok other ∧
          other.requestTimeout = settings.requestTimeout ∧
          other.taskTimeout = settings.taskTimeout) ∧
      (∀ globals limit, globals.config = named → globals.taskTimeout = none →
        file.taskTimeout.join = some limit →
        ∃ loaded, globals.settings vars files = .ok loaded ∧
          ((Session.of loaded globals).polling.mostLooks = ⊤ ↔
            ∃ given n, settingText? vars "tasks.timeout_secs" = some given ∧ Reads given n ∧
              n < 0)) ∧
      (vars.AreUsual →
        settingText? vars "server.timeout_secs" = vars.get? "KATELLO_SERVER__TIMEOUT_SECS" ∧
        settingText? vars "tasks.timeout_secs" = vars.get? "KATELLO_TASKS__TIMEOUT_SECS") := by
  obtain ⟨settings, loaded, request, task⟩ := configured.exists_load
  refine ⟨settings, loaded, ?_, ?_, ?_, ?_, fun usual => ?_⟩
  · rw [request]
    exact timeoutFrom_timeoutOver ..
  · rw [task]
    exact timeoutFrom_timeoutOver ..
  · intro setting mem unread
    obtain ⟨other, loaded', request', task'⟩ := (configured.without setting).exists_load
    -- Neither of the two settings is a part of one of them.
    have apart : ∀ setting ∈ ["server.timeout_secs", "tasks.timeout_secs"],
        Text.stripPrefix? ("server.timeout_secs" ++ ".") setting.toList = none ∧
          Text.stripPrefix? ("tasks.timeout_secs" ++ ".") setting.toList = none := by
      decide +kernel
    refine ⟨other, loaded', ?_, ?_⟩
    · rw [request', request]
      exact timeoutOver_without unread (apart setting mem).1
    · rw [task', task]
      exact timeoutOver_without unread (apart setting mem).2
  · rintro globals limit rfl no_flag file_limit
    -- The flags bring no timeout, so that it is still the one of the environment.
    refine ⟨settings.overlay globals.layer, by rw [Globals.settings, loaded]; rfl, ?_⟩
    have kept : (settings.overlay globals.layer).taskTimeout = settings.taskTimeout := by
      simp [Settings.overlay, Globals.layer, no_flag]
    rw [Session.mostLooks_of, kept, task]
    exact timeoutOver_eq_none_iff file_limit
  · exact ⟨settingText?_eq_get? usual (by decide), settingText?_eq_get? usual (by decide)⟩

/-- An integer that is too large is no text for a timeout: that of the file stays. -/
theorem Settings.timeouts_load_of_large_integer :
    let vars : Variables :=
      [("HOME", "/home/me"), ("KATELLO_SERVER__TIMEOUT_SECS", "+5"),
       ("KATELLO_TASKS__TIMEOUT_SECS", "-9223372036854775809")]
    let files := Files.ofEntries []
      [(["c.toml"], .file (Utf8.bytes "[tasks]\ntimeout_secs = 30\n"))]
    ∃ settings, Settings.load vars files (some "/c.toml") = .ok settings ∧
      settings.requestTimeout = some 5 ∧ settings.taskTimeout = some 30 := by
  intro vars files
  let file : Layer := { taskTimeout := some (some 30) }
  let written := "[tasks]\ntimeout_secs = 30\n"
  have configured : file.IsConfigured vars files (some "/c.toml") :=
    .named ⟨by decide +kernel, Utf8.bytes written, written.toList, by rfl, by decide +kernel,
      by decide +kernel⟩
  obtain ⟨settings, loaded, request, task, -⟩ := Settings.timeouts_load configured
  refine ⟨settings, loaded, request.eq_timeoutOver.trans ?_, task.eq_timeoutOver.trans ?_⟩
  · decide +kernel
  · decide +kernel

/-- A negative integer takes away the limit that the file sets for waiting, which without the
variable is there. -/
theorem Settings.timeouts_load_of_negative_integer :
    let vars : Variables := [("HOME", "/home/me"), ("KATELLO_TASKS__TIMEOUT_SECS", "-1")]
    let files := Files.ofEntries []
      [(["c.toml"], .file (Utf8.bytes "[tasks]\ntimeout_secs = 30\n"))]
    (Settings.load vars files (some "/c.toml")).toOption.map Settings.taskTimeout = some none ∧
      (Settings.load (vars.without "tasks.timeout_secs") files (some "/c.toml")).toOption.map
        Settings.taskTimeout = some (some 30) := by
  decide +kernel

end HostConsole
