import HostConsole.Proofs.AttachmentName

/-!
# Names in quotes

A name that stands in quotes is read back whole, whatever parameters stand around it, unless it has
a semicolon. The header falls at its semicolons before anything is known of quotes, so of a name
with a semicolon only what stands before it is read, without the white space that it ends with.

## Main definitions

* `parametersOf`: what stands between the semicolons of a header
* `dispositionHeader`: the header with a name in quotes among other parameters
* `NamesFile`: a text that brings a file name of its own into a header

## Main results

* `parametersOf_join`: the parameters of texts that are joined are those of the texts
* `attachmentName_quoted`: what is read of a name in quotes
-/

namespace HostConsole

/-! ## Parameters of a header -/

/-- What stands between the semicolons of a header, without the white space around. -/
def parametersOf (text : List Char) : List (List Char) :=
  (text.splitOn ';').map Text.trim

theorem parametersOf_append_cons (text rest : List Char) :
    parametersOf (text ++ ';' :: rest) = parametersOf text ++ parametersOf rest := by
  rw [parametersOf, List.splitOn_append_cons_self, List.map_append]
  rfl

theorem parametersOf_of_notMem {text : List Char} (h : ';' ∉ text) :
    parametersOf text = [Text.trim text] := by
  rw [parametersOf, List.splitOn_eq_singleton h, List.map_singleton]

theorem trim_space_cons (text : List Char) : Text.trim (' ' :: text) = Text.trim text := by
  have blank : Text.isBlank ' ' = true := by decide
  rw [Text.trim, Text.trim, Text.trimStart, Text.trimStart, List.dropWhile_cons_of_pos blank]

/-- A space in front of a text is none of its parameters. -/
theorem parametersOf_space_cons (text : List Char) :
    parametersOf (' ' :: text) = parametersOf text := by
  rw [parametersOf, parametersOf, List.splitOn_cons_eq_if_modifyHead, if_neg (by decide)]
  cases h : text.splitOn ';' with
  | nil => exact absurd h (List.splitOn_ne_nil _ _)
  | cons first others =>
    rw [List.modifyHead_cons, List.map_cons, List.map_cons, trim_space_cons]

/-- The parameters of texts that are joined are those of the texts, in their order. -/
theorem parametersOf_join {texts : List (List Char)} (h : texts ≠ []) :
    parametersOf (List.intercalate [';', ' '] texts) = texts.flatMap parametersOf := by
  induction texts with
  | nil => exact absurd rfl h
  | cons text texts ih =>
    cases texts with
    | nil => simp
    | cons second texts =>
      have joint : text ++ [';', ' '] ++ List.intercalate [';', ' '] (second :: texts) =
          text ++ ';' :: ' ' :: List.intercalate [';', ' '] (second :: texts) := by simp
      rw [List.intercalate_cons_cons, joint, parametersOf_append_cons, parametersOf_space_cons,
        ih (List.cons_ne_nil _ _), ← List.flatMap_cons]

/-! ## Names in quotes -/

/-- The text brings a file name of its own into a header. -/
def NamesFile (text : String) : Prop :=
  ∃ parameter ∈ parametersOf text.toList, "filename=".toList <+: parameter

instance (text : String) : Decidable (NamesFile text) :=
  inferInstanceAs (Decidable (∃ parameter ∈ parametersOf text.toList,
    "filename=".toList <+: parameter))

/-- The parameter that gives a name in quotes. -/
def quotedName (name : String) : String :=
  "filename=\"" ++ name ++ "\""

/-- The header that begins with the kind of the disposition and has the name in quotes among other
parameters. -/
def dispositionHeader (kind : String) (before : List String) (name : String)
    (after : List String) : String :=
  String.intercalate "; " (kind :: before ++ quotedName name :: after)

theorem parametersOf_dispositionHeader (kind : String) (before : List String) (name : String)
    (after : List String) :
    parametersOf (dispositionHeader kind before name after).toList =
      (kind :: before).flatMap (fun text => parametersOf text.toList) ++
        (parametersOf (quotedName name).toList ++
          after.flatMap fun text => parametersOf text.toList) := by
  rw [dispositionHeader, String.toList_intercalate]
  change parametersOf (List.intercalate [';', ' '] _) = _
  rw [parametersOf_join (by simp), List.flatMap_map, List.flatMap_append]
  rfl

/-! ## The parameter of a name in quotes -/

/-- The beginning of the parameter is no white space, so only its end is trimmed. -/
theorem trim_fileName (body : List Char) :
    Text.trim ("filename=\"".toList ++ body) = "filename=".toList ++ '"' :: Text.trimEnd body := by
  have begun : Text.trimStart ("filename=\"".toList ++ body) = "filename=".toList ++ '"' :: body :=
    List.dropWhile_cons_of_neg (by decide)
  rw [Text.trim, begun, Text.trimEnd_append_cons (by decide)]

theorem toList_quotedName (name : String) :
    (quotedName name).toList = "filename=\"".toList ++ (name.toList ++ ['"']) := by
  simp [quotedName]

/-- A name without a semicolon is one parameter with its quotes. -/
theorem parametersOf_quotedName_of_whole {name : String} (whole : ';' ∉ name.toList) :
    parametersOf (quotedName name).toList =
      ["filename=".toList ++ '"' :: (name.toList ++ ['"'])] := by
  have undivided : ';' ∉ (quotedName name).toList := by
    rw [toList_quotedName]
    intro mem
    rcases List.mem_append.mp mem with key | rest
    · exact absurd key (by decide)
    · rcases List.mem_append.mp rest with within | quote
      · exact whole within
      · exact absurd quote (by decide)
  rw [parametersOf_of_notMem undivided, toList_quotedName, trim_fileName,
    Text.trimEnd_append_cons (by decide)]
  rfl

/-- A name with a semicolon is cut there, and its first part is left without a quote behind it. -/
theorem parametersOf_quotedName_of_cut {name : String} {front back : List Char}
    (split : name.toList = front ++ ';' :: back) (first : ';' ∉ front) :
    parametersOf (quotedName name).toList =
      ("filename=".toList ++ '"' :: Text.trimEnd front) :: parametersOf (back ++ ['"']) := by
  have undivided : ';' ∉ "filename=\"".toList ++ front := by
    intro mem
    rcases List.mem_append.mp mem with key | within
    · exact absurd key (by decide)
    · exact first within
  have regroup : "filename=\"".toList ++ (front ++ ';' :: back ++ ['"']) =
      "filename=\"".toList ++ front ++ ';' :: (back ++ ['"']) := by simp
  rw [toList_quotedName, split, regroup, parametersOf_append_cons,
    parametersOf_of_notMem undivided, trim_fileName, List.singleton_append]

/-! ## What is read -/

/-- Quotes around a text without any are what is taken away. -/
theorem isInner_quotes {text back : List Char} (h : '"' ∉ text) (quotes : ∀ c ∈ back, c = '"') :
    IsInner (· == '"') ('"' :: (text ++ back)) text where
  within := ⟨['"'], back, rfl, by simp, by simpa using quotes⟩
  begins c hc := by
    have other : c ≠ '"' := fun eq => h (eq ▸ List.mem_of_mem_head? hc)
    simpa using other
  ends c hc := by
    have other : c ≠ '"' := fun eq => h (eq ▸ List.mem_of_mem_getLast? hc)
    simpa using other

variable {kind name : String} {before after : List String}

/-- The name in quotes decides where no parameter before it is a file name. -/
theorem suggests_dispositionHeader {text back : List Char} {rest : List (List Char)}
    (others : ∀ text ∈ kind :: before, ¬ NamesFile text)
    (parameters : parametersOf (quotedName name).toList =
      ("filename=".toList ++ '"' :: (text ++ back)) :: rest)
    (quote : '"' ∉ text) (quotes : ∀ c ∈ back, c = '"') (undivided : ∀ c ∈ text, ¬ IsSeparator c) :
    Suggests (dispositionHeader kind before name after) (.ofList text) := by
  refine ⟨(kind :: before).flatMap fun text => parametersOf text.toList, _,
    rest ++ after.flatMap fun text => parametersOf text.toList, text, ?_, ?_,
    isInner_quotes quote quotes, ⟨?_, .inl String.toList_ofList.symm⟩⟩
  · change parametersOf _ = _
    rw [parametersOf_dispositionHeader, parameters, List.cons_append]
  · intro parameter mem named
    obtain ⟨other, found, within⟩ := List.mem_flatMap.mp mem
    exact others other found ⟨parameter, within, named⟩
  · rw [String.toList_ofList]
    exact undivided

/-- What stands before the first semicolon of a name, without the white space that it ends with. -/
def cutName (name : String) : String :=
  .ofList (Text.trimEnd (name.toList.takeWhile (· != ';')))

theorem mem_of_mem_trimEnd {c : Char} {text : List Char} (h : c ∈ Text.trimEnd text) : c ∈ text :=
  (List.rdropWhile_prefix _ _).subset h

theorem semicolon_notMem_cutName (name : String) : ';' ∉ (cutName name).toList := by
  rw [cutName, String.toList_ofList]
  intro mem
  exact absurd (List.mem_takeWhile_imp (mem_of_mem_trimEnd mem)) (by decide)

theorem IsFileName.undivided (named : IsFileName name) : ∀ c ∈ name.toList, ¬ IsSeparator c := by
  rintro c mem (rfl | rfl)
  · exact named.slash mem
  · exact named.backslash mem

/-- A name with a semicolon suggests its first part. -/
theorem suggests_cutName (named : IsFileName name) (quote : '"' ∉ name.toList)
    (others : ∀ text ∈ kind :: before, ¬ NamesFile text) (cut : ';' ∈ name.toList) :
    Suggests (dispositionHeader kind before name after) (cutName name) := by
  obtain ⟨front, back, split, first⟩ := List.eq_append_cons_of_mem cut
  have kept : ∀ c ∈ front, (c != ';') = true := by
    intro c mem
    have other : c ≠ ';' := fun eq => first (eq ▸ mem)
    simpa using other
  have part : name.toList.takeWhile (· != ';') = front := by
    rw [split, List.takeWhile_append_of_pos kept, List.takeWhile_cons_of_neg (by simp),
      List.append_nil]
  have within : ∀ c ∈ Text.trimEnd front, c ∈ name.toList := by
    intro c mem
    rw [split]
    exact List.mem_append_left _ (mem_of_mem_trimEnd mem)
  have parameters := parametersOf_quotedName_of_cut split first
  rw [← List.append_nil (Text.trimEnd front)] at parameters
  rw [cutName, part]
  exact suggests_dispositionHeader others parameters (fun mem => quote (within _ mem)) (by simp)
    fun c mem => named.undivided c (within c mem)

/-- **A name in quotes is read back whole exactly if it has no semicolon.** Of a name with one its
first part is read, and where that is empty nothing is. -/
theorem attachmentName_quoted (otherwise : String) (named : IsFileName name)
    (quote : '"' ∉ name.toList) (others : ∀ text ∈ kind :: before, ¬ NamesFile text) :
    let read := attachmentName (some (dispositionHeader kind before name after)) otherwise
    (';' ∉ name.toList → read = name) ∧
      (';' ∈ name.toList → read = if cutName name = "" then otherwise else cutName name) ∧
      (name ≠ otherwise → (read = name ↔ ';' ∉ name.toList)) := by
  intro read
  have whole (h : ';' ∉ name.toList) : read = name := by
    have suggests : Suggests (dispositionHeader kind before name after) (.ofList name.toList) :=
      suggests_dispositionHeader others (parametersOf_quotedName_of_whole h) quote (by simp)
        named.undivided
    rw [String.ofList_toList] at suggests
    exact attachmentName_eq_suggested otherwise suggests named.nonempty
  have cut (h : ';' ∈ name.toList) :
      read = if cutName name = "" then otherwise else cutName name := by
    have suggests : Suggests (dispositionHeader kind before name after) (cutName name) :=
      suggests_cutName named quote others h
    by_cases empty : cutName name = ""
    · rw [if_pos empty]
      refine attachmentName_eq_otherwise otherwise ?_
      rintro header ⟨rfl⟩ other suggests'
      rw [← empty]
      exact suggests'.unique suggests
    · rw [if_neg empty]
      exact attachmentName_eq_suggested otherwise suggests empty
  refine ⟨whole, cut, fun given => ⟨fun same mem => ?_, whole⟩⟩
  -- What is read of a name with a semicolon has none, or it is the other name.
  rw [cut mem] at same
  split at same
  · exact given same.symm
  · have whole := semicolon_notMem_cutName name
    rw [same] at whole
    exact whole mem

/-- A name with spaces, commas and the sign between keys and values is read back, and the file name
behind it does not count. -/
theorem attachmentName_quoted_of_signs :
    let name := "systems, all = 2 (new).pdf"
    IsFileName name ∧ '"' ∉ name.toList ∧
      (∀ text ∈ ["attachment", "creation-date=now"], ¬ NamesFile text) ∧
      attachmentName (some (dispositionHeader "attachment" ["creation-date=now"] name
        ["size=3", "filename=other.pdf"])) defaultAttachmentName = name := by
  intro name
  have named : IsFileName name := by constructor <;> decide
  have quote : '"' ∉ name.toList := by decide
  have others : ∀ text ∈ ["attachment", "creation-date=now"], ¬ NamesFile text := by decide
  exact ⟨named, quote, others,
    (attachmentName_quoted defaultAttachmentName named quote others).1 (by decide)⟩

/-- Of a name with a semicolon only the part before it is read. -/
theorem attachmentName_semicolon :
    IsFileName "web;db.pdf" ∧ '"' ∉ "web;db.pdf".toList ∧
      attachmentName (some (dispositionHeader "attachment" [] "web;db.pdf" []))
        defaultAttachmentName = "web" :=
  ⟨by constructor <;> decide, by decide, by decide⟩

end HostConsole
