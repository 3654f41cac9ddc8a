import HostConsole.Proofs.Trimming

/-!
# Names of attachments

A report is saved under the last part of the path that the first file name parameter of a header
holds. No header brings a separator into that name, whatever stands around it: splitting, trimming
and taking quotes away come first, and the path is cut last.

What the cut leaves can still be a dot or two. These are no names of files, and they are not passed
over: the default stands in only where nothing is left.

## Main definitions

* `IsFileName`: the names that a file in a directory can have
* `IsLastPart`: the part of a path behind its last separator
* `Suggests`: the name that a header suggests, perhaps an empty one

## Main results

* `suggestedName?_eq_some_iff`: the names that are read from a header are those that it suggests
* `attachmentName_usable`: every name is that of a file, or a dot or two that the header suggests
-/

namespace HostConsole

/-- The name is one that a file in a directory can have. -/
structure IsFileName (name : String) : Prop where
  nonempty : name ≠ ""
  slash : '/' ∉ name.toList
  backslash : '\\' ∉ name.toList
  dot : name ≠ "."
  dots : name ≠ ".."

/-! ## The last part of a path -/

/-- The character parts the names of a path. -/
def IsSeparator (c : Char) : Prop :=
  c = '/' ∨ c = '\\'

theorem not_isSeparator_iff {c : Char} :
    ¬ IsSeparator c ↔ (c != '/' && c != '\\') = true := by
  simp [IsSeparator]

/-- The name is the part of the path behind its last separator. -/
structure IsLastPart (path name : List Char) : Prop where
  undivided : ∀ c ∈ name, ¬ IsSeparator c
  behind : path = name ∨ ∃ upper c, path = upper ++ [c] ++ name ∧ IsSeparator c

theorem lastName_eq_rtakeWhile (path : List Char) :
    lastName path = path.rtakeWhile fun c => c != '/' && c != '\\' := rfl

/-- The last name of a path is the part behind the last separator. -/
theorem isLastPart_lastName (path : List Char) : IsLastPart path (lastName path) where
  undivided c hc :=
    not_isSeparator_iff.mpr
      (List.mem_rtakeWhile_imp (p := fun c => c != '/' && c != '\\') hc)
  behind := by
    rw [lastName_eq_rtakeWhile]
    have split := List.rdropWhile_append_rtakeWhile (p := fun c => c != '/' && c != '\\') (l := path)
    -- What is dropped ends with a separator, if it is anything.
    rcases List.eq_nil_or_concat (path.rdropWhile fun c => c != '/' && c != '\\') with
      empty | ⟨upper, c, folder⟩
    · rw [empty, List.nil_append] at split
      exact .inl split.symm
    · refine .inr ⟨upper, c, ?_, ?_⟩
      · rw [folder, List.concat_eq_append] at split
        exact split.symm
      · have last := List.rdropWhile_last_not (fun c => c != '/' && c != '\\') path (by simp [folder])
        simp only [folder, List.concat_eq_append, List.getLast_append_singleton] at last
        by_contra part
        exact last (not_isSeparator_iff.mp part)

/-- Every path has exactly one last part. -/
theorem lastName_eq_iff {path name : List Char} : lastName path = name ↔ IsLastPart path name := by
  constructor
  · rintro rfl
    exact isLastPart_lastName path
  · rintro ⟨undivided, behind⟩
    have whole : ∀ c ∈ name.reverse, (c != '/' && c != '\\') = true := fun c hc =>
      not_isSeparator_iff.mp (undivided c (List.mem_reverse.mp hc))
    rcases behind with rfl | ⟨upper, c, rfl, part⟩
    · rw [lastName, List.takeWhile_eq_self_iff.mpr whole, List.reverse_reverse]
    · have stop : (c != '/' && c != '\\') = false := by
        rw [← Bool.not_eq_true, ← not_isSeparator_iff, not_not]
        exact part
      rw [lastName, List.reverse_append, List.takeWhile_append_of_pos whole, List.reverse_append]
      simp [stop]

/-! ## What a header suggests -/

/-- The header suggests the name, which may be empty: it is the last part of the path in the first
file name parameter, with no quotes around that path. -/
def Suggests (header name : String) : Prop :=
  ∃ before value after path,
    (header.toList.splitOn ';').map Text.trim =
        before ++ ("filename=".toList ++ value) :: after ∧
      (∀ parameter ∈ before, ¬ "filename=".toList <+: parameter) ∧
      IsInner (· == '"') value path ∧ IsLastPart path name.toList

theorem stripPrefix?_eq_some_iff {start : String} {text rest : List Char} :
    Text.stripPrefix? start text = some rest ↔ text = start.toList ++ rest := by
  rw [Text.stripPrefix?, List.isPrefixOf?_eq_some_iff_append_eq, eq_comm]

theorem stripPrefix?_eq_none_iff {start : String} {text : List Char} :
    Text.stripPrefix? start text = none ↔ ¬ start.toList <+: text := by
  constructor
  · rintro none ⟨rest, rfl⟩
    rw [stripPrefix?_eq_some_iff.mpr rfl] at none
    exact nomatch none
  · intro other
    by_contra begins
    obtain ⟨rest, some⟩ := Option.ne_none_iff_exists'.mp begins
    exact other ⟨rest, (stripPrefix?_eq_some_iff.mp some).symm⟩

/-- The file name parameter that decides is the first one. -/
theorem suggests_iff {header name : String} :
    Suggests header name ↔
      ∃ value, ((header.toList.splitOn ';').map Text.trim).findSome?
          (Text.stripPrefix? "filename=") = some value ∧
        lastName (withoutQuotes value) = name.toList := by
  constructor
  · rintro ⟨before, value, after, path, parameters, first, unquoted, last⟩
    refine ⟨value, List.findSome?_eq_some_iff.mpr ⟨before, _, after, parameters,
      stripPrefix?_eq_some_iff.mpr rfl, ?_⟩, ?_⟩
    · intro parameter mem
      exact stripPrefix?_eq_none_iff.mpr (first parameter mem)
    · rw [withoutQuotes_eq_iff.mpr unquoted]
      exact lastName_eq_iff.mpr last
  · rintro ⟨value, found, last⟩
    obtain ⟨before, parameter, after, parameters, here, first⟩ := List.findSome?_eq_some_iff.mp found
    obtain rfl := stripPrefix?_eq_some_iff.mp here
    refine ⟨before, value, after, withoutQuotes value, parameters, ?_,
      withoutQuotes_eq_iff.mp rfl, lastName_eq_iff.mp last⟩
    intro other mem
    exact stripPrefix?_eq_none_iff.mp (first other mem)

/-- A header suggests one name at most. -/
theorem Suggests.unique {header name other : String} (h : Suggests header name)
    (h' : Suggests header other) : name = other := by
  obtain ⟨value, found, last⟩ := suggests_iff.mp h
  obtain ⟨value', found', last'⟩ := suggests_iff.mp h'
  obtain rfl : value = value' := Option.some.inj (found.symm.trans found')
  exact String.toList_injective (last.symm.trans last')

/-- A suggested name is in no other folder. -/
theorem Suggests.undivided {header name : String} (h : Suggests header name) :
    ∀ c ∈ name.toList, ¬ IsSeparator c := by
  obtain ⟨_, _, _, _, _, _, _, last⟩ := h
  exact last.undivided

/-- A name is read from a header exactly if the header suggests it and it is not empty. -/
theorem suggestedName?_eq_some_iff {header name : String} :
    suggestedName? header = some name ↔ Suggests header name ∧ name ≠ "" := by
  rw [suggests_iff, suggestedName?]
  cases found : ((header.toList.splitOn ';').map Text.trim).findSome?
      (Text.stripPrefix? "filename=") with
  | none => simp
  | some value =>
    by_cases empty : lastName (withoutQuotes value) = []
    · -- An empty name is suggested, and not read.
      simp only [empty, List.isEmpty_nil, if_true, reduceCtorEq, Option.some.injEq,
        exists_eq_left', false_iff, not_and, not_not]
      intro last
      exact String.toList_injective last.symm
    · have kept : (lastName (withoutQuotes value)).isEmpty = false := by
        simpa [List.isEmpty_iff] using empty
      simp only [kept, Bool.false_eq_true, if_false, Option.some.injEq, exists_eq_left']
      constructor
      · rintro rfl
        refine ⟨String.toList_ofList.symm, fun blank => empty ?_⟩
        simpa using congrArg String.toList blank
      · rintro ⟨last, -⟩
        rw [last, String.ofList_toList]

theorem suggestedName?_eq_none_iff {header : String} :
    suggestedName? header = none ↔ ∀ name, Suggests header name → name = "" := by
  rw [Option.eq_none_iff_forall_ne_some]
  refine forall_congr' fun name => ?_
  rw [Ne, suggestedName?_eq_some_iff, not_and, not_not]

/-! ## The name of the file -/

/-- Where nothing or an empty name is suggested, the report has the given name. -/
theorem attachmentName_eq_otherwise {disposition : Option String} (otherwise : String)
    (h : ∀ header ∈ disposition, ∀ name, Suggests header name → name = "") :
    attachmentName disposition otherwise = otherwise := by
  cases disposition with
  | none => rfl
  | some header =>
    simp [attachmentName, suggestedName?_eq_none_iff.mpr (h header rfl)]

/-- A name that is suggested and not empty is the name of the report. -/
theorem attachmentName_eq_suggested {header name : String} (otherwise : String)
    (suggests : Suggests header name) (nonempty : name ≠ "") :
    attachmentName (some header) otherwise = name := by
  simp [attachmentName, suggestedName?_eq_some_iff.mpr ⟨suggests, nonempty⟩]

theorem isFileName_defaultAttachmentName : IsFileName defaultAttachmentName := by
  constructor <;> decide

/-- The name of a report is a suggested one, or the given one where none is suggested. -/
theorem attachmentName_cases (disposition : Option String) (otherwise : String) :
    (∃ header ∈ disposition, Suggests header (attachmentName disposition otherwise) ∧
        attachmentName disposition otherwise ≠ "") ∨
      (∀ header ∈ disposition, ∀ name, Suggests header name → name = "") ∧
        attachmentName disposition otherwise = otherwise := by
  by_cases h : ∀ header ∈ disposition, ∀ name, Suggests header name → name = ""
  · exact .inr ⟨h, attachmentName_eq_otherwise otherwise h⟩
  · push Not at h
    obtain ⟨header, rfl, name, suggests, nonempty⟩ := h
    rw [attachmentName_eq_suggested otherwise suggests nonempty]
    exact .inl ⟨header, rfl, suggests, nonempty⟩

/-- Whatever the header holds, the name is not empty and has no separator, and it is that of a file
unless the header suggests a dot or two. A name that is suggested is taken, and the default stands
in where neither the name of a file nor dots are suggested. -/
theorem attachmentName_usable (disposition : Option String) :
    let name := attachmentName disposition defaultAttachmentName
    (name ≠ "" ∧ '/' ∉ name.toList ∧ '\\' ∉ name.toList) ∧
      (IsFileName name ↔
        ∀ header ∈ disposition, ¬ Suggests header "." ∧ ¬ Suggests header "..") ∧
      (∀ header ∈ disposition, ∀ suggested, Suggests header suggested → suggested ≠ "" →
        name = suggested) ∧
      ((∀ header ∈ disposition, ∀ suggested, Suggests header suggested →
        ¬ IsFileName suggested ∧ suggested ≠ "." ∧ suggested ≠ "..") →
        name = defaultAttachmentName) := by
  intro name
  rcases attachmentName_cases disposition defaultAttachmentName with
    ⟨header, rfl, suggests, nonempty⟩ | ⟨empty, other⟩
  · -- The name is suggested, so it is the last part of a path.
    have slash : '/' ∉ name.toList := fun mem => suggests.undivided _ mem (.inl rfl)
    have backslash : '\\' ∉ name.toList := fun mem => suggests.undivided _ mem (.inr rfl)
    refine ⟨⟨nonempty, slash, backslash⟩, ⟨?_, ?_⟩, ?_, ?_⟩
    · rintro usable _ ⟨rfl⟩
      exact ⟨fun dot => usable.dot (suggests.unique dot),
        fun dots => usable.dots (suggests.unique dots)⟩
    · intro plain
      obtain ⟨dot, dots⟩ := plain header rfl
      exact ⟨nonempty, slash, backslash, fun eq => dot (eq ▸ suggests),
        fun eq => dots (eq ▸ suggests)⟩
    · rintro _ ⟨rfl⟩ suggested suggests' -
      exact suggests.unique suggests'
    · intro unusable
      obtain ⟨unusable, dot, dots⟩ := unusable header rfl name suggests
      exact absurd ⟨nonempty, slash, backslash, dot, dots⟩ unusable
  · have usable : IsFileName name := by
      rw [show name = defaultAttachmentName from other]
      exact isFileName_defaultAttachmentName
    refine ⟨⟨usable.nonempty, usable.slash, usable.backslash⟩, iff_of_true usable ?_, ?_, ?_⟩
    · intro header mem
      exact ⟨fun dot => absurd (empty header mem _ dot) (by decide),
        fun dots => absurd (empty header mem _ dots) (by decide)⟩
    · intro header mem suggested suggests nonempty
      exact absurd (empty header mem suggested suggests) nonempty
    · intro
      exact other

/-- Two dots are suggested, and saved under: the name is none of a file. -/
theorem attachmentName_dots :
    attachmentName (some "attachment; filename=\"..\"") defaultAttachmentName = ".." ∧
      ¬ IsFileName ".." :=
  ⟨by decide, fun usable => usable.dots rfl⟩

end HostConsole
