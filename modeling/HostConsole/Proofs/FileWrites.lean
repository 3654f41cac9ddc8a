import HostConsole.Proofs.Conversation

/-!
# Writing files

A file that is written is put at one place, and everything else in the tree stays as it is. Where
the path is that of a name inside a directory, and the name has no slash, this place is in that
directory and in none below or above it. The names of dots have to be looked at, for they lead
elsewhere, but what they lead to is a directory, and none is written over.

## Main definitions

* `Files.DiffersIn`: the trees differ in one file
* `Files.IsDirectoryAt`: where the directory of a path is
* `Program.WritesNothing`: a program that writes no file

## Main results

* `Files.follow_cons_cases`: what a single name of a path does
* `Files.exists_of_follow_append`: a path is followed name by name
* `Files.exists_of_write_joinPath`: a file inside a directory is written at its own place there
* `Program.WritesNothing.files_run`: what a program leaves of the files that writes none
-/

namespace HostConsole

namespace Files

variable {files after : Files} {place : Place} {node : Node} {bytes : List UInt8}

/-! ## Places of a tree -/

theorem lookup_filter_ne (nodes : List (Place × Node)) {other : Place} (h : other ≠ place) :
    (nodes.filter fun entry => entry.1 != place).lookup other = nodes.lookup other := by
  induction nodes with
  | nil => rfl
  | cons entry nodes ih =>
    obtain ⟨key, value⟩ := entry
    by_cases here : key = place
    · -- The entry is left out, and it is not the one that is looked for.
      have left : (other == key) = false := by simpa [here] using h
      rw [List.filter_cons_of_neg (by simp [here]), ih, List.lookup_cons, left]
    · rw [List.filter_cons_of_pos (by simp [here]), List.lookup_cons, List.lookup_cons, ih]

theorem node?_put_self (files : Files) (h : place ≠ []) (node : Node) :
    (files.put place node).node? place = some node := by
  have inner : place.isEmpty = false := by simpa [List.isEmpty_iff] using h
  rw [node?, if_neg (by simp [inner]), put, List.lookup_cons, beq_self_eq_true]

/-- What stands elsewhere stays. -/
theorem node?_put_of_ne (files : Files) (node : Node) {other : Place} (h : other ≠ place) :
    (files.put place node).node? other = files.node? other := by
  have elsewhere : (other == place) = false := by simpa using h
  unfold node?
  split
  · rfl
  · rw [put, List.lookup_cons, elsewhere]
    exact lookup_filter_ne files.nodes h

/-- At the place there is now a file with the bytes, where a file or nothing was before, and
everything else is the same. -/
structure DiffersIn (before after : Files) (place : Place) (bytes : List UInt8) : Prop where
  file : after.node? place = some (.file bytes)
  replaced : before.node? place ≠ some .directory
  others : ∀ other, other ≠ place → after.node? other = before.node? other
  current : after.current = before.current

theorem differsIn_put (h : place ≠ []) (replaced : files.node? place ≠ some .directory)
    (bytes : List UInt8) : files.DiffersIn (files.put place (.file bytes)) place bytes where
  file := files.node?_put_self h _
  replaced := replaced
  others _ other := files.node?_put_of_ne _ other
  current := rfl

/-! ## Following names -/

/-- The name is one dot or two, and leads to a directory without being its name. -/
def IsDots (name : String) : Prop :=
  name = "." ∨ name = ".."

/-- What a single name does on a path: it leads on, nothing is there, or it cannot be followed. A
name that leads on leads to a directory or to what stands at its own place. -/
theorem follow_cons_cases (files : Files) (place : Place) (node : Node) (name : String) :
    (∃ next found,
      (found = .directory ∨
        node = .directory ∧ ¬ IsDots name ∧ next = place ++ [name] ∧
          files.node? next = some found) ∧
      ∀ rest, files.follow place node (name :: rest) = files.follow next found rest) ∨
    (node = .directory ∧ ¬ IsDots name ∧ files.node? (place ++ [name]) = none ∧
      ∀ rest, files.follow place node (name :: rest) =
        if rest.isEmpty then .ok (.free (place ++ [name])) else .error .missing) ∨
    ∃ fault, ∀ rest, files.follow place node (name :: rest) = .error fault := by
  cases node with
  | file bytes => exact .inr (.inr ⟨.notDirectory, fun _ => rfl⟩)
  | directory =>
    by_cases dot : name = "."
    · exact .inl ⟨place, .directory, .inl rfl, fun rest => by rw [follow, if_pos dot]⟩
    by_cases dots : name = ".."
    · refine .inl ⟨place.dropLast, .directory, .inl rfl, fun rest => ?_⟩
      rw [follow, if_neg dot, if_pos dots]
    by_cases long : 255 < name.utf8ByteSize
    · refine .inr (.inr ⟨.nameTooLong, fun rest => ?_⟩)
      rw [follow, if_neg dot, if_neg dots, if_pos long]
    have proper : ¬ IsDots name := not_or.mpr ⟨dot, dots⟩
    cases there : files.node? (place ++ [name]) with
    | some found =>
      refine .inl ⟨place ++ [name], found, .inr ⟨rfl, proper, rfl, there⟩, fun rest => ?_⟩
      rw [follow, if_neg dot, if_neg dots, if_neg long, there]
    | none =>
      refine .inr (.inl ⟨rfl, proper, rfl, fun rest => ?_⟩)
      rw [follow, if_neg dot, if_neg dots, if_neg long, there]

/-- Names that are followed by others lead to something, and the others lead on from there. -/
theorem exists_of_follow_append {names more : List String} {target : Target} (hm : more ≠ [])
    (h : files.follow place node (names ++ more) = .ok target) :
    ∃ inner found, files.follow place node names = .ok (.taken inner found) ∧
      files.follow inner found more = .ok target := by
  -- Induction on the names, for any place that they are followed from.
  induction names generalizing place node with
  | nil => exact ⟨place, node, rfl, h⟩
  | cons name names ih =>
    rw [List.cons_append] at h
    rcases files.follow_cons_cases place node name with
      ⟨next, found, -, step⟩ | ⟨-, -, -, step⟩ | ⟨fault, step⟩
    · rw [step] at h ⊢
      exact ih h
    · -- Nothing is there, though the path goes on.
      rw [step, if_neg (by simp [hm])] at h
      cases h
    · rw [step] at h
      cases h

/-- A dot at the end leads to the directory that it stands behind. -/
theorem follow_append_dot {names : List String} {inner : Place}
    (h : files.follow place node names = .ok (.taken inner .directory)) :
    files.follow place node (names ++ ["."]) = .ok (.taken inner .directory) := by
  induction names generalizing place node with
  | nil =>
    cases h
    rw [List.nil_append, follow, if_pos rfl]
    rfl
  | cons name names ih =>
    rw [List.cons_append]
    rcases files.follow_cons_cases place node name with
      ⟨next, found, -, step⟩ | ⟨-, -, -, step⟩ | ⟨fault, step⟩
    · rw [step] at h ⊢
      exact ih h
    · rw [step] at h
      split at h <;> cases h
    · rw [step] at h
      cases h

/-- A single name that does not lead to a directory leads to its own place in one. -/
theorem follow_singleton {name : String} {target : Target}
    (h : files.follow place node [name] = .ok target)
    (other : ∀ inner, target ≠ .taken inner .directory) :
    node = .directory ∧ ¬ IsDots name ∧ files.node? (place ++ [name]) ≠ some .directory ∧
      (target = .free (place ++ [name]) ∨ ∃ old, target = .taken (place ++ [name]) (.file old)) := by
  rcases files.follow_cons_cases place node name with
    ⟨next, found, led, step⟩ | ⟨rfl, proper, free, step⟩ | ⟨fault, step⟩
  · rw [step] at h
    cases h
    cases found with
    | directory => exact absurd rfl (other next)
    | file old =>
      -- Dots never lead to a file, so this is what stands at the name's own place.
      obtain ⟨rfl, proper, rfl, there⟩ := led.resolve_left nofun
      exact ⟨rfl, proper, by simp [there], .inr ⟨old, rfl⟩⟩
  · rw [step] at h
    cases h
    exact ⟨rfl, proper, by simp [free], .inl rfl⟩
  · rw [step] at h
    cases h

/-! ## Paths inside a directory -/

/-- The place of the directory that a path leads to. The empty path stands for the directory that
relative paths start from. -/
def IsDirectoryAt (files : Files) (path : String) (place : Place) : Prop :=
  if path = "" then place = files.current
  else files.locate path = .ok (.taken place .directory)

/-- The names of a path between its slashes. -/
def namesBetween (path : String) : List String :=
  ((path.toList.splitOn '/').map String.ofList).filter fun name => name != ""

/-- A path has the names between its slashes, and a dot behind a slash at its end. -/
theorem namesOf_cases (path : String) :
    namesOf path = namesBetween path ∨ namesOf path = namesBetween path ++ ["."] := by
  unfold namesOf
  dsimp only
  split
  · exact .inr rfl
  · exact .inl rfl

section

variable {name : String} (slash : '/' ∉ name.toList)

include slash

/-- A name without a slash stands behind the slash of its directory. Only an empty directory has
none. -/
theorem joinPath_cases (directory : String) :
    (directory = "" ∧ joinPath directory name = name) ∨
      ∃ front, (directory = front ∨ directory = front ++ "/") ∧
        joinPath directory name = front ++ "/" ++ name := by
  unfold joinPath
  split
  · next alone =>
    have empty := alone.resolve_left fun head => slash (List.mem_of_head? head)
    exact .inl ⟨empty, rfl⟩
  · split
    · next ends =>
      -- The slash at the end of the directory is the one before the name.
      obtain ⟨front, split⟩ := List.getLast?_eq_some_iff.mp ends
      have closed : directory = String.ofList front ++ "/" := by
        apply String.toList_injective
        rw [split, String.toList_append, String.toList_ofList]
        rfl
      exact .inr ⟨String.ofList front, .inr closed, by rw [closed]⟩
    · exact .inr ⟨directory, .inl rfl, rfl⟩

theorem namesOf_slash_append (nonempty : name ≠ "") (front : String) :
    namesOf (front ++ "/" ++ name) = namesBetween front ++ [name] := by
  have pieces : ((front ++ "/" ++ name).toList.splitOn '/').map String.ofList =
      (front.toList.splitOn '/').map String.ofList ++ [name] := by
    rw [String.toList_append, String.toList_append, List.append_assoc]
    change ((front.toList ++ '/' :: name.toList).splitOn '/').map String.ofList = _
    rw [List.splitOn_append_cons_self, List.splitOn_eq_singleton slash, List.map_append,
      List.map_singleton, String.ofList_toList]
  unfold namesOf
  dsimp only
  rw [pieces, List.getLast?_concat, if_neg (by simpa using nonempty), List.filter_append,
    List.filter_cons_of_pos (by simpa using nonempty)]
  rfl

/-- A path inside a directory has the name behind those of the directory. -/
theorem namesOf_joinPath (nonempty : name ≠ "") (directory : String) :
    namesOf (joinPath directory name) = namesBetween directory ++ [name] := by
  rcases joinPath_cases slash directory with ⟨rfl, alone⟩ | ⟨front, rfl | rfl, joined⟩
  · rw [alone]
    simp [namesOf, namesBetween, List.splitOn_eq_singleton slash, nonempty]
  · rw [joined, namesOf_slash_append slash nonempty]
  · -- The piece behind the last slash is empty, so it is no name.
    rw [joined, namesOf_slash_append slash nonempty]
    simp [namesBetween, List.splitOn_append_cons_self]

/-- A path inside a directory begins with the path of the directory. -/
theorem exists_joinPath_eq_append (directory : String) :
    ∃ tail, joinPath directory name = directory ++ tail := by
  rcases joinPath_cases slash directory with ⟨rfl, alone⟩ | ⟨front, rfl | rfl, joined⟩
  · exact ⟨name, by simp [alone]⟩
  · exact ⟨"/" ++ name, by rw [joined, String.append_assoc]⟩
  · exact ⟨name, joined⟩

end

/-- The place that a path starts from. -/
def startOf (files : Files) (path : String) : Place :=
  if path.toList.head? = some '/' then [] else files.current

theorem startOf_append {front : String} (h : front ≠ "") (tail : String) :
    files.startOf (front ++ tail) = files.startOf front := by
  have same : (front ++ tail).toList.head? = front.toList.head? := by
    rw [String.toList_append]
    cases letters : front.toList with
    | nil => exact absurd (String.toList_eq_nil_iff.mp letters) h
    | cons c cs => rfl
  rw [startOf, same, startOf]

/-- The paths that are followed: not empty, and of names that the system can take. -/
def IsPath (path : String) : Prop :=
  '\x00' ∉ path.toList ∧ path ≠ "" ∧ path.utf8ByteSize ≤ 4095

theorem locate_of_isPath {path : String} (h : IsPath path) :
    files.locate path = files.follow (files.startOf path) .directory (namesOf path) := by
  obtain ⟨zero, nonempty, short⟩ := h
  rw [locate, if_neg (by simpa using zero), if_neg nonempty, if_neg (by omega)]
  rfl

theorem isPath_of_locate {path : String} {target : Target} (h : files.locate path = .ok target) :
    IsPath path := by
  unfold locate at h
  split at h
  · cases h
  · next zero =>
    split at h
    · cases h
    · next nonempty =>
      split at h
      · cases h
      · next short => exact ⟨by simpa using zero, nonempty, by omega⟩

theorem IsPath.of_append {front tail : String} (h : IsPath (front ++ tail)) (nonempty : front ≠ "") :
    IsPath front := by
  obtain ⟨zero, -, short⟩ := h
  rw [String.toList_append] at zero
  rw [String.utf8ByteSize_append] at short
  exact ⟨fun mem => zero (List.mem_append_left _ mem), nonempty, by omega⟩

/-- The names of a directory lead to it, from where a path inside it starts. -/
theorem isDirectoryAt_of_follow {directory name : String} {inner : Place}
    (slash : '/' ∉ name.toList) (path : IsPath (joinPath directory name))
    (h : files.follow (files.startOf (joinPath directory name)) .directory
      (namesBetween directory) = .ok (.taken inner .directory)) :
    files.IsDirectoryAt directory inner := by
  unfold IsDirectoryAt
  split
  · next empty =>
    -- The path is the name alone, which starts from the current directory.
    subst empty
    have relative : name.toList.head? ≠ some '/' := fun head => slash (List.mem_of_head? head)
    have alone : joinPath "" name = name := if_pos (.inr rfl)
    rw [alone, startOf, if_neg relative] at h
    cases h
    rfl
  · next full =>
    -- The directory is a path too, for it begins one. It may end in a slash, which asks for a dot.
    obtain ⟨tail, joined⟩ := exists_joinPath_eq_append slash directory
    rw [joined] at path h
    rw [startOf_append full] at h
    rw [locate_of_isPath (path.of_append full)]
    rcases namesOf_cases directory with names | names
    · rw [names]
      exact h
    · rw [names]
      exact follow_append_dot h

/-- A file is written where one was or where nothing was. -/
theorem exists_of_write {path : String} (h : files.write path bytes = .ok after) :
    ∃ place target, after = files.put place (.file bytes) ∧ files.locate path = .ok target ∧
      (target = .free place ∨ ∃ old, target = .taken place (.file old)) := by
  unfold write at h
  cases located : files.locate path with
  | error fault =>
    rw [located] at h
    cases h
  | ok target =>
    rw [located] at h
    match target with
    | .taken place (.file old) =>
      cases h
      exact ⟨place, _, rfl, rfl, .inr ⟨old, rfl⟩⟩
    | .taken place .directory => cases h
    | .free place =>
      cases h
      exact ⟨place, _, rfl, rfl, .inl rfl⟩

/-- **A file inside a directory is written at its own place there**, where no directory stands, and
its name is no dots. -/
theorem exists_of_write_joinPath {directory name : String} (slash : '/' ∉ name.toList)
    (nonempty : name ≠ "") (h : files.write (joinPath directory name) bytes = .ok after) :
    ¬ IsDots name ∧ ∃ place, files.IsDirectoryAt directory place ∧
      files.DiffersIn after (place ++ [name]) bytes := by
  obtain ⟨place, target, rfl, located, written⟩ := exists_of_write h
  have path := isPath_of_locate located
  -- The names of the directory lead to a place, and the name leads on from it.
  rw [locate_of_isPath path, namesOf_joinPath slash nonempty] at located
  obtain ⟨inner, found, inside, last⟩ := exists_of_follow_append (List.cons_ne_nil _ _) located
  have noDirectory (other : Place) : target ≠ .taken other .directory := by
    rcases written with rfl | ⟨old, rfl⟩ <;> nofun
  obtain ⟨rfl, proper, replaced, own⟩ := follow_singleton last noDirectory
  obtain rfl : place = inner ++ [name] := by
    rcases written with rfl | ⟨old, rfl⟩ <;> rcases own with own | ⟨_, own⟩ <;> cases own <;> rfl
  exact ⟨proper, inner, isDirectoryAt_of_follow slash path inside,
    differsIn_put (by simp) replaced bytes⟩

end Files

/-! ## Programs and files -/

namespace Program

variable {α β : Type} {c : Connection}

section Saving

variable {path : String} {bytes : List UInt8} {unwritable : Failure} {next : Program α}
  {s : Surroundings}

theorem run_save_of_ok {after : Files} (h : s.files.write path bytes = .ok after) :
    (save path bytes unwritable next).run c s = next.run c { s with files := after } := by
  rw [run, h]

theorem run_save_of_error {fault : FileFault} (h : s.files.write path bytes = .error fault) :
    (save path bytes unwritable next).run c s =
      { result := .error unwritable, events := [], surroundings := s } := by
  rw [run, h]

end Saving

/-- The program writes no file, whatever it is told. -/
def WritesNothing : Program α → Prop
  | done _ => True
  | fail _ => True
  | tell _ next => next.WritesNothing
  | ask _ _ next => ∀ answer, (next answer).WritesNothing
  | await _ _ next => ∀ ended, (next ended).WritesNothing
  | save .. => False

theorem WritesNothing.bind {p : Program α} {f : α → Program β} (h : p.WritesNothing)
    (hf : ∀ result, (f result).WritesNothing) : (p >>= f).WritesNothing := by
  change (p.bind f).WritesNothing
  induction p with
  | done result => exact hf result
  | fail failure => trivial
  | tell message next ih => exact ih h
  | ask call missing next ih => exact fun answer => ih answer (h answer)
  | await task polling next ih => exact fun ended => ih ended (h ended)
  | save path bytes unwritable next ih => exact h.elim

/-- The files stay as they are in a run that writes none. -/
theorem WritesNothing.files_run {p : Program α} (h : p.WritesNothing) (s : Surroundings) :
    (p.run c s).surroundings.files = s.files := by
  induction p generalizing s with
  | done result => rfl
  | fail failure => rfl
  | tell message next ih => exact ih h s
  | ask call missing next ih =>
    simp only [run]
    split
    · next answer _ => exact ih answer (h answer) _
    · rfl
  | await task polling next ih =>
    simp only [run]
    split
    · rfl
    · split
      · next ended _ => exact ih ended (h ended) _
      · rfl
  | save path bytes unwritable next ih => exact h.elim

end Program

end HostConsole
