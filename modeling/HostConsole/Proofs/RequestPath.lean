import HostConsole.Proofs.PercentEncoding

/-!
# Paths with further segments

Plain names behind an address can be told from the path. Names that are not plain cannot: a dot
and two dots are passed over, and tabs and line breaks are left out.

Both sides are exact. Behind an address whose path begins with a slash, plain names are found again
by splitting at the slashes, since an encoded name has none. A name that is not plain has a twin,
another name that does the same to every path.

## Main definitions

* `Address.IsPlain`: names that come into a path as they are
* `Address.twin`: for a name that is not plain, another one with the same effect

## Main results

* `Address.path_endpoint_injective`: plain names are determined by the path
* `Address.endpoint_map_twin`: a name and its twin lead to the same address
-/

namespace HostConsole.Address

variable {special : Bool} {names : List String}

/-! ## Plain names -/

/-- The name comes into a path as it is. -/
def IsPlain (name : String) : Prop :=
  name ≠ "." ∧ name ≠ ".." ∧ withoutBreaks name = name

instance : DecidablePred IsPlain := fun _ => inferInstanceAs (Decidable (_ ∧ _ ∧ _))

theorem concat_ne_singleton_empty {root : List String} {last : String} (h : last ≠ "") :
    root ++ [last] ≠ [""] := by
  intro he
  have hl := congrArg List.getLast? he
  rw [List.getLast?_concat] at hl
  exact h (Option.some.inj hl)

theorem addSegment_of_isPlain {name : String} (h : IsPlain name) :
    addSegment special names name =
      (if names = [""] then [] else names) ++ [encodeSegment special name] := by
  obtain ⟨hd, hdd, hb⟩ := h
  simp [addSegment, hd, hdd, hb]

/-- Behind a segment that is not empty, plain names come one after the other. -/
theorem foldl_addSegment {more : List String} (h : ∀ name ∈ more, IsPlain name)
    (hn : names ≠ []) (hs : names ≠ [""]) :
    more.foldl (addSegment special) names = names ++ more.map (encodeSegment special) := by
  induction more generalizing names with
  | nil => simp
  | cons name more ih =>
    have longer : names ++ [encodeSegment special name] ≠ [""] := by
      intro he
      have hl := congrArg List.length he
      simp only [List.length_append, List.length_singleton] at hl
      exact hn (List.eq_nil_of_length_eq_zero (by omega))
    have plain : ∀ other ∈ more, IsPlain other := fun other ho =>
      h other (List.mem_cons_of_mem _ ho)
    rw [List.foldl_cons, addSegment_of_isPlain (h name (by simp)), if_neg hs,
      ih plain (by simp) longer]
    simp

theorem takeWhile_append_joinSegments {cs : List Char} (h : '/' ∉ cs) :
    (cs ++ joinSegments names).takeWhile (· != '/') = cs := by
  rw [List.takeWhile_append_of_pos]
  · cases names <;> simp [joinSegments]
  · intro c hc
    have hs : c ≠ '/' := fun he => h (he ▸ hc)
    simpa using hs

/-- Segments are told apart by the slashes before them. -/
theorem joinSegments_injective {others : List String} (hn : ∀ name ∈ names, '/' ∉ name.toList)
    (ho : ∀ name ∈ others, '/' ∉ name.toList) (h : joinSegments names = joinSegments others) :
    names = others := by
  induction names generalizing others with
  | nil =>
    cases others with
    | nil => rfl
    | cons other others => cases h
  | cons name names ih =>
    cases others with
    | nil => cases h
    | cons other others =>
      -- The first segment ends at the next slash, since it has none itself.
      have tails : name.toList ++ joinSegments names = other.toList ++ joinSegments others :=
        (List.cons.inj h).2
      have heads : name.toList = other.toList := by
        rw [← @takeWhile_append_joinSegments names _ (hn name (by simp)), tails,
          takeWhile_append_joinSegments (ho other (by simp))]
      rw [heads] at tails
      rw [String.toList_inj.mp heads, ih (fun n hm => hn n (List.mem_cons_of_mem _ hm))
        (fun n hm => ho n (List.mem_cons_of_mem _ hm)) (List.append_cancel_left tails)]

theorem joinSegments_append (names others : List String) :
    joinSegments (names ++ others) = joinSegments names ++ joinSegments others :=
  List.flatMap_append

variable {a : Address}

theorem exists_segments (hr : a.isRootless = false) : ∃ own, a.route = .segments own := by
  unfold isRootless at hr
  split at hr
  · exact ⟨_, by assumption⟩
  · cases hr

/-- The segments behind which an address takes further ones: its own without an empty one at the
end. Two empty ones leave the path that is a slash alone, and count as none. -/
def root (a : Address) : List String :=
  if a.segments = ["", ""] then []
  else if a.segments.getLast? = some "" then a.segments.dropLast
  else a.segments

theorem root_eq (a : Address) :
    a.root = if withoutEmptyEnd a.segments = [""] then [] else withoutEmptyEnd a.segments := by
  unfold root withoutEmptyEnd
  rcases a.segments with _ | ⟨first, _ | ⟨second, others⟩⟩
  · simp
  · by_cases empty : first = "" <;> simp [empty]
  · have longer : 2 ≤ (first :: second :: others).length := by simp
    by_cases empty : (first :: second :: others).getLast? = some ""
    · -- Dropping the end leaves one empty segment only of two empty ones.
      have two : (first :: second :: others).dropLast = [""] ↔
          first :: second :: others = ["", ""] := by
        obtain ⟨front, whole⟩ := List.getLast?_eq_some_iff.mp empty
        rw [whole, List.dropLast_concat]
        constructor
        · rintro rfl
          rfl
        · intro both
          exact List.append_cancel_right (show front ++ [""] = [""] ++ [""] from both)
      simp only [longer, empty, and_self, if_true, two]
    · have not_two : first :: second :: others ≠ ["", ""] := by
        intro both
        rw [both] at empty
        exact empty rfl
      have not_one : first :: second :: others ≠ [""] := by simp
      simp only [longer, empty, and_false, if_false, not_two, not_one]

/-- The segments of an address with plain names behind it, the first of which is not empty. -/
theorem route_endpoint (hr : a.isRootless = false) {first : String} {more : List String}
    (hf : first ≠ "") (hp : ∀ name ∈ first :: more, IsPlain name) :
    (a.endpoint (first :: more)).route =
      .segments (a.root ++ (first :: more).map (encodeSegment (isSpecialScheme a.scheme))) := by
  obtain ⟨own, hown⟩ := exists_segments hr
  have written : encodeSegment (isSpecialScheme a.scheme) first ≠ "" := encodeSegment_ne_empty hf
  have plain : ∀ name ∈ more, IsPlain name := fun name hm =>
    hp name (List.mem_cons_of_mem _ hm)
  have own_eq : a.segments = own := by rw [segments, hown]
  rw [root_eq, own_eq]
  simp only [endpoint, hown]
  rw [List.foldl_cons, addSegment_of_isPlain (hp first (by simp)),
    foldl_addSegment plain (by simp) (concat_ne_singleton_empty written)]
  simp

/-- The path of an address with plain names behind it, the first of which is not empty. -/
theorem path_endpoint (hr : a.isRootless = false) {first : String} {more : List String}
    (hf : first ≠ "") (hp : ∀ name ∈ first :: more, IsPlain name) :
    (a.endpoint (first :: more)).path = .ofList (joinSegments a.root ++
      joinSegments ((first :: more).map (encodeSegment (isSpecialScheme a.scheme)))) := by
  unfold path
  rw [route_endpoint hr hf hp]
  simp [joinSegments]

/-- **Plain names are determined by the path.** -/
theorem path_endpoint_injective (hr : a.isRootless = false) {first other : String}
    {more others : List String} (hf : first ≠ "") (ho : other ≠ "")
    (hp : ∀ name ∈ first :: more, IsPlain name) (hq : ∀ name ∈ other :: others, IsPlain name)
    (h : (a.endpoint (first :: more)).path = (a.endpoint (other :: others)).path) :
    first :: more = other :: others := by
  rw [path_endpoint hr hf hp, path_endpoint hr ho hq] at h
  have written := List.append_cancel_left (String.ofList_inj.mp h)
  have slashless (l : List String) :
      ∀ name ∈ l.map (encodeSegment (isSpecialScheme a.scheme)), '/' ∉ name.toList := by
    intro name hm
    obtain ⟨name, -, rfl⟩ := List.mem_map.mp hm
    exact slash_notMem_encodeSegment name
  have names_eq := joinSegments_injective (slashless _) (slashless _) written
  exact (List.map_inj_right fun _ _ he => encodeSegment_injective he).mp names_eq

/-! ## Names that are not plain -/

theorem joinSegments_addSegment_eq_iff {root : List String} {last : String} (hl : last ≠ "")
    (name : String) :
    joinSegments (addSegment special (root ++ [last]) name) = joinSegments (root ++ [last]) ↔
      name = "." ∨ name = ".." := by
  constructor
  · intro h
    refine Decidable.byContradiction fun hd => ?_
    simp only [addSegment, if_neg hd, if_neg (concat_ne_singleton_empty hl)] at h
    split at h
    · -- Two dots that come about by leaving characters out empty the last segment.
      rw [List.dropLast_concat, joinSegments_append, joinSegments_append] at h
      exact hl (by simpa [joinSegments] using List.append_cancel_left h)
    · split at h
      · rw [joinSegments_append] at h
        simp [joinSegments] at h
      · rw [joinSegments_append] at h
        simp [joinSegments] at h
  · intro hd
    rw [addSegment, if_pos hd]

/-- Behind a plain name a further one is lost only if it is a dot or two. -/
theorem path_endpoint_concat_eq_iff (hr : a.isRootless = false) {last : String}
    (hp : IsPlain last) (hl : last ≠ "") (name : String) :
    (a.endpoint (names ++ [last, name])).path = (a.endpoint (names ++ [last])).path ↔
      name = "." ∨ name = ".." := by
  obtain ⟨own, hown⟩ := exists_segments hr
  have written : encodeSegment (isSpecialScheme a.scheme) last ≠ "" := encodeSegment_ne_empty hl
  -- Whatever comes before a plain name, the segments end with it.
  obtain ⟨root, hroot⟩ : ∃ root,
      (names ++ [last]).foldl (addSegment (isSpecialScheme a.scheme)) (withoutEmptyEnd own) =
        root ++ [encodeSegment (isSpecialScheme a.scheme) last] := by
    rw [List.foldl_append]
    exact ⟨_, addSegment_of_isPlain hp⟩
  have path_eq (more : List String) : (a.endpoint (names ++ [last] ++ more)).path =
      .ofList (joinSegments (more.foldl (addSegment (isSpecialScheme a.scheme))
        (root ++ [encodeSegment (isSpecialScheme a.scheme) last]))) := by
    rw [← hroot, ← List.foldl_append]
    simp only [endpoint, path, hown]
  have lhs := path_eq [name]
  have rhs := path_eq []
  rw [List.append_assoc] at lhs
  rw [List.append_nil] at rhs
  change (a.endpoint (names ++ ([last] ++ [name]))).path = _ ↔ _
  rw [lhs, rhs, String.ofList_inj]
  exact joinSegments_addSegment_eq_iff written name

/-- For a name that is not plain, another one with the same effect. -/
def twin (name : String) : String :=
  if name = "." then ".."
  else if name = ".." then "."
  else if IsPlain name then name
  else name ++ "\t"

theorem isPlain_of_twin_eq {name : String} (h : twin name = name) : IsPlain name := by
  unfold twin at h
  split at h
  · next hd => rw [hd] at h; exact absurd h (by decide)
  · split at h
    · next hdd => rw [hdd] at h; exact absurd h (by decide)
    · split at h
      · assumption
      · -- A tab makes a name longer.
        have hl := congrArg (fun s => s.toList.length) h
        simp at hl

theorem addSegment_twin (name : String) :
    addSegment special names (twin name) = addSegment special names name := by
  unfold twin
  split
  · next hd => rw [hd]; rfl
  · next hd =>
    split
    · next hdd => rw [hdd]; rfl
    · next hdd =>
      split
      · rfl
      · -- A tab at the end keeps a name from being a dot or two, and is left out after that.
        have last {dots : String} (hl : dots.toList.getLast? ≠ some '\t') :
            name ++ "\t" ≠ dots := by
          rintro rfl
          exact hl (by simp)
        have plain : withoutBreaks (name ++ "\t") = withoutBreaks name := by
          simp [withoutBreaks]
        have kept : ¬ (name ++ "\t" = "." ∨ name ++ "\t" = "..") := by
          rintro (h | h)
          · exact last (by decide) h
          · exact last (by decide) h
        unfold addSegment
        rw [plain, if_neg kept, if_neg (not_or.mpr ⟨hd, hdd⟩)]

/-- **A name and its twin lead to the same address.** -/
theorem endpoint_map_twin (names : List String) :
    a.endpoint (names.map twin) = a.endpoint names := by
  unfold endpoint
  split
  · rfl
  · simp only [List.foldl_map, addSegment_twin]

end HostConsole.Address
