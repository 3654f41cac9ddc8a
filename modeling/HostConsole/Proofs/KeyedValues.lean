import HostConsole.Dictionary
import Mathlib.Data.List.Induction
import Mathlib.Data.String.Basic

/-!
# Keyed values

Where each key stands once, a value is found under its key wherever it stands. A dictionary that is
made of pairs has each key once, and all of them in their order. So making a dictionary of a
dictionary changes nothing.

## Main definitions

* `Dictionary.IsOrdered`: the keys stand in their order, each of them once

## Main results

* `lookup_eq_some_iff_mem`: a key that stands once is found where it stands
* `Dictionary.isOrdered_ofList`: a dictionary of pairs is in order
* `Dictionary.mem_ofList_iff`: a dictionary of pairs holds the last value of each key
* `Dictionary.ofList_of_isOrdered`: pairs in order are a dictionary as they are
-/

namespace HostConsole

variable {α : Type} {key : String} {value : α}

/-! ## Keys that stand once -/

/-- A key that stands once is found where it stands. -/
theorem lookup_eq_some_iff_mem {pairs : List (String × α)} (distinct : (pairs.map Prod.fst).Nodup) :
    pairs.lookup key = some value ↔ (key, value) ∈ pairs := by
  induction pairs with
  | nil => simp
  | cons pair pairs ih =>
    obtain ⟨k, v⟩ := pair
    obtain ⟨absent, distinct⟩ := List.nodup_cons.mp distinct
    rw [List.lookup_cons]
    by_cases same : key = k
    · -- Its only place is the first one.
      subst same
      have elsewhere : (key, value) ∉ pairs := fun mem => absent (List.mem_map.mpr ⟨_, mem, rfl⟩)
      simp [elsewhere, eq_comm]
    · rw [beq_false_of_ne same, ih distinct]
      simp [same]

/-- Where a pair stands among others does not matter for what is found. -/
theorem lookup_eq_of_perm {pairs others : List (String × α)} (perm : pairs.Perm others)
    (distinct : (pairs.map Prod.fst).Nodup) (key : String) :
    pairs.lookup key = others.lookup key := by
  have distinctOthers := (perm.map Prod.fst).nodup_iff.mp distinct
  ext value
  rw [lookup_eq_some_iff_mem distinct, lookup_eq_some_iff_mem distinctOthers]
  exact perm.mem_iff

namespace Dictionary

variable {entries : Dictionary α} {entry : String × α}

/-- The keys stand in their order, each of them once. -/
def IsOrdered (entries : Dictionary α) : Prop :=
  entries.Pairwise fun earlier later => earlier.1 < later.1

theorem IsOrdered.nodup_keys (ordered : IsOrdered entries) : (entries.map Prod.fst).Nodup := by
  unfold List.Nodup
  rw [List.pairwise_map]
  exact ordered.imp fun lt => lt.ne

/-! ## Putting a value under a key -/

/-- What is in a dictionary after a value was put in is that value, or it was there before. -/
theorem mem_of_mem_insert (mem : entry ∈ insert key value entries) :
    entry = (key, value) ∨ entry ∈ entries := by
  induction entries with
  | nil => exact .inl (List.mem_singleton.mp mem)
  | cons first entries ih =>
    obtain ⟨k, v⟩ := first
    unfold insert at mem
    by_cases same : key = k
    · rw [if_pos same] at mem
      rcases List.mem_cons.mp mem with new | old
      · exact .inl new
      · exact .inr (List.mem_cons_of_mem _ old)
    · rw [if_neg same] at mem
      by_cases lt : key < k
      · rw [if_pos lt] at mem
        exact List.mem_cons.mp mem
      · rw [if_neg lt] at mem
        rcases List.mem_cons.mp mem with here | further
        · exact .inr (here ▸ List.mem_cons_self)
        · exact (ih further).imp_right (List.mem_cons_of_mem _)

theorem isOrdered_insert (ordered : IsOrdered entries) : IsOrdered (insert key value entries) := by
  induction entries with
  | nil => exact List.pairwise_singleton _ _
  | cons first entries ih =>
    obtain ⟨k, v⟩ := first
    obtain ⟨behind, rest⟩ := List.pairwise_cons.mp ordered
    unfold insert
    by_cases same : key = k
    · rw [if_pos same, same]
      exact List.pairwise_cons.mpr ⟨behind, rest⟩
    · rw [if_neg same]
      by_cases lt : key < k
      · rw [if_pos lt]
        refine List.pairwise_cons.mpr ⟨fun entry mem => ?_, ordered⟩
        rcases List.mem_cons.mp mem with rfl | mem
        · exact lt
        · exact lt.trans (behind entry mem)
      · rw [if_neg lt]
        refine List.pairwise_cons.mpr ⟨fun entry mem => ?_, ih rest⟩
        rcases mem_of_mem_insert mem with rfl | mem
        · exact lt_of_le_of_ne (not_lt.mp lt) (Ne.symm same)
        · exact behind entry mem

/-- A key behind all others goes to the end. -/
theorem insert_of_forall_lt (last : ∀ entry ∈ entries, entry.1 < key) :
    insert key value entries = entries ++ [(key, value)] := by
  induction entries with
  | nil => rfl
  | cons first entries ih =>
    obtain ⟨k, v⟩ := first
    have lt : k < key := last (k, v) List.mem_cons_self
    unfold insert
    rw [if_neg lt.ne', if_neg lt.asymm,
      ih fun entry mem => last entry (List.mem_cons_of_mem _ mem), List.cons_append]

theorem get?_insert (key other : String) (value : α) (entries : Dictionary α) :
    get? (insert key value entries) other =
      if other = key then some value else get? entries other := by
  split
  · next h => rw [h, get?_insert_self]
  · next h =>
    have hb : (other == key) = false := beq_false_of_ne h
    induction entries with
    | nil => simp [insert, get?, List.lookup_cons, hb]
    | cons entry entries ih =>
      -- The new entry takes the place of its key, stands before a later one, or goes further on.
      obtain ⟨k, v⟩ := entry
      unfold get? at ih ⊢
      unfold insert
      split
      · next hk => simp [List.lookup_cons, hb, ← hk]
      · split
        · simp [List.lookup_cons, hb]
        · rw [List.lookup_cons, List.lookup_cons, ih]

/-! ## The dictionary of some pairs -/

theorem ofList_concat (pairs : List (String × α)) (pair : String × α) :
    ofList (pairs ++ [pair]) = insert pair.1 pair.2 (ofList pairs) := by
  simp [ofList]

/-- **A dictionary of pairs is in order.** -/
theorem isOrdered_ofList (pairs : List (String × α)) : IsOrdered (ofList pairs) := by
  induction pairs using List.reverseRecOn with
  | nil => exact List.Pairwise.nil
  | append_singleton pairs pair ih =>
    rw [ofList_concat]
    exact isOrdered_insert ih

/-- A dictionary of pairs finds the last value of a key. -/
theorem get?_ofList (pairs : List (String × α)) (key : String) :
    get? (ofList pairs) key = pairs.reverse.lookup key := by
  induction pairs using List.reverseRecOn with
  | nil => rfl
  | append_singleton pairs pair ih =>
    obtain ⟨k, v⟩ := pair
    rw [ofList_concat, get?_insert, ih, List.reverse_append, List.reverse_singleton,
      List.singleton_append, List.lookup_cons]
    by_cases same : key = k
    · simp [same]
    · simp [same, beq_false_of_ne same]

/-- **A dictionary of pairs holds the last value of each key.** -/
theorem mem_ofList_iff {pairs : List (String × α)} :
    (key, value) ∈ ofList pairs ↔
      ∃ before after, pairs = before ++ (key, value) :: after ∧ key ∉ after.map Prod.fst := by
  have found : (ofList pairs).lookup key = pairs.reverse.lookup key := get?_ofList pairs key
  rw [← lookup_eq_some_iff_mem (isOrdered_ofList pairs).nodup_keys, found,
    List.lookup_eq_some_iff]
  constructor
  · rintro ⟨after, before, split, others⟩
    refine ⟨before.reverse, after.reverse, ?_, ?_⟩
    · simpa using congrArg List.reverse split
    · intro again
      obtain ⟨entry, mem, same⟩ := List.mem_map.mp again
      have unlike : key ≠ entry.1 := by simpa using others entry (List.mem_reverse.mp mem)
      exact unlike same.symm
  · rintro ⟨before, after, rfl, last⟩
    refine ⟨after.reverse, before.reverse, by simp, fun entry mem => ?_⟩
    have unlike : key ≠ entry.1 := fun same =>
      last (List.mem_map.mpr ⟨entry, List.mem_reverse.mp mem, same.symm⟩)
    simpa using unlike

theorem mem_of_mem_ofList {pairs : List (String × α)} (mem : entry ∈ ofList pairs) :
    entry ∈ pairs := by
  obtain ⟨before, after, rfl, -⟩ := mem_ofList_iff.mp mem
  exact List.mem_append_right before List.mem_cons_self

/-- Where each key stands once, nothing is lost. -/
theorem mem_ofList_of_nodup {pairs : List (String × α)} (distinct : (pairs.map Prod.fst).Nodup) :
    entry ∈ ofList pairs ↔ entry ∈ pairs := by
  refine ⟨mem_of_mem_ofList, fun mem => ?_⟩
  obtain ⟨before, after, rfl⟩ := List.append_of_mem mem
  rw [List.map_append, List.map_cons] at distinct
  obtain ⟨-, distinct, -⟩ := List.pairwise_append.mp distinct
  have last : entry.1 ∉ after.map Prod.fst := (List.nodup_cons.mp distinct).1
  exact mem_ofList_iff.mpr ⟨before, after, rfl, last⟩

/-- **Pairs in order are a dictionary as they are.** -/
theorem ofList_of_isOrdered (ordered : IsOrdered entries) : ofList entries = entries := by
  induction entries using List.reverseRecOn with
  | nil => rfl
  | append_singleton entries entry ih =>
    obtain ⟨before, -, last⟩ := List.pairwise_append.mp ordered
    rw [ofList_concat, ih before]
    exact insert_of_forall_lt fun other mem => last other mem entry List.mem_cons_self

end Dictionary

end HostConsole
