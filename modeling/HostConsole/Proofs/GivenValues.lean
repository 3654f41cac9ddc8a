import HostConsole.Proofs.Occurrences
import HostConsole.Text.CommaList

/-!
# Values that are given

Most options take one text and may be met only once. The value of such an option is the text of its
one occurrence, and there is none where the option does not occur: nothing that a user gave is
dropped, and nothing is put in its place. An option that takes two texts may be met again and again,
and gives a pair each time.

## Main definitions

* `OptionRule.Takes`: the number of texts that an option takes
* `IsGiven`, `AreGiven`: the value of an option, and its pairs

## Main results

* `isGiven_value?`: the value of an option that takes one text, once
* `areGiven_pairs`: the pairs of an option that takes two texts
-/

namespace HostConsole.CommandLine

variable {identity : String} {occurrences : List Occurrence}

/-- The option takes so many texts each time, as they are. -/
def OptionRule.Takes (count : Nat) (rule : OptionRule) : Prop :=
  rule.least = count ∧ rule.most = count ∧ rule.splits = false

instance (count : Nat) : DecidablePred (OptionRule.Takes count) := fun rule =>
  inferInstanceAs (Decidable (rule.least = count ∧ rule.most = count ∧ rule.splits = false))

/-- The texts of an option, each time that it was met. -/
def groupsOf (identity : String) (occurrences : List Occurrence) : List (List String) :=
  (occurrencesOf identity occurrences).map Occurrence.texts

/-- The option is met once, with the value as its text, or it is not met and has no value. -/
def IsGiven (identity : String) (occurrences : List Occurrence) (value? : Option String) : Prop :=
  groupsOf identity occurrences = (value?.map fun value => [value]).toList

/-- The option is met once for each of the pairs, with the two as its texts. -/
def AreGiven (identity : String) (occurrences : List Occurrence) (pairs : List (String × String)) :
    Prop :=
  groupsOf identity occurrences = pairs.map fun (first, second) => [first, second]

/-! ## The texts of an option -/

section Takes

variable {count : Nat}

theorem length_of_checkCount {rule : OptionRule} {n : Nat} (counted : checkCount rule n = .ok ())
    (takes : rule.Takes count) : n = count := by
  obtain ⟨rfl, most, -⟩ := takes
  unfold checkCount at counted
  split at counted
  · cases counted
  · rw [if_pos most.symm] at counted
    split at counted
    · next all => exact all
    · cases counted

/-- Every time the option has the texts that it takes. -/
theorem AreMet.length_of_mem_groupsOf (h : AreMet occurrences)
    (takes : ∀ o ∈ occurrences, o.rule.identity = identity → o.rule.Takes count) :
    ∀ texts ∈ groupsOf identity occurrences, texts.length = count := by
  intro texts mem
  obtain ⟨o, own, rfl⟩ := List.mem_map.mp mem
  obtain ⟨mem, same⟩ := List.mem_filter.mp own
  exact length_of_checkCount (h.counted o mem) (takes o mem (by simpa using same))

/-- What is found for the option are its texts, of all times together. -/
theorem values_foundOf_of_takes
    (takes : ∀ o ∈ occurrences, o.rule.identity = identity → o.rule.Takes count) :
    (foundOf occurrences).values identity = (groupsOf identity occurrences).flatten := by
  rw [values_foundOf, groupsOf, ← List.flatMap_def]
  refine List.flatMap_congr fun o mem => ?_
  obtain ⟨mem, same⟩ := List.mem_filter.mp mem
  obtain ⟨-, -, whole⟩ := takes o mem (by simpa using same)
  rw [Occurrence.values, whole]
  rfl

/-- An option that may be met only once is met once at most. -/
theorem AreMet.length_groupsOf_le (h : AreMet occurrences)
    (once : ∀ o ∈ occurrences, o.rule.identity = identity → o.rule.action = .once) :
    (groupsOf identity occurrences).length ≤ 1 := by
  have apart := h.once.filter fun o => o.rule.identity == identity
  have named : ∀ o ∈ occurrencesOf identity occurrences,
      o ∈ occurrences ∧ o.rule.identity = identity := by
    intro o mem
    obtain ⟨mem, same⟩ := List.mem_filter.mp mem
    exact ⟨mem, by simpa using same⟩
  rw [groupsOf, List.length_map]
  change (occurrencesOf identity occurrences).Pairwise _ at apart
  generalize occurrencesOf identity occurrences = own at apart named ⊢
  rcases own with _ | ⟨first, _ | ⟨second, more⟩⟩
  · exact Nat.zero_le 1
  · exact Nat.le_refl 1
  · -- The second one would be of the identity of the first.
    obtain ⟨-, isFirst⟩ := named first List.mem_cons_self
    obtain ⟨mem, isSecond⟩ := named second (List.mem_cons_of_mem _ List.mem_cons_self)
    have unlike := (List.pairwise_cons.mp apart).1 second List.mem_cons_self
    exact absurd (isFirst.trans isSecond.symm) (unlike (once second mem isSecond))

end Takes

/-! ## Values and pairs -/

/-- **The value of an option that takes one text, once.** -/
theorem isGiven_value? (h : AreMet occurrences)
    (takes : ∀ o ∈ occurrences, o.rule.identity = identity →
      o.rule.Takes 1 ∧ o.rule.action = .once) :
    IsGiven identity occurrences ((foundOf occurrences).value? identity) := by
  have one : ∀ o ∈ occurrences, o.rule.identity = identity → o.rule.Takes 1 :=
    fun o mem same => (takes o mem same).1
  have length := h.length_of_mem_groupsOf one
  have at_most_once := h.length_groupsOf_le fun o mem same => (takes o mem same).2
  unfold IsGiven Found.value?
  rw [values_foundOf_of_takes one]
  generalize groupsOf identity occurrences = groups at length at_most_once ⊢
  rcases groups with _ | ⟨texts, _ | ⟨second, more⟩⟩
  · rfl
  · obtain ⟨text, rfl⟩ := List.length_eq_one_iff.mp (length texts List.mem_cons_self)
    rfl
  · simp at at_most_once

/-- Texts that come in twos are the pairs of all texts. -/
theorem eq_map_pairs_flatten {groups : List (List String)}
    (two : ∀ texts ∈ groups, texts.length = 2) :
    groups = (Text.pairs groups.flatten).map fun (first, second) => [first, second] := by
  induction groups with
  | nil => rfl
  | cons texts groups ih =>
    obtain ⟨here, later⟩ := List.forall_mem_cons.mp two
    obtain ⟨first, second, rfl⟩ := List.length_eq_two.mp here
    exact congrArg ([first, second] :: ·) (ih later)

/-- **The pairs of an option that takes two texts.** -/
theorem areGiven_pairs (h : AreMet occurrences)
    (takes : ∀ o ∈ occurrences, o.rule.identity = identity → o.rule.Takes 2) :
    AreGiven identity occurrences (Text.pairs ((foundOf occurrences).values identity)) := by
  unfold AreGiven
  rw [values_foundOf_of_takes takes]
  exact eq_map_pairs_flatten (h.length_of_mem_groupsOf takes)

end HostConsole.CommandLine
