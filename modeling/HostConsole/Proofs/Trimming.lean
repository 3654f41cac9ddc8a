import HostConsole.Report
import Mathlib.Data.List.DropRight

/-!
# Texts without their ends

White space and quotes are taken away from both ends of a text, as much of them as there is. What
is left is the one part of the text that neither begins nor ends with such a character while
nothing but such characters stands around it. Once taken away, there is nothing more to take.

## Main definitions

* `IsInner`: what is left of a text without the characters of a kind at its ends
* `Text.IsCutBack`: what is left of a text without the white space at its end alone

## Main results

* `trim_eq_iff`, `withoutQuotes_eq_iff`: what is left is the inner part of the text
* `trim_trim`: trimming a second time changes nothing
* `trimEnd_eq_iff`, `trimEnd_append`: what is left of a text, and of joined ones, at their end
-/

namespace HostConsole

/-- The inner part of a text: characters of the kind stand around it, but none at its ends. -/
structure IsInner (kind : Char → Bool) (text inner : List Char) : Prop where
  within : ∃ front back, text = front ++ inner ++ back ∧
    (∀ c ∈ front, kind c = true) ∧ ∀ c ∈ back, kind c = true
  begins : ∀ c ∈ inner.head?, kind c = false
  ends : ∀ c ∈ inner.getLast?, kind c = false

variable {kind : Char → Bool} {text inner : List Char}

/-- Nothing is taken away from a text that does not begin with a character of the kind. -/
theorem dropWhile_eq_self_of_head? (begins : ∀ c ∈ text.head?, kind c = false) :
    text.dropWhile kind = text := by
  cases text with
  | nil => rfl
  | cons c text => exact List.dropWhile_cons_of_neg (by simp [begins c rfl])

theorem kind_of_head?_dropWhile : ∀ c ∈ (text.dropWhile kind).head?, kind c = false := by
  intro c hc
  have first := List.head?_dropWhile_not kind text
  rw [Option.mem_def] at hc
  rwa [hc] at first

/-- The inner part of a text without characters of the kind at its beginning. -/
theorem isInner_rdropWhile (begins : ∀ c ∈ text.head?, kind c = false) :
    IsInner kind text (text.rdropWhile kind) where
  within := ⟨[], text.rtakeWhile kind, by simp [List.rdropWhile_append_rtakeWhile], by simp,
    fun _ hc => List.mem_rtakeWhile_imp hc⟩
  begins := by
    -- What is left is the text up to some place, so it begins as the text does.
    intro c hc
    refine begins c ?_
    rw [← List.rdropWhile_append_rtakeWhile (p := kind) (l := text), List.head?_append]
    simp [Option.mem_def.mp hc]
  ends := by
    rw [List.rdropWhile, List.getLast?_reverse]
    exact kind_of_head?_dropWhile

/-- Every text has exactly one inner part. -/
theorem strip_eq_iff :
    ((text.dropWhile kind).reverse.dropWhile kind).reverse = inner ↔ IsInner kind text inner := by
  constructor
  · rintro rfl
    have rest : IsInner kind (text.dropWhile kind) ((text.dropWhile kind).rdropWhile kind) :=
      isInner_rdropWhile kind_of_head?_dropWhile
    obtain ⟨front, back, split, hfront, hback⟩ := rest.within
    refine ⟨⟨text.takeWhile kind ++ front, back, ?_, ?_, hback⟩, rest.begins, rest.ends⟩
    · calc text = text.takeWhile kind ++ text.dropWhile kind := List.takeWhile_append_dropWhile.symm
        _ = text.takeWhile kind ++ (front ++ (text.dropWhile kind).rdropWhile kind ++ back) :=
          congrArg (text.takeWhile kind ++ ·) split
        _ = text.takeWhile kind ++ front ++ (text.dropWhile kind).rdropWhile kind ++ back := by
          simp only [List.append_assoc]
    · intro c hc
      rcases List.mem_append.mp hc with hc | hc
      · exact List.mem_takeWhile_imp hc
      · exact hfront c hc
  · rintro ⟨⟨front, back, rfl, hfront, hback⟩, begins, ends⟩
    rw [List.append_assoc, List.dropWhile_append_of_pos hfront]
    cases inner with
    | nil =>
      -- Nothing but characters of the kind: all of it goes.
      simp [List.dropWhile_eq_nil_iff.mpr hback]
    | cons c inner =>
      have first : ∀ d ∈ (c :: inner ++ back).head?, kind d = false := by simpa using begins
      rw [dropWhile_eq_self_of_head? first, List.reverse_append,
        List.dropWhile_append_of_pos (fun d hd => hback d (List.mem_reverse.mp hd)),
        dropWhile_eq_self_of_head? (by rwa [List.head?_reverse]), List.reverse_reverse]

theorem withoutQuotes_eq_iff : withoutQuotes text = inner ↔ IsInner (· == '"') text inner :=
  strip_eq_iff

namespace Text

theorem trim_eq_iff : trim text = inner ↔ IsInner isBlank text inner :=
  strip_eq_iff

/-- A text with no white space at its ends is left as it is. -/
theorem trim_eq_self_iff :
    trim text = text ↔
      (∀ c ∈ text.head?, isBlank c = false) ∧ ∀ c ∈ text.getLast?, isBlank c = false := by
  rw [trim_eq_iff]
  constructor
  · intro h
    exact ⟨h.begins, h.ends⟩
  · rintro ⟨begins, ends⟩
    exact ⟨⟨[], [], by simp, by simp, by simp⟩, begins, ends⟩

/-- Trimming a second time changes nothing. -/
@[simp] theorem trim_trim (text : List Char) : trim (trim text) = trim text := by
  have inner : IsInner isBlank text (trim text) := trim_eq_iff.mp rfl
  exact trim_eq_self_iff.mpr ⟨inner.begins, inner.ends⟩

/-! ## The end alone -/

/-- The text without white space at its end, as much of it as there is. -/
structure IsCutBack (text rest : List Char) : Prop where
  behind : ∃ gap, text = rest ++ gap ∧ ∀ c ∈ gap, isBlank c = true
  ends : ∀ c ∈ rest.getLast?, isBlank c = false

/-- From joined texts white space goes at the end of the second one, and at that of the first one
where the second is nothing else. -/
theorem trimEnd_append (front back : List Char) :
    trimEnd (front ++ back) =
      if trimEnd back = [] then trimEnd front else front ++ trimEnd back := by
  simp only [trimEnd, List.reverse_append, List.dropWhile_append, List.isEmpty_iff,
    List.reverse_eq_nil_iff]
  split
  · rfl
  · rw [List.reverse_append, List.reverse_reverse]

/-- White space is taken away behind the last visible character only. -/
theorem trimEnd_append_cons {c : Char} (hc : isBlank c = false) (front back : List Char) :
    trimEnd (front ++ c :: back) = front ++ c :: trimEnd back := by
  have visible : trimEnd (front ++ [c]) = front ++ [c] := by simp [trimEnd, hc]
  have regroup : front ++ c :: back = front ++ [c] ++ back := by simp
  rw [regroup, trimEnd_append, visible]
  split
  · next blank => rw [blank]
  · simp

/-- Behind any beginning the end is trimmed as if it stood alone. -/
theorem drop_trimEnd_append (front back : List Char) :
    (trimEnd (front ++ back)).drop front.length = trimEnd back := by
  rw [trimEnd_append]
  split
  · next blank =>
    rw [blank, List.drop_eq_nil_iff]
    exact (List.rdropWhile_prefix isBlank front).length_le
  · exact List.drop_left

theorem trimEnd_eq_iff {rest : List Char} : trimEnd text = rest ↔ IsCutBack text rest := by
  constructor
  · rintro rfl
    refine ⟨⟨text.rtakeWhile isBlank, List.rdropWhile_append_rtakeWhile.symm,
      fun _ hc => List.mem_rtakeWhile_imp hc⟩, ?_⟩
    rw [trimEnd, List.getLast?_reverse]
    exact kind_of_head?_dropWhile
  · rintro ⟨⟨gap, rfl, blank⟩, ends⟩
    have gone : trimEnd gap = [] := List.rdropWhile_eq_nil_iff.mpr blank
    have kept : rest.reverse.dropWhile isBlank = rest.reverse :=
      dropWhile_eq_self_of_head? (by rwa [List.head?_reverse])
    rw [trimEnd_append, if_pos gone, trimEnd, kept, List.reverse_reverse]

end Text

end HostConsole
