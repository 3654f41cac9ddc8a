import HostConsole.Proofs.Utf8Decoding
import HostConsole.Url.Form

/-!
# Pairs of a query

Some pairs and the query that they are written as determine each other: decoding gives back every
key and every value, in their order, whatever characters they have.

Decoding takes the query apart at the ampersands, each piece at its first equals sign, and then
turns pluses to spaces before the bytes. Going the same way back needs that none of these signs
comes from a key or a value: each of them is written as a byte, and no byte is written with them.

## Main results

* `Url.decodeForm_encodeForm`: a key or a value is read as it was
* `Url.decodePairs_encodePairs`: the pairs of a query are those that it was made of
-/

namespace HostConsole.Url

/-! ## The signs between keys and values -/

/-- A sign that writes no byte and does not stand for itself is in no key and no value. -/
theorem IsUnwritten.notMem_encodeForm {d : Char} (hd : IsUnwritten d) (plus : d ≠ '+')
    (h : keepsInForm d = false) (s : String) : d ∉ encodeForm s := by
  intro mem
  obtain ⟨c, -, hc⟩ := List.mem_flatMap.mp mem
  unfold encodeFormChar at hc
  split at hc
  · exact plus (List.mem_singleton.mp hc)
  · exact hd.notMem_encodeChar h c hc

theorem ampersand_notMem_encodeForm (s : String) : '&' ∉ encodeForm s :=
  IsUnwritten.notMem_encodeForm (by decide) (by decide) (by decide) s

theorem equals_notMem_encodeForm (s : String) : '=' ∉ encodeForm s :=
  IsUnwritten.notMem_encodeForm (by decide) (by decide) (by decide) s

theorem ampersand_notMem_encodePair (pair : String × String) : '&' ∉ encodePair pair := by
  intro mem
  rcases List.mem_append.mp mem with key | value
  · exact ampersand_notMem_encodeForm _ key
  · rcases List.mem_cons.mp value with equals | value
    · exact absurd equals (by decide)
    · exact ampersand_notMem_encodeForm _ value

theorem encodePair_ne_nil (pair : String × String) : encodePair pair ≠ [] := by
  simp [encodePair]

/-! ## Keys and values -/

/-- The text with spaces for its pluses. -/
def spaced (cs : List Char) : List Char :=
  cs.map fun c => if c = '+' then ' ' else c

theorem spaced_append (cs ds : List Char) : spaced (cs ++ ds) = spaced cs ++ spaced ds :=
  List.map_append

theorem spaced_of_notMem {cs : List Char} (h : '+' ∉ cs) : spaced cs = cs := by
  refine (List.map_congr_left fun c hc => ?_).trans (List.map_id cs)
  have other : c ≠ '+' := fun plus => h (plus ▸ hc)
  simp [other]

/-- A character is decoded to its bytes, whatever stands behind it. -/
theorem percentDecode_encodeFormChar (c : Char) (rest : List Char) :
    percentDecode (spaced (encodeFormChar c) ++ rest) =
      String.utf8EncodeChar c ++ percentDecode rest := by
  unfold encodeFormChar
  split
  · next space =>
    -- A space is written as a plus, which becomes a space again.
    subst space
    exact percentDecode_cons_of_ne (by decide) rest
  · have plus : '+' ∉ encodeChar keepsInForm c :=
      IsUnwritten.notMem_encodeChar (by decide) (by decide) c
    rw [spaced_of_notMem plus]
    exact percentDecode_encodeChar (by decide) c rest

theorem percentDecode_encodeForm (cs : List Char) :
    percentDecode (spaced (cs.flatMap encodeFormChar)) = Utf8.encode cs := by
  induction cs with
  | nil => rfl
  | cons c cs ih =>
    rw [List.flatMap_cons, spaced_append, percentDecode_encodeFormChar, ih]
    rfl

/-- **A key or a value is read as it was.** -/
theorem decodeForm_encodeForm (s : String) : decodeForm (encodeForm s) = s := by
  change String.ofList (Utf8.decodeLossy (percentDecode (spaced (encodeForm s)))) = s
  rw [encodeForm, percentDecode_encodeForm, Utf8.decodeLossy_encode, String.ofList_toList]

/-! ## Pairs -/

/-- A pair is taken apart at the first equals sign, since its key has none. -/
theorem decodePair_encodePair (pair : String × String) : decodePair (encodePair pair) = pair := by
  obtain ⟨key, value⟩ := pair
  have before : ∀ c ∈ encodeForm key, (c != '=') = true := by
    intro c hc
    have other : c ≠ '=' := fun equals => equals_notMem_encodeForm key (equals ▸ hc)
    simpa using other
  have front : (encodeForm key ++ '=' :: encodeForm value).takeWhile (· != '=') =
      encodeForm key := by
    rw [List.takeWhile_append_of_pos before]
    simp
  simp only [decodePair, encodePair, front, List.drop_left, List.drop_one, List.tail_cons,
    decodeForm_encodeForm]

/-- **The pairs of a query are those that it was made of.** -/
theorem decodePairs_encodePairs (pairs : List (String × String)) :
    decodePairs (encodePairs pairs) = pairs := by
  cases pairs with
  | nil => decide
  | cons first others =>
    have apart : ∀ piece ∈ (first :: others).map encodePair, '&' ∉ piece := by
      intro piece mem
      obtain ⟨pair, -, rfl⟩ := List.mem_map.mp mem
      exact ampersand_notMem_encodePair pair
    have whole : ∀ piece ∈ (first :: others).map encodePair, (!piece.isEmpty) = true := by
      intro piece mem
      obtain ⟨pair, -, rfl⟩ := List.mem_map.mp mem
      simp [encodePair_ne_nil]
    rw [decodePairs, encodePairs, List.splitOn_intercalate '&' apart (by simp),
      List.filter_eq_self.mpr whole, List.map_map]
    exact (List.map_congr_left fun pair _ => decodePair_encodePair pair).trans (List.map_id _)

/-- Only where there are no pairs the query is empty. -/
theorem encodePairs_eq_nil_iff {pairs : List (String × String)} :
    encodePairs pairs = [] ↔ pairs = [] := by
  constructor
  · intro empty
    rw [← decodePairs_encodePairs pairs, empty]
    decide
  · rintro rfl
    rfl

end HostConsole.Url
