import HostConsole.Url.Basic

/-!
# Encoded segments

Decoding an encoded text gives its bytes back, and bytes determine their text. Hence the name of
a segment can be told from how it is written, and no name brings a slash into a path.

## Main results

* `Utf8.encode_injective`: a text is determined by its bytes
* `Url.percentDecode_percentEncode`: encoding keeps the bytes of a text
* `Address.encodeSegment_injective`: a name is determined by how it is written
-/

namespace HostConsole

/-- A text is determined by its bytes. -/
theorem Utf8.encode_injective {cs ds : List Char} (h : encode cs = encode ds) : cs = ds := by
  -- Decoding is a left inverse.
  have decoded (l : List Char) : (encode l).toByteArray.utf8Decode? = some l.toArray :=
    List.utf8Decode?_utf8Encode
  have arrays : cs.toArray = ds.toArray := by
    rw [← Option.some.injEq, ← decoded, ← decoded, h]
  exact List.toArray_inj arrays

namespace Url

/-! ## Decoding what was encoded -/

theorem hexValue?_hexDigit : ∀ n < 16, hexValue? (hexDigit n) = some n := by
  decide

theorem percentDecode_cons_of_ne {c : Char} (h : c ≠ '%') (rest : List Char) :
    percentDecode (c :: rest) = String.utf8EncodeChar c ++ percentDecode rest := by
  rcases rest with _ | ⟨a, _ | ⟨b, rest⟩⟩
  · simp [percentDecode]
  · simp [percentDecode]
  · rw [percentDecode]
    rintro a b rest rfl
    exact absurd rfl h

theorem percentDecode_encodeByte (b : UInt8) (rest : List Char) :
    percentDecode (encodeByte b ++ rest) = b :: percentDecode rest := by
  have hb : b.toNat < 256 := b.toNat_lt
  have digits : b.toNat / 16 * 16 + b.toNat % 16 = b.toNat := by omega
  simp only [encodeByte, List.cons_append, List.nil_append, percentDecode]
  rw [hexValue?_hexDigit _ (by omega), hexValue?_hexDigit _ (by omega)]
  simp only [digits, UInt8.ofNat_toNat]

theorem percentDecode_encodeBytes (bytes : List UInt8) (rest : List Char) :
    percentDecode (bytes.flatMap encodeByte ++ rest) = bytes ++ percentDecode rest := by
  induction bytes with
  | nil => rfl
  | cons b bytes ih =>
    rw [List.flatMap_cons, List.append_assoc, percentDecode_encodeByte, ih, List.cons_append]

/-- A character is decoded to its bytes, if a percent sign never stands for itself. -/
theorem percentDecode_encodeChar {keeps : Char → Bool} (h : keeps '%' = false) (c : Char)
    (rest : List Char) :
    percentDecode (encodeChar keeps c ++ rest) =
      String.utf8EncodeChar c ++ percentDecode rest := by
  unfold encodeChar
  split
  · next hc =>
    -- A character that is kept is no percent sign, so nothing is decoded at it.
    apply percentDecode_cons_of_ne
    rintro rfl
    rw [h] at hc
    cases hc
  · exact percentDecode_encodeBytes _ rest

/-- Decoding gives the bytes of an encoded text, if a percent sign never stands for itself. -/
theorem percentDecode_percentEncode {keeps : Char → Bool} (h : keeps '%' = false)
    (cs : List Char) : percentDecode (percentEncode keeps cs) = Utf8.encode cs := by
  induction cs with
  | nil => rfl
  | cons c cs ih =>
    change percentDecode (encodeChar keeps c ++ percentEncode keeps cs) = _
    rw [percentDecode_encodeChar h, ih]
    rfl

theorem percentEncode_injective {keeps : Char → Bool} (h : keeps '%' = false)
    {cs ds : List Char} (he : percentEncode keeps cs = percentEncode keeps ds) : cs = ds := by
  refine Utf8.encode_injective ?_
  rw [← percentDecode_percentEncode h, he, percentDecode_percentEncode h]

/-! ## The characters of an encoded text -/

/-- The character is none of those by which bytes are written. -/
def IsUnwritten (d : Char) : Prop :=
  d ≠ '%' ∧ ∀ n < 16, hexDigit n ≠ d

instance : DecidablePred IsUnwritten := fun _ => inferInstanceAs (Decidable (_ ∧ _))

theorem IsUnwritten.notMem_encodeByte {d : Char} (hd : IsUnwritten d) (b : UInt8) :
    d ∉ encodeByte b := by
  intro hb
  have small : b.toNat < 256 := b.toNat_lt
  simp only [encodeByte, List.mem_cons, List.not_mem_nil, or_false] at hb
  -- A percent sign or one of two digits.
  rcases hb with hb | hb | hb
  · exact hd.1 hb
  · exact hd.2 _ (by omega) hb.symm
  · exact hd.2 _ (by omega) hb.symm

/-- Such a character stands in an encoded one only for itself. -/
theorem IsUnwritten.notMem_encodeChar {d : Char} (hd : IsUnwritten d) {keeps : Char → Bool}
    (h : keeps d = false) (c : Char) : d ∉ encodeChar keeps c := by
  intro hc
  unfold encodeChar at hc
  split at hc
  · next hk =>
    -- A character that is kept is another one.
    rw [← List.mem_singleton.mp hc, h] at hk
    cases hk
  · obtain ⟨b, -, hb⟩ := List.mem_flatMap.mp hc
    exact hd.notMem_encodeByte b hb

/-- Such a character stands in an encoded text only for itself. -/
theorem IsUnwritten.notMem_percentEncode {d : Char} (hd : IsUnwritten d) {keeps : Char → Bool}
    (h : keeps d = false) (cs : List Char) : d ∉ percentEncode keeps cs := by
  intro hm
  obtain ⟨c, -, hc⟩ := List.mem_flatMap.mp hm
  exact hd.notMem_encodeChar h c hc

end Url

namespace Address

open Url

variable {special : Bool}

/-- A name is determined by how it is written. -/
theorem encodeSegment_injective {name other : String}
    (h : encodeSegment special name = encodeSegment special other) : name = other := by
  cases special with
  | true => exact String.toList_inj.mp (percentEncode_injective rfl (String.ofList_inj.mp h))
  | false => exact String.toList_inj.mp (percentEncode_injective rfl (String.ofList_inj.mp h))

theorem encodeSegment_ne_empty {name : String} (h : name ≠ "") :
    encodeSegment special name ≠ "" := by
  have empty : encodeSegment special "" = "" := by cases special <;> rfl
  intro he
  exact h (encodeSegment_injective (he.trans empty.symm))

/-- An encoded name has no character that neither stands in a segment nor writes a byte. -/
theorem notMem_encodeSegment {d : Char} (hd : IsUnwritten d) (hs : keepsInSegment d = false)
    (name : String) : d ∉ (encodeSegment special name).toList := by
  unfold encodeSegment
  rw [String.toList_ofList]
  cases special with
  | true =>
    have special : keepsInSpecialSegment d = false := by rw [keepsInSpecialSegment, hs]; rfl
    exact hd.notMem_percentEncode special name.toList
  | false => exact hd.notMem_percentEncode hs name.toList

theorem slash_notMem_encodeSegment (name : String) :
    '/' ∉ (encodeSegment special name).toList :=
  notMem_encodeSegment (by decide) (by decide) name

/-- The bytes of a name are found again. -/
theorem percentDecode_encodeSegment (name : String) :
    percentDecode (encodeSegment special name).toList = Utf8.bytes name := by
  unfold encodeSegment
  rw [String.toList_ofList]
  cases special with
  | true => exact percentDecode_percentEncode rfl name.toList
  | false => exact percentDecode_percentEncode rfl name.toList

end Address

end HostConsole
