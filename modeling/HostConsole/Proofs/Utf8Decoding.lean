import HostConsole.Proofs.PercentEncoding

/-!
# Decoding UTF-8

The bytes of a text are read as that text, though the reading is the lenient one that never
refuses: it stands at the beginning of a character again and again and finds that character whole.

A character takes one to four bytes, so there is one lemma for each number of bytes. Each says that
a number in the right range is put together again from its payloads. That no character is a
surrogate or beyond the last plane is what the bounds of the second byte ask for.

## Main results

* `Utf8.step_encodeChar`: a character is found at the beginning of its bytes
* `Utf8.decodeLossy_encode`: the bytes of a text are read as the text
-/

namespace HostConsole.Utf8

/-! ## Single bytes -/

/-- The byte that continues a character with six bits. -/
def continuation (bits : Nat) : UInt8 :=
  UInt8.ofNat (bits + 128)

theorem isContinuation_continuation :
    ∀ bits < 64, isContinuation (continuation bits) = true ∧ payload (continuation bits) = bits := by
  decide

/-- The bounds of a second byte are bounds of its bits. -/
theorem second_of_bits : ∀ bits < 64,
    (0x80 ≤ continuation bits && continuation bits ≤ 0xBF) = true ∧
      (32 ≤ bits → (0xA0 ≤ continuation bits && continuation bits ≤ 0xBF) = true) ∧
      (bits < 32 → (0x80 ≤ continuation bits && continuation bits ≤ 0x9F) = true) ∧
      (16 ≤ bits → (0x90 ≤ continuation bits && continuation bits ≤ 0xBF) = true) ∧
      (bits < 16 → (0x80 ≤ continuation bits && continuation bits ≤ 0x8F) = true) := by
  decide

theorem leading?_of_two : ∀ high < 32,
    ¬ UInt8.ofNat (high + 192) < 0x80 ∧
      (high < 2 ∨ leading? (UInt8.ofNat (high + 192)) = some (high, 0x80, 0xBF, 0)) := by
  decide

theorem leading?_of_three : ∀ high < 16,
    ¬ UInt8.ofNat (high + 224) < 0x80 ∧
      leading? (UInt8.ofNat (high + 224)) =
        some (high, if high = 0 then 0xA0 else 0x80, if high = 13 then 0x9F else 0xBF, 1) := by
  decide

theorem leading?_of_four : ∀ high < 5,
    ¬ UInt8.ofNat (high + 240) < 0x80 ∧
      leading? (UInt8.ofNat (high + 240)) =
        some (high, if high = 0 then 0x90 else 0x80, if high = 4 then 0x8F else 0xBF, 2) := by
  decide

/-! ## Characters of one to four bytes -/

variable {bits more last : Nat} {rest : List UInt8}

theorem finish_continuation {count code : Nat} (h : bits < 64) :
    finish (count + 1) code (continuation bits :: rest) = finish count (code * 64 + bits) rest := by
  obtain ⟨continues, carried⟩ := isContinuation_continuation bits h
  rw [finish, if_pos continues, carried]

theorem step_of_one {n : Nat} (h : n < 128) :
    step (UInt8.ofNat n) rest = .character (Char.ofNat n) rest := by
  have small : UInt8.ofNat n < 0x80 ∧ (UInt8.ofNat n).toNat = n := by
    revert n
    decide
  rw [step, if_pos small.1, small.2]

theorem step_of_two {high : Nat} (h : high < 32) (two : 2 ≤ high) (hb : bits < 64) :
    step (UInt8.ofNat (high + 192)) (continuation bits :: rest) =
      .character (Char.ofNat (high * 64 + bits)) rest := by
  obtain ⟨large, leads⟩ := leading?_of_two high h
  obtain ⟨-, carried⟩ := isContinuation_continuation bits hb
  rw [step, if_neg large, leads.resolve_left (by omega)]
  simp only [(second_of_bits bits hb).1, if_true, carried, finish]

theorem step_of_three {high : Nat} (h : high < 16) (hb : bits < 64) (hl : last < 64)
    (least : high = 0 → 32 ≤ bits) (largest : high = 13 → bits < 32) :
    step (UInt8.ofNat (high + 224)) (continuation bits :: continuation last :: rest) =
      .character (Char.ofNat ((high * 64 + bits) * 64 + last)) rest := by
  obtain ⟨large, leads⟩ := leading?_of_three high h
  obtain ⟨-, carried⟩ := isContinuation_continuation bits hb
  obtain ⟨any, from_half, to_half, -, -⟩ := second_of_bits bits hb
  have within : ((if high = 0 then 0xA0 else 0x80) ≤ continuation bits &&
      continuation bits ≤ (if high = 13 then 0x9F else 0xBF)) = true := by
    by_cases first : high = 0
    · subst first
      exact from_half (least rfl)
    · by_cases surrogate : high = 13
      · subst surrogate
        exact to_half (largest rfl)
      · rw [if_neg first, if_neg surrogate]
        exact any
  rw [step, if_neg large, leads]
  simp only [within, if_true, carried]
  rw [finish_continuation hl, finish]

theorem step_of_four {high : Nat} (h : high < 5) (hb : bits < 64) (hm : more < 64) (hl : last < 64)
    (least : high = 0 → 16 ≤ bits) (largest : high = 4 → bits < 16) :
    step (UInt8.ofNat (high + 240))
        (continuation bits :: continuation more :: continuation last :: rest) =
      .character (Char.ofNat (((high * 64 + bits) * 64 + more) * 64 + last)) rest := by
  obtain ⟨large, leads⟩ := leading?_of_four high h
  obtain ⟨-, carried⟩ := isContinuation_continuation bits hb
  obtain ⟨any, -, -, from_quarter, to_quarter⟩ := second_of_bits bits hb
  have within : ((if high = 0 then 0x90 else 0x80) ≤ continuation bits &&
      continuation bits ≤ (if high = 4 then 0x8F else 0xBF)) = true := by
    by_cases first : high = 0
    · subst first
      exact from_quarter (least rfl)
    · by_cases beyond : high = 4
      · subst beyond
        exact to_quarter (largest rfl)
      · rw [if_neg first, if_neg beyond]
        exact any
  rw [step, if_neg large, leads]
  simp only [within, if_true, carried]
  rw [finish_continuation hm, finish_continuation hl, finish]

/-! ## Texts -/

/-- A character is found at the beginning of its bytes. -/
theorem step_encodeChar (c : Char) (rest : List UInt8) :
    ∃ b bs, String.utf8EncodeChar c = b :: bs ∧ step b (bs ++ rest) = .character c rest := by
  have valid : c.toNat < 0xD800 ∨ 0xDFFF < c.toNat ∧ c.toNat < 0x110000 := c.valid
  have whole : Char.ofNat c.toNat = c := Char.ofNat_toNat c
  simp only [String.utf8EncodeChar, Char.toNat_val]
  generalize c.toNat = n at valid whole
  by_cases one : n ≤ 127
  · rw [if_pos one]
    exact ⟨_, _, rfl, whole ▸ step_of_one (by omega)⟩
  · rw [if_neg one]
    by_cases two : n ≤ 2047
    · rw [if_pos two]
      refine ⟨_, _, rfl, (step_of_two (by omega) (by omega) (by omega)).trans ?_⟩
      rw [show n / 64 % 32 * 64 + n % 64 = n by omega, whole]
      rfl
    · rw [if_neg two]
      by_cases three : n ≤ 65535
      · rw [if_pos three]
        refine ⟨_, _, rfl, (step_of_three (by omega) (by omega) (by omega) (by omega)
          (by omega)).trans ?_⟩
        rw [show (n / 4096 % 16 * 64 + n / 64 % 64) * 64 + n % 64 = n by omega, whole]
        rfl
      · rw [if_neg three]
        refine ⟨_, _, rfl, (step_of_four (by omega) (by omega) (by omega) (by omega) (by omega)
          (by omega)).trans ?_⟩
        rw [show ((n / 262144 % 8 * 64 + n / 4096 % 64) * 64 + n / 64 % 64) * 64 + n % 64 = n by
          omega, whole]
        rfl

/-- The bytes of a text are read as the text. -/
@[simp] theorem decodeLossy_encode (cs : List Char) : decodeLossy (encode cs) = cs := by
  induction cs with
  | nil => simp [decodeLossy]
  | cons c cs ih =>
    obtain ⟨b, bs, bytes, found⟩ := step_encodeChar c (encode cs)
    have first : encode (c :: cs) = b :: (bs ++ encode cs) := by
      rw [encode, List.flatMap_cons, bytes, List.cons_append]
      rfl
    rw [first, decodeLossy]
    split
    · next d rest h =>
      obtain ⟨rfl, rfl⟩ := Step.character.inj (h.symm.trans found)
      rw [ih]
    · next rest h => cases h.symm.trans found

end HostConsole.Utf8
