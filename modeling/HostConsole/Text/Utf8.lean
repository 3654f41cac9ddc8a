/-!
# UTF-8

Bytes are read as text either strictly, where one bad byte refuses all, or leniently, where each
maximal bad part becomes the replacement character.

## Main definitions

* `Step`, `step`: what stands at the beginning of some bytes, a character or a bad part
* `decode?`, `decodeLossy`: the strict and the lenient reading
* `encode`: the bytes of a text
-/

namespace HostConsole.Utf8

/-- What stands at the beginning of some bytes. -/
inductive Step where
  /-- The bytes begin with a whole character, and so much follows it. -/
  | character (c : Char) (rest : List UInt8)
  /-- The bytes begin with a part that is no character. -/
  | bad (rest : List UInt8)

/-- Is the byte one that continues a character? -/
def isContinuation (b : UInt8) : Bool :=
  0x80 ≤ b && b ≤ 0xBF

/-- The six payload bits of a continuation byte. -/
def payload (b : UInt8) : Nat :=
  b.toNat % 64

/-- How a character that takes more than one byte begins: the payload of its first byte, the
least and the largest second byte, and how many bytes follow the second. -/
def leading? (b : UInt8) : Option (Nat × UInt8 × UInt8 × Nat) :=
  if 0xC2 ≤ b && b ≤ 0xDF then some (b.toNat % 32, 0x80, 0xBF, 0)
  else if b = 0xE0 then some (b.toNat % 16, 0xA0, 0xBF, 1)
  else if b = 0xED then some (b.toNat % 16, 0x80, 0x9F, 1)
  else if 0xE1 ≤ b && b ≤ 0xEF then some (b.toNat % 16, 0x80, 0xBF, 1)
  else if b = 0xF0 then some (b.toNat % 8, 0x90, 0xBF, 2)
  else if 0xF1 ≤ b && b ≤ 0xF3 then some (b.toNat % 8, 0x80, 0xBF, 2)
  else if b = 0xF4 then some (b.toNat % 8, 0x80, 0x8F, 2)
  else none

/-- Reads the last `count` bytes of a character whose earlier bytes carry `code`. -/
def finish : Nat → Nat → List UInt8 → Step
  | 0, code, rest => .character (Char.ofNat code) rest
  | _ + 1, _, [] => .bad []
  | count + 1, code, b :: rest =>
    if isContinuation b then finish count (code * 64 + payload b) rest
    else .bad (b :: rest)

/-- What stands at the beginning of the bytes `b :: bs`. A bad part is as long as it can be
while it still begins some character, and one byte when its first byte begins none. -/
def step (b : UInt8) (bs : List UInt8) : Step :=
  if b < 0x80 then .character (Char.ofNat b.toNat) bs
  else match leading? b with
    | none => .bad bs
    | some (high, least, largest, more) =>
      match bs with
      | [] => .bad []
      | second :: rest =>
        if least ≤ second && second ≤ largest then finish more (high * 64 + payload second) rest
        else .bad bs

/-- The bytes after the first character or bad part. -/
def Step.rest : Step → List UInt8
  | .character _ rest | .bad rest => rest

theorem finish_rest_length_le (count code : Nat) (bs : List UInt8) :
    (finish count code bs).rest.length ≤ bs.length := by
  induction count generalizing code bs with
  | zero => simp [finish, Step.rest]
  | succ count ih =>
    cases bs with
    | nil => simp [finish, Step.rest]
    | cons b bs =>
      simp only [finish]
      split
      · exact Nat.le_trans (ih _ bs) (by simp)
      · simp [Step.rest]

/-- Each step uses up its first byte at least. -/
theorem step_rest_length_le (b : UInt8) (bs : List UInt8) :
    (step b bs).rest.length ≤ bs.length := by
  unfold step
  split
  · exact Nat.le_refl _
  · split
    · exact Nat.le_refl _
    · split
      · exact Nat.le_refl _
      · split
        · exact Nat.le_trans (finish_rest_length_le ..) (by simp)
        · exact Nat.le_refl _

/-- The text of the bytes, or `none` when a part of them is no character. -/
def decode? : List UInt8 → Option (List Char)
  | [] => some []
  | b :: bs =>
    match h : step b bs with
    | .character c rest =>
      have : rest.length ≤ bs.length := by simpa [h, Step.rest] using step_rest_length_le b bs
      (decode? rest).map (c :: ·)
    | .bad _ => none
termination_by bs => bs.length
decreasing_by simp; omega

/-- The text of the bytes, each bad part replaced by U+FFFD. -/
def decodeLossy : List UInt8 → List Char
  | [] => []
  | b :: bs =>
    match h : step b bs with
    | .character c rest =>
      have : rest.length ≤ bs.length := by simpa [h, Step.rest] using step_rest_length_le b bs
      c :: decodeLossy rest
    | .bad rest =>
      have : rest.length ≤ bs.length := by simpa [h, Step.rest] using step_rest_length_le b bs
      '\uFFFD' :: decodeLossy rest
termination_by bs => bs.length
decreasing_by all_goals (simp; omega)

/-- The bytes of a text. -/
def encode (cs : List Char) : List UInt8 :=
  cs.flatMap String.utf8EncodeChar

@[simp] theorem decode?_nil : decode? [] = some [] := by simp [decode?]

@[simp] theorem encode_nil : encode [] = [] := rfl

/-- The text of the bytes, each bad part replaced by U+FFFD. -/
def textLossy (bytes : List UInt8) : String :=
  .ofList (decodeLossy bytes)

/-- The text of the bytes, or `none` when a part of them is no character. -/
def text? (bytes : List UInt8) : Option String :=
  (decode? bytes).map String.ofList

/-- The bytes of a text. -/
def bytes (s : String) : List UInt8 :=
  encode s.toList

end HostConsole.Utf8
