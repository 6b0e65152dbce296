/-
  ListenerReview/Digest.lean
  ==========================
  **Digests of bytes** — a number of 64 bits in which every byte has a part: SipHash
  with one round for each word, three rounds at the end, and the key zero.

  The bytes are read as words of eight, the low byte first.  The last word holds
  what is left, fewer than eight bytes, under the number of all bytes, so texts of
  different lengths end differently.
-/

namespace ListenerReview

/-- The four words that a digest works on. -/
structure Digest where
  a : UInt64
  b : UInt64
  c : UInt64
  d : UInt64
deriving DecidableEq, Repr

namespace Digest

/-- The words before the first byte. -/
def start : Digest :=
  ⟨0x736F6D6570736575, 0x646F72616E646F6D, 0x6C7967656E657261, 0x7465646279746573⟩

/-- A word turned to the left. -/
def turn (word : UInt64) (bits : UInt64) : UInt64 :=
  (word <<< bits) ||| (word >>> (64 - bits))

/-- One round of mixing. -/
def round (s : Digest) : Digest :=
  let a := s.a + s.b
  let b := turn s.b 13 ^^^ a
  let c := s.c + s.d
  let d := turn s.d 16 ^^^ c
  let e := turn a 32 + d
  let f := c + b
  ⟨e, turn b 17 ^^^ f, turn f 32, turn d 21 ^^^ e⟩

/-- The state after one more word. -/
def absorb (s : Digest) (word : UInt64) : Digest :=
  let mixed := round { s with d := s.d ^^^ word }
  { mixed with a := mixed.a ^^^ word }

/-- The word of at most eight bytes, the low one first. -/
def word (bytes : List UInt8) : UInt64 :=
  bytes.foldr (fun byte word => (word <<< 8) ||| byte.toUInt64) 0

/-- The state after all bytes of a text that has `size` of them. -/
def absorbAll (size : Nat) (s : Digest) : List UInt8 → Digest
  | b₀ :: b₁ :: b₂ :: b₃ :: b₄ :: b₅ :: b₆ :: b₇ :: rest =>
    absorbAll size (s.absorb (word [b₀, b₁, b₂, b₃, b₄, b₅, b₆, b₇])) rest
  | rest => s.absorb (word rest ||| (size.toUInt64 <<< 56))

/-- The number that a state stands for. -/
def value (s : Digest) : UInt64 :=
  let s := round (round (round { s with c := s.c ^^^ 0xFF }))
  s.a ^^^ s.b ^^^ s.c ^^^ s.d

/-- The digest of bytes. -/
def ofBytes (bytes : List UInt8) : UInt64 := (absorbAll bytes.length start bytes).value

end Digest

end ListenerReview
