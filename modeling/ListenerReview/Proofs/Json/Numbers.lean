/-
  ListenerReview/Proofs/Json/Numbers.lean
  =======================================
  **Natural numbers in JSON, written and read** — a number of at most 64 bits is read
  back from its decimal digits.

  The reader gathers digits as long as the number fits into 64 bits, so none is left
  over (`gather_digits`).  A number other than zero starts with no zero, which would
  stand alone, and what follows the number is neither a digit nor the point or letter
  of a fraction or an exponent (`Ends.not_number`).
-/
import ListenerReview.Proofs.Json.Written

namespace ListenerReview.Json

/-! ### Digits -/

theorem toNat_byte {c : Char} (h : c.toNat < 0x100) : (byte c).toNat = c.toNat := by
  rw [byte, Nat.toUInt8_eq, UInt8.toNat_ofNat']
  exact Nat.mod_eq_of_lt h

theorem toNat_of_isDigit {c : Char} (h : c.isDigit = true) : 48 ≤ c.toNat ∧ c.toNat ≤ 57 := by
  simpa [Char.isDigit, UInt32.le_iff_toNat_le] using h

theorem digit?_byte {c : Char} (h : c.isDigit = true) :
    digit? (byte c) = some (c.toNat - '0'.toNat) := by
  obtain ⟨hlow, hhigh⟩ := toNat_of_isDigit h
  have hbyte : (byte c).toNat = c.toNat := toNat_byte (by omega)
  have hrange : byte '0' ≤ byte c ∧ byte c ≤ byte '9' := by
    rw [UInt8.le_iff_toNat_le, UInt8.le_iff_toNat_le, hbyte]
    exact ⟨hlow, hhigh⟩
  rw [digit?, if_pos hrange, hbyte]

theorem utf8_digits {digits : List Char} (h : ∀ c ∈ digits, c.isDigit = true) :
    utf8 digits = digits.map byte := by
  induction digits with
  | nil => rfl
  | cons c digits ih =>
    have hc := toNat_of_isDigit (h c List.mem_cons_self)
    rw [utf8_ascii (by omega), ih fun d hd => h d (List.mem_cons_of_mem c hd)]
    rfl

theorem le_ofDigitChars (digits : List Char) (init : Nat) :
    init ≤ Nat.ofDigitChars 10 digits init := by
  rw [Nat.ofDigitChars_eq_ofDigitChars_zero]
  have hpow : 0 < 10 ^ digits.length := Nat.pow_pos (by decide)
  calc init ≤ 10 ^ digits.length * init := Nat.le_mul_of_pos_left init hpow
    _ ≤ 10 ^ digits.length * init + Nat.ofDigitChars 10 digits 0 := Nat.le_add_right _ _

/-- Digits are gathered into the number that they denote, if it fits. -/
theorem gather_digits {digits : List Char} (hdigits : ∀ c ∈ digits, c.isDigit = true)
    {significand : Nat} (hfits : Nat.ofDigitChars 10 digits significand ≤ significandLimit)
    (count : Nat) {rest : Input} (hrest : ∀ b, rest.head? = some b → isDigit b = false) :
    gather significand count (digits.map byte ++ rest) =
      (Nat.ofDigitChars 10 digits significand, count + digits.length, rest) := by
  induction digits generalizing significand count with
  | nil =>
    cases rest with
    | nil => rfl
    | cons b rest =>
      have hb : digit? b = none := by simpa [isDigit] using hrest b rfl
      simp [gather, hb]
  | cons c digits ih =>
    have hc : c.isDigit = true := hdigits c List.mem_cons_self
    rw [Nat.ofDigitChars_cons, Nat.mul_comm] at hfits
    have hnext : significand * 10 + (c.toNat - '0'.toNat) ≤ significandLimit :=
      Nat.le_trans (le_ofDigitChars digits _) hfits
    rw [List.map_cons, List.cons_append, gather, digit?_byte hc]
    simp only [if_pos hnext]
    rw [ih (fun d hd => hdigits d (List.mem_cons_of_mem c hd)) hfits, Nat.ofDigitChars_cons,
      Nat.mul_comm, List.length_cons, Nat.add_assoc, Nat.add_comm 1]

/-- The digits of a number other than zero start with no zero. -/
theorem head?_toDigits_ne {n : Nat} (h : 0 < n) : (Nat.toDigits 10 n).head? ≠ some '0' := by
  induction n using Nat.strongRecOn with
  | ind n ih =>
    have hone : ∀ d < 10, 0 < d → [Nat.digitChar d].head? ≠ some '0' := by decide
    by_cases hsmall : n < 10
    · rw [Nat.toDigits_of_lt_base hsmall]
      exact hone n hsmall h
    · have hfirst := ih (n / 10) (by omega) (by omega)
      obtain ⟨c, digits, hdigits⟩ :=
        List.exists_cons_of_ne_nil (Nat.toDigits_ne_nil (n := n / 10) (b := 10))
      rw [hdigits] at hfirst
      rw [Nat.toDigits_of_base_le (by decide) (by omega), hdigits]
      exact hfirst

/-! ### Numbers -/

/-- What may follow a value is no part of a number. -/
theorem Ends.not_number {rest : Input} (h : Ends rest) {b : UInt8} (hb : rest.head? = some b) :
    isDigit b = false ∧ b ≠ byte '.' ∧ b ≠ byte 'e' ∧ b ≠ byte 'E' := by
  rcases h b hb with hspace | rfl | rfl | rfl
  · simp only [isSpace, Bool.or_eq_true, decide_eq_true_eq] at hspace
    rcases hspace with ((rfl | rfl) | rfl) | rfl <;> decide
  · decide
  · decide
  · decide

theorem readTail_ends {rest : Input} (h : Ends rest) (n : Nat) :
    readTail false n rest = .ok (.natural n, rest) := by
  cases rest with
  | nil => rfl
  | cons b rest =>
    obtain ⟨-, hpoint, he, hE⟩ := h.not_number rfl
    simp [readTail, hpoint, he, hE, whole]

/-- A number is read back from its digits. -/
theorem readNumber_toDigits {n : Nat} (hfits : n ≤ significandLimit) {rest : Input}
    (h : Ends rest) :
    readNumber false ((Nat.toDigits 10 n).map byte ++ rest) = .ok (.natural n, rest) := by
  have hnext {b : UInt8} {more : Input} (hrest : rest = b :: more) : isDigit b = false :=
    (h.not_number (by rw [hrest]; rfl)).1
  rcases Nat.eq_zero_or_pos n with rfl | hpos
  · rw [Nat.toDigits_zero, List.map_singleton, List.singleton_append]
    cases rest with
    | nil => rfl
    | cons b more =>
      rw [readNumber.eq_def]
      simp only [hnext rfl, Bool.false_eq_true, ↓reduceIte]
      exact readTail_ends h 0
  · have hdigits : ∀ c ∈ Nat.toDigits 10 n, c.isDigit = true := fun c hc =>
      Nat.isDigit_of_mem_toDigits (by decide) (by decide) hc
    have hvalue : Nat.ofDigitChars 10 (Nat.toDigits 10 n) 0 = n := Nat.ofDigitChars_ten_toDigits
    have hgather : gather 0 0 ((Nat.toDigits 10 n).map byte ++ rest) =
        (n, 0 + (Nat.toDigits 10 n).length, rest) := by
      rw [gather_digits hdigits (by rw [hvalue]; exact hfits) 0 fun b hb => (h.not_number hb).1,
        hvalue]
    obtain ⟨c, digits, hcons⟩ :=
      List.exists_cons_of_ne_nil (Nat.toDigits_ne_nil (n := n) (b := 10))
    have hzero := head?_toDigits_ne hpos
    rw [hcons] at hdigits hgather hzero ⊢
    have hc : c.isDigit = true := hdigits c List.mem_cons_self
    have hbyte : byte c ≠ byte '0' := by
      intro heq
      have htoNat := congrArg UInt8.toNat heq
      have hrange := toNat_of_isDigit hc
      rw [toNat_byte (by omega), toNat_byte (by decide)] at htoNat
      exact hzero (congrArg some (Char.toNat_inj.mp htoNat))
    have hdigit : isDigit (byte c) = true := by rw [isDigit, digit?_byte hc]; rfl
    rw [List.map_cons, List.cons_append] at hgather ⊢
    rw [readNumber.eq_def]
    simp only [hbyte, hdigit, hgather, ↓reduceIte]
    cases rest with
    | nil => rfl
    | cons b more =>
      simp only [hnext rfl, Bool.false_eq_true, ↓reduceIte]
      exact readTail_ends h n

/-! ### Written numbers -/

theorem toList_ofNat (n : Nat) : (toString n).toList = Nat.toDigits 10 n := Nat.toList_repr

theorem utf8_ofNat (style : Style) (depth n : Nat) :
    utf8 ((ofNat n).text style depth) = (Nat.toDigits 10 n).map byte := by
  rw [ofNat, text, toList_ofNat]
  exact utf8_digits fun c hc => Nat.isDigit_of_mem_toDigits (by decide) (by decide) hc

theorem starts_number (n : Nat) : ∃ b more, (Nat.toDigits 10 n).map byte = b :: more ∧
    isDigit b = true := by
  obtain ⟨c, digits, hcons⟩ :=
    List.exists_cons_of_ne_nil (Nat.toDigits_ne_nil (n := n) (b := 10))
  have hc : c.isDigit = true :=
    Nat.isDigit_of_mem_toDigits (b := 10) (n := n) (by decide) (by decide) (by rw [hcons]; simp)
  refine ⟨byte c, digits.map byte, by rw [hcons]; rfl, ?_⟩
  rw [isDigit, digit?_byte hc]
  rfl

theorem ne_of_isDigit {b d : UInt8} (hb : isDigit b = true) (hd : isDigit d = false) : b ≠ d := by
  rintro rfl
  rw [hb] at hd
  cases hd

theorem isSpace_of_isDigit {b : UInt8} (h : isDigit b = true) : isSpace b = false := by
  have hne (d : UInt8) (hd : isDigit d = false) : b ≠ d := ne_of_isDigit h hd
  simp [isSpace, hne 0x20 (by decide), hne 0x09 (by decide), hne 0x0A (by decide),
    hne 0x0D (by decide)]

/-- **A written number is read as a natural number of enough bits.** -/
theorem reads_natural {bits n : Nat} (hbits : n < Nat.pow 2 bits) (hfits : n ≤ significandLimit)
    (style : Style) (depth : Nat) :
    Reads (readNatural bits) (utf8 ((ofNat n).text style depth)) n := by
  intro rest hrest
  obtain ⟨d, more, hmore, hdigit⟩ := starts_number n
  have hread := readNumber_toDigits hfits hrest
  rw [utf8_ofNat]
  rw [hmore, List.cons_append] at hread ⊢
  rw [readNatural, skipSpace_cons (isSpace_of_isDigit hdigit)]
  simp only [ne_of_isDigit hdigit (show isDigit (byte '-') = false by decide), hdigit, hread,
    hbits, ↓reduceIte]

end ListenerReview.Json
