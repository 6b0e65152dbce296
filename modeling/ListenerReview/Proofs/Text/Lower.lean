/-
  ListenerReview/Proofs/Text/Lower.lean
  =====================================
  **Lower-casing twice** — a lower-case form is its own lower-case form.

  In a lower-case form no character is a capital of the table: the small letters of
  a block never lie in a block again (`apart_caseBlocks`, one comparison for each two
  blocks), a dotted capital I becomes two characters that are small already, and a
  capital sigma becomes one of the two small ones.  So a second pass has nothing to do,
  and the final sigma is never decided again (`lowerString_lowerString`).
-/
import ListenerReview.Text.Case
import ListenerReview.Proofs.Text.Units

namespace ListenerReview.Text

/-! ### Small letters are no capitals -/

/-- Whether no small letter of a block is a letter of the other one: the two lie apart, or the one
    has the even code points of a range and the other the odd ones. -/
def CaseBlock.apart (b other : CaseBlock) : Bool :=
  Nat.blt (b.target + (b.last - b.first)) other.first || Nat.blt other.last b.target ||
    ((Nat.beq (b.step % 2) 0 || Nat.beq b.first b.last) && Nat.beq (other.step % 2) 0 &&
      !Nat.beq (b.target % 2) (other.first % 2))

/-- The capital dotted I, as a block of its own. -/
def dottedCapital : CaseBlock := ⟨0x130, 0x130, 1, 0x69⟩

theorem apart_caseBlocks :
    (caseBlocks.all fun b => (dottedCapital :: caseBlocks).all fun other => b.apart other) = true := by
  decide +kernel

theorem CaseBlock.contains_iff (b : CaseBlock) (n : Nat) :
    b.contains n = true ↔ b.first ≤ n ∧ n ≤ b.last ∧ (n - b.first) % b.step = 0 := by
  simp [CaseBlock.contains, and_assoc]

/-- A block with an even step has the letters of one parity. -/
theorem CaseBlock.parity {b : CaseBlock} {n : Nat} (h : b.contains n = true)
    (hstep : b.step % 2 = 0) : n % 2 = b.first % 2 := by
  obtain ⟨hfirst, -, hmultiple⟩ := (b.contains_iff n).mp h
  have heven : 2 ∣ n - b.first :=
    Nat.dvd_trans (Nat.dvd_of_mod_eq_zero hstep) (Nat.dvd_of_mod_eq_zero hmultiple)
  omega

theorem CaseBlock.not_contains_of_apart {b other : CaseBlock} {n : Nat}
    (happart : b.apart other = true) (h : b.contains n = true) :
    other.contains (b.target + (n - b.first)) = false := by
  obtain ⟨hfirst, hlast, -⟩ := (b.contains_iff n).mp h
  cases hother : other.contains (b.target + (n - b.first)) with
  | false => rfl
  | true =>
    obtain ⟨hfirst', hlast', -⟩ := (other.contains_iff _).mp hother
    simp only [CaseBlock.apart, Bool.or_eq_true, Bool.and_eq_true, Nat.blt_eq, Nat.beq_eq,
      Bool.not_eq_true'] at happart
    rcases happart with (hbelow | habove) | ⟨⟨hsteps, hstep'⟩, hparity⟩
    · omega
    · omega
    · have hne : b.target % 2 ≠ other.first % 2 := Nat.ne_of_beq_eq_false hparity
      have hparity' : (b.target + (n - b.first)) % 2 = other.first % 2 := other.parity hother hstep'
      rcases hsteps with hstep | hsingle
      · have hparity'' : n % 2 = b.first % 2 := b.parity h hstep
        omega
      · omega

/-- What lower-casing changes is no capital afterwards. -/
theorem lowerCode_eq_self_of_contains {other : CaseBlock} {n : Nat}
    (hother : other ∈ dottedCapital :: caseBlocks) (h : other.contains (lowerCode n) = true) :
    lowerCode n = n := by
  rw [lowerCode] at h ⊢
  cases hfind : caseBlocks.find? (fun b => b.contains n) with
  | none => rfl
  | some b =>
    have hb : b.contains n = true := by simpa using List.find?_some hfind
    have happart : b.apart other = true :=
      List.all_eq_true.mp
        (List.all_eq_true.mp apart_caseBlocks b (List.mem_of_find?_eq_some hfind)) other hother
    rw [hfind] at h
    have hnot := CaseBlock.not_contains_of_apart happart hb
    exact absurd (h.symm.trans hnot) (by decide)

theorem lowerCode_lowerCode (n : Nat) : lowerCode (lowerCode n) = lowerCode n := by
  cases hfind : caseBlocks.find? (fun b => b.contains (lowerCode n)) with
  | none => rw [lowerCode.eq_def (lowerCode n), hfind]
  | some other =>
    have hcontains : other.contains (lowerCode n) = true := by simpa using List.find?_some hfind
    have hself : lowerCode n = n :=
      lowerCode_eq_self_of_contains
        (List.mem_cons_of_mem _ (List.mem_of_find?_eq_some hfind)) hcontains
    rw [hself, hself]

/-! ### Lower-case forms -/

/-- A character that lower-casing leaves as it is, wherever it stands. -/
def IsLower (c : Char) : Prop := lowerChar c = [c] ∧ c ≠ 'Σ'

theorem isLower_of_lowerCode {c : Char} (h : lowerCode c.toNat = c.toNat) (hdotted : c ≠ 'İ') :
    IsLower c := by
  constructor
  · rw [lowerChar, if_neg hdotted, h, Char.ofNat_toNat]
  · rintro rfl
    exact absurd h (by decide)

theorem isLower_ofNat_lowerCode {c : Char} (h : c ≠ 'İ') :
    IsLower (Char.ofNat (lowerCode c.toNat)) := by
  by_cases hvalid : (lowerCode c.toNat).isValidChar
  · have hcode : (Char.ofNat (lowerCode c.toNat)).toNat = lowerCode c.toNat := toNat_ofNat hvalid
    apply isLower_of_lowerCode
    · rw [hcode, lowerCode_lowerCode]
    · intro hdotted
      rw [hdotted] at hcode
      have hcapital : dottedCapital.contains (lowerCode c.toNat) = true := by
        rw [← hcode]
        decide
      have hself : lowerCode c.toNat = c.toNat :=
        lowerCode_eq_self_of_contains List.mem_cons_self hcapital
      apply h
      rw [← Char.ofNat_toNat c, ← hself, ← hcode]
      decide
  · have hzero : Char.ofNat (lowerCode c.toNat) = '\x00' := by
      rw [Char.ofNat, dif_neg hvalid]
      rfl
    rw [hzero]
    exact isLower_of_lowerCode (by decide) (by decide)

theorem isLower_lowerChar (c : Char) : ∀ d ∈ lowerChar c, IsLower d := by
  intro d hd
  by_cases hdotted : c = 'İ'
  · rw [lowerChar, if_pos hdotted] at hd
    rcases List.mem_cons.mp hd with rfl | hd
    · exact isLower_of_lowerCode (by decide) (by decide)
    · rw [List.mem_singleton.mp hd]
      exact isLower_of_lowerCode (by decide) (by decide)
  · rw [lowerChar, if_neg hdotted] at hd
    rw [List.mem_singleton.mp hd]
    exact isLower_ofNat_lowerCode hdotted

theorem isLower_lowerAfter (before s : List Char) : ∀ d ∈ lowerAfter before s, IsLower d := by
  induction s generalizing before with
  | nil => simp [lowerAfter]
  | cons c after ih =>
    intro d hd
    rw [lowerAfter_cons] at hd
    rcases List.mem_append.mp hd with hd | hd
    · by_cases hsigma : c = 'Σ'
      · rw [if_pos hsigma, List.mem_singleton] at hd
        subst hd
        split
        · exact isLower_of_lowerCode (by decide) (by decide)
        · exact isLower_of_lowerCode (by decide) (by decide)
      · rw [if_neg hsigma] at hd
        exact isLower_lowerChar c d hd
    · exact ih (c :: before) d hd

theorem lowerAfter_eq_self (before : List Char) {s : List Char} (h : ∀ c ∈ s, IsLower c) :
    lowerAfter before s = s := by
  induction s generalizing before with
  | nil => rfl
  | cons c s ih =>
    have hc : IsLower c := h c List.mem_cons_self
    rw [lowerAfter_cons, if_neg hc.2, hc.1, ih _ fun d hd => h d (List.mem_cons_of_mem c hd)]
    rfl

/-- **A lower-case form is its own.** -/
theorem lowerString_lowerString (s : String) : lowerString (lowerString s) = lowerString s := by
  rw [lowerString, lowerString, String.toList_ofList, lower, lower,
    lowerAfter_eq_self [] (isLower_lowerAfter [] s.toList)]

example : lowerString "ὈΔΥΣΣΕΎΣ İ" = "ὀδυσσεύς i̇" := by decide +kernel

end ListenerReview.Text
