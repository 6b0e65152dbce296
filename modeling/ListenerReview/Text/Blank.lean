/-
  ListenerReview/Text/Blank.lean
  ==============================
  **Blank characters and trimming** — the characters with the Unicode property
  `White_Space`, and the removal of blank ends from a text.

  Texts are handled as lists of characters.  `trimStart_eq_nil_iff` and
  `trimEnd_eq_nil_iff` say that trimming leaves nothing of a text exactly when all
  of it is blank, and `isBlank_head_trimStart` that what is left starts with a
  character that is not.
-/

namespace ListenerReview.Text

/-! ### The blank characters -/

/-- Ranges of code points with the property `White_Space`, first and last included. -/
def blankRanges : List (Nat × Nat) :=
  [(0x9, 0xD), (0x20, 0x20), (0x85, 0x85), (0xA0, 0xA0), (0x1680, 0x1680), (0x2000, 0x200A),
   (0x2028, 0x2029), (0x202F, 0x202F), (0x205F, 0x205F), (0x3000, 0x3000)]

/-- Whether a code point lies in one of the given ranges. -/
def inRanges (ranges : List (Nat × Nat)) (n : Nat) : Bool :=
  ranges.any fun r => r.1 ≤ n && n ≤ r.2

def isBlank (c : Char) : Bool := inRanges blankRanges c.toNat

def allBlank (s : List Char) : Bool := s.all isBlank

theorem allBlank_cons (c : Char) (s : List Char) : allBlank (c :: s) = (isBlank c && allBlank s) :=
  rfl

theorem allBlank_append (s t : List Char) : allBlank (s ++ t) = (allBlank s && allBlank t) :=
  List.all_append

theorem allBlank_reverse (s : List Char) : allBlank s.reverse = allBlank s :=
  List.all_reverse

/-! ### Trimming -/

def trimStart (s : List Char) : List Char := s.dropWhile isBlank

def trimEnd (s : List Char) : List Char := (s.reverse.dropWhile isBlank).reverse

def trim (s : List Char) : List Char := trimEnd (trimStart s)

theorem trimStart_cons (c : Char) (s : List Char) :
    trimStart (c :: s) = if isBlank c then trimStart s else c :: s := by
  cases h : isBlank c <;> simp [trimStart, h]

theorem trimEnd_append_singleton (s : List Char) (c : Char) :
    trimEnd (s ++ [c]) = if isBlank c then trimEnd s else s ++ [c] := by
  cases h : isBlank c <;> simp [trimEnd, h]

/-- Nothing is left of a text exactly when it is blank. -/
theorem trimStart_eq_nil_iff (s : List Char) : trimStart s = [] ↔ allBlank s = true := by
  induction s with
  | nil => simp [trimStart, allBlank]
  | cons c s ih => cases h : isBlank c <;> simp_all [trimStart_cons, allBlank]

theorem trimEnd_eq_nil_iff (s : List Char) : trimEnd s = [] ↔ allBlank s = true := by
  rw [trimEnd, List.reverse_eq_nil_iff]
  have h := trimStart_eq_nil_iff s.reverse
  rwa [allBlank_reverse] at h

theorem trimStart_append (s t : List Char) :
    trimStart (s ++ t) = if allBlank s then trimStart t else trimStart s ++ t := by
  induction s with
  | nil => simp [allBlank]
  | cons c s ih =>
    rw [List.cons_append, trimStart_cons, trimStart_cons, ih]
    cases h : isBlank c <;> simp [allBlank, h]

/-- Blanks at the end of a text are not seen when its end is trimmed. -/
theorem trimEnd_append_of_blank (s : List Char) {t : List Char} (h : allBlank t = true) :
    trimEnd (s ++ t) = trimEnd s := by
  have hstart := trimStart_append t.reverse s.reverse
  rw [allBlank_reverse, if_pos h] at hstart
  rw [trimEnd, trimEnd, List.reverse_append]
  exact congrArg List.reverse hstart

theorem trim_append_of_blank (s : List Char) {t : List Char} (h : allBlank t = true) :
    trim (s ++ t) = trim s := by
  rw [trim, trim, trimStart_append]
  split
  · next hs => rw [(trimStart_eq_nil_iff s).mpr hs, (trimStart_eq_nil_iff t).mpr h]
  · exact trimEnd_append_of_blank (trimStart s) h

theorem trim_blank_append {s : List Char} (h : allBlank s = true) (t : List Char) :
    trim (s ++ t) = trim t := by
  rw [trim, trimStart_append, if_pos h, ← trim]

/-- A last character that is not blank is kept. -/
theorem trim_concat (s : List Char) {c : Char} (h : isBlank c = false) :
    trim (s ++ [c]) = trimStart s ++ [c] := by
  have hstart : trimStart (s ++ [c]) = trimStart s ++ [c] := by
    rw [trimStart_append]
    split
    · next hs => rw [(trimStart_eq_nil_iff s).mpr hs, trimStart_cons, h]; rfl
    · rfl
  rw [trim, hstart, trimEnd_append_singleton, h]
  rfl

/-- The first character left by trimming the start is not blank. -/
theorem isBlank_head_trimStart {s rest : List Char} {c : Char} (h : trimStart s = c :: rest) :
    isBlank c = false := by
  induction s with
  | nil => simp [trimStart] at h
  | cons d s ih =>
    rw [trimStart_cons] at h
    split at h
    · exact ih h
    · next hd => cases h; simpa using hd

theorem trim_eq_nil_iff (s : List Char) : trim s = [] ↔ allBlank s = true := by
  rw [trim, trimEnd_eq_nil_iff]
  constructor
  · intro h
    rcases hs : trimStart s with _ | ⟨c, rest⟩
    · exact (trimStart_eq_nil_iff s).mp hs
    · rw [hs] at h
      simp [allBlank, isBlank_head_trimStart hs] at h
  · intro h
    rw [(trimStart_eq_nil_iff s).mpr h]
    rfl

/-- A text is its trimmed form between two blank ends. -/
theorem exists_blank_ends (s : List Char) :
    ∃ before after, allBlank before = true ∧ allBlank after = true ∧
      s = before ++ trim s ++ after := by
  have hstart : s.takeWhile isBlank ++ trimStart s = s := List.takeWhile_append_dropWhile
  have hend := List.takeWhile_append_dropWhile (p := isBlank) (l := (trimStart s).reverse)
  have hblank (t : List Char) : allBlank (t.takeWhile isBlank) = true := List.all_takeWhile
  refine ⟨s.takeWhile isBlank, ((trimStart s).reverse.takeWhile isBlank).reverse, hblank s, ?_, ?_⟩
  · rw [allBlank_reverse]
    exact hblank _
  · rw [List.append_assoc, trim, trimEnd, ← List.reverse_append, hend, List.reverse_reverse, hstart]

/-- A text without blank ends is left as it is. -/
theorem trim_trim (s : List Char) : trim (trim s) = trim s := by
  obtain ⟨before, after, hbefore, hafter, hs⟩ := exists_blank_ends s
  have houter : trim (before ++ trim s ++ after) = trim (trim s) := by
    rw [trim_append_of_blank _ hafter, trim_blank_append hbefore]
  rw [← houter, ← hs]

theorem allBlank_trim (s : List Char) : allBlank (trim s) = allBlank s := by
  obtain ⟨before, after, hbefore, hafter, hs⟩ := exists_blank_ends s
  have hall : allBlank s = allBlank (before ++ trim s ++ after) := congrArg allBlank hs
  rw [hall, allBlank_append, allBlank_append, hbefore, hafter, Bool.true_and, Bool.and_true]

end ListenerReview.Text
