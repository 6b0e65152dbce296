/-
  ListenerReview/Proofs/Layout/Physical.lean
  ==========================================
  **The layout that a source comes with does not matter** — as long as no line break
  stands in a quotation, a source may be replaced by its lines, trimmed and without
  the blank ones, with line feeds between them (`tidied`).

  A semicolon and a closing brace look at the next character, and after trimming that
  may be another one: where a line ended at a blank it now ends at a line break, or the
  source ends there.  It is the same line all the same.  So what a text contributes is
  said for everything that may come after it at the end of a line (`Closing`): some
  lines, and the level from which the rest goes on (`exists_scan_append`).

  Main statement: `reformatString_tidied`.
-/
import ListenerReview.Proofs.Layout.Relayout

namespace ListenerReview.Layout

/-! ### Physical lines -/

/-- Every line break of a text stands outside its quotations. -/
def BreaksOutside (text : List Char) : Prop :=
  ∀ i (h : i < text.length), isBreak text[i] = true → quoteAfter none none (text.take i) = none

instance (text : List Char) : Decidable (BreaksOutside text) :=
  inferInstanceAs (Decidable (∀ i (h : i < text.length),
    isBreak text[i] = true → quoteAfter none none (text.take i) = none))

/-- The lines of a text as it stands, trimmed and without the blank ones. -/
def physicalLines (text : List Char) : List (List Char) :=
  ((text.splitOnP isBreak).map Text.trim).filter (!·.isEmpty)

/-- A text with its lines trimmed, without blank ones, and with line feeds between them. -/
def tidied (text : List Char) : List Char := ['\n'].intercalate (physicalLines text)

/-- A text without line breaks is one line. -/
theorem tidied_line {line : List Char} (h : ∀ c ∈ line, isBreak c = false) :
    tidied line = Text.trim line := by
  rw [tidied, physicalLines, List.splitOnP_eq_singleton h]
  cases htrim : Text.trim line <;> simp [htrim, List.intercalate]

theorem physicalLines_append {line : List Char} (h : ∀ c ∈ line, isBreak c = false) {c : Char}
    (hc : isBreak c = true) (rest : List Char) :
    physicalLines (line ++ c :: rest) =
      (if Text.trim line = [] then [] else [Text.trim line]) ++ physicalLines rest := by
  rw [physicalLines, List.splitOnP_append_cons_of_forall_mem h c hc, List.map_cons]
  cases htrim : Text.trim line <;> simp [physicalLines]

theorem allBlank_break {c : Char} (h : isBreak c = true) : Text.allBlank [c] = true := by
  rw [Text.allBlank_cons, isBlank_of_isBreak h]
  rfl

theorem BreaksOutside.closed {line rest : List Char} {c : Char}
    (h : BreaksOutside (line ++ c :: rest)) (hc : isBreak c = true) :
    quoteAfter none none line = none := by
  have hline := h line.length (by simp) (by simpa using hc)
  simpa using hline

theorem BreaksOutside.rest {line rest : List Char} {c : Char}
    (h : BreaksOutside (line ++ c :: rest)) (hc : isBreak c = true) : BreaksOutside rest := by
  intro i hi hbreak
  have hmore := h (line.length + (i + 1)) (by simp; omega)
    (by simpa [List.getElem_append_right] using hbreak)
  rw [List.take_length_add_append, List.take_succ_cons, quoteAfter_append, h.closed hc,
    quoteAfter, quoteStep, quotes_of_blank (isBlank_of_isBreak hc), if_neg (by decide)] at hmore
  have hsame : quoteAfter (some c) none (rest.take i) = quoteAfter none none (rest.take i) :=
    quoteAfter_alike (alike_none (getLast?_ne_of_blank (allBlank_break hc)) _) none
  rw [← hsame]
  exact hmore

/-! ### The end of a line -/

theorem lineIfAny_cons {c : Char} (h : Text.isBlank c = true) (level : Nat) (pending : List Char) :
    lineIfAny level (c :: pending) = lineIfAny level pending := by
  have hone : Text.allBlank [c] = true := by simp [Text.allBlank, h]
  rw [lineIfAny, lineIfAny, Text.allBlank_cons, h, Bool.true_and, line, line, List.reverse_cons,
    Text.trim_append_of_blank _ hone]

/-- What may come at the end of a line: it ends the line, if there is one, and goes on from the
    level of that line. -/
structure Closing (quote : Option Char) (tail : List Char) (lines : Nat → List Line) : Prop where
  head : tail.head? ≠ some '}'
  scan_eq : ∀ previous level pending,
    scan previous quote level pending tail = lineIfAny level pending ++ lines level

theorem closing_nil (quote : Option Char) : Closing quote [] fun _ => [] where
  head := by simp
  scan_eq previous level pending := by rw [scan_nil, List.append_nil]

theorem closing_break {c : Char} (h : isBreak c = true) (rest : List Char) :
    Closing none (c :: rest) fun level => scan none none level [] rest := by
  constructor
  · intro hc
    cases hc
    cases h
  · intro previous level pending
    have hrest : scan (some c) none level [] rest = scan none none level [] rest :=
      scan_alike (alike_none (getLast?_ne_of_blank (allBlank_break h)) rest) none level []
    rw [scan_break _ _ _ _ h]
    cases hblank : Text.allBlank pending with
    | true =>
      rw [if_pos rfl, lineIfAny, if_pos hblank, List.nil_append, ← hrest]
      exact scan_blank_start hblank (some c) none level [] rest
    | false =>
      rw [if_neg (by decide), lineIfAny_of_visible level hblank, hrest]
      rfl

/-- Blanks before the end of a line make no difference. -/
theorem Closing.blank {quote : Option Char} {tail blanks : List Char} {lines : Nat → List Line}
    (h : Closing quote tail lines) (hblanks : Text.allBlank blanks = true) :
    Closing quote (blanks ++ tail) lines := by
  induction blanks with
  | nil => exact h
  | cons c blanks ih =>
    obtain ⟨hc, hmore⟩ : Text.isBlank c = true ∧ Text.allBlank blanks = true := by
      rwa [Text.allBlank_cons, Bool.and_eq_true] at hblanks
    have hquote (previous : Option Char) : quotes previous c = false := quotes_of_blank hc previous
    constructor
    · intro hhead
      cases hhead
      exact absurd hc (by decide)
    · intro previous level pending
      rw [List.cons_append]
      cases quote with
      | some q =>
        rw [scan_quoted _ _ _ _ (hquote previous) rfl, (ih hmore).scan_eq, lineIfAny_cons hc]
      | none =>
        cases hbreak : isBreak c with
        | false =>
          rw [scan_plain _ _ _ _ (hquote previous) (ne_of_blank hc (by decide))
            (ne_of_blank hc (by decide)) (ne_of_blank hc (by decide)) hbreak, (ih hmore).scan_eq,
            lineIfAny_cons hc]
        | true =>
          rw [scan_break _ _ _ _ hbreak]
          cases hblank : Text.allBlank pending with
          | true => rw [if_pos rfl, (ih hmore).scan_eq]
          | false =>
            rw [if_neg (by decide), lineIfAny_of_visible level hblank, (ih hmore).scan_eq]
            rfl

/-- A line that may end before its end ends there all the same. -/
theorem Closing.line_ends {tail pending : List Char} {lines : Nat → List Line}
    (h : Closing none tail lines) (hvisible : Text.allBlank pending = false) (breaks : Bool)
    (previous : Option Char) (level : Nat) :
    (if breaks then line level pending :: scan previous none level [] tail
      else scan previous none level pending tail) = line level pending :: lines level := by
  rw [h.scan_eq, h.scan_eq, lineIfAny_of_visible level hvisible]
  cases breaks <;> rfl

/-! ### A text before the end of a line -/

/-- What comes next is part of the text, unless the text is empty. -/
theorem breaksBefore_append (stays : Char → Bool) {s : List Char} (h : s ≠ []) (tail : List Char) :
    breaksBefore stays (s ++ tail) = breaksBefore stays s := by
  obtain ⟨c, s, rfl⟩ := List.exists_cons_of_ne_nil h
  rfl

/-- What a scan yields before the end of a line: some lines, and a level from which what ends the
    line goes on. -/
def Gives (quote : Option Char) (scanned : List Char → List Line) : Prop :=
  ∃ before after, ∀ tail lines, Closing quote tail lines → scanned tail = before ++ lines after

theorem Gives.prepend {quote : Option Char} {scanned more : List Char → List Line}
    (h : Gives quote more) (front : List Line)
    (heq : ∀ tail lines, Closing quote tail lines → scanned tail = front ++ more tail) :
    Gives quote scanned := by
  obtain ⟨before, after, hmore⟩ := h
  refine ⟨front ++ before, after, ?_⟩
  intro tail lines hclosing
  rw [heq tail lines hclosing, hmore tail lines hclosing, List.append_assoc]

theorem gives_scan (previous quote : Option Char) (level : Nat) (pending s : List Char) :
    Gives (quoteAfter previous quote s) fun tail =>
      scan previous quote level pending (s ++ tail) := by
  fun_induction scan previous quote level pending s with
  | case1 previous quote level pending =>
    exact ⟨lineIfAny level pending, level, fun tail lines h => h.scan_eq previous level pending⟩
  | case2 previous quote level pending c rest hquote ih =>
    rw [quoteAfter, quoteStep, if_pos hquote]
    apply ih.prepend []
    intro tail _ _
    exact scan_quote _ _ _ _ hquote quote
  | case3 previous quote level pending c rest hquote hopen ih =>
    rw [quoteAfter, quoteStep, if_neg hquote]
    apply ih.prepend []
    intro tail _ _
    exact scan_quoted _ _ _ _ (by simpa using hquote) hopen
  | case4 previous quote level pending hopen rest hquote ih =>
    obtain rfl : quote = none := by simpa using hopen
    have hpair :
        quoteAfter previous none ('{' :: '}' :: rest) = quoteAfter (some '}') none rest := by
      simp [quoteAfter, quoteStep, quotes, isQuote]
    rw [hpair]
    apply ih.prepend []
    intro tail _ _
    exact scan_pair previous level pending (rest ++ tail)
  | case5 previous quote level pending hopen rest hnext hquote ih =>
    obtain rfl : quote = none := by simpa using hopen
    rw [quoteAfter, quoteStep, if_neg hquote]
    apply ih.prepend [line level ('{' :: pending)]
    intro tail lines h
    apply scan_open
    cases rest with
    | nil => exact h.head
    | cons c rest =>
      rintro ⟨⟩
      exact hnext rest rfl
  | case6 previous quote level pending rest hopen hquote hne ihbreak ihstay =>
    obtain rfl : quote = none := by simpa using hopen
    have hvisible : Text.allBlank ('}' :: beforeBrace pending) = false := rfl
    rw [quoteAfter, quoteStep, if_neg hquote]
    by_cases hnil : rest = []
    · -- the brace is at the end of its line in any case
      subst hnil
      refine ⟨lineIfAny level pending ++ [line (level - 1) ('}' :: beforeBrace pending)],
        level - 1, ?_⟩
      intro tail lines h
      show scan previous none level pending ('}' :: tail) = _
      rw [scan_close, h.line_ends hvisible, List.append_assoc]
      rfl
    · cases hbreaks : breaksBefore staysWithBrace rest with
      | true =>
        apply ihbreak.prepend
          (lineIfAny level pending ++ [line (level - 1) ('}' :: beforeBrace pending)])
        intro tail _ _
        rw [List.cons_append, scan_close, breaksBefore_append _ hnil, hbreaks, if_pos rfl,
          List.append_assoc]
        rfl
      | false =>
        apply ihstay.prepend (lineIfAny level pending)
        intro tail _ _
        rw [List.cons_append, scan_close, breaksBefore_append _ hnil, hbreaks,
          if_neg (by decide)]
  | case7 previous quote level pending rest hopen hbreaks hquote hne hne' ih =>
    obtain rfl : quote = none := by simpa using hopen
    have hnil : rest ≠ [] := by
      rintro rfl
      cases hbreaks
    rw [quoteAfter, quoteStep, if_neg hquote]
    apply ih.prepend [line level (';' :: pending)]
    intro tail _ _
    rw [List.cons_append, scan_semicolon, breaksBefore_append _ hnil, if_pos hbreaks]
    rfl
  | case8 previous quote level pending rest hopen hbreaks hquote hne hne' ih =>
    obtain rfl : quote = none := by simpa using hopen
    have hvisible : Text.allBlank (';' :: pending) = false := rfl
    rw [quoteAfter, quoteStep, if_neg hquote]
    by_cases hnil : rest = []
    · -- the semicolon is at the end of its line in any case
      subst hnil
      refine ⟨[line level (';' :: pending)], level, ?_⟩
      intro tail lines h
      show scan previous none level pending (';' :: tail) = _
      rw [scan_semicolon, h.line_ends hvisible]
      rfl
    · apply ih.prepend []
      intro tail _ _
      rw [List.cons_append, scan_semicolon, breaksBefore_append _ hnil, if_neg hbreaks]
      rfl
  | case9 previous quote level pending c rest hquote hopen h1 h2 h3 hbreak hblank ih =>
    obtain rfl : quote = none := by simpa using hopen
    rw [quoteAfter, quoteStep, if_neg hquote]
    apply ih.prepend []
    intro tail _ _
    rw [List.cons_append, scan_break _ _ _ _ hbreak, if_pos hblank]
    rfl
  | case10 previous quote level pending c rest hquote hopen h1 h2 h3 hbreak hvisible ih =>
    obtain rfl : quote = none := by simpa using hopen
    rw [quoteAfter, quoteStep, if_neg hquote]
    apply ih.prepend [line level pending]
    intro tail _ _
    rw [List.cons_append, scan_break _ _ _ _ hbreak, if_neg hvisible]
    rfl
  | case11 previous quote level pending c rest hquote hopen h1 h2 h3 hbreak ih =>
    obtain rfl : quote = none := by simpa using hopen
    rw [quoteAfter, quoteStep, if_neg hquote]
    apply ih.prepend []
    intro tail _ _
    exact scan_plain _ _ _ _ (by simpa using hquote) h1 h2 h3 (by simpa using hbreak)

/-- **A text gives its lines and a level, whatever ends the line after it.** -/
theorem exists_scan_append (previous quote : Option Char) (level : Nat) (pending s : List Char) :
    ∃ before after, ∀ tail lines, Closing (quoteAfter previous quote s) tail lines →
      scan previous quote level pending (s ++ tail) = before ++ lines after :=
  gives_scan previous quote level pending s

/-! ### Tidied sources -/

/-- The blank ends of a text make no difference to its lines. -/
theorem scan_trim (level : Nat) (s : List Char) :
    scan none none level [] (Text.trim s) = scan none none level [] s := by
  obtain ⟨front, back, hfront, hback, hs⟩ := Text.exists_blank_ends s
  obtain ⟨before, after, hscan⟩ := exists_scan_append none none level [] (Text.trim s)
  have halone := hscan [] _ (closing_nil _)
  have hmore := hscan (back ++ []) _ ((closing_nil _).blank hback)
  rw [List.append_nil] at halone hmore
  have hwhole : scan none none level [] s = scan none none level [] (Text.trim s ++ back) := by
    calc scan none none level [] s
        = scan none none level [] (front ++ (Text.trim s ++ back)) := by
          rw [← List.append_assoc, ← hs]
      _ = scan none none level [] (Text.trim s ++ back) := scan_indent hfront level _
  rw [hwhole, halone, hmore]

/-- A text outside quotations gives some lines before a line break, and so does its trimmed
    form. -/
theorem exists_scan_break {s : List Char} (hclosed : quoteAfter none none s = none) (level : Nat) :
    ∃ before after,
      (∀ c rest, isBreak c = true → scan none none level [] (s ++ c :: rest) =
        before ++ scan none none after [] rest) ∧
      (∀ rest, scan none none level [] (Text.trim s ++ '\n' :: rest) =
        before ++ scan none none after [] rest) ∧
      scan none none level [] (Text.trim s) = before := by
  obtain ⟨front, back, hfront, hback, hs⟩ := Text.exists_blank_ends s
  obtain ⟨before, after, hscan⟩ := exists_scan_append none none level [] (Text.trim s)
  rw [quoteAfter_trim, hclosed] at hscan
  refine ⟨before, after, ?_, ?_, ?_⟩
  · intro c rest hc
    have hbreak := hscan _ _ ((closing_break hc rest).blank hback)
    have hwhole : s ++ c :: rest = front ++ (Text.trim s ++ (back ++ c :: rest)) := by
      rw [← List.append_assoc, ← List.append_assoc, ← hs]
    rw [hwhole, scan_indent hfront]
    exact hbreak
  · intro rest
    exact hscan _ _ (closing_break (by decide) rest)
  · have halone := hscan [] _ (closing_nil none)
    rwa [List.append_nil, List.append_nil] at halone

/-- A text is tidied line by line. Of the first one, some characters were taken already. -/
theorem scan_tidied (line : List Char) {text : List Char} (hline : ∀ c ∈ line, isBreak c = false)
    (h : BreaksOutside (line ++ text)) (level : Nat) :
    scan none none level [] (tidied (line ++ text)) = scan none none level [] (line ++ text) := by
  induction text generalizing line level with
  | nil =>
    rw [List.append_nil, tidied_line hline]
    exact scan_trim level line
  | cons c text ih =>
    cases hc : isBreak c with
    | false =>
      have hlonger : ∀ d ∈ line ++ [c], isBreak d = false := by
        intro d hd
        rcases List.mem_append.mp hd with hd | hd
        · exact hline d hd
        · rw [List.mem_singleton.mp hd, hc]
      rw [List.append_cons] at h ⊢
      exact ih (line ++ [c]) hlonger h level
    | true =>
      have hmore (level : Nat) :
          scan none none level [] (tidied text) = scan none none level [] text :=
        ih [] (by simp) (h.rest hc) level
      have hlines : tidied (line ++ c :: text) = ['\n'].intercalate
          ((if Text.trim line = [] then [] else [Text.trim line]) ++ physicalLines text) := by
        rw [tidied, physicalLines_append hline hc]
      rw [hlines]
      split
      · next hnil =>
        -- a blank line
        have hblank : Text.allBlank (line ++ [c]) = true := by
          rw [Text.allBlank_append, (Text.trim_eq_nil_iff line).mp hnil, allBlank_break hc]
          rfl
        rw [List.append_cons, scan_indent hblank, List.nil_append]
        exact hmore level
      · next hvisible =>
        obtain ⟨before, after, hbreak, htrim, halone⟩ := exists_scan_break (h.closed hc) level
        rw [hbreak c text hc, List.singleton_append, join_cons, ← hmore after]
        split
        · next hnone =>
          rw [List.append_nil, halone, tidied, hnone]
          exact (List.append_nil before).symm
        · exact htrim (tidied text)

theorem lines_tidied {source : List Char} (h : BreaksOutside source) :
    lines (tidied source) = lines source :=
  scan_tidied [] (by simp) h 0

/-- **The layout that a source comes with does not matter.**  Where every line break stands outside
    quotations, tidying the source changes nothing, and sources with the same lines, as far as they
    are not blank, are laid out alike. -/
theorem reformatString_tidied (unit source : String) (h : BreaksOutside source.toList) :
    reformatString unit (String.ofList (tidied source.toList)) = reformatString unit source ∧
      ∀ other : String, BreaksOutside other.toList →
        physicalLines other.toList = physicalLines source.toList →
        reformatString unit other = reformatString unit source := by
  have htidied {text : String} (htext : BreaksOutside text.toList) :
      reformat unit.toList (tidied text.toList) = reformat unit.toList text.toList := by
    rw [reformat, reformat, lines_tidied htext]
  constructor
  · rw [reformatString, String.toList_ofList, htidied h, reformatString]
  · intro other hother hsame
    have hsource : tidied other.toList = tidied source.toList := by
      rw [tidied, tidied, hsame]
    rw [reformatString, reformatString, ← htidied hother, ← htidied h, hsource]

/-- A block with returns and tabs, and the same block without. -/
theorem reformatString_tidied_block :
    BreaksOutside "f()\x7b\r\n\t a('; '); \r\r \x7d\n".toList ∧
      BreaksOutside "f()\x7b\na('; ');\n\x7d".toList ∧
      physicalLines "f()\x7b\na('; ');\n\x7d".toList =
        physicalLines "f()\x7b\r\n\t a('; '); \r\r \x7d\n".toList ∧
      reformatString "  " (String.ofList (tidied "f()\x7b\r\n\t a('; '); \r\r \x7d\n".toList)) =
        reformatString "  " "f()\x7b\r\n\t a('; '); \r\r \x7d\n" ∧
      reformatString "  " "f()\x7b\na('; ');\n\x7d" =
        reformatString "  " "f()\x7b\r\n\t a('; '); \r\r \x7d\n" := by
  have h := reformatString_tidied "  " "f()\x7b\r\n\t a('; '); \r\r \x7d\n" (by decide)
  have hother : BreaksOutside "f()\x7b\na('; ');\n\x7d".toList := by decide
  have hsame : physicalLines "f()\x7b\na('; ');\n\x7d".toList =
      physicalLines "f()\x7b\r\n\t a('; '); \r\r \x7d\n".toList := by decide
  exact ⟨by decide, hother, hsame, h.1, h.2 _ hother hsame⟩

end ListenerReview.Layout
