/-
  ListenerReview/Proofs/Highlight/Spans.lean
  ==========================================
  **What is in the markup of a text** — its characters in their order, and a span
  around every marked term.

  `tokens?_pieces` reads the markup of any pieces: a left-over piece gives escaped
  characters, and a marked one an opening tag, the escaped term and a closing tag.
  Deleting the tags gives back the escaped text, and every tag of the markup is found
  again in the pieces (`exists_marked_of_tag`), so that what follows an opening tag is
  its term, at the place where the term stands in the text.
-/
import ListenerReview.Proofs.Highlight.Order
import ListenerReview.Proofs.Highlight.Pieces
import ListenerReview.Proofs.Markup.Fragment

namespace ListenerReview.Highlighter

open Markup (AmpersandsEscaped Fragment Token tokens? dropTags escape)

/-! ### Reading markup -/

/-- What stands between the brackets of the tag that opens the span of a term. -/
def spanContent (t : Term) : List Char :=
  "span class=\"highlight-".toList ++ escape t.category.toList ++ "\"".toList

def spanEnd : List Char := "/span".toList

def Piece.tokens : Piece → List Token
  | .plain text => (escape text).map .char
  | .marked _ term =>
    .tag (spanContent term) :: ((escape term.text).map .char ++ [.tag spanEnd])

theorem markup_eq (t : Term) :
    Term.markup t =
      '<' :: (spanContent t ++ '>' :: (escape t.text ++ '<' :: (spanEnd ++ ['>']))) := by
  have hopen : "<span class=\"highlight-".toList = '<' :: "span class=\"highlight-".toList := by
    decide
  have hquote : "\">".toList = "\"".toList ++ ['>'] := by decide
  have hend : "</span>".toList = '<' :: (spanEnd ++ ['>']) := by decide
  unfold Term.markup spanContent
  simp only [hopen, hquote, hend, List.append_assoc, List.cons_append, List.nil_append]

/-- A tag that opens a span has this name, whatever the category is called. -/
theorem exists_spanContent_eq (t : Term) :
    ∃ rest, spanContent t = 's' :: 'p' :: 'a' :: 'n' :: ' ' :: rest := by
  have hstart : "span class=\"highlight-".toList =
      's' :: 'p' :: 'a' :: 'n' :: ' ' :: "class=\"highlight-".toList := by decide
  unfold spanContent
  simp only [hstart, List.cons_append]
  exact ⟨_, rfl⟩

theorem isBracket_spanContent (t : Term) : ∀ c ∈ spanContent t, Markup.isBracket c = false := by
  have hstart : ∀ c ∈ "span class=\"highlight-".toList, Markup.isBracket c = false :=
    Markup.isBracket_literal _ rfl rfl
  have hquote : ∀ c ∈ "\"".toList, Markup.isBracket c = false := Markup.isBracket_literal _ rfl rfl
  intro c hc
  rcases List.mem_append.mp hc with hc | hc
  · rcases List.mem_append.mp hc with hc | hc
    · exact hstart c hc
    · exact Markup.isBracket_of_not_isSpecial (Markup.isSpecial_escape hc)
  · exact hquote c hc

theorem isBracket_spanEnd : ∀ c ∈ spanEnd, Markup.isBracket c = false :=
  Markup.isBracket_literal _ rfl rfl

theorem tokens?_piece (p : Piece) : tokens? p.markup = some p.tokens := by
  cases p with
  | plain text => exact Markup.tokens?_escape text
  | marked rank term =>
    have hend : tokens? ('<' :: (spanEnd ++ ['>'])) = some [.tag spanEnd] := by
      rw [Markup.tokens?_tag isBracket_spanEnd]
      rfl
    rw [Piece.markup, markup_eq, Markup.tokens?_tag (isBracket_spanContent term),
      Markup.tokens?_append (Markup.tokens?_escape term.text) hend]
    rfl

theorem tokens?_pieces (ps : List Piece) :
    tokens? (ps.flatMap Piece.markup) = some (ps.flatMap Piece.tokens) :=
  Markup.tokens?_flatMap fun p _ => tokens?_piece p

theorem charsOf_piece (p : Piece) : Markup.charsOf p.tokens = escape p.text := by
  cases p with
  | plain text => exact Markup.charsOf_map_char _
  | marked rank term =>
    have hchars := Markup.charsOf_map_char (escape term.text)
    rw [Piece.tokens, ← List.singleton_append, Markup.charsOf_append, Markup.charsOf_append, hchars]
    simp [Markup.charsOf, Piece.text]

theorem charsOf_pieces (ps : List Piece) :
    Markup.charsOf (ps.flatMap Piece.tokens) = escape (textOf ps) := by
  induction ps with
  | nil => rfl
  | cons p ps ih =>
    rw [List.flatMap_cons, Markup.charsOf_append, charsOf_piece, ih, textOf_cons,
      Markup.escape_append]

theorem dropTags_pieces (ps : List Piece) :
    dropTags (ps.flatMap Piece.markup) = escape (textOf ps) := by
  rw [Markup.dropTags_eq (tokens?_pieces ps), charsOf_pieces]

/-! ### Tags and marks -/

theorem append_tag_eq {s : List Char} {x before after : List Token} {content : List Char}
    (h : s.map Token.char ++ x = before ++ .tag content :: after) :
    ∃ between, before = s.map .char ++ between ∧ x = between ++ .tag content :: after := by
  induction s generalizing before with
  | nil => exact ⟨before, rfl, h⟩
  | cons c s ih =>
    cases before with
    | nil => simp at h
    | cons tok before =>
      simp only [List.map_cons, List.cons_append, List.cons.injEq] at h
      obtain ⟨between, rfl, hx⟩ := ih h.2
      exact ⟨between, by rw [← h.1]; rfl, hx⟩

/-- A tag that closes no span opens that of a marked piece: before it stand the pieces before, and
    after it the term, the end of the span, and the pieces after. -/
theorem exists_marked_of_tag {ps : List Piece} {before after : List Token} {content : List Char}
    (h : ps.flatMap Piece.tokens = before ++ .tag content :: after) (hne : content ≠ spanEnd) :
    ∃ as rank term bs, ps = as ++ .marked rank term :: bs ∧ content = spanContent term ∧
      before = as.flatMap Piece.tokens ∧
      after = (escape term.text).map .char ++ .tag spanEnd :: bs.flatMap Piece.tokens := by
  -- A tag of the first piece is its opening tag, which is the one looked for, or its closing one,
  -- which is not; a tag behind it is one of the pieces behind it.
  induction ps generalizing before with
  | nil => simp at h
  | cons p ps ih =>
    rw [List.flatMap_cons] at h
    cases p with
    | plain text =>
      obtain ⟨between, rfl, hrest⟩ := append_tag_eq h
      obtain ⟨as, rank, term, bs, rfl, hcontent, rfl, hafter⟩ := ih hrest
      exact ⟨.plain text :: as, rank, term, bs, rfl, hcontent, rfl, hafter⟩
    | marked rank term =>
      rw [Piece.tokens, List.cons_append, List.append_assoc, List.singleton_append] at h
      cases before with
      | nil =>
        simp only [List.nil_append, List.cons.injEq, Token.tag.injEq] at h
        exact ⟨[], rank, term, ps, rfl, h.1.symm, rfl, h.2.symm⟩
      | cons tok before =>
        simp only [List.cons_append, List.cons.injEq] at h
        obtain ⟨between, rfl, hrest⟩ := append_tag_eq h.2
        cases between with
        | nil =>
          simp only [List.nil_append, List.cons.injEq, Token.tag.injEq] at hrest
          exact absurd hrest.1.symm hne
        | cons tok' between =>
          simp only [List.cons_append, List.cons.injEq] at hrest
          obtain ⟨as, rank', term', bs, rfl, hcontent, rfl, hafter⟩ := ih hrest.2
          refine ⟨.marked rank term :: as, rank', term', bs, rfl, hcontent, ?_, hafter⟩
          rw [← h.1, ← hrest.1, List.flatMap_cons, Piece.tokens]
          simp

/-- An opening tag in the markup of pieces is that of a marked piece, and the term of this piece
    stands up to the closing tag. -/
theorem exists_marked_of_opening {ps : List Piece} {before opening rest : List Char}
    (h : ps.flatMap Piece.markup = before ++ '<' :: (opening ++ '>' :: rest))
    (hopening : ∀ c ∈ opening, Markup.isBracket c = false) (hne : opening ≠ spanEnd) :
    ∃ as rank term bs, ps = as ++ .marked rank term :: bs ∧ opening = spanContent term ∧
      before = as.flatMap Piece.markup ∧
      rest = escape term.text ++ "</span>".toList ++ bs.flatMap Piece.markup := by
  have hread := tokens?_pieces ps
  rw [h] at hread
  obtain ⟨a, b, hbefore, htag, happend⟩ := Markup.tokensFrom_append_tag hread
  rw [Markup.tokens?_tag hopening, Option.map_eq_some_iff] at htag
  obtain ⟨c, hrest, rfl⟩ := htag
  obtain ⟨as, rank, term, bs, rfl, hcontent, rfl, rfl⟩ := exists_marked_of_tag happend hne
  refine ⟨as, rank, term, bs, rfl, hcontent, ?_, ?_⟩
  · rw [Markup.eq_of_tokens? hbefore, ← Markup.eq_of_tokens? (tokens?_pieces as)]
  · have hchars : ((escape term.text).map Token.char).flatMap Token.text = escape term.text :=
      (Markup.eq_of_tokens? (Markup.tokens?_escape term.text)).symm
    have hend : Token.text (.tag spanEnd) = "</span>".toList := by decide
    rw [Markup.eq_of_tokens? hrest, List.flatMap_append, List.flatMap_cons, hchars, hend,
      ← Markup.eq_of_tokens? (tokens?_pieces bs), List.append_assoc]

/-! ### The markup of a text -/

theorem dropTags_escape (s : List Char) : dropTags (escape s) = escape s := by
  rw [Markup.dropTags_eq (Markup.tokens?_escape s), Markup.charsOf_map_char]

/-- The markup of a text loses, doubles and moves no character: without its tags it is the decoded
    text, escaped, or the text itself, escaped, when there is nothing to mark. Every tag that
    closes no span opens that of a term, and this term is what stands inside the span, at the place
    where it stands in the text. -/
theorem markup_spans (rules : RuleSet) (text : List Char) :
    dropTags ((ofRules rules).markup text) =
        (if rules.hasUsableTerm then escape (Markup.decode text) else escape text) ∧
      ∀ before opening rest,
        (ofRules rules).markup text = before ++ '<' :: (opening ++ '>' :: rest) →
        (∀ c ∈ opening, Markup.isBracket c = false) → opening ≠ spanEnd →
        ∃ term ∈ (ofRules rules).terms, ∃ left right after, opening = spanContent term ∧
          rest = escape term.text ++ "</span>".toList ++ after ∧
          Markup.decode text = left ++ term.text ++ right ∧
          dropTags before = escape left ∧ dropTags after = escape right := by
  have hterms : ∀ t ∈ (ofRules rules).terms, t.text ≠ [] := fun _ ht => text_ne_nil ht
  have htext := textOf_pieces hterms (Markup.decode text)
  have hliteral := literal_pieces hterms (Markup.decode text)
  rw [markup, isEmpty_ofRules]
  cases rules.hasUsableTerm with
  | false =>
    refine ⟨dropTags_escape text, ?_⟩
    intro before opening rest heq
    have hmem : '<' ∈ escape text := by
      change escape text = _ at heq
      rw [heq]
      exact List.mem_append_right _ List.mem_cons_self
    exact absurd (Markup.isSpecial_escape hmem) (by decide)
  | true =>
    refine ⟨?_, ?_⟩
    · change dropTags (((ofRules rules).pieces (Markup.decode text)).flatMap Piece.markup) = _
      rw [dropTags_pieces, htext]
      rfl
    · intro before opening rest heq hopening hne
      obtain ⟨as, rank, term, bs, hps, hcontent, rfl, rfl⟩ :=
        exists_marked_of_opening heq hopening hne
      refine ⟨term, ?_, textOf as, textOf bs, bs.flatMap Piece.markup, hcontent, rfl, ?_,
        dropTags_pieces as, dropTags_pieces bs⟩
      · apply List.mem_of_getElem? (hliteral rank term _)
        rw [hps]
        exact List.mem_append_right _ List.mem_cons_self
      · rw [← htext, hps, textOf_append, textOf_cons, Piece.text, List.append_assoc]

example : markup ⟨[⟨['<'], "r\"d"⟩]⟩ "1 &lt; 2".toList =
    "1 <span class=\"highlight-r&quot;d\">&lt;</span> 2".toList := by decide

/-! ### Markup as a fragment -/

/-- The terms that are marked in a text, from left to right. -/
def marked (h : Highlighter) (text : List Char) : List Term :=
  if h.isEmpty then []
  else
    (h.pieces (Markup.decode text)).filterMap fun
      | .plain _ => none
      | .marked _ term => some term

def spanTags (t : Term) : List (List Char) := [spanContent t, spanEnd]

theorem ampersandsEscaped_spanContent (t : Term) : AmpersandsEscaped (spanContent t) := by
  have hstart : AmpersandsEscaped "span class=\"highlight-".toList :=
    Markup.ampersandsEscaped_of_not_mem (by decide)
  have hquote : AmpersandsEscaped "\"".toList := Markup.ampersandsEscaped_of_not_mem (by decide)
  exact (hstart.append (Markup.ampersandsEscaped_escape _)).append hquote

theorem fragment_term (t : Term) : Fragment (String.ofList (Term.markup t)) (spanTags t) := by
  have hopen := Markup.fragment_tag (isBracket_spanContent t) (ampersandsEscaped_spanContent t)
  have hend := Markup.fragment_tag isBracket_spanEnd
    (Markup.ampersandsEscaped_of_not_mem (by decide))
  have h := (hopen.append (Markup.fragment_escape t.text)).append hend
  have hmarkup : Term.markup t =
      '<' :: (spanContent t ++ ['>']) ++ escape t.text ++ '<' :: (spanEnd ++ ['>']) := by
    rw [markup_eq]
    simp
  rw [hmarkup, String.ofList_append, String.ofList_append]
  exact h

theorem fragment_pieces (ps : List Piece) :
    Fragment (String.ofList (ps.flatMap Piece.markup))
      ((ps.filterMap fun | .plain _ => none | .marked _ term => some term).flatMap spanTags) := by
  induction ps with
  | nil => exact Markup.fragment_escape []
  | cons p ps ih =>
    rw [List.flatMap_cons, String.ofList_append]
    cases p with
    | plain text => exact (Markup.fragment_escape text).append ih
    | marked rank term => exact (fragment_term term).append ih

/-- The markup of a text is a fragment, and its tags are those of the terms it marks. -/
theorem fragment_markup (h : Highlighter) (text : List Char) :
    Fragment (String.ofList (h.markup text)) ((h.marked text).flatMap spanTags) := by
  unfold markup marked
  split
  · exact Markup.fragment_escape text
  · exact fragment_pieces _

end ListenerReview.Highlighter
