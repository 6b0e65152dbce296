/-
  ListenerReview/Proofs/Highlight/Escaped.lean
  ============================================
  **Marking a text that is escaped already** — it is marked as the text that it was
  made of, and it is not escaped again.

  A text is decoded before its terms are looked for, and decoding undoes escaping
  (`Markup.decode_escape`), so the pieces of an escaped text are those of the text
  behind it, and its markup without the tags is the escaped text as it came.
-/
import ListenerReview.Proofs.Highlight.Priority
import ListenerReview.Proofs.Highlight.Spans
import ListenerReview.Proofs.Markup.Decoded

namespace ListenerReview.Highlighter

open Markup (decode escape dropTags)

/-- With terms to mark, an escaped text is marked like the text that it was made of. -/
theorem markup_of_escape {rules : RuleSet} (h : rules.hasUsableTerm = true) (s : List Char) :
    (ofRules rules).markup (escape s) = ((ofRules rules).pieces s).flatMap Piece.markup := by
  rw [markup, isEmpty_ofRules, h, Markup.decode_escape]
  rfl

/-- **Escaping is undone by decoding, and nothing is escaped twice.**  Every text is the decoding
    of its escaped form, so no two texts have the same one.  With at least one usable term, the
    markup of an escaped text is made of pieces of the text behind it; without its tags it is the
    escaped text; and its marks are the occurrences of terms in the text behind it that meet no
    mark before them. -/
theorem markup_escape (s : List Char) :
    decode (escape s) = s ∧ Function.Injective escape ∧
      ∀ rules : RuleSet, rules.hasUsableTerm = true →
        let terms := (ofRules rules).terms
        let ps := (ofRules rules).pieces s
        (ofRules rules).markup (escape s) = ps.flatMap Piece.markup ∧
          dropTags ((ofRules rules).markup (escape s)) = escape s ∧
          ∀ m, m ∈ marksOf ps ↔ terms[m.rank]? = some m.term ∧ m.term.text <+: s.drop m.start ∧
            ∀ m' ∈ marksOf ps, m'.Before m → ¬ m'.Meets m.start m.term.text.length := by
  refine ⟨Markup.decode_escape s, Markup.escape_injective, ?_⟩
  intro rules husable terms ps
  have hterms : ∀ t ∈ (ofRules rules).terms, t.text ≠ [] := fun _ ht => text_ne_nil ht
  have hmarkup := markup_of_escape husable s
  refine ⟨hmarkup, ?_, (prioritized_pieces (ofRules rules) hterms s).mem_marksOf_iff⟩
  rw [hmarkup, dropTags_pieces, textOf_pieces hterms]

/-- A text with things that look like references, once escaped. -/
theorem markup_escape_references :
    overlapping.hasUsableTerm = true ∧
      escape "&lt;foo&amp abc".toList = "&amp;lt;foo&amp;amp abc".toList ∧
      dropTags ((ofRules overlapping).markup (escape "&lt;foo&amp abc".toList)) =
        "&amp;lt;foo&amp;amp abc".toList ∧
      (ofRules overlapping).markup (escape "&lt;foo&amp abc".toList) =
        ("&amp;lt;<span class=\"highlight-red\">foo</span>&amp;amp " ++
          "<span class=\"highlight-red\">ab</span>c").toList := by
  have husable : overlapping.hasUsableTerm = true := by decide
  have hescape : escape "&lt;foo&amp abc".toList = "&amp;lt;foo&amp;amp abc".toList := by decide
  obtain ⟨hmarkup, hdrop, -⟩ := (markup_escape "&lt;foo&amp abc".toList).2.2 overlapping husable
  refine ⟨husable, hescape, hdrop.trans hescape, hmarkup.trans ?_⟩
  rw [pieces, terms_overlapping]
  decide

end ListenerReview.Highlighter
