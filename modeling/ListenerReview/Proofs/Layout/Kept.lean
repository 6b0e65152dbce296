/-
  ListenerReview/Proofs/Layout/Kept.lean
  ======================================
  **What a layout keeps of its source** — everything but blanks outside quotations.

  A text is compared with its layout by what is left of both when the blanks outside
  their quotations are removed, and the blanks at the end of a quotation that is never
  closed (`kept`).  Each character that is left comes with the quotation mark that is
  open before it, read off its own text, so that the comparison also says that the same
  quotation marks open and close quotations in both.

  Along the segments of a source (`Segments.lean`) the two agree piece by piece: a
  segment is trimmed outside quotations only, unless it is the last one and a quotation
  is open at its end, and indentation and line breaks stand between closed quotations.
-/
import ListenerReview.Proofs.Layout.Relayout

namespace ListenerReview.Layout

/-- What is left of a text without the blanks outside its quotations, and without those at the end
    of a quotation that is not closed. -/
def kept (text : List Char) : List Glyph :=
  let glyphs := keep none none text
  if quoteAfter none none text = none then glyphs
  else (glyphs.reverse.dropWhile (Text.isBlank ·.char)).reverse

/-- The layout lacks nothing of the source but blanks outside quotations and at the end. -/
structure Keeps (source layout : List Char) : Prop where
  quote_eq : quoteAfter none none layout = quoteAfter none none source
  keep_eq : ∃ tail, Text.allBlank tail = true ∧
    keep none none source =
      keep none none layout ++ tail.map (Glyph.mk (quoteAfter none none source)) ∧
    (quoteAfter none none source = none → tail = [])

theorem dropWhile_reverse_append_glyphs (glyphs : List Glyph) (quote : Option Char)
    {tail : List Char} (h : Text.allBlank tail = true) :
    (glyphs ++ tail.map (Glyph.mk quote)).reverse.dropWhile (Text.isBlank ·.char) =
      glyphs.reverse.dropWhile (Text.isBlank ·.char) := by
  have hall : ∀ g ∈ (tail.map (Glyph.mk quote)).reverse, Text.isBlank g.char = true := by
    intro g hg
    obtain ⟨c, hc, rfl⟩ := List.mem_map.mp (List.mem_reverse.mp hg)
    exact List.all_eq_true.mp h c hc
  rw [List.reverse_append, List.dropWhile_append_of_pos hall]

theorem Keeps.kept_eq {source layout : List Char} (h : Keeps source layout) :
    kept layout = kept source := by
  obtain ⟨tail, hblank, hkeep, hnone⟩ := h.keep_eq
  rw [kept, kept, h.quote_eq, hkeep]
  split
  · next hclosed => rw [hnone hclosed, List.map_nil, List.append_nil]
  · rw [dropWhile_reverse_append_glyphs _ _ hblank]

/-! ### Piece by piece -/

/-- A text is kept by its trimmed form, indented. -/
theorem keeps_trim (source : List Char) {indentation : List Char}
    (h : Text.allBlank indentation = true) :
    Keeps source (indentation ++ Text.trim source) where
  quote_eq := by rw [quoteAfter_blank_append h, quoteAfter_trim]
  keep_eq := by
    rw [keep_blank_append h]
    exact exists_keep_trim source

/-- After a line break, a text is read as from its start. -/
theorem keep_linefeed (previous : Option Char) (text : List Char) :
    keep previous none ('\n' :: text) = keep none none text := by
  rw [keep, if_pos ⟨rfl, by decide⟩]
  exact keep_alike (alike_none (by decide) text) none

theorem quoteAfter_linefeed (previous : Option Char) (text : List Char) :
    quoteAfter previous none ('\n' :: text) = quoteAfter none none text := by
  rw [quoteAfter, quoteStep, quotes_of_blank (by decide), if_neg (by decide)]
  exact quoteAfter_alike (alike_none (by decide) text) none

/-- A closed text and a line break before another text. -/
theorem Keeps.cons {source layout rest more : List Char} (h : Keeps source layout)
    (hclosed : quoteAfter none none source = none) (hrest : Alike source.getLast? none rest)
    (hmore : Keeps rest more) : Keeps (source ++ rest) (layout ++ '\n' :: more) := by
  have hquote : quoteAfter none none (source ++ rest) = quoteAfter none none rest := by
    rw [quoteAfter_append, hclosed, Option.or_none]
    exact quoteAfter_alike hrest none
  obtain ⟨tail, _, hkeep, hnone⟩ := h.keep_eq
  rw [hnone hclosed, List.map_nil, List.append_nil] at hkeep
  constructor
  · rw [hquote, quoteAfter_append, h.quote_eq, hclosed, quoteAfter_linefeed, hmore.quote_eq]
  · rw [hquote, keep_append, keep_append none none layout, h.quote_eq, hclosed, keep_linefeed,
      Option.or_none, keep_alike hrest, hkeep]
    obtain ⟨tail, hblank, hkeep, hnone⟩ := hmore.keep_eq
    exact ⟨tail, hblank, by rw [hkeep, List.append_assoc], hnone⟩

/-- A closed text that only blanks come after. -/
theorem Keeps.append_blank {source layout rest : List Char} (h : Keeps source layout)
    (hclosed : quoteAfter none none source = none) (hrest : Text.allBlank rest = true) :
    Keeps (source ++ rest) layout := by
  have hquote : quoteAfter none none (source ++ rest) = quoteAfter none none source := by
    rw [quoteAfter_append, quoteAfter_blank _ _ hrest]
  have hkeep : keep none none (source ++ rest) = keep none none source := by
    rw [keep_append, hclosed, keep_blank _ _ hrest, if_pos rfl, List.append_nil]
  constructor
  · rw [hquote, h.quote_eq]
  · rw [hquote, hkeep]
    exact h.keep_eq

theorem keeps_blank {source : List Char} (h : Text.allBlank source = true) : Keeps source [] where
  quote_eq := (quoteAfter_blank none none h).symm
  keep_eq := ⟨[], rfl, keep_blank none none h, fun _ => rfl⟩

/-! ### Whole layouts -/

/-- The lines of a source, joined with any blank indentation, keep it. -/
theorem Laid.keeps_join {level : Nat} {source : List Char} {lines : List Line}
    (h : Laid level source lines) {unit : List Char} (hunit : Text.allBlank unit = true) :
    Keeps source (['\n'].intercalate (lines.map (Line.text unit))) := by
  induction h with
  | done hblank => exact keeps_blank hblank
  | @last _ source l hcontent =>
    rw [List.map_singleton, join_cons, if_pos rfl, List.append_nil, Line.text, hcontent]
    exact keeps_trim source (allBlank_indentation hunit l.level)
  | @next _ _ segment rest l lines hcontent _ hclosed _ hfresh hmore ih =>
    have hsegment : Keeps segment (Line.text unit l) := by
      rw [Line.text, hcontent]
      exact keeps_trim segment (allBlank_indentation hunit l.level)
    rw [List.map_cons, join_cons]
    split
    · next hnone =>
      rw [List.map_eq_nil_iff.mp hnone] at hmore
      rw [List.append_nil]
      cases hmore with
      | done hblank => exact hsegment.append_blank hclosed hblank
    · exact hsegment.cons hclosed hfresh ih

/-- **A layout changes nothing but blanks outside quotations.**  What is left of the layout without
    them is what is left of the source, each character under the same quotation mark, and the same
    quotation is open at the end. -/
theorem kept_reformatString (unit source : String) (hblank : Text.allBlank unit.toList = true) :
    kept (reformatString unit source).toList = kept source.toList ∧
      quoteAfter none none (reformatString unit source).toList =
        quoteAfter none none source.toList := by
  have hkeeps : Keeps source.toList (reformat unit.toList source.toList) := by
    rw [reformat, lineTexts_lines]
    exact (laid_lines source.toList).keeps_join hblank
  rw [reformatString, String.toList_ofList]
  exact ⟨hkeeps.kept_eq, hkeeps.quote_eq⟩

/-- A block with a quoted brace and a quotation that is never closed. -/
theorem kept_open_quotation :
    Text.allBlank "  ".toList = true ∧
      kept (reformatString "  " "a\x7b'\x7d \\' ;' ;\n\x7d\"b \n ").toList =
        kept "a\x7b'\x7d \\' ;' ;\n\x7d\"b \n ".toList ∧
      quoteAfter none none (reformatString "  " "a\x7b'\x7d \\' ;' ;\n\x7d\"b \n ").toList =
        quoteAfter none none "a\x7b'\x7d \\' ;' ;\n\x7d\"b \n ".toList :=
  ⟨by decide, kept_reformatString "  " "a\x7b'\x7d \\' ;' ;\n\x7d\"b \n " (by decide)⟩

end ListenerReview.Layout
