/-
  ListenerReview/Proofs/Layout/Relayout.lean
  ==========================================
  **Laying out a layout** — the lines of a layout are the lines it was made of.

  The indentation may be any text of blanks, also the empty one, and the source any
  text at all.  The second scan meets other characters around the line breaks than the
  first one did, but each line of the layout is the content of a settled line
  (`Segments.lean`), which gives the same line again whatever follows its line break.
  So a layout depends on the lines of the source alone: laying out twice is laying
  out once, with the second indentation.
-/
import ListenerReview.Proofs.Layout.Segments

namespace ListenerReview.Layout

theorem laid_lines (source : List Char) : Laid 0 source (lines source) :=
  laid_scan (reached_start 0 fun _ _ => rfl)

theorem Laid.visible_content {level : Nat} {source : List Char} {lines : List Line}
    (h : Laid level source lines) : ∀ l ∈ lines, Text.allBlank l.content = false := by
  induction h with
  | done => simp
  | last hcontent hvisible =>
    intro l hl
    rw [List.mem_singleton.mp hl, hcontent, Text.allBlank_trim, hvisible]
  | next hcontent hvisible _ _ _ _ ih =>
    intro l hl
    rcases List.mem_cons.mp hl with rfl | hl
    · rw [hcontent, Text.allBlank_trim, hvisible]
    · exact ih l hl

/-- No line of a source is left out of its layout, whatever the indentation. -/
theorem lineTexts_lines (unit source : List Char) :
    lineTexts unit (lines source) = (lines source).map (Line.text unit) := by
  apply List.filter_eq_self.mpr
  intro text htext
  obtain ⟨l, hl, rfl⟩ := List.mem_map.mp htext
  rw [Line.text, Text.allBlank_append, (laid_lines source).visible_content l hl, Bool.and_false]
  rfl

theorem join_cons (text : List Char) (texts : List (List Char)) :
    ['\n'].intercalate (text :: texts) =
      text ++ if texts = [] then [] else '\n' :: ['\n'].intercalate texts := by
  cases texts <;> simp [List.intercalate]

theorem allBlank_indentation {unit : List Char} (h : Text.allBlank unit = true) (level : Nat) :
    Text.allBlank (List.replicate level unit).flatten = true := by
  induction level with
  | zero => rfl
  | succ level ih => rw [List.replicate_succ, List.flatten_cons, Text.allBlank_append, h, ih]; rfl

/-- The lines of a source, joined with any blank indentation, are its lines again. -/
theorem Laid.scan_join {level : Nat} {source : List Char} {lines : List Line}
    (h : Laid level source lines) {unit : List Char} (hunit : Text.allBlank unit = true) :
    scan none none level [] (['\n'].intercalate (lines.map (Line.text unit))) = lines := by
  induction h with
  | done => exact scan_nil none _ [] none
  | @last level _ l _ _ halone =>
    rw [List.map_singleton, join_cons, if_pos rfl, List.append_nil, Line.text,
      scan_indent (allBlank_indentation hunit l.level), halone]
  | @next level after _ _ l lines _ _ _ hsettled _ _ ih =>
    rw [List.map_cons, join_cons, Line.text, List.append_assoc,
      scan_indent (allBlank_indentation hunit l.level)]
    split
    · next hnone =>
      rw [List.append_nil, hsettled.alone, List.map_eq_nil_iff.mp hnone]
    · rw [hsettled.followed, ih]

theorem lines_reformat {unit : List Char} (hunit : Text.allBlank unit = true)
    (source : List Char) : lines (reformat unit source) = lines source := by
  rw [reformat, lineTexts_lines]
  exact (laid_lines source).scan_join hunit

/-- **A layout laid out again is the layout with the new indentation.**  The first indentation is
    any text of blanks. -/
theorem reformatString_reformatString (first second source : String)
    (hblank : Text.allBlank first.toList = true) :
    reformatString second (reformatString first source) = reformatString second source := by
  rw [reformatString, reformatString, String.toList_ofList, reformat, lines_reformat hblank]
  rfl

/-- An unbalanced source with an open quotation, laid out with tabs and then with two blanks. -/
theorem reformatString_twice_unbalanced :
    Text.allBlank "\t".toList = true ∧
      reformatString "  " (reformatString "\t" "\x7d\x7ba;b\r\n \x7d\x7b'x\n;") =
        reformatString "  " "\x7d\x7ba;b\r\n \x7d\x7b'x\n;" :=
  ⟨by decide, reformatString_reformatString "\t" "  " "\x7d\x7ba;b\r\n \x7d\x7b'x\n;" (by decide)⟩

end ListenerReview.Layout
