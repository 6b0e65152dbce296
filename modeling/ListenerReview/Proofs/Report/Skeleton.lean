/-
  ListenerReview/Proofs/Report/Skeleton.lean
  ==========================================
  **The panel has the tags it is meant to have, and no others.**

  `panelTags` writes down the tags of a panel: those of its head, those of one box
  for every listener, with the spans of the marked terms, and those of its foot.
  They depend on how many listeners there are, on which boxes start collapsed and on
  the terms that are marked, in order, and on nothing else.

  Every line of the panel is shown to be a fragment: its literals by evaluation, and
  what comes from a capture because it is escaped.  The markup of a source is the one
  text that is put in as it stands, and it is a fragment whose tags are its spans
  (`Highlighter.fragment_markup`).  The tags nest as they should (`nest_panelTags`),
  whatever the names of the categories are, as a tag opens a span by its name alone.
-/
import ListenerReview.Proofs.Highlight.Spans
import ListenerReview.Proofs.Session.History
import ListenerReview.Report

namespace ListenerReview.Report

open Markup (AmpersandsEscaped Fragment fragment_literal fragment_unlines_append
  fragment_unlines_cons nest unlines)
open Highlighter (spanContent spanEnd spanTags)

/-! ### The tags of a panel -/

/-- What the tags of the box of a listener depend on. -/
structure Box where
  truncated : Bool
  terms : List Term
deriving DecidableEq, Repr

/-- The box of a listener under the given settings and rules. -/
def shownBox (settings : Settings) (rules : RuleSet) (listener : Listener) : Box where
  truncated := settings.truncates (settings.shownText listener.source)
  terms := (Highlighter.ofRules rules).marked (settings.shownText listener.source).toList

/-- Tags given by what stands between their brackets. -/
def tagList (contents : List String) : List (List Char) := contents.map String.toList

def headTags : List (List Char) :=
  tagList ["!DOCTYPE html", "html", "head", "meta charset=\"utf-8\"", "title", "/title", "style",
    "/style", "/head", "body", "div id=\"listener-count\"", "/div"]

def emptyTags : List (List Char) := tagList ["div class=\"empty-state\"", "/div"]

/-- The tags of a box up to its preformatted text. -/
def boxOpenTags (truncated : Bool) : List (List Char) :=
  tagList ["div class=\"listener-item\"", "div class=\"listener-header\"",
    "div class=\"index-number\"", "/div", "div class=\"domain-name\"", "/div",
    "div class=\"window-info\"", "/div", "/div", "div class=\"stack-trace\"", "/div",
    if truncated then "div class=\"code-block truncated\"" else "div class=\"code-block\"", "pre"]

def boxEndTags : List (List Char) := tagList ["/pre", "/div", "/div"]

def boxTags (box : Box) : List (List Char) :=
  boxOpenTags box.truncated ++ box.terms.flatMap spanTags ++ boxEndTags

def footTags : List (List Char) := tagList ["/body", "/html"]

/-- The tags of a panel with the given boxes. -/
def panelTags (boxes : List Box) : List (List Char) :=
  headTags ++ (if boxes.isEmpty then emptyTags else []) ++ boxes.flatMap boxTags ++ footTags

/-! ### Nesting -/

/-- The elements that are open where the source of a listener stands. -/
def inSource : List (List Char) := tagList ["pre", "div", "div", "body", "html"]

/-- A span opens and closes, whatever its category is called. -/
theorem nest_spanTags (term : Term) : nest inSource (spanTags term) = some inSource := by
  obtain ⟨rest, hcontent⟩ := Highlighter.exists_spanContent_eq term
  have hopen : Markup.nestTag inSource (spanContent term) = some ("span".toList :: inSource) := by
    rw [hcontent]
    rfl
  have hend : Markup.nestTag ("span".toList :: inSource) spanEnd = some inSource := by decide
  rw [nest, spanTags, List.foldlM_cons, hopen]
  exact hend

theorem nest_boxTags (box : Box) :
    nest (tagList ["body", "html"]) (boxTags box) = some (tagList ["body", "html"]) := by
  have hopen : nest (tagList ["body", "html"]) (boxOpenTags box.truncated) = some inSource := by
    cases box.truncated with
    | true => decide +kernel
    | false => decide +kernel
  have hspans : nest inSource (box.terms.flatMap spanTags) = some inSource :=
    Markup.nest_flatMap fun term _ => nest_spanTags term
  have hend : nest inSource boxEndTags = some (tagList ["body", "html"]) := by decide +kernel
  rw [boxTags, List.append_assoc, Markup.nest_append hopen, Markup.nest_append hspans]
  exact hend

/-- Every element of a panel is closed, and inside the element that it was opened in. -/
theorem nest_panelTags (boxes : List Box) : nest [] (panelTags boxes) = some [] := by
  have hhead : nest [] headTags = some (tagList ["body", "html"]) := by decide +kernel
  have hempty : nest (tagList ["body", "html"]) (if boxes.isEmpty then emptyTags else []) =
      some (tagList ["body", "html"]) := by
    cases boxes.isEmpty with
    | true => decide +kernel
    | false => rfl
  have hboxes : nest (tagList ["body", "html"]) (boxes.flatMap boxTags) =
      some (tagList ["body", "html"]) :=
    Markup.nest_flatMap fun box _ => nest_boxTags box
  have hfoot : nest (tagList ["body", "html"]) footTags = some [] := by decide +kernel
  rw [panelTags, List.append_assoc, List.append_assoc, Markup.nest_append hhead,
    Markup.nest_append hempty, Markup.nest_append hboxes]
  exact hfoot

/-! ### Counting boxes -/

def itemTag : List Char := "div class=\"listener-item\"".toList

theorem count_boxTags (box : Box) : (boxTags box).count itemTag = 1 := by
  have hopen : (boxOpenTags box.truncated).count itemTag = 1 := by
    cases box.truncated with
    | true => decide +kernel
    | false => decide +kernel
  have hspans : (box.terms.flatMap spanTags).count itemTag = 0 := by
    rw [List.count_eq_zero]
    intro hmem
    obtain ⟨term, -, hterm⟩ := List.mem_flatMap.mp hmem
    have hitem : itemTag.head? = some 'd' := by decide
    rcases List.mem_cons.mp hterm with heq | hterm
    · obtain ⟨rest, hcontent⟩ := Highlighter.exists_spanContent_eq term
      rw [heq, hcontent] at hitem
      simp at hitem
    · rw [List.mem_singleton.mp hterm] at hitem
      revert hitem
      decide
  have hend : boxEndTags.count itemTag = 0 := by decide +kernel
  rw [boxTags, List.count_append, List.count_append, hopen, hspans, hend]

theorem count_flatMap_boxTags (boxes : List Box) :
    (boxes.flatMap boxTags).count itemTag = boxes.length := by
  induction boxes with
  | nil => rfl
  | cons box boxes ih =>
    rw [List.flatMap_cons, List.count_append, count_boxTags, ih, List.length_cons, Nat.add_comm]

theorem count_panelTags (boxes : List Box) : (panelTags boxes).count itemTag = boxes.length := by
  have hhead : headTags.count itemTag = 0 := by decide +kernel
  have hempty : (if boxes.isEmpty then emptyTags else []).count itemTag = 0 := by
    cases boxes.isEmpty with
    | true => decide +kernel
    | false => rfl
  have hfoot : footTags.count itemTag = 0 := by decide +kernel
  rw [panelTags, List.count_append, List.count_append, List.count_append, hhead, hempty,
    count_flatMap_boxTags, hfoot]
  omega

/-! ### The lines of a panel -/

theorem fragment_escaped (text : String) : Fragment (escaped text) [] :=
  Markup.fragment_escape text.toList

theorem fragment_number (n : Nat) : Fragment (toString n) [] := by
  apply Markup.fragment_plain
  intro c hc
  rw [Nat.toString_eq_ofList_toDigits, String.toList_ofList] at hc
  have hdigit := Nat.isDigit_of_mem_toDigits (by decide) (by decide) hc
  have hne : ∀ d, d.isDigit = false → c ≠ d := by
    intro d hd heq
    rw [heq, hd] at hdigit
    cases hdigit
  constructor
  · simp [Markup.isSpecial, hne]
  · exact hne '&' (by decide)

theorem fragment_countText (n : Nat) : Fragment (countText n) [] := by
  have hword : Fragment " listener" [] := fragment_literal _ rfl rfl
  have hplural : Fragment (if n = 1 then "" else "s") [] := by
    split
    · exact fragment_literal [] rfl rfl
    · exact fragment_literal _ rfl rfl
  exact ((fragment_number n).append hword).append hplural

theorem fragment_box (attributes opening : String) {content : String} {tags : List (List Char)}
    (hopening : "div " ++ attributes = opening) (chars : List Char)
    (hchars : opening = String.ofList chars)
    (hplain : chars.all (fun c => !Markup.isBracket c && c != '&') = true)
    (hcontent : Fragment content tags) :
    Fragment (box attributes content) (opening.toList :: (tags ++ ["/div".toList])) := by
  have hend : Fragment "</div>" ["/div".toList] := fragment_literal _ rfl rfl
  have hall : ∀ c ∈ opening.toList, Markup.isBracket c = false ∧ c ≠ '&' := by
    rw [hchars, String.toList_ofList]
    simpa using hplain
  have hopen := Markup.fragment_tag (fun c hc => (hall c hc).1)
    (Markup.ampersandsEscaped_of_not_mem fun hmem => (hall '&' hmem).2 rfl)
  have hstart : "<div " = "<" ++ "div " := by decide
  have htag : String.ofList ('<' :: (opening.toList ++ ['>'])) = "<div " ++ attributes ++ ">" := by
    rw [hstart, ← hopening, ← String.toList_inj]
    simp only [String.toList_append, String.toList_ofList, List.append_assoc]
    rfl
  rw [htag] at hopen
  exact (hopen.append hcontent).append hend

theorem fragment_styleRule {selector declarations : String} (hselector : Fragment selector [])
    (hdeclarations : Fragment declarations []) : Fragment (styleRule selector declarations) [] := by
  have hopen : Fragment " \x7b " [] := fragment_literal _ rfl rfl
  have hclose : Fragment " \x7d" [] := fragment_literal _ rfl rfl
  exact ((hselector.append hopen).append hdeclarations).append hclose

theorem fragment_panelStyle {line : String} (h : line ∈ panelStyle) : Fragment line [] := by
  simp only [panelStyle, List.mem_cons, List.not_mem_nil, or_false] at h
  rcases h with rfl | rfl | rfl | rfl | rfl | rfl | rfl <;>
    exact fragment_styleRule (fragment_literal _ rfl rfl) (fragment_literal _ rfl rfl)

theorem fragment_panelColours {colour : String} (h : colour ∈ panelColours) :
    Fragment colour [] := by
  simp only [panelColours, List.mem_cons, List.not_mem_nil, or_false] at h
  rcases h with rfl | rfl | rfl | rfl | rfl | rfl | rfl | rfl | rfl <;>
    exact fragment_literal _ rfl rfl

theorem fragment_markStyle {line : String} (h : line ∈ markStyle) : Fragment line [] := by
  obtain ⟨colour, hcolour, rfl⟩ := List.mem_map.mp h
  have hname := fragment_panelColours hcolour
  have hclass : Fragment ".highlight-" [] := fragment_literal _ rfl rfl
  have hproperty : Fragment "color: " [] := fragment_literal _ rfl rfl
  have hweight : Fragment "; font-weight: bold;" [] := fragment_literal _ rfl rfl
  exact fragment_styleRule (hclass.append hname) ((hproperty.append hname).append hweight)

theorem fragment_panelHead (summary : Summary) :
    Fragment (unlines (panelHead summary)) headTags := by
  have hdoctype : Fragment "<!DOCTYPE html>" ["!DOCTYPE html".toList] := fragment_literal _ rfl rfl
  have hhtml : Fragment "<html>" ["html".toList] := fragment_literal _ rfl rfl
  have hhead : Fragment "<head>" ["head".toList] := fragment_literal _ rfl rfl
  have hmeta : Fragment "<meta charset=\"utf-8\">" ["meta charset=\"utf-8\"".toList] :=
    fragment_literal _ rfl rfl
  have htitle : Fragment "<title>Listeners</title>" ["title".toList, "/title".toList] :=
    fragment_literal _ rfl rfl
  have hstyle : Fragment "<style>" ["style".toList] := fragment_literal _ rfl rfl
  have hstyleEnd : Fragment "</style>" ["/style".toList] := fragment_literal _ rfl rfl
  have hheadEnd : Fragment "</head>" ["/head".toList] := fragment_literal _ rfl rfl
  have hbody : Fragment "<body>" ["body".toList] := fragment_literal _ rfl rfl
  have hcount : Fragment (box "id=\"listener-count\"" (countText summary.rendered))
      ["div id=\"listener-count\"".toList, "/div".toList] :=
    fragment_box "id=\"listener-count\"" "div id=\"listener-count\"" (by decide) _ rfl rfl
      (fragment_countText summary.rendered)
  have hrules : Fragment (unlines (panelStyle ++ markStyle)) [] := by
    apply Markup.fragment_unlines_plain
    intro line hline
    rcases List.mem_append.mp hline with hline | hline
    · exact fragment_panelStyle hline
    · exact fragment_markStyle hline
  have hbefore := fragment_unlines_cons hdoctype (fragment_unlines_cons hhtml
    (fragment_unlines_cons hhead (fragment_unlines_cons hmeta (fragment_unlines_cons htitle
      (fragment_unlines_cons hstyle Markup.fragment_unlines_nil)))))
  have hafter := fragment_unlines_cons hstyleEnd (fragment_unlines_cons hheadEnd
    (fragment_unlines_cons hbody (fragment_unlines_cons hcount Markup.fragment_unlines_nil)))
  rw [panelHead, List.append_assoc _ panelStyle]
  exact fragment_unlines_append (fragment_unlines_append hbefore hrules) hafter

/-- The box of a source, collapsed or not, has the tags of its markup inside. -/
theorem fragment_sourceBox (truncated : Bool) {markup : String} {tags : List (List Char)}
    (hmarkup : Fragment markup tags) :
    Fragment
      (box (if truncated then "class=\"code-block truncated\"" else "class=\"code-block\"")
        ("<pre>" ++ markup ++ "</pre>"))
      ((if truncated then "div class=\"code-block truncated\""
        else "div class=\"code-block\"").toList ::
          ("pre".toList :: (tags ++ ["/pre".toList]) ++ ["/div".toList])) := by
  have hpre : Fragment "<pre>" ["pre".toList] := fragment_literal _ rfl rfl
  have hpreEnd : Fragment "</pre>" ["/pre".toList] := fragment_literal _ rfl rfl
  have hcontent := (hpre.append hmarkup).append hpreEnd
  cases truncated with
  | true => exact fragment_box _ _ (by decide) _ rfl rfl hcontent
  | false => exact fragment_box _ _ (by decide) _ rfl rfl hcontent

theorem fragment_panelEntry {e : Entry} {terms : List Term}
    (hmarkup : Fragment e.markup (terms.flatMap spanTags)) :
    Fragment (unlines (panelEntry e)) (boxTags ⟨e.truncated, terms⟩) := by
  have hitem : Fragment "<div class=\"listener-item\">" ["div class=\"listener-item\"".toList] :=
    fragment_literal _ rfl rfl
  have hheader : Fragment "  <div class=\"listener-header\">"
      ["div class=\"listener-header\"".toList] := fragment_literal _ rfl rfl
  have hindent : Fragment "    " [] := fragment_literal _ rfl rfl
  have hindex := hindent.append (fragment_box "class=\"index-number\""
    "div class=\"index-number\"" (by decide) _ rfl rfl (fragment_number e.index))
  have hdomain := hindent.append (fragment_box "class=\"domain-name\""
    "div class=\"domain-name\"" (by decide) _ rfl rfl (fragment_escaped e.domain))
  have hwindow := hindent.append (fragment_box "class=\"window-info\""
    "div class=\"window-info\"" (by decide) _ rfl rfl (fragment_escaped e.windowText))
  have hheaderEnd : Fragment "  </div>" ["/div".toList] := fragment_literal _ rfl rfl
  have hstep : Fragment "  " [] := fragment_literal _ rfl rfl
  have hstack := hstep.append (fragment_box "class=\"stack-trace\""
    "div class=\"stack-trace\"" (by decide) _ rfl rfl (fragment_escaped e.stack))
  have hsource := hstep.append (fragment_sourceBox e.truncated hmarkup)
  have hitemEnd : Fragment "</div>" ["/div".toList] := fragment_literal _ rfl rfl
  have h := fragment_unlines_cons hitem (fragment_unlines_cons hheader
    (fragment_unlines_cons hindex (fragment_unlines_cons hdomain (fragment_unlines_cons hwindow
      (fragment_unlines_cons hheaderEnd (fragment_unlines_cons hstack
        (fragment_unlines_cons hsource
          (fragment_unlines_cons hitemEnd Markup.fragment_unlines_nil))))))))
  unfold boxTags boxOpenTags boxEndTags tagList
  simp only [List.map_cons, List.map_nil, List.append_assoc, List.cons_append, List.nil_append,
    List.append_nil, -String.reduceToList] at h ⊢
  exact h

/-! ### The document -/

def entryBox (rules : RuleSet) (e : Entry) : Box where
  truncated := e.truncated
  terms := (Highlighter.ofRules rules).marked e.displayText.toList

theorem fragment_panel {rules : RuleSet} {review : Review}
    (h : ∀ e ∈ review.entries,
      e.markup = String.ofList ((Highlighter.ofRules rules).markup e.displayText.toList)) :
    Fragment (unlines (panel review)) (panelTags (review.entries.map (entryBox rules))) := by
  have hhead := fragment_panelHead review.summary
  have hempty : Fragment (unlines (if review.entries.isEmpty then panelEmpty else []))
      (if review.entries.isEmpty then emptyTags else []) := by
    have hnone : Fragment "No listeners detected" [] := fragment_literal _ rfl rfl
    have hbox := fragment_box "class=\"empty-state\"" "div class=\"empty-state\"" (by decide) _
      rfl rfl hnone
    cases review.entries.isEmpty with
    | true => exact fragment_unlines_cons hbox Markup.fragment_unlines_nil
    | false => exact Markup.fragment_unlines_nil
  have hentries : Fragment (unlines (review.entries.flatMap panelEntry))
      (review.entries.flatMap fun e => boxTags (entryBox rules e)) := by
    apply Markup.fragment_unlines_flatMap
    intro e he
    apply fragment_panelEntry
    rw [h e he]
    exact Highlighter.fragment_markup _ _
  have hbodyEnd : Fragment "</body>" ["/body".toList] := fragment_literal _ rfl rfl
  have hhtmlEnd : Fragment "</html>" ["/html".toList] := fragment_literal _ rfl rfl
  have hfoot := fragment_unlines_cons hbodyEnd
    (fragment_unlines_cons hhtmlEnd Markup.fragment_unlines_nil)
  rw [panelTags, List.flatMap_map, List.isEmpty_map]
  exact fragment_unlines_append
    (fragment_unlines_append (fragment_unlines_append hhead hempty) hentries) hfoot

theorem map_entryBox (settings : Settings) (rules : RuleSet) (listeners : List Listener) :
    (listeners.mapIdx (shownEntry settings rules)).map (entryBox rules) =
      listeners.map (shownBox settings rules) := by
  apply List.ext_getElem
  · simp
  · intro i hentry hlistener
    simp [entryBox, shownBox, shownEntry]

/-- **Nothing that comes from outside adds a tag to the panel.**  After any events, with whatever
    workers, the panel of a batch is a fragment whose tags are those of its boxes, and these depend
    on the listeners only through which boxes are collapsed and which terms are marked. The tags
    nest, there is one box for every listener, and the name of a category cannot end the attribute
    it stands in. -/
theorem panel_tags (fingerprint : Settings → UInt64) (settings : Settings) (rules : RuleSet)
    (workers : Nat) (events : List Session.Event) (pool : Pool) (listeners : List Listener)
    (printed : Settings) :
    let session := Session.after fingerprint settings rules workers events
    let boxes := listeners.map
      (shownBox (Session.settingsAfter settings events) (Session.rulesAfter rules events))
    (∃ review, (session.render (.ok pool) listeners).1 = .ok review ∧
        Fragment (text .panel printed review) (panelTags boxes)) ∧
      nest [] (panelTags boxes) = some [] ∧
      (panelTags boxes).count itemTag = listeners.length ∧
      ∀ box ∈ boxes, ∀ term ∈ box.terms,
        AmpersandsEscaped (Markup.escape term.category.toList) ∧
          ∀ c ∈ Markup.escape term.category.toList, Markup.isSpecial c = false := by
  intro session boxes
  obtain ⟨hsound, hsettings, hrules⟩ :=
    Session.sound_after fingerprint settings rules workers events
  have hentries := Session.entries_review hsound pool listeners
  rw [hsettings, hrules] at hentries
  have hmarkup : ∀ e ∈ (session.review pool listeners (session.layOut listeners).1).entries,
      e.markup = String.ofList
        ((Highlighter.ofRules (Session.rulesAfter rules events)).markup e.displayText.toList) := by
    intro e he
    rw [hentries] at he
    obtain ⟨i, hi, rfl⟩ := List.exists_of_mem_mapIdx he
    rfl
  have hpanel := fragment_panel hmarkup
  rw [hentries, map_entryBox] at hpanel
  refine ⟨⟨_, rfl, hpanel⟩, nest_panelTags boxes, ?_, ?_⟩
  · rw [count_panelTags, List.length_map]
  · intro box _ term _
    exact ⟨Markup.ampersandsEscaped_escape _, fun _ hc => Markup.isSpecial_escape hc⟩

end ListenerReview.Report
