/-
  ListenerReview/Proofs/Report/Decoded.lean
  =========================================
  **The structured report loses nothing** — what is read from the text of a report is
  the review it was written from, with the settings that shaped it.

  `Contents` is what a reader takes from a report.  It is found in the JSON value
  member by member (`Contents.ofJson?`), so that no member stands in for another one,
  and the value is read from the text as it was written (`Json.reads_json`).  The
  numbers of a report are counts and sizes on a machine of 64 bits (`numbers`), which
  is as far as JSON readers keep numbers exact.
-/
import Mathlib
import ListenerReview.Proofs.Json.Values
import ListenerReview.Report

namespace ListenerReview

open Json

/-! ### What a reader takes from a report -/

/-- A member of an object, as far as it has the form that is looked for. -/
def Json.field? {α : Type} (read : Json → Option α) (name : String) (value : Json) : Option α :=
  (value.member? name).bind read

def Entry.ofJson? (value : Json) : Option Entry := do
  let index ← value.field? nat? "index"
  let domain ← value.field? string? "domain"
  let windowText ← value.field? string? "window_text"
  let stack ← value.field? string? "stack"
  let source ← value.field? string? "source"
  let displayText ← value.field? string? "display_text"
  let markup ← value.field? string? "markup"
  let truncated ← value.field? bool? "truncated"
  let formatted ← value.field? bool? "formatted"
  let skippedForSize ← value.field? bool? "skipped_for_size"
  return { index, domain, windowText, stack, source, displayText, markup, truncated, formatted,
           skippedForSize }

def Summary.ofJson? (value : Json) : Option Summary := do
  let rendered ← value.field? nat? "listeners_rendered"
  let formatted ← value.field? nat? "formatted"
  let skippedForSize ← value.field? nat? "skipped_for_size"
  let truncated ← value.field? nat? "truncated"
  let cacheHits ← value.field? nat? "cache_hits"
  let cacheMisses ← value.field? nat? "cache_misses"
  return { rendered, formatted, skippedForSize, truncated, cacheHits, cacheMisses }

namespace Report

/-- What a report says of the settings. -/
structure Shaping where
  prettify : Bool
  /-- The number of characters of the indent unit. -/
  indentWidth : Nat
  maxFormatUnits : Nat
deriving DecidableEq, Repr

def Shaping.ofJson? (value : Json) : Option Shaping := do
  let prettify ← value.field? bool? "prettify"
  let indentWidth ← value.field? nat? "indent_width"
  let maxFormatUnits ← value.field? nat? "max_format_chars"
  return { prettify, indentWidth, maxFormatUnits }

/-- What a report says. -/
structure Contents where
  entries : List Entry
  summary : Summary
  shaping : Shaping
deriving DecidableEq, Repr

def Contents.ofJson? (value : Json) : Option Contents := do
  let items ← value.field? items? "listeners"
  let entries ← items.mapM Entry.ofJson?
  let summary ← value.field? Summary.ofJson? "summary"
  let shaping ← value.field? Shaping.ofJson? "settings"
  return { entries, summary, shaping }

end Report

/-! ### Values taken apart -/

theorem Json.nat?_ofNat (n : Nat) : (ofNat n).nat? = some n := Nat.toNat?_repr n

theorem Json.field?_ofNat {value : Json} {name : String} {n : Nat}
    (h : value.member? name = some (ofNat n)) : value.field? nat? name = some n := by
  rw [field?, h]
  exact nat?_ofNat n

theorem Entry.ofJson?_toJson (e : Entry) : ofJson? e.toJson = some e := by
  have hindex : e.toJson.field? nat? "index" = some e.index := field?_ofNat rfl
  rw [ofJson?, hindex]
  rfl

theorem Summary.ofJson?_toJson (s : Summary) : ofJson? s.toJson = some s := by
  have hnat {name : String} {n : Nat} (h : s.toJson.member? name = some (ofNat n)) :
      s.toJson.field? nat? name = some n := field?_ofNat h
  rw [ofJson?, @hnat _ s.rendered rfl, @hnat _ s.formatted rfl, @hnat _ s.skippedForSize rfl,
    @hnat _ s.truncated rfl, @hnat _ s.cacheHits rfl, @hnat _ s.cacheMisses rfl]
  rfl

theorem Entry.mapM_ofJson? (entries : List Entry) :
    (entries.map toJson).mapM ofJson? = some entries := by
  induction entries with
  | nil => rfl
  | cons e entries ih =>
    rw [List.map_cons, List.mapM_cons, ofJson?_toJson, ih]
    rfl

namespace Report

variable (settings : Settings) (review : Review)

theorem ofJson?_settings :
    Shaping.ofJson? settings.toJson =
      some ⟨settings.prettify, settings.indentUnit.length, settings.maxFormatUnits⟩ := by
  have hwidth : settings.toJson.field? nat? "indent_width" = some settings.indentUnit.length :=
    field?_ofNat rfl
  have hunits : settings.toJson.field? nat? "max_format_chars" = some settings.maxFormatUnits :=
    field?_ofNat rfl
  rw [Shaping.ofJson?, hwidth, hunits]
  rfl

theorem ofJson?_structuredJson :
    Contents.ofJson? (structuredJson settings review) =
      some ⟨review.entries, review.summary,
        ⟨settings.prettify, settings.indentUnit.length, settings.maxFormatUnits⟩⟩ := by
  have hitems : (structuredJson settings review).field? items? "listeners" =
      some (review.entries.map Entry.toJson) := rfl
  have hsummary : (structuredJson settings review).field? Summary.ofJson? "summary" =
      some review.summary := review.summary.ofJson?_toJson
  have hsettings : (structuredJson settings review).field? Shaping.ofJson? "settings" =
      some ⟨settings.prettify, settings.indentUnit.length, settings.maxFormatUnits⟩ :=
    ofJson?_settings settings
  rw [Contents.ofJson?, hitems, hsummary, hsettings]
  simp only [Option.bind_eq_bind, Option.bind_some, Entry.mapM_ofJson?]
  rfl

/-! ### Numbers of a report -/

/-- The numbers that a report writes. -/
def numbers : List Nat :=
  review.entries.map Entry.index ++
    [review.summary.rendered, review.summary.formatted, review.summary.skippedForSize,
      review.summary.truncated, review.summary.cacheHits, review.summary.cacheMisses] ++
    [settings.indentUnit.length, settings.maxFormatUnits]

variable {settings review}

theorem fits_entry {e : Entry} (h : e.index < 2 ^ 64) : e.toJson.Fits := by
  refine .object ?_
  simp [fits_ofNat h, Fits.string, Fits.bool]

theorem fits_structuredJson (h : ∀ n ∈ numbers settings review, n < 2 ^ 64) :
    (structuredJson settings review).Fits := by
  simp only [numbers, List.forall_mem_append, List.forall_mem_cons, List.forall_mem_map] at h
  obtain ⟨⟨hindex, hrendered, hformatted, hskipped, htruncated, hhits, hmisses, -⟩, hwidth, hunits,
    -⟩ := h
  have hentries : (Json.array (review.entries.map Entry.toJson)).Fits := by
    refine .array ?_
    intro item hitem
    obtain ⟨e, he, rfl⟩ := List.mem_map.mp hitem
    exact fits_entry (hindex e he)
  have hsummary : review.summary.toJson.Fits := by
    refine .object ?_
    simp [fits_ofNat hrendered, fits_ofNat hformatted, fits_ofNat hskipped,
      fits_ofNat htruncated, fits_ofNat hhits, fits_ofNat hmisses]
  have hsettings : settings.toJson.Fits := by
    refine .object ?_
    simp [fits_ofNat hwidth, fits_ofNat hunits, Fits.bool]
  refine .object ?_
  simp [hentries, hsummary, hsettings]

/-! ### The text of a report -/

theorem text_structured :
    text .structured settings review = (structuredJson settings review).prettyText ++ "\n" := by
  simp [text, parts, lines, structured]

/-- The document of a report is read as it was written, with and without the line feed after it. -/
theorem readAll_structuredJson (h : ∀ n ∈ numbers settings review, n < 2 ^ 64) :
    readAll json (bytesOf (structuredJson settings review).prettyText) =
        .ok (structuredJson settings review) ∧
      readAll json (bytesOf (text .structured settings review)) =
        .ok (structuredJson settings review) := by
  have hread : Reads json (utf8 ((structuredJson settings review).text .pretty 0))
      (structuredJson settings review) := reads_json spaced_pretty (fits_structuredJson h)
  constructor
  · rw [prettyText, bytesOf_ofList]
    exact readAll_of_reads hread
  · have hfeed : IsGap ['\n'] := isGap_newline 0
    have htext : text .structured settings review =
        String.ofList ((structuredJson settings review).text .pretty 0 ++ ['\n']) := by
      rw [text_structured, prettyText, String.ofList_append]
    rw [htext, bytesOf_ofList, utf8_append]
    exact readAll_gap hread hfeed

/-- **A structured report is one JSON document and a line feed, and what is read from it is the
    review, entry by entry, its totals, and the settings that shaped it.**  Its numbers are machine
    words. -/
theorem structured_lossless (settings : Settings) (review : Review)
    (h : ∀ n ∈ numbers settings review, n < 2 ^ 64) :
    ∃ document value,
      text .structured settings review = document ++ "\n" ∧
      readAll json (bytesOf document) = .ok value ∧
      readAll json (bytesOf (text .structured settings review)) = .ok value ∧
      Contents.ofJson? value = some ⟨review.entries, review.summary,
        ⟨settings.prettify, settings.indentUnit.length, settings.maxFormatUnits⟩⟩ := by
  obtain ⟨hdocument, hwhole⟩ := readAll_structuredJson h
  exact ⟨_, _, text_structured, hdocument, hwhole, ofJson?_structuredJson settings review⟩

/-- A review of one entry, whose strings hold what has to be escaped and what must not be. -/
def escapesReview : Review where
  entries := [
    ⟨1, "a\"b\\c/d", "\t\r\n", "\x01\x1f\x7f", "\u2028", "\u2029\n", "<b>😀é</b>", false,
      true, false⟩]
  summary := ⟨1, 1, 0, 0, 0, 1⟩

theorem structured_lossless_escapes :
    (∀ n ∈ numbers .standard escapesReview, n < 2 ^ 64) ∧
      ∃ document value,
        text .structured .standard escapesReview = document ++ "\n" ∧
        readAll json (bytesOf document) = .ok value ∧
        readAll json (bytesOf (text .structured .standard escapesReview)) = .ok value ∧
        Contents.ofJson? value =
          some ⟨escapesReview.entries, escapesReview.summary, ⟨false, 4, 10000⟩⟩ := by
  have h : ∀ n ∈ numbers .standard escapesReview, n < 2 ^ 64 := by decide
  exact ⟨h, structured_lossless .standard escapesReview h⟩

end Report

end ListenerReview
