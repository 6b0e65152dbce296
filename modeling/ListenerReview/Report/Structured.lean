/-
  ListenerReview/Report/Structured.lean
  =====================================
  **The structured report** — a review as one JSON document: the entries with all
  that is known of them, the totals, and the settings that shaped the source.
-/
import ListenerReview.Json.Value
import ListenerReview.Review
import ListenerReview.Settings

namespace ListenerReview

def Entry.toJson (e : Entry) : Json :=
  .object
    [("index", .ofNat e.index), ("domain", .string e.domain), ("window_text", .string e.windowText),
      ("stack", .string e.stack), ("source", .string e.source),
      ("display_text", .string e.displayText), ("markup", .string e.markup),
      ("truncated", .bool e.truncated), ("formatted", .bool e.formatted),
      ("skipped_for_size", .bool e.skippedForSize)]

def Summary.toJson (s : Summary) : Json :=
  .object
    [("listeners_rendered", .ofNat s.rendered), ("formatted", .ofNat s.formatted),
      ("skipped_for_size", .ofNat s.skippedForSize), ("truncated", .ofNat s.truncated),
      ("cache_hits", .ofNat s.cacheHits), ("cache_misses", .ofNat s.cacheMisses)]

/-- The settings in JSON, as far as they shape the source. -/
def Settings.toJson (settings : Settings) : Json :=
  .object
    [("prettify", .bool settings.prettify), ("indent_width", .ofNat settings.indentUnit.length),
      ("max_format_chars", .ofNat settings.maxFormatUnits)]

namespace Report

def structuredJson (settings : Settings) (review : Review) : Json :=
  .object
    [("listeners", .array (review.entries.map Entry.toJson)),
      ("summary", review.summary.toJson), ("settings", settings.toJson)]

/-- The lines of the report: the document, with line breaks of its own. -/
def structured (settings : Settings) (review : Review) : List String :=
  [(structuredJson settings review).prettyText]

end Report

end ListenerReview
