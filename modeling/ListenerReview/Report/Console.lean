/-
  ListenerReview/Report/Console.lean
  ==================================
  **The console report** — a review as plain text: a heading, the stack and the
  indented source of every listener, then the settings and the totals.
-/
import ListenerReview.Review
import ListenerReview.Settings

namespace ListenerReview.Report

def consoleEntry (e : Entry) : List String :=
  ["#" ++ toString e.index ++ " " ++ e.domain ++ "  " ++ e.windowText, "  " ++ e.stack, ""]
    ++ (Text.lines e.displayText.toList).map (fun line => "  " ++ String.ofList line)
    ++ [""]

/-- The lines about the settings. -/
def consoleSettings (settings : Settings) : List String :=
  ["Configuration:",
    "  Prettify: " ++ (if settings.prettify then "on" else "off"),
    "  Format size ceiling: " ++ toString settings.maxFormatUnits ++ " chars",
    ""]

def consoleSummary (settings : Settings) (s : Summary) : List String :=
  ["Summary:",
    "  Listeners rendered: " ++ toString s.rendered,
    "  Formatted: " ++ toString s.formatted,
    "  Skipped for size: " ++ toString s.skippedForSize,
    "  Truncated: " ++ toString s.truncated]
    ++ (if settings.prettify then ["  " ++ cacheText s.cacheHits s.cacheMisses] else [])

/-- The lines of the report. -/
def console (settings : Settings) (review : Review) : List String :=
  review.entries.flatMap consoleEntry ++ consoleSettings settings
    ++ consoleSummary settings review.summary

end ListenerReview.Report
