/-
  ListenerReview/Report/Panel.lean
  ================================
  **The panel** — a review as an HTML document that needs no other file: a count,
  and a box for every listener with its place, its stack and its marked source.

  Everything that comes from a capture is escaped where it is put into the document;
  the markup of the source is escaped already.
-/
import ListenerReview.Markup.Escape
import ListenerReview.Review

namespace ListenerReview.Report

/-- Categories that are named after a colour are shown in it. -/
def panelColours : List String :=
  ["red", "orange", "yellow", "green", "blue", "purple", "pink", "cyan", "gray"]

def styleRule (selector declarations : String) : String :=
  selector ++ " \x7b " ++ declarations ++ " \x7d"

def panelStyle : List String :=
  [styleRule "body" "font-family: sans-serif; margin: 1em;",
    styleRule ".listener-item" "border: 1px solid #ccc; border-radius: 4px; margin-bottom: 1em;",
    styleRule ".listener-header" "display: flex; gap: 1em; padding: 0.5em; background: #f4f4f4;",
    styleRule ".index-number" "font-weight: bold;",
    styleRule ".stack-trace" "padding: 0.25em 0.5em; color: #666; font-size: 0.9em;",
    styleRule ".code-block pre" "margin: 0; padding: 0.5em; white-space: pre-wrap;",
    styleRule ".code-block.truncated pre" "max-height: 12em; overflow: hidden;"]

def markStyle : List String :=
  panelColours.map fun colour =>
    styleRule (".highlight-" ++ colour) ("color: " ++ colour ++ "; font-weight: bold;")

/-- A text escaped for the document. -/
def escaped (text : String) : String := String.ofList (Markup.escape text.toList)

/-- A box with attributes and content. -/
def box (attributes content : String) : String :=
  "<div " ++ attributes ++ ">" ++ content ++ "</div>"

def panelEntry (e : Entry) : List String :=
  ["<div class=\"listener-item\">",
    "  <div class=\"listener-header\">",
    "    " ++ box "class=\"index-number\"" (toString e.index),
    "    " ++ box "class=\"domain-name\"" (escaped e.domain),
    "    " ++ box "class=\"window-info\"" (escaped e.windowText),
    "  </div>",
    "  " ++ box "class=\"stack-trace\"" (escaped e.stack),
    "  " ++ box (if e.truncated then "class=\"code-block truncated\"" else "class=\"code-block\"")
      ("<pre>" ++ e.markup ++ "</pre>"),
    "</div>"]

/-- The count of listeners in words. -/
def countText (n : Nat) : String := toString n ++ " listener" ++ (if n = 1 then "" else "s")

def panelHead (summary : Summary) : List String :=
  ["<!DOCTYPE html>", "<html>", "<head>", "<meta charset=\"utf-8\">", "<title>Listeners</title>",
    "<style>"]
    ++ panelStyle ++ markStyle
    ++ ["</style>", "</head>", "<body>",
      box "id=\"listener-count\"" (countText summary.rendered)]

def panelEmpty : List String := [box "class=\"empty-state\"" "No listeners detected"]

/-- The lines of the document. -/
def panel (review : Review) : List String :=
  panelHead review.summary
    ++ (if review.entries.isEmpty then panelEmpty else [])
    ++ review.entries.flatMap panelEntry
    ++ ["</body>", "</html>"]

end ListenerReview.Report
