/-
  ListenerReview/Report.lean
  ==========================
  **Reports** — the three forms in which a review is written.
-/
import ListenerReview.Report.Console
import ListenerReview.Report.Panel
import ListenerReview.Report.Structured

namespace ListenerReview

inductive ReportForm where
  | console
  | structured
  | panel
deriving DecidableEq, Repr

namespace Report

/-- The lines of a review in the given form. -/
def lines (form : ReportForm) (settings : Settings) (review : Review) : List String :=
  match form with
  | .console => console settings review
  | .structured => structured settings review
  | .panel => panel review

/-- The parts in which a report is written: every line, and the line feed after it. -/
def parts (form : ReportForm) (settings : Settings) (review : Review) : List String :=
  (lines form settings review).flatMap fun line => [line, "\n"]

def text (form : ReportForm) (settings : Settings) (review : Review) : String :=
  String.join (parts form settings review)

end Report

end ListenerReview
