/-
  ListenerReview/CommandLine/Options.lean
  =======================================
  **Options** — what the arguments of the program amount to, the switches that set
  them, and the text that explains them.
-/
import ListenerReview.CommandLine.Fault
import ListenerReview.Fault
import ListenerReview.Report

namespace ListenerReview

/-- What a run of the program is asked to do. -/
structure Options where
  settings : Settings
  /-- How many threads mark terms, if that is asked for. -/
  threads : Option Nat
  form : ReportForm
  input : String
  output : String
  rules : Option String
  saveRules : Option String
  quiet : Bool
  verbose : Bool
deriving DecidableEq, Repr

namespace CommandLine

/-! ### Switches -/

inductive Flag where
  | prettify
  | json
  | html
  | quiet
  | verbose
deriving DecidableEq, Repr

/-- Switches that take the name of a file. -/
inductive FileOption where
  | rules
  | saveRules
deriving DecidableEq, Repr

/-- Switches that take a number. -/
inductive NumberOption where
  | indent
  | cacheSize
  | maxFormatSize
  | expandThreshold
  | maxLines
  | threads
deriving DecidableEq, Repr

/-- Switches that take a value. -/
inductive ValueOption where
  | file (option : FileOption)
  | number (option : NumberOption)
deriving DecidableEq, Repr

/-- What a switch does: it shows a text and ends the program, or sets a flag or a value. -/
inductive Switch where
  | help
  | version
  | flag (flag : Flag)
  | value (option : ValueOption)
deriving DecidableEq, Repr

def longNames : List (String × Switch) :=
  [("rules", .value (.file .rules)), ("save-rules", .value (.file .saveRules)),
    ("prettify", .flag .prettify), ("indent", .value (.number .indent)),
    ("cache-size", .value (.number .cacheSize)),
    ("max-format-size", .value (.number .maxFormatSize)),
    ("expand-threshold", .value (.number .expandThreshold)),
    ("max-lines", .value (.number .maxLines)), ("threads", .value (.number .threads)),
    ("json", .flag .json), ("html", .flag .html), ("quiet", .flag .quiet),
    ("verbose", .flag .verbose), ("help", .help), ("version", .version)]

def shortNames : List (Char × Switch) :=
  [('r', .value (.file .rules)), ('j', .value (.number .threads)), ('q', .flag .quiet),
    ('v', .flag .verbose), ('h', .help), ('V', .version)]

/-! ### Texts -/

def helpText : String := String.join <| List.map (· ++ "\n") <|
  ["Reformat and highlight captured event-listener source",
    "",
    "Usage: listener-lens [OPTIONS] <INPUT> [OUTPUT]",
    "",
    "Arguments:",
    "  <INPUT>   JSON file containing an array of listener records Use \"-\" to read from stdin",
    "  [OUTPUT]  Output file for results (use \"-\" for stdout) [default: -]",
    "",
    "Options:",
    "  -r, --rules <FILE>          Highlight rules: rule-definition text, or a saved rule set (.json)",
    "      --save-rules <FILE>     Save the active rule set as JSON",
    "      --prettify              Reformat listener source before highlighting",
    "      --indent <N>            Spaces per indent level when reformatting [default: 4]",
    "      --cache-size <N>        Maximum number of formatted results to cache (0 disables caching) [default: 100]",
    "      --max-format-size <N>   Sources longer than N characters are not reformatted [default: 10000]",
    "      --expand-threshold <N>  Collapse code blocks longer than N characters [default: 1000]",
    "      --max-lines <N>         Collapse code blocks with more than N lines [default: 15]",
    "  -j, --threads <N>           Number of threads for parallel highlighting",
    "      --json                  Output in JSON format",
    "      --html                  Output an HTML review panel",
    "  -q, --quiet                 Suppress progress messages",
    "  -v, --verbose               Show debug diagnostics",
    "  -h, --help                  Print help",
    "  -V, --version               Print version"]

def versionText : String := "listener-lens 0.1.0\n"

/-! ### The outcome of parsing -/

/-- Why arguments give no options. -/
inductive Refusal where
  | usage (fault : UsageFault)
  | help
  | version
  | configuration (fault : ReviewFault)
deriving DecidableEq, Repr

end CommandLine

end ListenerReview
