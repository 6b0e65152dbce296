/-
  ListenerReview/Fault.lean
  =========================
  **Faults of a review** — everything that can keep the program from writing a
  report, as causes, and the one function that words them.

  Laying out, marking and reading rule text never fail; what can is handling files,
  reading JSON, the choice of options, and starting the workers that are to mark a
  batch.
-/
import ListenerReview.Files.Fault
import ListenerReview.Rules.Stored

namespace ListenerReview

/-- Why a JSON file could not be used: its bytes could not be read, or mean nothing. -/
inductive ContentFault where
  | file (fault : Files.OsFault)
  | json (fault : Json.Fault)
deriving DecidableEq, Repr

def ContentFault.message : ContentFault → String
  | .file fault => fault.message
  | .json fault => fault.message

/-- Why a step of a review failed. -/
inductive ReviewFault where
  | cannotOpen (path : String) (reason : Files.OsFault)
  | invalidRecords (path : String) (reason : ContentFault)
  | noThreads
  | formConflict
  | output (reason : Files.OsFault)
  | rulesUnreadable (reason : ContentFault)
  | rulesNotCreated (path : String) (reason : Files.OsFault)
  | rulesNotWritten (reason : Files.OsFault)
  | rulesVersion (found : Nat)
  /-- The workers that were to mark a batch could not be started. -/
  | noPool (reason : Files.OsFault)
deriving DecidableEq, Repr

def ReviewFault.message : ReviewFault → String
  | .cannotOpen path reason => "Cannot open file '" ++ path ++ "': " ++ reason.message
  | .invalidRecords path reason =>
    "Invalid listener records in '" ++ path ++ "': " ++ reason.message
  | .noThreads => "Invalid configuration: --threads must be at least 1"
  | .formConflict => "Output format conflict: specify only one of --json or --html"
  | .output reason => "I/O error: " ++ reason.message
  | .rulesUnreadable reason => "Rules error: Failed to parse rule set: " ++ reason.message
  | .rulesNotCreated path reason =>
    "Rules error: Failed to create rules file '" ++ path ++ "': " ++ reason.message
  | .rulesNotWritten reason => "Rules error: Failed to write rule set: " ++ reason.message
  | .rulesVersion found =>
    "Rule set version " ++ toString found ++ " is not supported (expected "
      ++ toString RuleSet.storedVersion ++ ")"
  | .noPool reason => "Failed to create thread pool: " ++ reason.message

end ListenerReview
