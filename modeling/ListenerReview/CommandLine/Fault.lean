/-
  ListenerReview/CommandLine/Fault.lean
  =====================================
  **Faults of arguments** — why a list of arguments makes no sense to the program.
-/

namespace ListenerReview.CommandLine

/-- Why arguments make no sense. -/
inductive UsageFault where
  /-- An option that does not exist, or one positional argument too many. -/
  | unknownArgument
  | missingInput
  | repeated
  | noValue
  /-- A value is no number of 64 bits. -/
  | badNumber
  | unexpectedValue
deriving DecidableEq, Repr

def UsageFault.message : UsageFault → String
  | .unknownArgument => "unexpected argument"
  | .missingInput => "the required argument <INPUT> was not provided"
  | .repeated => "an argument cannot be used multiple times"
  | .noValue => "a value is required but none was supplied"
  | .badNumber => "invalid value for an option"
  | .unexpectedValue => "unexpected value for an option"

end ListenerReview.CommandLine
