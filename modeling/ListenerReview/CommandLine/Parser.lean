/-
  ListenerReview/CommandLine/Parser.lean
  ======================================
  **Reading arguments** — from a list of arguments to options, one argument after
  the other from left to right.

  An option whose value is an argument of its own is settled only when the next
  argument is understood: an argument that is not understood at all is the fault
  that is reported, whatever was wrong with the value before it.
-/
import ListenerReview.CommandLine.Options

namespace ListenerReview.CommandLine

/-! ### Values -/

def numberLimit : Nat := Nat.pow 2 64 - 1

/-- The number that a value spells: decimal digits, a plus sign allowed before them. -/
def number? (value : List Char) : Option Nat :=
  let digits := match value with
    | '+' :: rest => rest
    | _ => value
  if digits.isEmpty || !digits.all Char.isDigit then none
  else
    let n := digits.foldl (fun n c => n * 10 + (c.toNat - '0'.toNat)) 0
    if n ≤ numberLimit then some n else none

/-! ### Drafts -/

/-- An option that waits to be settled, with its value if that has come. -/
structure Pending where
  option : ValueOption
  value : Option String
deriving DecidableEq, Repr

/-- The arguments taken in so far. -/
structure Draft where
  flags : List Flag
  files : List (FileOption × String)
  numbers : List (NumberOption × Nat)
  positional : List String
  pending : Option Pending
deriving DecidableEq, Repr

namespace Draft

def empty : Draft := ⟨[], [], [], [], none⟩

def setValue (draft : Draft) (option : ValueOption) (value : String) : Except Refusal Draft :=
  match option with
  | .file option =>
    if (draft.files.lookup option).isSome then .error (.usage .repeated)
    else if value.isEmpty then .error (.usage .noValue)
    else .ok { draft with files := (option, value) :: draft.files }
  | .number option =>
    if (draft.numbers.lookup option).isSome then .error (.usage .repeated)
    else match number? value.toList with
      | some n => .ok { draft with numbers := (option, n) :: draft.numbers }
      | none => .error (.usage .badNumber)

def settle (draft : Draft) : Except Refusal Draft :=
  match draft.pending with
  | none => .ok draft
  | some ⟨option, some value⟩ => { draft with pending := none }.setValue option value
  | some ⟨_, none⟩ => .error (.usage .noValue)

def setFlag (draft : Draft) (flag : Flag) : Except Refusal Draft := do
  let draft ← draft.settle
  if draft.flags.contains flag then .error (.usage .repeated)
  else .ok { draft with flags := flag :: draft.flags }

/-- Takes in an option whose value is the next argument. -/
def awaitValue (draft : Draft) (option : ValueOption) : Except Refusal Draft := do
  let draft ← draft.settle
  .ok { draft with pending := some ⟨option, none⟩ }

/-- Takes in an option together with its value. -/
def attachValue (draft : Draft) (option : ValueOption) (value : String) : Except Refusal Draft := do
  let draft ← draft.settle
  draft.setValue option value

/-- Shows a text instead of reading on. -/
def answer (draft : Draft) (refusal : Refusal) : Except Refusal Draft := do
  let _ ← draft.settle
  .error refusal

/-- The program takes an input and an output. -/
def positionalLimit : Nat := 2

/-- Takes in a positional argument. -/
def addPositional (draft : Draft) (argument : String) : Except Refusal Draft :=
  if positionalLimit ≤ draft.positional.length then .error (.usage .unknownArgument)
  else do
    let draft ← draft.settle
    .ok { draft with positional := draft.positional ++ [argument] }

/-! ### Switches -/

/-- The parts of an argument before and after its first equals sign. -/
def splitEquals (argument : List Char) : List Char × Option (List Char) :=
  let name := argument.takeWhile (· ≠ '=')
  match argument.drop name.length with
  | [] => (name, none)
  | _ :: value => (name, some value)

/-- Takes in an argument that starts with two hyphens, which are left out here. -/
def takeLong (draft : Draft) (argument : List Char) : Except Refusal Draft :=
  let (name, value) := splitEquals argument
  match longNames.lookup (String.ofList name), value with
  | none, _ => .error (.usage .unknownArgument)
  | some (.value option), some value => draft.attachValue option (String.ofList value)
  | some (.value option), none => draft.awaitValue option
  | some _, some _ => .error (.usage .unexpectedValue)
  | some (.flag flag), none => draft.setFlag flag
  | some .help, none => draft.answer .help
  | some .version, none => draft.answer .version

/-- Takes in an argument of short switches, whose hyphen is left out here. What follows a switch
    with a value in the same argument is its value, an equals sign before it left out. -/
def takeShort (draft : Draft) : List Char → Except Refusal Draft
  | [] => .ok draft
  | c :: rest =>
    match shortNames.lookup c with
    | none => .error (.usage .unknownArgument)
    | some (.flag flag) =>
      match draft.setFlag flag with
      | .ok draft => draft.takeShort rest
      | .error refusal => .error refusal
    | some .help => draft.answer .help
    | some .version => draft.answer .version
    | some (.value option) =>
      match rest with
      | [] => draft.awaitValue option
      | '=' :: value => draft.attachValue option (String.ofList value)
      | value => draft.attachValue option (String.ofList value)

/-- Takes in an argument that is no switch: a value that is waited for, or a positional one. -/
def takePlain (draft : Draft) (argument : String) : Except Refusal Draft :=
  match draft.pending with
  | some ⟨option, none⟩ => .ok { draft with pending := some ⟨option, some argument⟩ }
  | _ => draft.addPositional argument

/-- Takes in arguments after two lone hyphens: all of them are positional. -/
def takePositional (draft : Draft) : List String → Except Refusal Draft
  | [] => .ok draft
  | argument :: arguments =>
    match draft.addPositional argument with
    | .ok draft => draft.takePositional arguments
    | .error refusal => .error refusal

/-- Takes in an argument other than two lone hyphens. A lone hyphen is no switch. -/
def take (draft : Draft) (argument : String) : Except Refusal Draft :=
  match argument.toList with
  | ['-'] => draft.takePlain argument
  | '-' :: '-' :: name => draft.takeLong name
  | '-' :: names => draft.takeShort names
  | _ => draft.takePlain argument

def takeAll (draft : Draft) : List String → Except Refusal Draft
  | [] => .ok draft
  | argument :: arguments =>
    if argument = "--" then draft.takePositional arguments
    else match draft.take argument with
      | .ok draft => draft.takeAll arguments
      | .error refusal => .error refusal

/-! ### Options -/

def spaces (n : Nat) : String := String.ofList (List.replicate n ' ')

/-- The settings that the arguments ask for. -/
def settings (draft : Draft) : Settings :=
  let number (option : NumberOption) (standard : Nat) := (draft.numbers.lookup option).getD standard
  { indentUnit := spaces (number .indent 4)
    cacheCapacity := number .cacheSize Settings.standard.cacheCapacity
    maxFormatUnits := number .maxFormatSize Settings.standard.maxFormatUnits
    prettify := draft.flags.contains .prettify
    expandThreshold := number .expandThreshold Settings.standard.expandThreshold
    maxLines := number .maxLines Settings.standard.maxLines }

def form (draft : Draft) : ReportForm :=
  if draft.flags.contains .json then .structured
  else if draft.flags.contains .html then .panel
  else .console

/-- The options that settled arguments amount to: two forms of report exclude each other, and work
    needs a thread. -/
def options (draft : Draft) (input output : String) : Except ReviewFault Options :=
  let threads := draft.numbers.lookup .threads
  if draft.flags.contains .json && draft.flags.contains .html then .error .formConflict
  else if threads = some 0 then .error .noThreads
  else .ok
    { settings := draft.settings
      threads := threads
      form := draft.form
      input := input
      output := output
      rules := draft.files.lookup .rules
      saveRules := draft.files.lookup .saveRules
      quiet := draft.flags.contains .quiet
      verbose := draft.flags.contains .verbose }

end Draft

/-- Standard input and output, where a file could be named. -/
def standardStream : String := "-"

def parse (arguments : List String) : Except Refusal Options := do
  let draft ← Draft.empty.takeAll arguments
  let draft ← draft.settle
  let finish (input output : String) : Except Refusal Options :=
    match draft.options input output with
    | .ok options => .ok options
    | .error fault => .error (.configuration fault)
  match draft.positional with
  | [] => .error (.usage .missingInput)
  | [input] => finish input standardStream
  | input :: output :: _ => finish input output

end ListenerReview.CommandLine
