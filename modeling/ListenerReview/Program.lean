/-
  ListenerReview/Program.lean
  ===========================
  **The program** — from arguments to a report: loading rules, saving them if that
  is asked for, loading records, rendering, and writing the report.

  The steps follow each other, and the first that fails says why and ends the run.
  Nothing is written before rules are loaded, and the output is not opened before
  everything has been rendered, which takes workers that could be started.  Saving
  rules ends when all of their text has been handed to the buffer: what the last write
  does with it is not looked at.

  Saying something comes with the rest of the run (`sayThen`), which is not gone on with
  if the message is refused.  Only a complaint about the arguments does not mind.
-/
import ListenerReview.CommandLine.Parser
import ListenerReview.Files.Buffer
import ListenerReview.Host
import ListenerReview.Report
import ListenerReview.Rules.Source
import ListenerReview.Session

namespace ListenerReview

open Files (Bytes Buffer OsFault)

namespace Program

variable {m : Type → Type} [Monad m]

/-! ### Reading -/

/-- The last name of a path that is neither empty nor a dot. -/
def lastName (path : String) : List Char :=
  (((path.toList.splitOn '/').filter fun name => name ≠ [] ∧ name ≠ ['.']).getLast?).getD []

/-- What follows the last dot of a path's last name, if something precedes that dot. -/
def extension? (path : String) : Option (List Char) :=
  let name := lastName path
  let extension := (name.reverse.takeWhile (· ≠ '.')).reverse
  if name = ['.', '.'] ∨ name.length ≤ extension.length + 1 then none else some extension

/-- Whether a path names a stored rule set: its extension is `json` in any case. -/
def isStored (path : String) : Bool :=
  match extension? path with
  | some extension => extension.map Char.toLower = "json".toList
  | none => false

/-- The rule set in the bytes of a rules file. -/
def rulesOfBytes (path : String) (bytes : Bytes) : Except ReviewFault RuleSet :=
  if isStored path then
    match RuleSet.ofStored bytes with
    | .ok rules => .ok rules
    | .error (.unreadable fault) => .error (.rulesUnreadable (.json fault))
    | .error (.version found) => .error (.rulesVersion found)
  else match Json.textOfBytes? bytes with
    | some text => .ok (RuleSet.ofText text)
    | none => .error (.cannotOpen path .notText)

/-- Loads a rule set: stored if the path says so, else rule text. -/
def loadRules (host : Host m) (path : String) : m (Except ReviewFault RuleSet) := do
  match ← host.readFile path with
  | .ok bytes => return rulesOfBytes path bytes
  | .error (.opening fault) => return .error (.cannotOpen path fault)
  | .error (.reading fault) =>
    return .error (if isStored path then .rulesUnreadable (.file fault) else .cannotOpen path fault)

/-- The records in the bytes of a records file. -/
def recordsOfBytes (path : String) (bytes : Bytes) : Except ReviewFault (List Listener) :=
  match Listener.listOfJson bytes with
  | .ok listeners => .ok listeners
  | .error fault => .error (.invalidRecords path (.json fault))

/-- Loads records from a file or the standard input. -/
def loadRecords (host : Host m) (path : String) : m (Except ReviewFault (List Listener)) := do
  if path = CommandLine.standardStream then
    match ← host.readInput with
    | .ok bytes => return recordsOfBytes path bytes
    | .error fault => return .error (.invalidRecords path (.file fault))
  else match ← host.readFile path with
    | .ok bytes => return recordsOfBytes path bytes
    | .error (.opening fault) => return .error (.cannotOpen path fault)
    | .error (.reading fault) => return .error (.invalidRecords path (.file fault))

/-! ### Writing -/

/-- Makes writes in order, up to the first that fails. -/
def writeAll (host : Host m) (sink : host.Sink) : List Bytes → m (Except OsFault Unit)
  | [] => return .ok ()
  | bytes :: others => do
    match ← host.write sink bytes with
    | .ok () => writeAll host sink others
    | .error fault => return .error fault

/-- Hands parts to a buffer and makes the writes that they cause: the buffer afterwards. -/
def writeParts (host : Host m) (sink : host.Sink) (buffer : Buffer) :
    List Bytes → m (Except OsFault Buffer)
  | [] => return .ok buffer
  | part :: parts => do
    let (writes, buffer) := buffer.push part
    match ← writeAll host sink writes with
    | .ok () => writeParts host sink buffer parts
    | .error fault => return .error fault

/-- Saves a rule set in its stored form, part by part through a buffer. -/
def saveRules (host : Host m) (rules : RuleSet) (path : String) : m (Except ReviewFault Unit) := do
  match ← host.create path with
  | .error fault => return .error (.rulesNotCreated path fault)
  | .ok sink =>
    match ← writeParts host sink .empty
      (host.cutting.parts (Json.bytesOf rules.toStored.prettyText)) with
    | .error fault => return .error (.rulesNotWritten fault)
    | .ok buffer =>
      let _ ← writeAll host sink buffer.rest
      return .ok ()

/-- Where delivering an output failed. -/
inductive DeliveryFault where
  | creating (fault : OsFault)
  | writing (fault : OsFault)
  | flushing (fault : OsFault)
deriving DecidableEq, Repr

/-- Opens an output: a file, or the standard output. -/
def openOutput (host : Host m) (path : String) : m (Except OsFault host.Sink) :=
  if path = CommandLine.standardStream then return .ok host.output else host.create path

/-- Opens an output, writes parts to it through a buffer, and writes what is left in the buffer. -/
def deliver (host : Host m) (path : String) (parts : List String) :
    m (Except DeliveryFault Unit) := do
  match ← openOutput host path with
  | .error fault => return .error (.creating fault)
  | .ok sink =>
    match ← writeParts host sink .empty (parts.map Json.bytesOf) with
    | .error fault => return .error (.writing fault)
    | .ok buffer =>
      match ← writeAll host sink buffer.rest with
      | .error fault => return .error (.flushing fault)
      | .ok () => return .ok ()

/-- What is said about a failed delivery. -/
def DeliveryFault.message : DeliveryFault → String
  | .creating fault => "Error creating output: " ++ (ReviewFault.output fault).message
  | .writing fault => "Error writing output: " ++ (ReviewFault.output fault).message
  | .flushing fault => "Error flushing output: " ++ fault.message

/-! ### Saying -/

/-- How the run ends: well, because a step failed, or because a message was refused. -/
def succeeded : UInt32 := 0

def failed : UInt32 := 2

def cutShort : UInt32 := 101

/-- Says something and goes on, unless the message is refused. -/
def sayThen (host : Host m) (message : Message) (next : m UInt32) : m UInt32 := do
  match ← host.say message with
  | .ok () => next
  | .error _ => return cutShort

/-- Says why a step failed and ends the run. -/
def fail (host : Host m) (text : String) : m UInt32 :=
  sayThen host (.failure text) (return failed)

/-- Reports that a step succeeded, unless the run is quiet, and goes on. -/
def progress (host : Host m) (options : Options) (text : String) (next : m UInt32) : m UInt32 :=
  if options.quiet then next else sayThen host (.progress text) next

/-- Whether a note is shown by a log that is not set from outside. -/
def showsNote (options : Options) : Message → Bool
  | .detail _ => options.verbose
  | _ => true

/-- Says a note, if the log shows it, and goes on. -/
def note (host : Host m) (options : Options) (message : Message) (next : m UInt32) : m UInt32 :=
  if (host.logFilter.getD (showsNote options)) message then sayThen host message next else next

/-- A notice of the formatter in words. -/
def noticeText : Notice → String
  | .skipped units ceiling =>
    "skipping formatting for large code block units=" ++ toString units
      ++ " max=" ++ toString ceiling
  | .evicted bytes => "evicted oldest format cache entry chars=" ++ toString bytes

/-- Says a notice of the formatter, if the log shows it, and goes on. -/
def tell (host : Host m) (options : Options) (notice : Notice) (next : m UInt32) : m UInt32 :=
  note host options (.detail (noticeText notice)) next

/-! ### Steps -/

/-- Writes the report on a review, or says why there is no review. -/
def publish (host : Host m) (options : Options) : Except ReviewFault Review → m UInt32
  | .error fault => fail host ("Error: " ++ fault.message)
  | .ok review => do
    match ← deliver host options.output (Report.parts options.form options.settings review) with
    | .ok () => return succeeded
    | .error fault => fail host fault.message

/-- The threads that the options ask for: all that run at once, if they ask for none. -/
def threadsFor (host : Host m) (options : Options) : Nat := options.threads.getD host.processors

/-- Renders records and writes the report. -/
def renderReport (host : Host m) (options : Options) (rules : RuleSet)
    (listeners : List Listener) : m UInt32 :=
  let session := Session.new options.settings rules (threadsFor host options)
  (session.notices listeners).foldr (tell host options) <|
    (session.progress listeners).foldr (progress host options) do
      let pool ← host.startPool session.workers
      publish host options (session.render pool listeners).1

/-- Loads records and goes on with them. -/
def reviewRecords (host : Host m) (options : Options) (rules : RuleSet) : m UInt32 := do
  match ← loadRecords host options.input with
  | .error fault => fail host ("Error: " ++ fault.message)
  | .ok listeners =>
    progress host options ("Loaded " ++ toString listeners.length ++ " listener records")
      (renderReport host options rules listeners)

/-- Saves the rules, if that is asked for, and goes on. -/
def keepRules (host : Host m) (options : Options) (rules : RuleSet) : m UInt32 :=
  match options.saveRules with
  | none => reviewRecords host options rules
  | some path => do
    match ← saveRules host rules path with
    | .error fault => fail host ("Error saving rules: " ++ fault.message)
    | .ok () =>
      progress host options ("Saved rule set to '" ++ path ++ "'")
        (reviewRecords host options rules)

/-- Warns of a rules file without terms, and goes on. -/
def warnIfEmpty (host : Host m) (options : Options) (path : String) (rules : RuleSet)
    (next : m UInt32) : m UInt32 :=
  if rules.isEmpty then
    note host options (.warning ("rules file defines no terms path=" ++ path)) next
  else next

/-- Loads the rules, if a file of them is given, and goes on. -/
def withOptions (host : Host m) (options : Options) : m UInt32 :=
  match options.rules with
  | none => keepRules host options .empty
  | some path => do
    match ← loadRules host path with
    | .error fault => fail host ("Error loading rules: " ++ fault.message)
    | .ok rules =>
      warnIfEmpty host options path rules <|
        progress host options
          ("Loaded " ++ toString rules.termCount ++ " highlight terms in " ++ toString rules.size
            ++ " categories")
          (keepRules host options rules)

def showText (host : Host m) (text : String) : m UInt32 := do
  let _ ← host.write host.output (Json.bytesOf text)
  return succeeded

/-- Runs the program on its arguments: the exit code. -/
def run (host : Host m) (arguments : List String) : m UInt32 :=
  match CommandLine.parse arguments with
  | .ok options => withOptions host options
  | .error .help => showText host CommandLine.helpText
  | .error .version => showText host CommandLine.versionText
  | .error (.usage fault) => do
    let _ ← host.say (.usage fault)
    return failed
  | .error (.configuration fault) => fail host ("Error: " ++ fault.message)

end Program

end ListenerReview
