/-
  ListenerReview/Host.lean
  ========================
  **The host of a program** — what a program can do to the world around it and what it
  finds there, and a world that is a value.

  A program is written against a `Host`, over any monad.  `Machine.host` runs it on a
  file tree and an input and gathers what it writes and says, so that statements about
  a run of the program are statements about two worlds.

  What a machine does beside that is left open (`Machine`): which writes and which
  messages it refuses, which workers it can start, how many threads it runs at once,
  which notes its log is set to show, and how its writer of stored rules cuts a text.
-/
import ListenerReview.CommandLine.Fault
import ListenerReview.Files.Buffer
import ListenerReview.Parallel

namespace ListenerReview

open Files (Bytes Cutting OsFault ReadFault Tree)

/-- What a program says beside its output. -/
inductive Message where
  | usage (fault : CommandLine.UsageFault)
  | failure (text : String)
  | progress (text : String)
  | warning (text : String)
  | detail (text : String)
deriving DecidableEq, Repr

def Message.text : Message → String
  | .usage fault => "error: " ++ fault.message
  | .failure text => text
  | .progress text => text
  | .warning text => "WARN " ++ text
  | .detail text => "DEBUG " ++ text

/-- Whether a message is a note: notes are said through a log. -/
def Message.isNote : Message → Bool
  | .warning _ => true
  | .detail _ => true
  | _ => false

/-- What a program can do, and what it is given to do it with. -/
structure Host (m : Type → Type) where
  /-- Files that are open for writing. -/
  Sink : Type
  output : Sink
  readInput : m (Except OsFault Bytes)
  readFile : String → m (Except ReadFault Bytes)
  /-- Opens a file for writing, empty. -/
  create : String → m (Except OsFault Sink)
  write : Sink → Bytes → m (Except OsFault Unit)
  say : Message → m (Except OsFault Unit)
  /-- Starts workers, as many as are asked for. -/
  startPool : Nat → m (Except OsFault Pool)
  /-- How many threads run at once. -/
  processors : Nat
  /-- The notes that the log is set to show from outside, if it is set. -/
  logFilter : Option (Message → Bool)
  /-- How the writer of stored rules hands its text over. -/
  cutting : Cutting

/-- A world: its files, the standard input, what was written to the standard output, and what was
    said. -/
structure World where
  files : Tree
  input : Bytes
  output : Bytes
  said : List Message
deriving DecidableEq, Repr

namespace World

inductive Sink where
  | output
  | file (sink : Tree.Sink)
deriving DecidableEq, Repr

def create (world : World) (path : String) : Except OsFault Sink × World :=
  match world.files.create path with
  | .ok (files, sink) => (.ok (.file sink), { world with files := files })
  | .error fault => (.error fault, world)

def write (world : World) (sink : Sink) (bytes : Bytes) : Except OsFault Unit × World :=
  match sink with
  | .output => (.ok (), { world with output := world.output ++ bytes })
  | .file sink =>
    match world.files.append sink bytes with
    | .ok files => (.ok (), { world with files := files })
    | .error fault => (.error fault, world)

def start (files : Tree) (input : Bytes) : World := ⟨files, input, [], []⟩

end World

/-! ### Machines -/

/-- Which writes fail, and how many bytes they put down before, given the files and the output of
    the moment. -/
abbrev WriteFaults := Tree → Bytes → World.Sink → Bytes → Option (OsFault × Nat)

def WriteFaults.never : WriteFaults := fun _ _ _ _ => none

/-- Which messages are refused, given what was said before. -/
abbrev SayFaults := List Message → Message → Option OsFault

def SayFaults.never : SayFaults := fun _ _ => none

namespace World

def writeOr (faults : WriteFaults) (world : World) (sink : Sink) (bytes : Bytes) :
    Except OsFault Unit × World :=
  match faults world.files world.output sink bytes with
  | none => world.write sink bytes
  | some (fault, taken) => (.error fault, (world.write sink (bytes.take taken)).2)

def sayOr (faults : SayFaults) (world : World) (message : Message) : Except OsFault Unit × World :=
  match faults world.said message with
  | none => (.ok (), { world with said := world.said ++ [message] })
  | some fault => (.error fault, world)

end World

/-- What a program meets on a machine that its files and its input do not decide. -/
structure Machine where
  writeFaults : WriteFaults
  sayFaults : SayFaults
  /-- What comes of starting so many workers. -/
  pools : Nat → Except OsFault Pool
  processors : Nat
  logFilter : Option (Message → Bool)
  cutting : Cutting

namespace Machine

/-- A machine that refuses nothing and leaves the log as it is. -/
def standard : Machine where
  writeFaults := .never
  sayFaults := .never
  pools workers := .ok (.ofWorkers workers)
  processors := 1
  logFilter := none
  cutting := .bytewise

/-- No write is refused, but for what the files themselves cannot take. -/
def AcceptsWrites (machine : Machine) : Prop :=
  ∀ files output sink bytes, machine.writeFaults files output sink bytes = none

/-- No message is refused. -/
def Hears (machine : Machine) : Prop := ∀ said message, machine.sayFaults said message = none

/-- The machine as a host: the program changes the world that it runs in. -/
@[reducible] def host (machine : Machine) : Host (StateM World) where
  Sink := World.Sink
  output := .output
  readInput := do return .ok (← get).input
  readFile path := do return (← get).files.read path
  create path := modifyGet (World.create · path)
  write sink bytes := modifyGet (World.writeOr machine.writeFaults · sink bytes)
  say message := modifyGet (World.sayOr machine.sayFaults · message)
  startPool workers := return machine.pools workers
  processors := machine.processors
  logFilter := machine.logFilter
  cutting := machine.cutting

end Machine

end ListenerReview
