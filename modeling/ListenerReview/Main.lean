/-
  ListenerReview/Main.lean
  ========================
  **The command line** — the program on the machine it is started on: its files, its
  standard streams, its log, and its exit code.
-/
import ListenerReview.Program

namespace ListenerReview

/-- The fault behind an error of the machine. -/
def Files.OsFault.ofError (error : IO.Error) : Files.OsFault :=
  match error with
  | .noFileOrDirectory .. => .noSuchFile
  | .resourceExhausted _ 28 _ => .noSpace
  | .invalidArgument _ 36 _ => .nameTooLong
  | .inappropriateType _ 20 _ => .notDirectory
  | .inappropriateType _ 21 _ => .isDirectory
  | _ => .other (toString error)

/-- What an action gives, or the fault that it fails with. -/
def attempt {α : Type} (action : IO α) : IO (Except Files.OsFault α) := do
  try return .ok (← action)
  catch error => return .error (.ofError error)

/-- The bytes of a stream up to its end, after those that have been read. -/
partial def readStream (stream : IO.FS.Stream) (read : ByteArray) : IO ByteArray := do
  let bytes ← stream.read 65536
  if bytes.isEmpty then return read else readStream stream (read ++ bytes)

/-- The bytes of a file of the machine. -/
def readMachineFile (path : String) : IO (Except Files.ReadFault Files.Bytes) := do
  match ← attempt (IO.FS.Handle.mk path .read) with
  | .error fault => return .error (.opening fault)
  | .ok handle =>
    match ← attempt handle.readBinToEnd with
    | .error fault => return .error (.reading fault)
    | .ok bytes => return .ok bytes.data.toList

/-- How many processors the machine lists, and one if it lists none. -/
def listedProcessors : IO Nat := do
  match ← attempt (IO.FS.lines "/proc/cpuinfo") with
  | .ok lines => return max 1 (lines.toList.countP fun line => "processor".isPrefixOf line)
  | .error _ => return 1

/-- The notes that a log shows from the given level on, if there is such a level. -/
def notesFrom (level : String) : Option (Message → Bool) :=
  match level.toLower with
  | "" | "off" | "error" => some fun _ => false
  | "warn" | "info" => some fun
    | .detail _ => false
    | _ => true
  | "debug" | "trace" => some fun _ => true
  | _ => none

/-- The machine as a host. -/
def machineHost (input output errors : IO.FS.Stream) (processors : Nat)
    (logFilter : Option (Message → Bool)) : Host IO where
  Sink := IO.FS.Stream
  output := output
  readInput := attempt do return (← readStream input .empty).data.toList
  readFile := readMachineFile
  create path := attempt do return .ofHandle (← IO.FS.Handle.mk path .write)
  write stream bytes := attempt do
    stream.write ⟨bytes.toArray⟩
    stream.flush
  say message := attempt (errors.putStrLn message.text)
  startPool workers := return .ok (.ofWorkers workers)
  processors := processors
  logFilter := logFilter
  cutting := .bytewise

end ListenerReview

/-- Runs the program on the arguments it is started with. -/
def main (arguments : List String) : IO UInt32 := do
  let host := ListenerReview.machineHost (← IO.getStdin) (← IO.getStdout) (← IO.getStderr)
    (← ListenerReview.listedProcessors) ((← IO.getEnv "RUST_LOG").bind ListenerReview.notesFrom)
  ListenerReview.Program.run host arguments
