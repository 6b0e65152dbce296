/-
  ListenerReview/Files/Fault.lean
  ===============================
  **Faults of file operations** — why a file cannot be opened, read or written, as
  causes with the numbers that operating systems give them.
-/

namespace ListenerReview.Files

/-- Why an operation on a file failed. -/
inductive OsFault where
  | noSuchFile
  | notDirectory
  | isDirectory
  | noSpace
  | nameTooLong
  /-- The path has a NUL character, which no file name can have. -/
  | nulInPath
  /-- The bytes are no UTF-8 text. -/
  | notText
  /-- Any other cause, in the words of the system. -/
  | other (text : String)
deriving DecidableEq, Repr

/-- The wording of a fault with the number of its cause. -/
def numbered (text : String) (number : Nat) : String :=
  text ++ " (os error " ++ toString number ++ ")"

def OsFault.message : OsFault → String
  | .noSuchFile => numbered "No such file or directory" 2
  | .notDirectory => numbered "Not a directory" 20
  | .isDirectory => numbered "Is a directory" 21
  | .noSpace => numbered "No space left on device" 28
  | .nameTooLong => numbered "File name too long" 36
  | .nulInPath => "file name contained an unexpected NUL byte"
  | .notText => "stream did not contain valid UTF-8"
  | .other text => text

/-- Why a file could not be read: it could not be opened, or reading failed after that. -/
inductive ReadFault where
  | opening (fault : OsFault)
  | reading (fault : OsFault)
deriving DecidableEq, Repr

end ListenerReview.Files
