/-
  ListenerReview/Files/Tree.lean
  ==============================
  **File trees** — files and directories as a value: finding what a path names,
  reading a file, creating one and adding to its bytes.

  A relative path starts at the root of the tree.  Around the tree there are
  directories, and in one of them a device that reads as zeros without end and has
  no room for a single byte.

  A path that ends in a slash names a directory.  Reading takes it as if a dot
  followed, so a file under that name is no directory; creating refuses it as soon
  as the directory that would hold the new one is found.
-/
import ListenerReview.Files.Fault

namespace ListenerReview.Files

abbrev Bytes := List UInt8

/-- The place of a file or directory: the names on the way to it from the root of the tree. The
    first names may be `..`, which lead out of the tree, or the first one `/`, which stands for
    the directory that holds all others. -/
abbrev Place := List String

/-- What stands at a place. -/
inductive Node where
  | file (bytes : Bytes)
  | directory
  /-- The device that has no room. -/
  | fullDevice
deriving DecidableEq, Repr

/-- The files and directories below the root, by their places. -/
structure Tree where
  nodes : List (Place × Node)
deriving DecidableEq, Repr

/-! ### Paths -/

/-- A path: the place where it starts, the names on it, and whether it ends in a slash. -/
structure Path where
  start : Place
  names : List String
  endsInSlash : Bool
deriving DecidableEq, Repr

namespace Path

def sizeLimit : Nat := 4095

def nameLimit : Nat := 255

/-- Reads a path. Slashes that follow each other count as one. -/
def ofString (path : String) : Except OsFault Path :=
  if path.toList.contains '\x00' then .error .nulInPath
  else if path.isEmpty then .error .noSuchFile
  else if sizeLimit < path.utf8ByteSize then .error .nameTooLong
  else .ok {
    start := if path.toList.head? = some '/' then ["/"] else []
    names := (path.toList.splitOn '/').filterMap fun name =>
      if name.isEmpty then none else some (String.ofList name)
    endsInSlash := path.toList.getLast? = some '/' }

/-- The names to follow for reading. -/
def namesToRead (path : Path) : List String :=
  if path.endsInSlash then path.names ++ ["."] else path.names

/-- The names to follow for creating a file. -/
def namesToCreate (path : Path) : List String :=
  if path.endsInSlash then path.names.dropLast ++ ["."] else path.names

end Path

/-- What a path names. -/
inductive Target where
  | node (place : Place) (node : Node)
  /-- Nothing yet, in a directory that exists. -/
  | vacant (place : Place)
deriving DecidableEq, Repr

namespace Tree

def empty : Tree := ⟨[]⟩

/-- What there is around every tree. -/
def surroundings : List (Place × Node) :=
  [(["/"], .directory), (["/", "dev"], .directory), (["/", "dev", "full"], .fullDevice)]

/-- What stands at a place. The root is a directory, and so are those that hold it. -/
def node? (tree : Tree) (place : Place) : Option Node :=
  if place.all (· == "..") then some .directory
  else (surroundings ++ tree.nodes).lookup place

/-- The tree with something else at a place. -/
def put (tree : Tree) (place : Place) (node : Node) : Tree :=
  ⟨tree.nodes.filter (·.1 ≠ place) ++ [(place, node)]⟩

/-- The place after `..`: one name less, and out of the tree at its root. Nothing holds the
    outermost directory. -/
def up (place : Place) : Place :=
  if place.all (· == "..") then place ++ [".."]
  else if place = ["/"] then place
  else place.dropLast

/-- The place after one more name: `.` stays, `..` goes up, and any other name goes down. -/
def step (place : Place) (name : String) : Place :=
  if name = "." then place else if name = ".." then up place else place ++ [name]

/-- Follows the names of a path from a place. Every place that is left must be a directory. -/
def follow (tree : Tree) (place : Place) : List String → Except OsFault Target
  | [] =>
    match tree.node? place with
    | some node => .ok (.node place node)
    | none => .ok (.vacant place)
  | name :: names =>
    match tree.node? place with
    | none => .error .noSuchFile
    | some .directory =>
      if Path.nameLimit < name.utf8ByteSize then .error .nameTooLong
      else tree.follow (step place name) names
    | some _ => .error .notDirectory

/-! ### Reading and writing -/

/-- The bytes of the file that a path names. A directory can be opened but not read. Of the zeros
    of the device, one is read. -/
def read (tree : Tree) (path : String) : Except ReadFault Bytes :=
  match Path.ofString path with
  | .error fault => .error (.opening fault)
  | .ok path =>
    match tree.follow path.start path.namesToRead with
    | .error fault => .error (.opening fault)
    | .ok (.vacant _) => .error (.opening .noSuchFile)
    | .ok (.node _ .directory) => .error (.reading .isDirectory)
    | .ok (.node _ (.file bytes)) => .ok bytes
    | .ok (.node _ .fullDevice) => .ok [0]

inductive Sink where
  | file (place : Place)
  | fullDevice
deriving DecidableEq, Repr

/-- Opens the file that a path names for writing, empty. -/
def create (tree : Tree) (path : String) : Except OsFault (Tree × Sink) :=
  match Path.ofString path with
  | .error fault => .error fault
  | .ok path =>
    match tree.follow path.start path.namesToCreate with
    | .error fault => .error fault
    | .ok (.vacant place) => .ok (tree.put place (.file []), .file place)
    | .ok (.node _ .directory) => .error .isDirectory
    | .ok (.node place (.file _)) => .ok (tree.put place (.file []), .file place)
    | .ok (.node _ .fullDevice) => .ok (tree, .fullDevice)

/-- Adds bytes at the end of an open file. -/
def append (tree : Tree) (sink : Sink) (bytes : Bytes) : Except OsFault Tree :=
  match sink with
  | .fullDevice => if bytes.isEmpty then .ok tree else .error .noSpace
  | .file place =>
    match tree.node? place with
    | some (.file old) => .ok (tree.put place (.file (old ++ bytes)))
    | _ => .error .noSuchFile

end Tree

end ListenerReview.Files
