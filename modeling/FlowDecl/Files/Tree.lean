import FlowDecl.Files.Path
import FlowDecl.Text.Quoted

/-!
# File trees

The files and directories of a system.  A place is the list of names that leads to it from the top;
the empty place is the top itself, and it is always there.  A path that begins with a slash starts
at the top, and any other path at the current place.

Reading and writing follow a path part by part.  They fail where a part is missing, where a file
stands in the place of a directory, and where a directory stands in the place of a file; a failed
operation leaves the tree as it is.  A path with a null character or with too many octets leads
nowhere.
-/

namespace FlowDecl
namespace Files

inductive Node where
  | file (octets : List UInt8)
  | directory
  deriving DecidableEq, Repr, Inhabited

/-- Files and directories by place. -/
structure Tree where
  /-- The place that a path without a slash at its beginning starts at. -/
  current : List String := []
  entries : List (List String × Node) := []
  deriving Repr, Inhabited

/-- Why a file operation fails. -/
inductive Cause where
  | missing
  | exists
  | notADirectory
  | isADirectory
  | notPermitted
  | tooLong
  /-- What is written has no room. -/
  | noRoom
  /-- A descriptor is not open, or not for what is done with it. -/
  | badDescriptor
  /-- No name has a null character. -/
  | nullCharacter
  deriving DecidableEq, Repr

/-- The number of a cause; a path with a null character is refused before a number is given. -/
def Cause.number? : Cause → Option Nat
  | .missing => some 2
  | .badDescriptor => some 9
  | .notPermitted => some 13
  | .exists => some 17
  | .notADirectory => some 20
  | .isADirectory => some 21
  | .noRoom => some 28
  | .tooLong => some 36
  | .nullCharacter => none

def Cause.words : Cause → String
  | .missing => "No such file or directory"
  | .notPermitted => "Permission denied"
  | .exists => "File exists"
  | .notADirectory => "Not a directory"
  | .isADirectory => "Is a directory"
  | .tooLong => "File name too long"
  | .noRoom => "No space left on device"
  | .badDescriptor => "Bad file descriptor"
  | .nullCharacter => "embedded null byte"

/-- A failed file operation and the path it was about. -/
structure Fault where
  cause : Cause
  path : String
  deriving DecidableEq, Repr

def Fault.message (f : Fault) : String :=
  match f.cause.number? with
  | some n => s!"[Errno {n}] " ++ f.cause.words ++ ": " ++ Text.quoted f.path
  | none => f.cause.words

/-- The files of the system that stand for devices. -/
def devices : List String :=
  ["/dev/null", "/dev/zero", "/dev/full"]

def isDevice (path : String) : Bool :=
  devices.contains path

def hasNull (text : String) : Bool :=
  text.toList.contains (Char.ofNat 0)

/-- The most octets of a part of a path. -/
def longestPart : Nat := 255

def longestPath : Nat := 4095

namespace Tree

def node? (t : Tree) (place : List String) : Option Node :=
  if place.isEmpty then some .directory else t.entries.lookup place

def put (t : Tree) (place : List String) (node : Node) : Tree :=
  { t with entries := (place, node) :: t.entries.filter fun e => e.1 != place }

/-- Where a path starts, and the parts that lead on from there. -/
def route (t : Tree) (path : String) : List String × List String :=
  (if path.toList.head? = some '/' then [] else t.current, parts path)

/-- The place that a path names by its text alone. -/
def resolve (t : Tree) (path : String) : List String :=
  follow (t.route path).1 (t.route path).2

/-- The full path that a path names by its text alone. -/
def absolute (t : Tree) (path : String) : String :=
  fullPath (t.resolve path)

/-- Follows parts from a place.  Every part but the last must lead through a directory. -/
def walk (t : Tree) (place : List String) : List String → Except Cause (List String)
  | [] => .ok place
  | part :: rest =>
    match t.node? place with
    | none => .error .missing
    | some (.file _) => .error .notADirectory
    | some .directory =>
      if part = "." then walk t place rest
      else if part = ".." then walk t place.dropLast rest
      else if longestPart < part.utf8ByteSize then .error .tooLong
      else walk t (place ++ [part]) rest

/-- The place that a path leads to; the last part may be missing. -/
def locate (t : Tree) (path : String) : Except Cause (List String) :=
  if hasNull path then .error .nullCharacter
  else if longestPath < path.utf8ByteSize then .error .tooLong
  else if path = "" then .error .missing
  else t.walk (t.route path).1 (t.route path).2

/-- Whether a path ends with a slash, so that only a directory can stand there. -/
def wantsDirectory (path : String) : Bool :=
  path.toList.getLast? = some '/'

def stat (t : Tree) (path : String) : Except Cause Node := do
  let place ← t.locate path
  match t.node? place with
  | none => throw .missing
  | some .directory => return .directory
  | some (.file octets) =>
    if wantsDirectory path then throw .notADirectory else return .file octets

/-- Whether something stands where a path leads. -/
def hasPath (t : Tree) (path : String) : Bool :=
  (t.stat path).toOption.isSome

def isDirectory (t : Tree) (path : String) : Bool :=
  (t.stat path).toOption = some .directory

def isFile (t : Tree) (path : String) : Bool :=
  (t.stat path).toOption matches some (.file _)

/-- The octets of the file that a path leads to. -/
def read (t : Tree) (path : String) : Except Cause (List UInt8) := do
  match ← t.stat path with
  | .file octets => return octets
  | .directory => throw .isADirectory

/-- Writes a file whose directory is there. -/
def write (t : Tree) (path : String) (octets : List UInt8) : Except Cause Tree := do
  let place ← t.locate path
  if wantsDirectory path || t.node? place = some .directory then throw .isADirectory
  else return t.put place (.file octets)

def makeDirectory (t : Tree) (path : String) : Except Cause Tree := do
  let place ← t.locate path
  if (t.node? place).isSome then throw .exists else return t.put place .directory

end Tree
end Files
end FlowDecl
