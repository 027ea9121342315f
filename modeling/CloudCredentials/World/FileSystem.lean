import CloudCredentials.Error
import CloudCredentials.Text.Separated

/-!
# Files

Files and directories below one root, and the working directory from which relative paths start.
`locate` follows a path step by step, so that it fails at the first step that cannot be taken.
`create` makes a file only where nothing is yet. Temporary files get a name of their own, counted up
from zero, and a name that is taken is passed over.
-/

namespace CloudCredentials

/-- The names of the directories from the root down to a file or directory, and its own name. -/
abbrev Place := List String

/-- What stands at a place. -/
inductive Node where
  | file (contents : Bytes)
  | directory
deriving DecidableEq, Repr

/-- The files and directories of a machine. -/
structure FileSystem where
  nodes : List (Place × Node)
  workingDirectory : Place
  temporaryCount : Nat

namespace FileSystem

/-- The directory for temporary files, unless the environment names another. -/
def temporaryRoot : String := "/tmp"

/-- The machine without files of anybody's own. -/
def initial : FileSystem where
  nodes :=
    [([], .directory), (["tmp"], .directory), (["work"], .directory), (["dev"], .directory),
      (["etc"], .directory), (["proc"], .directory), (["usr"], .directory), (["home"], .directory),
      (["root"], .directory), (["var"], .directory), (["dev", "null"], .file [])]
  workingDirectory := ["work"]
  temporaryCount := 0

/-- What stands at a place. -/
def node? (files : FileSystem) (place : Place) : Option Node :=
  files.nodes.lookup place

/-- The parts of a path between the slashes. -/
def parts (path : String) : List String :=
  (Text.separate (· == '/') path.toList).map String.ofList

/-- The greatest length of a name, and of a path, in bytes. -/
def greatestNameLength : Nat := 255

/-- The greatest length of a path in bytes. -/
def greatestPathLength : Nat := 4095

/-- Follow the parts of a path from a place. -/
def walk (files : FileSystem) (place : Place) : List String → Except FileFault Place
  | [] => .ok place
  | name :: rest =>
      match files.node? place with
      | none => .error .notFound
      | some (.file _) => .error .notDirectory
      | some .directory =>
          if name = "" ∨ name = "." then walk files place rest
          else if name = ".." then walk files place.dropLast rest
          else if greatestNameLength < name.utf8ByteSize then .error .nameTooLong
          else if (files.node? (place ++ [name])).isNone then .error .notFound
          else walk files (place ++ [name]) rest

/-- Why a path leads nowhere, whatever files there are. -/
def pathFault? (path : String) : Option FileFault :=
  if path.toList.any (·.toNat == 0) then some .nulInPath
  else if path = "" then some .notFound
  else if greatestPathLength < path.utf8ByteSize then some .nameTooLong
  else none

/-- The place from which a path is followed. -/
def start (files : FileSystem) (path : String) : Place :=
  if (Text.after? ['/'] path.toList).isSome then [] else files.workingDirectory

/-- The place of the file or directory at a path. -/
def locate (files : FileSystem) (path : String) : Except FileFault Place :=
  match pathFault? path with
  | some fault => .error fault
  | none => files.walk (files.start path) (parts path)

/-- There is a file or directory at the path. -/
def exists? (files : FileSystem) (path : String) : Bool :=
  match files.locate path with
  | .ok _ => true
  | .error _ => false

/-- The contents of the file at a path. -/
def read (files : FileSystem) (path : String) : Except FileFault Bytes :=
  match files.locate path with
  | .error fault => .error fault
  | .ok place =>
      match files.node? place with
      | some (.file contents) => .ok contents
      | some .directory => .error .isDirectory
      | none => .error .notFound

/-- The text in the file at a path. -/
def readText (files : FileSystem) (path : String) : Except FileFault String :=
  match files.read path with
  | .error fault => .error fault
  | .ok contents =>
      match Bytes.text? contents with
      | some text => .ok text
      | none => .error .notText

/-- The place to which one part of a path leads. -/
def follow (place : Place) (name : String) : Place :=
  if name = "" ∨ name = "." then place
  else if name = ".." then place.dropLast
  else place ++ [name]

/-- The place that a path leads to if everything on the way is there. -/
def placeOf (files : FileSystem) (path : String) : Place :=
  (parts path).foldl follow (files.start path)

/-- The files without what stands at a place. -/
def erase (files : FileSystem) (place : Place) : FileSystem :=
  { files with nodes := files.nodes.filter (·.1 != place) }

/-- The files with this node at a place. -/
def put (files : FileSystem) (place : Place) (node : Node) : FileSystem :=
  { files with nodes := (place, node) :: (files.erase place).nodes }

/-- The files with a directory at every place on the way to this one that has nothing yet. -/
def makeParents (files : FileSystem) (place : Place) : FileSystem :=
  (List.range place.length).foldl (fun files depth =>
    if (files.node? (place.take depth)).isNone then files.put (place.take depth) .directory
    else files) files

/-- The files with this node at a path, and with the directories that it needs. -/
def write (files : FileSystem) (path : String) (node : Node) : FileSystem :=
  let place := files.placeOf path
  (files.makeParents place).put place node

/-- The files without a place and everything below it. -/
def removeAt (files : FileSystem) (place : Place) : FileSystem :=
  { files with nodes := files.nodes.filter fun entry => (Text.after? place entry.1).isNone }

/-- The files without what is at a path. -/
def remove (files : FileSystem) (path : String) : FileSystem :=
  files.removeAt (files.placeOf path)

/-- Make a file at a path where nothing is yet. -/
def create (files : FileSystem) (path : String) (contents : Bytes) :
    Except FileFault FileSystem :=
  match pathFault? path with
  | some fault => .error fault
  | none =>
      match files.walk (files.start path) (parts path).dropLast with
      | .error fault => .error fault
      | .ok directory =>
          match files.node? directory with
          | none => .error .notFound
          | some (.file _) => .error .notDirectory
          | some .directory =>
              let name := (parts path).getLastD ""
              let place := follow directory name
              if (files.node? place).isSome then .error .alreadyThere
              else if greatestNameLength < name.utf8ByteSize then .error .nameTooLong
              else .ok (files.put place (.file contents))

/-- The files without the file at a path. A directory stays. -/
def removeFile (files : FileSystem) (path : String) : FileSystem :=
  match files.locate path with
  | .error _ => files
  | .ok place =>
      match files.node? place with
      | some (.file _) => files.erase place
      | _ => files

/-- The beginning of the name of every temporary file. -/
def temporaryMark : String := ".tmp"

/-- The number of characters behind the mark in the name of a temporary file. -/
def temporaryDigits : Nat := 6

/-- The name of the temporary file with a number. -/
def temporaryName (number : Nat) : String :=
  let digits := Nat.toDigits 10 number
  temporaryMark ++ String.ofList (List.replicate (temporaryDigits - digits.length) '0' ++ digits)

/-- The path from the root to where a path leads. -/
def absolutePath (files : FileSystem) (path : String) : String :=
  if (Text.after? ['/'] path.toList).isSome then path
  else
    String.join (files.workingDirectory.map ("/" ++ ·)) ++ (if path = "" then "" else "/" ++ path)

/-- The path of what has a name in a directory. -/
def pathInside (directory name : String) : String :=
  (if Text.endsWith directory "/" then directory else directory ++ "/") ++ name

/-- The path of the next temporary file in a directory. It does not depend on the working
directory. -/
def temporaryPath (files : FileSystem) (directory : String) : String :=
  pathInside (files.absolutePath directory) (temporaryName files.temporaryCount)

/-- The files after the name of the next temporary file has been used up. -/
def passName (files : FileSystem) : FileSystem :=
  { files with temporaryCount := files.temporaryCount + 1 }

/-- The path of a temporary file and the files with it, or why there is none and at which path that
came about. -/
abbrev TemporaryOutcome := Except (FileFault × String) (String × FileSystem)

/-- What becomes of a try to make a temporary file at a path. A name that is taken leads to further
tries. -/
def afterTry (path : String) (further : Unit → TemporaryOutcome) :
    Except FileFault FileSystem → TemporaryOutcome
  | .ok made => .ok (path, made)
  | .error .alreadyThere => further ()
  | .error fault => .error (fault, path)

/-- Make a temporary file in a directory with at most so many tries. -/
def makeTemporaryWithin : Nat → FileSystem → String → Bytes → TemporaryOutcome
  | 0, _, directory, _ => .error (.stated "too many temporary files exist", directory)
  | tries + 1, files, directory, contents =>
      afterTry (files.temporaryPath directory)
        (fun _ => makeTemporaryWithin tries files.passName directory contents)
        (files.passName.create (files.temporaryPath directory) contents)

/-- The number of names that are tried for a temporary file. -/
def temporaryTries : Nat := Nat.pow 2 16

/-- Make a temporary file in a directory. -/
def makeTemporary (files : FileSystem) (directory : String) (contents : Bytes) :
    TemporaryOutcome :=
  makeTemporaryWithin temporaryTries files directory contents

/-- The path has the form of that of a temporary file. -/
def isTemporary (path : String) : Bool :=
  (Text.after? ['/'] path.toList).isSome &&
    match ((parts path).getLast?.map String.toList).bind (Text.after? temporaryMark.toList) with
    | some digits => digits.length == temporaryDigits
    | none => false

/-- What has been put at a place stands there. -/
@[simp] theorem node?_put_self (files : FileSystem) (place : Place) (node : Node) :
    (files.put place node).node? place = some node := by
  simp [put, node?]

end FileSystem

end CloudCredentials
