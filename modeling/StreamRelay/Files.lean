import StreamRelay.Bytes
import StreamRelay.IoError

/-!
# Files by path

A tree of files and directories, seen from a working directory. Looking up a path walks the tree
name by name and fails as the operating system does.
-/

set_option autoImplicit false
set_option relaxedAutoImplicit false

namespace StreamRelay

/-- What stands at a place of the tree. A barred file is there and cannot be read. -/
inductive Node where
  | file (content : Bytes)
  | barred (error : IoError)
  | directory
deriving DecidableEq, Repr

/-- The names that lead from the root to a place, outermost first. -/
abbrev Place := List String

/-- A tree of files with a working directory. The root is a directory. -/
structure Files where
  nodes : List (Place × Node)
  working : Place
deriving DecidableEq, Repr

def Files.at? (files : Files) (place : Place) : Option Node :=
  if place.isEmpty then some .directory else files.nodes.lookup place

/-- The names in a path; doubled and trailing slashes add none. -/
def pathNames (path : List Char) : List (List Char) :=
  let step (c : Char) (names : List (List Char)) : List (List Char) :=
    match c, names with
    | '/', _ => [] :: names
    | c, name :: names => (c :: name) :: names
    | c, [] => [[c]]
  (path.foldr step [[]]).filter (!·.isEmpty)

/-- Walk from a place along names. Every place that is walked through must be a directory. -/
def Files.walk (files : Files) (place : Place) : List String → Except IoError (Place × Node)
  | [] =>
    match files.at? place with
    | some node => .ok (place, node)
    | none => .error (.system 2)
  | name :: names =>
    match files.at? place with
    | none => .error (.system 2)
    | some (.file _) | some (.barred _) => .error (.system 20)
    | some .directory =>
      if name = "." then files.walk place names
      else if name = ".." then files.walk place.dropLast names
      else if 255 < name.utf8ByteSize then .error (.system 36)
      else files.walk (place ++ [name]) names

/-- Whether a path cannot be handed on as a string that ends at its first NUL. -/
def hasNul (path : String) : Bool := path.toList.contains (Char.ofNat 0)

def Files.find (files : Files) (path : String) : Except IoError Node :=
  let cs := path.toList
  if hasNul path then
    .error (.described .invalidInput "file name contained an unexpected NUL byte")
  else if cs.isEmpty then .error (.system 2)
  else if 4096 ≤ path.utf8ByteSize then .error (.system 36)
  else
    let start := if cs.head? = some '/' then [] else files.working
    match files.walk start ((pathNames cs).map String.ofList) with
    | .error error => .error error
    | .ok (_, .directory) => .ok .directory
    | .ok (_, node) => if cs.getLast? = some '/' then .error (.system 20) else .ok node

def Files.exists (files : Files) (path : String) : Except IoError Unit :=
  (files.find path).map fun _ => ()

def Files.read (files : Files) (path : String) : Except IoError Bytes :=
  match files.find path with
  | .error error => .error error
  | .ok .directory => .error (.system 21)
  | .ok (.barred error) => .error error
  | .ok (.file content) => .ok content

end StreamRelay
