import Switchboard.Fault.System
import Switchboard.Text.Octets

/-!
# Files

A path is a sequence of names between slashes.  It leads from the root when it
begins with a slash and from the working directory otherwise; one dot stays in a
directory and two dots leave it.
-/

namespace Switchboard

/-- A place, by the names on the way to it from the root. -/
abbrev Place := List Text.Octets

/-- What there is at a place. -/
inductive Node
  | directory
  | file (content : Text.Octets)
  deriving DecidableEq

/-- Directories and files, and the working directory among them. -/
structure FileTree where
  /-- What there is below the root, the latest first. -/
  nodes : List (Place × Node)
  /-- The working directory. -/
  current : Place

namespace FileTree

/-- The greatest number of octets of a name. -/
def maxName : Nat := 255

/-- The number of octets from which on a path is too long. -/
def maxPath : Nat := 4096

/-- The octet between names. -/
def slash : UInt8 := 47

/-- The octet of a dot. -/
def dot : UInt8 := 46

/-- The names of a path; an empty one stands where slashes follow each other. -/
def names : Text.Octets → List Text.Octets
  | [] => [[]]
  | octet :: rest =>
      match names rest with
      | [] => [[octet]]
      | first :: others =>
          if octet = slash then [] :: first :: others else (octet :: first) :: others

/-- Whether a name stays in a directory. -/
def stays (name : Text.Octets) : Bool :=
  name = [] ∨ name = [dot]

/-- Whether a name leaves a directory. -/
def leaves (name : Text.Octets) : Bool :=
  name = [dot, dot]

/-- What there is at a place. -/
def node? (tree : FileTree) : Place → Option Node
  | [] => some .directory
  | place => tree.nodes.lookup place

/-- Goes from a place to the one that a name leads to; above the root is the root. -/
def enter
    (tree : FileTree)
    (place : Place)
    (name : Text.Octets) : Except SystemFault Place :=
  if tree.node? place ≠ some .directory then .error .notDirectory
  else if stays name then .ok place
  else if leaves name then .ok place.dropLast
  else if maxName < name.length then .error .nameTooLong
  else if (tree.node? (place ++ [name])).isSome then .ok (place ++ [name])
  else .error .notFound

/-- Where a path begins. -/
def origin (tree : FileTree) (path : Text.Octets) : Place :=
  if path.head? = some slash then [] else tree.current

/-- Refuses what is no path. -/
def check (path : Text.Octets) : Except FileFault Unit :=
  if path.contains 0 then .error .zeroInPath
  else if path.isEmpty then .error (.system .notFound)
  else if maxPath ≤ path.length then .error (.system .nameTooLong)
  else .ok ()

/-- Follows names from where a path begins. -/
def follow
    (tree : FileTree)
    (path : Text.Octets)
    (way : List Text.Octets) : Except FileFault Place :=
  (way.foldlM tree.enter (tree.origin path)).mapError .system

/-- The place that a path leads to. -/
def resolve (tree : FileTree) (path : Text.Octets) : Except FileFault Place := do
  check path
  tree.follow path (names path)

/-- The octets of a file. -/
def readOctets (tree : FileTree) (path : Text.Octets) : Except FileFault Text.Octets := do
  match tree.node? (← tree.resolve path) with
  | some (.file content) => return content
  | some .directory => .error (.system .isDirectory)
  | none => .error (.system .notFound)

/-- The text of a file. -/
def read (tree : FileTree) (path : Text.Octets) : Except FileFault String := do
  match Text.decode? (← tree.readOctets path) with
  | some text => return text
  | none => .error .notText

/-- The tree in which something is at a place. -/
def put (tree : FileTree) (place : Place) (node : Node) : FileTree :=
  { tree with nodes := (place, node) :: tree.nodes.filter fun (other, _) => other ≠ place }

/-- The name at the end of a path, without slashes behind it, and the names before. -/
def splitLast (path : Text.Octets) : List Text.Octets × Text.Octets :=
  let kept := ((names path).reverse.dropWhile List.isEmpty).reverse
  (kept.dropLast, kept.getLast?.getD [])

/-- The place of a file that is to be written; it need not exist, its directory has
to. -/
def resolveNew (tree : FileTree) (path : Text.Octets) : Except FileFault Place := do
  check path
  let (before, name) := splitLast path
  let directory ← tree.follow path before
  if tree.node? directory ≠ some .directory then
    .error (.system .notDirectory)
  else if stays name || leaves name || path.getLast? = some slash then
    .error (.system .isDirectory)
  else if maxName < name.length then
    .error (.system .nameTooLong)
  else if tree.node? (directory ++ [name]) = some .directory then
    .error (.system .isDirectory)
  else
    return directory ++ [name]

/-- Writes a file. -/
def write
    (tree : FileTree)
    (path : Text.Octets)
    (content : Text.Octets) : Except FileFault FileTree := do
  let place ← tree.resolveNew path
  return tree.put place (.file content)

/-- The tree with one more directory, and with those on the way to it. -/
def addDirectory (tree : FileTree) (place : Place) : FileTree :=
  (List.range place.length).foldl
    (fun known count => known.put (place.take (count + 1)) .directory)
    tree

/-- A tree in which there is nothing but a working directory. -/
def bare (current : Place) : FileTree :=
  addDirectory ⟨[], current⟩ current

/-- The place that a name leads to if there are directories everywhere. -/
def go (place : Place) (name : Text.Octets) : Place :=
  if stays name then place
  else if leaves name then place.dropLast
  else place ++ [name]

/-- The places that names lead through if there are directories everywhere. -/
def through (place : Place) : List Text.Octets → List Place
  | [] => [place]
  | name :: rest => place :: through (go place name) rest

/-- The places that a path may lead through. -/
def way (tree : FileTree) (path : Text.Octets) : List Place :=
  through (tree.origin path) (names path)

/-- The place that a path leads to if there are directories everywhere. -/
def placeOf (tree : FileTree) (path : Text.Octets) : Place :=
  (names path).foldl go (tree.origin path)

/-- The files of a tree that another one does not hold in the same way. -/
def written (before after : FileTree) : List (Place × Text.Octets) :=
  after.nodes.filterMap fun (place, node) =>
    match node with
    | .file content => if before.node? place = some node then none else some (place, content)
    | .directory => none

end FileTree
end Switchboard
