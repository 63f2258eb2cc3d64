/-
# File trees

A file system is a directory, its root, with everything below it. A path is looked up one
component at a time, from the root if it begins with a slash and else from the working
directory, and each way in which that can fail has its own fault.
-/

import RingTape.Failure

namespace RingTape

/-- A file, or a directory with its entries. -/
inductive FileTree
  | file (content : List UInt8)
  | directory (entries : List (String × FileTree))

namespace FileTree

/-- A directory without entries. -/
def empty : FileTree := directory []

/-- The entries of a directory; a file has none. -/
def entries : FileTree → List (String × FileTree)
  | file _ => []
  | directory entries => entries

/-- The entry of that name. -/
def entry? (tree : FileTree) (name : String) : Option FileTree :=
  tree.entries.lookup name

/-- The entries with one of them set, in its place if the name is known. -/
def setEntry (name : String) (node : FileTree) :
    List (String × FileTree) → List (String × FileTree)
  | [] => [(name, node)]
  | (other, old) :: entries =>
    if other = name then (name, node) :: entries
    else (other, old) :: setEntry name node entries

/-- Put a node at the end of a chain of names, with the directories that lead to
it. A directory put where there is one already leaves it as it is. -/
def insert (node : FileTree) : List String → FileTree → FileTree
  | [], old =>
    match node, old with
    | directory [], directory entries => directory entries
    | _, _ => node
  | name :: names, tree =>
    let below := (tree.entry? name).getD empty
    directory (setEntry name (insert node names below) tree.entries)

/-- The first component of a path and the others: what stands between the slashes. -/
def splitPath : List Char → List Char × List (List Char)
  | [] => ([], [])
  | '/' :: rest =>
    let (first, others) := splitPath rest
    ([], first :: others)
  | character :: rest =>
    let (first, others) := splitPath rest
    (character :: first, others)

/-- The components of a path. -/
def components (path : String) : List String :=
  let (first, others) := splitPath path.toList
  (first :: others).map String.ofList

/-- Put a node at a path, whose components are names. -/
def insertAt (tree : FileTree) (path : String) (node : FileTree) : FileTree :=
  insert node ((components path).filter fun name => name ≠ "" && name ≠ ".") tree

/-- The number of bytes that the name of one entry may have. -/
def maxNameLength : Nat := 255

/-- The number of bytes that a path may have. -/
def maxPathLength : Nat := 4095

/-- Where a look-up has come to: a node and the directories above it, up to the root. -/
structure Place where
  node : FileTree
  above : List FileTree

/-- Go on from a place by one component. Above the root there is the root. -/
def advance (place : Place) (component : String) : Except PathFault Place :=
  match place with
  | ⟨file _, _⟩ => .error .throughFile
  | ⟨directory entries, above⟩ =>
    if component = "" ∨ component = "." then .ok place
    else if component = ".." then
      match above with
      | parent :: further => .ok ⟨parent, further⟩
      | [] => .ok place
    else if maxNameLength < component.utf8ByteSize then .error .nameTooLong
    else
      match entries.lookup component with
      | some node => .ok ⟨node, directory entries :: above⟩
      | none => .error .missing

end FileTree

/-- All files, and the names that lead from the root to the working directory. -/
structure FileSystem where
  root : FileTree
  working : List String

namespace FileSystem

open FileTree (Place advance)

/-- The place that a path leads to. -/
def locate (system : FileSystem) (path : String) : Except PathFault Place :=
  if path = "" then .error .missing
  else if FileTree.maxPathLength < path.utf8ByteSize then .error .nameTooLong
  else do
    let top : Place := ⟨system.root, []⟩
    let start ←
      if path.toList.head? = some '/' then pure top else system.working.foldlM advance top
    (FileTree.components path).foldlM advance start

/-- The content of the file that a path leads to. A path with a NUL character is not even
looked up. -/
def read (system : FileSystem) (path : String) : Except Failure (List UInt8) :=
  if path.toList.contains '\x00' then .error .nulCharacter
  else
    match system.locate path with
    | .ok ⟨.file content, _⟩ => .ok content
    | .ok ⟨.directory _, _⟩ => .error (.unreachable .directory path)
    | .error fault => .error (.unreachable fault path)

end FileSystem

end RingTape
