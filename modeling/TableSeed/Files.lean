import TableSeed.Store.Database
import TableSeed.Text.Bytes

/-!
# Files

A file tree holds directories, files of bytes and databases under their paths. A path is followed
step by step, where a point stays and two points go up; every step but the last must be a
directory. A path that starts with a slash is followed from the root, every other one from the
working directory.
-/

namespace TableSeed

/-- Why a file cannot be read. -/
inductive FileFault where
  | notFound
  | isDirectory
  | notDirectory
  /-- The file is no UTF-8 text. -/
  | notText
  deriving DecidableEq, Repr

namespace FileFault

/-- The message of the fault. -/
def message : FileFault → String
  | .notFound => "No such file or directory (os error 2)"
  | .isDirectory => "Is a directory (os error 21)"
  | .notDirectory => "Not a directory (os error 20)"
  | .notText => "stream did not contain valid UTF-8"

end FileFault

/-- What stands under a path. -/
inductive FileNode where
  | directory
  | file (content : Bytes)
  | database (content : Database)

/-- A tree of files by the parts of their paths. -/
structure FileTree where
  nodes : List (List String × FileNode) := []
  /-- The parts of the path of the working directory. -/
  workingDirectory : List String := []

namespace Path

/-- The parts of a path between its slashes. -/
def parts (path : String) : List String := (path.splitOn "/")

/-- A path put after another one; a path that starts with a slash stands alone. -/
def join (base path : String) : String :=
  if path.startsWith "/" || base.isEmpty then path
  else if base.endsWith "/" then base ++ path
  else base ++ "/" ++ path

/-- The last part of a path that is a name. -/
def fileName? (path : String) : Option String :=
  match ((parts path).filter fun p => p ≠ "" && p ≠ ".").getLast? with
  | some ".." => none
  | last => last

/-- What follows the last point of a file name, if something stands before it. -/
def extension? (path : String) : Option String :=
  (fileName? path).bind fun name =>
    let fromEnd := name.toList.reverse
    let ending := fromEnd.takeWhile (· ≠ '.')
    if ending.length + 1 < fromEnd.length then some (String.ofList ending.reverse) else none

/-- The paths on the way to a path, which is the last one. -/
def steps (path : String) : List String :=
  let ps := parts path
  (List.range ps.length).map fun n => "/".intercalate (ps.take (n + 1))

end Path

namespace FileTree

/-- The node under the parts of a path; the top of the tree is a directory. -/
def node? (tree : FileTree) (parts : List String) : Option FileNode :=
  if parts.isEmpty then some .directory else tree.nodes.lookup parts

/-- Puts a node under the parts of a path. -/
def put (tree : FileTree) (parts : List String) (node : FileNode) : FileTree :=
  { tree with nodes := (parts, node) :: tree.nodes.filter fun n => n.1 ≠ parts }

/-- Makes the directories on the way to a path. -/
def makeParents (tree : FileTree) (parts : List String) : FileTree :=
  (List.range parts.length).foldl (fun tree n =>
    let above := parts.take n
    if (tree.node? above).isSome then tree else tree.put above .directory) tree

/-- Adds a file or a directory, with the directories above it. -/
def add (tree : FileTree) (path : String) (node : FileNode) : FileTree :=
  let parts := (Path.parts path).filter (· ≠ "")
  (tree.makeParents parts).put parts node

/-- Follows the parts of a path from a place in the tree. -/
def walk (tree : FileTree) (here : List String) : List String → Except FileFault FileNode
  | [] =>
    match tree.node? here with
    | some node => .ok node
    | none => .error .notFound
  | part :: rest =>
    match tree.node? here with
    | none => .error .notFound
    | some (.file _) | some (.database _) => .error .notDirectory
    | some .directory =>
      if part = "" || part = "." then walk tree here rest
      else if part = ".." then walk tree here.dropLast rest
      else walk tree (here ++ [part]) rest

/-- Where a path starts. -/
def origin (tree : FileTree) (path : String) : List String :=
  if path.startsWith "/" then ["/"] else tree.workingDirectory

/-- The parts of the place that a path names, where two points take a step back. -/
def destination (tree : FileTree) (path : String) : List String :=
  (Path.parts path).foldl (fun here part =>
    if part = "" || part = "." then here
    else if part = ".." then here.dropLast
    else here ++ [part]) (tree.origin path)

/-- What a path leads to. -/
def find (tree : FileTree) (path : String) : Except FileFault FileNode :=
  if path.isEmpty then .error .notFound else tree.walk (tree.origin path) (Path.parts path)

/-- Whether a path leads to a file. -/
def isFile (tree : FileTree) (path : String) : Bool :=
  match tree.find path with
  | .ok (.file _) | .ok (.database _) => true
  | _ => false

/-- The place that parts lead to from a directory, where every step goes through a directory and
the last part is a name. -/
def place? (tree : FileTree) (here : List String) : List String → Option (List String)
  | [] => none
  | [name] =>
    match tree.node? here with
    | some .directory => if ["", ".", ".."].contains name then none else some (here ++ [name])
    | _ => none
  | part :: rest =>
    match tree.node? here with
    | some .directory =>
      if part = "" || part = "." then place? tree here rest
      else if part = ".." then place? tree here.dropLast rest
      else place? tree (here ++ [part]) rest
    | _ => none

/-- Whether a path leads to something. -/
def hasPath (tree : FileTree) (path : String) : Bool := (tree.find path).toOption.isSome

/-- The content of the file of that name in the working directory or, if there is none, in the nearest
directory above it that has one. -/
def nearestFile? (tree : FileTree) (name : String) : Option Bytes :=
  let here := tree.workingDirectory
  (List.range (here.length + 1)).reverse.findSome? fun n =>
    match tree.node? (here.take n ++ [name]) with
    | some (.file content) => some content
    | _ => none

/-- The text of a file. -/
def readText (tree : FileTree) (path : String) : Except FileFault String := do
  match ← tree.find path with
  | .directory => throw .isDirectory
  | .database _ => throw .notText
  | .file content =>
    match Bytes.toText? content with
    | some s => return s
    | none => throw .notText

end FileTree

end TableSeed
