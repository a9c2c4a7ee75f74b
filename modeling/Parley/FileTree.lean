import Parley.Failure

/-!
# File trees

Directories and files as far as the program looks at them: the node at a path, the text of a file,
and the extension of a file name.
-/

namespace Parley

/-- A file or a directory. -/
inductive FileNode where
  | file (bytes : ByteArray)
  /-- A file that cannot be read. -/
  | unreadable
  | directory (entries : List (String × FileNode))

namespace FileNode

/-- The node at the end of a path; `above` are the nodes on the way. An empty component and a point
stay at a directory, two points go up. -/
def walk (node : FileNode) (above : List FileNode) : List String → Option FileNode
  | [] => some node
  | c :: rest => match node with
    | .directory entries =>
      if c = "" ∨ c = "." then walk node above rest
      else if c = ".." then match above with
        | parent :: above => walk parent above rest
        | [] => none
      else match entries.lookup c with
        | some child => walk child (node :: above) rest
        | none => none
    | _ => none

/-- The node at a path that starts at `root`; the empty path leads nowhere, and an absolute one
leads out of it. -/
def find? (root : FileNode) (path : String) : Option FileNode :=
  if path = "" ∨ path.startsWith "/" then none else walk root [] (path.splitOn "/")

/-- The text of a file. -/
def text : FileNode → Except Failure String
  | .file bytes => match String.fromUTF8? bytes with
    | some text => .ok text
    | none => .error .io
  | _ => .error .io

/-- The extension of a file name: what follows its last point, unless nothing precedes that. -/
def extension (name : String) : Option String :=
  let back := name.toList.reverse
  let ending := back.takeWhile (· ≠ '.')
  match back.drop ending.length with
  | _ :: _ :: _ => some (.ofList ending.reverse)
  | _ => none

end FileNode

end Parley
