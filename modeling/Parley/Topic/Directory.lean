import Parley.FileTree
import Parley.Topic.Registry

/-!
# Topics in files

Topics are kept in a directory tree. The files whose names end in `.json` are loaded in ascending
order of their paths, compared component by component, whatever the order in which the entries of
a directory are listed. A file that cannot be used is skipped.
-/

namespace Parley

namespace FileNode

/-- Does the name mark a file of content? -/
def isContent (name : String) : Bool := extension name = some "json"

mutual

/-- The content files of a tree, each with its path below `path`. -/
def contentFiles (path : List String) : FileNode → List (List String × FileNode)
  | .directory entries => contentFilesIn path entries
  | .file _ => []
  | .unreadable => []

/-- The content files among the entries of a directory. -/
def contentFilesIn (path : List String) :
    List (String × FileNode) → List (List String × FileNode)
  | [] => []
  | entry :: rest => contentFilesAt path entry ++ contentFilesIn path rest

/-- The content files of one entry of a directory: those below it, or itself. -/
def contentFilesAt (path : List String) : String × FileNode → List (List String × FileNode)
  | (name, .directory entries) => contentFilesIn (path ++ [name]) entries
  | (name, .file bytes) => if isContent name then [(path ++ [name], .file bytes)] else []
  | (name, .unreadable) => if isContent name then [(path ++ [name], .unreadable)] else []

end

/-- Does the first path come before the second one or coincide with it? -/
def pathLE (p q : List String × FileNode) : Bool := !q.1.lex p.1 fun a b => a < b

/-- The content files of a tree in ascending order of their paths. -/
def sortedFiles (node : FileNode) : List (List String × FileNode) :=
  (contentFiles [] node).mergeSort pathLE

end FileNode

namespace Registry

/-- Add the topics of a file. -/
def loadFile (r : Registry) (source : String) (node : FileNode) : Except Failure Nat × Registry :=
  match node.text with
  | .ok text => r.load source text
  | .error failure => (.error failure, r)

/-- Add the topics of files in order, without those that cannot be used. -/
def loadFiles (r : Registry) : List (List String × FileNode) → Except Failure Registry
  | [] => .ok r
  | (path, node) :: rest => match r.loadFile ("/".intercalate path) node with
    | (.error (.fault cause), _) => .error (.fault cause)
    | (_, r') => r'.loadFiles rest

/-- The registry of a directory of topics; that is empty if there is no such directory. -/
def ofDirectory : Option FileNode → Except Failure Registry
  | none => .ok empty
  | some (.directory entries) => empty.loadFiles (FileNode.directory entries).sortedFiles
  | some _ => .error .io

end Registry

end Parley
