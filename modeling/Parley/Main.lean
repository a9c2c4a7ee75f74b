import Parley.Console.Basic

/-!
# The program

Holds conversations on standard input and output. The only argument is the path of the settings.
-/

namespace Parley.Program

/-- The file or directory of an entry, as far as it can be read. -/
partial def read (entry : IO.FS.DirEntry) : IO FileNode := do
  let path := entry.path
  try
    if ← path.isDir then
      let children ← path.readDir
      let nodes ← children.toList.mapM fun child => do return (child.fileName, ← read child)
      return .directory nodes
    else return .file (← IO.FS.readBinFile path)
  catch _ => return .unreadable

/-- The file or directory at a path below the working directory. -/
def find (path : String) : IO (Option FileNode) := do
  let entry : IO.FS.DirEntry := { root := ".", fileName := path }
  if path ≠ "" && (← entry.path.pathExists) then return some (← read entry) else return none

/-- The next line of a stream; nothing at its end or when it cannot be read. -/
def nextLine (stdin : IO.FS.Stream) : IO (Option String) := do
  try
    let line ← stdin.getLine
    return if line = "" then none else some line
  catch _ => return none

/-- Feed a console with lines until it stops. -/
partial def loop (stdin stdout : IO.FS.Stream) (c : Console) : IO UInt32 := do
  if c.phase.isWaiting then
    let (text, c) := c.feed (← nextLine stdin)
    stdout.putStr text
    stdout.flush
    loop stdin stdout c
  else
    if let .broken fault := c.phase then IO.eprintln fault.message
    return c.phase.exitCode

/-- A number that is not to be foreseen. -/
def entropy : IO UInt64 := do
  return (← IO.getRandomBytes 8).foldl (fun n b => n * 256 + b.toUInt64) 0

/-- Hold conversations until there is no more to say. -/
def run (args : List String) : IO UInt32 := do
  match ← Console.begin? find args (← entropy) with
  | .error failure =>
    IO.eprintln failure.message
    return Console.failureCode failure
  | .ok (text, c) =>
    let stdout ← IO.getStdout
    stdout.putStr text
    stdout.flush
    loop (← IO.getStdin) stdout c

end Parley.Program

/-- Hold conversations on standard input and output. -/
def main (args : List String) : IO UInt32 := Parley.Program.run args
