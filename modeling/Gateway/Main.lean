import Gateway.CommandLine.Outcome
import Std.Time.DateTime.Timestamp

/-! # The program -/
open Gateway

/-- Reads a file, or a directory and all below it. -/
partial def readEntry (entry : IO.FS.DirEntry) : IO FileTree := do
  let info ← entry.path.metadata
  match info.type with
  | .dir =>
    let listing ← try pure (some (← entry.path.readDir)) catch _ => pure none
    match listing with
    | none => return .closed
    | some entries =>
      return .directory (← entries.toList.mapM fun e => return (e.fileName, ← readEntry e))
  | _ =>
    let bytes ← IO.FS.readBinFile entry.path
    return .file bytes.toList (info.modified.sec * 1000 + info.modified.nsec.toNat / 1000000)

def readPath (path : String) : IO (Option FileTree) := do
  if path.isEmpty then return none
  try return some (← readEntry ⟨".", path⟩) catch _ => return none

/-- The variables of the process, where the system lists them in a file. -/
def readVariables : IO Config.Environment := do
  try
    let bytes ← IO.FS.readBinFile "/proc/self/environ"
    let entries := Text.split '\x00' ((Text.ofUtf8? bytes.toList).getD "")
    return entries.filterMap fun entry =>
      match Text.cutChars '=' entry.toList with
      | (name, some value) => some (String.ofList name, String.ofList value)
      | (_, none) => none
  catch _ => return []

/-- What is there at some paths. This program reaches no network. -/
def look (paths : List String) : IO Surroundings := do
  let found ← paths.mapM fun path => return (path, ← readPath path)
  let now ← Std.Time.Timestamp.now
  return {
    files := fun path => (found.lookup path).join
    environment := ← readVariables
    call := fun url => .failed (unreachable url)
    clock := now.toMillisecondsSinceUnixEpoch.toInt
    binds := fun _ => false }

def main (args : List String) : IO UInt32 := do
  let paths ← match CommandLine.read args with
    | .ok command =>
      match command.path? with
      | some path => pure (CommandLine.pathsFor (← look [path]) path)
      | none => pure []
    | .error _ => pure []
  let outcome := CommandLine.run (← look paths) args
  IO.print outcome.out
  IO.eprint outcome.err
  return outcome.code.toUInt32
