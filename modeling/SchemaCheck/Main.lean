import SchemaCheck.CommandLine
/-! The command on the machine it runs on: what the arguments lead to is read into a file tree, and the
texts of the answer are written out. -/
namespace SchemaCheck.Machine

def nowhere : String := "\x00"

/-- Takes in what a path means, and all that is below it. A path that cannot be looked at is left out,
and so is the content of a file that cannot be read. -/
partial def takeIn (t : FileTree) (path : String) : IO FileTree := do
  let place := (← IO.currentDir) / path
  let some info ← (some <$> place.symlinkMetadata) <|> pure none | return t
  match info.type with
  | .dir =>
    let entries ← place.readDir <|> pure #[]
    entries.foldlM (fun t e => takeIn t e.path.toString) (t.add path (.directory []))
  | .symlink =>
    if ← place.pathExists then
      let target := (← IO.FS.realPath place).toString
      let t := t.add path (.link target)
      if t.exists? target then return t else takeIn t target
    else return t.add path (.link nowhere)
  | _ =>
    let content ← IO.FS.readBinFile place <|> pure ByteArray.empty
    return t.add path (.file content.toList)

def takeInWay (t : FileTree) (way : String) : List String → IO FileTree
  | [] => return t
  | name :: rest => do
    let place := (← IO.currentDir) / way
    let isLink ← (do return (← place.symlinkMetadata).type == .symlink) <|> pure false
    let t ← if isLink then takeIn t way else pure t
    takeInWay t (Path.join way name) rest

def takeInPath (t : FileTree) (path : String) : IO FileTree := do
  let top := if Path.isAbsolute path then "/" else "."
  takeIn (← takeInWay t top ((Path.parts path).filter (· ≠ ""))) path

def takeInAll (paths : List String) : IO FileTree := do
  let here := (← IO.currentDir).toString
  let working := (Path.parts here).filter (· ≠ "")
  let empty : FileTree := { working }
  let start := empty.add here (.directory [])
  paths.foldlM takeInPath start

def wanted : CommandLine.Request → List String
  | .check o => o.config.toList ++ o.sources
  | _ => []

end SchemaCheck.Machine

open SchemaCheck in
def main (arguments : List String) : IO UInt32 := do
  let request := CommandLine.parse arguments
  let tree ← Machine.takeInAll (Machine.wanted request)
  let result := CommandLine.answer tree request
  (← IO.getStdout).putStr result.output
  (← IO.getStderr).putStr result.errors
  return result.status.toUInt32
