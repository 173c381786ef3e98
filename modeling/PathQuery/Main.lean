import PathQuery.CommandLine
/-!
The program: reads what the command line needs, and writes what it leaves.
-/
open PathQuery

partial def readAll (stream : IO.FS.Stream) (acc : ByteArray) : IO ByteArray := do
  let chunk ← stream.read 65536
  if chunk.isEmpty then return acc else readAll stream (acc ++ chunk)

def readFile? (path : String) : IO (Option (List UInt8)) := do
  try
    return some (← IO.FS.readBinFile path).toList
  catch _ => return none

def main (args : List String) : IO UInt32 := do
  let path := Settings.pathBelow ((← IO.getEnv "HOME").getD "")
  let named : List String := match CommandLine.Request.read args with
    | some (.run a) => [a.json, a.yaml, a.file].filterMap id
    | _ => []
  let files ← named.mapM fun name => return (name, ← readFile? name)
  let usesInput := match CommandLine.Request.read args with
    | some (.run a) => named.isEmpty && !a.save
    | _ => false
  let input ← if usesInput then readAll (← IO.getStdin) ByteArray.empty else pure ByteArray.empty
  let before ← readFile? path
  let outcome := CommandLine.run args ⟨input.toList, fun name => (files.lookup name).join, before, path⟩
  if outcome.settings ≠ before then
    if let some bytes := outcome.settings then
      IO.FS.createDirAll ((path.dropEnd "/config.toml".length).toString)
      IO.FS.writeBinFile path ⟨bytes.toArray⟩
  (← IO.getStdout).putStr outcome.output
  (← IO.getStderr).putStr outcome.log
  return UInt32.ofNat outcome.code
