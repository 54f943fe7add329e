import GamePack.Command.Run
import GamePack.Files.Tree

namespace GamePack

def readText? (path : String) : IO (Option String) := do
  try
    return some (← IO.FS.readFile path)
  catch _ =>
    return none

def readTexts (paths : List String) : IO (List (String × Option String)) :=
  paths.filterMapM fun path ↦ do
    return (← readText? path).map fun text ↦ (path, some text)

partial def readLines (stream : IO.FS.Stream) : IO (List String) := do
  let line ← stream.getLine
  if line.isEmpty then return []
  return line.trimAsciiEnd.toString :: (← readLines stream)

def readFiles (args : List String) : IO Files := do
  let paths := (Command.ofArgs args).toOption.elim [] Command.paths
  let named ← readTexts paths
  let listed ←
    if named.length = paths.length then pure []
    else readTexts (← readLines (← IO.getStdin))
  return .ofTexts named (.ofList listed)

end GamePack

open GamePack in
def main (args : List String) : IO UInt32 := do
  let result := Command.runArgs (← readFiles args) args
  IO.print result.output
  for line in result.logLines .error do
    IO.eprintln line
  return result.code.toUInt32
