import GamePack.Config
import GamePack.Files.Basic
import GamePack.Json.Reader
import GamePack.Ron.Reader

namespace GamePack

inductive Format
  | json
  | ron
deriving DecidableEq, Repr

def Format.ofPath? (path : String) : Option Format :=
  match Files.extension? path with
  | some "json" => some .json
  | some "ron" => some .ron
  | _ => none

inductive LoadError
  | unreadable (path : String)
  | badJson (path : String)
  | badRon (path : String)
  | badSettings (path : String) (error : Decode.Error)
  | unsupported (path : String)
  | noPacks
deriving Repr

def LoadError.message : LoadError → String
  | unreadable path => s!"failed to read '{path}'"
  | badJson path => s!"invalid JSON in '{path}'"
  | badRon path => s!"invalid RON in '{path}'"
  | badSettings path error => s!"invalid options in '{path}': {error.message}"
  | unsupported path => s!"unsupported file type '{path}' (expected .json or .ron)"
  | noPacks => "no content packs found"

def nestingLimit : Nat := 127

namespace Files

variable (files : Files)

def text (path : String) : Except LoadError String :=
  match files path with
  | some (.file (some text)) => .ok text
  | _ => .error (.unreadable path)

def load (path : String) : Except LoadError Json := do
  match Format.ofPath? path with
  | none => .error (.unsupported path)
  | some .json => (Json.read? nestingLimit (← files.text path)).elim (.error (.badJson path)) .ok
  | some .ron => (Ron.read? (← files.text path)).elim (.error (.badRon path)) .ok

def loadConfig (path : String) : Except LoadError Config := do
  (Decode.run (fun _ ↦ Config.decoder) (← files.load path)).mapError (.badSettings path)

/-- The files that a path stands for: those of a directory that are written in a known format, in
the order of their names, and otherwise the path itself. -/
def packsAt (path : String) : List String :=
  match files path with
  | some (.directory names) =>
    (names.map (join path)).filter (fun p ↦ (Format.ofPath? p).isSome) |>.mergeSort (· ≤ ·)
  | _ => [path]

def collect (paths : List String) : Except LoadError (List String) :=
  match paths.flatMap files.packsAt with
  | [] => .error .noPacks
  | found => .ok found

def loadAll (paths : List String) : Except LoadError (List (String × Json)) := do
  (← files.collect paths).mapM fun path ↦ (files.load path).map (path, ·)

end Files

end GamePack
