import GamePack.Text.Split

namespace GamePack

inductive Node
  | directory (files : List String)
  /-- A file; one that holds no text has no content here. -/
  | file (content : Option String)
deriving Repr

abbrev Files := String → Option Node

def Files.pieces (path : String) : List String :=
  (Text.split (· = '/') path.toList).map String.ofList

namespace Files

def steps (path : String) : List String := (pieces path).filter fun s ↦ s ≠ "" && s ≠ "."

/-- The name of the file at a path; none if the path ends by going up or takes no step. -/
def fileName? (path : String) : Option String := (steps path).getLast?.filter (· ≠ "..")

/-- What follows the last point of a name, unless the name only starts with that point. -/
def extensionOf? (name : String) : Option String :=
  match (Text.split (· = '.') name.toList).reverse with
  | [] | [_] | [_, []] => none
  | ending :: _ => some (String.ofList ending)

def extension? (path : String) : Option String := (fileName? path).bind extensionOf?

def join (directory name : String) : String :=
  if directory.toList.getLast? = some '/' then directory ++ name else directory ++ "/" ++ name

end Files

end GamePack
