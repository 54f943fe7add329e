import GamePack.Files.Basic

namespace GamePack

/-- What a tree holds, by the steps from its root. An entry without content is a directory, and so
is everything on the way to an entry. -/
structure FileTree where
  entries : List (List String × Option String)

namespace FileTree

def ofList (entries : List (String × Option String)) : FileTree :=
  ⟨entries.map fun (name, content) ↦ (Files.steps name, content)⟩

def content? (t : FileTree) (place : List String) : Option String := (t.entries.lookup place).join

def isDirectory (t : FileTree) (place : List String) : Bool :=
  place.isEmpty || t.entries.any fun (steps, content) ↦
    if steps = place then content.isNone else place.isPrefixOf steps

def filesIn (t : FileTree) (place : List String) : List String :=
  t.entries.filterMap fun (steps, content) ↦
    match content, steps.getLast? with
    | some _, some name => if steps.dropLast = place then some name else none
    | _, _ => none

/-- Where some steps lead from a place. They cannot go up from what is no directory, nor
beyond the root. -/
def walk (t : FileTree) (place : List String) : List String → Option (List String)
  | [] => some place
  | ".." :: rest =>
    if place.isEmpty || !t.isDirectory place then none else walk t place.dropLast rest
  | step :: rest => walk t (place ++ [step]) rest

def node? (t : FileTree) (place : List String) : Option Node :=
  if t.isDirectory place then some (.directory (t.filesIn place))
  else (t.content? place).map fun text ↦ .file (some text)

/-- A path that ends in a slash, or stays in place at its end, leads only to directories. -/
def needsDirectory (path : String) : Bool :=
  match (Files.pieces path).getLast? with
  | some last => last = "" || last = "."
  | none => false

def view (t : FileTree) : Files := fun path ↦ do
  if path.isEmpty || path.toList.head? = some '/' then none
  else
    match ← t.node? (← t.walk [] (Files.steps path)) with
    | .directory files => some (.directory files)
    | .file text => if needsDirectory path then none else some (.file text)

end FileTree

def Files.ofTexts (named : List (String × Option String)) (t : FileTree) : Files := fun path ↦
  match named.lookup path with
  | some text => some (.file text)
  | none => t.view path

end GamePack
