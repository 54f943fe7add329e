import GamePack.Json.Basic

namespace GamePack

inductive Step
  | key (name : String)
  | index (i : Nat)
deriving DecidableEq, Repr

abbrev Path := List Step

namespace Path

def key (p : Path) (name : String) : Path := p ++ [.key name]

def index (p : Path) (i : Nat) : Path := p ++ [.index i]

def renderTail : Path → String
  | [] => ""
  | .key name :: rest => "." ++ name ++ renderTail rest
  | .index i :: rest => "[" ++ toString i ++ "]" ++ renderTail rest

def render : Path → String
  | [] => "<root>"
  | .key name :: rest => name ++ renderTail rest
  | p => renderTail p

/-- What a function gives for each item of a list at a place, in order. The function also sees the
item's place. -/
def each {α β : Type} (path : Path) (items : List α) (f : Path → α → List β) : List β :=
  items.zipIdx.flatMap fun item ↦ f (path.index item.2) item.1

end Path

def Step.encode : Step → Json
  | .key name => .str name
  | .index i => .ofNat i

def Path.encode (p : Path) : Json := .arr (p.map Step.encode)

def Json.at? : Path → Json → Option Json
  | [], v => some v
  | .key name :: rest, v => (v.field? name).bind (at? rest)
  | .index i :: rest, v => (v.item? i).bind (at? rest)

end GamePack
