import GamePack.Dict

namespace GamePack

abbrev IdSet := Dict Unit

namespace IdSet

def toList (s : IdSet) : List String := Dict.keys s

def add (s : IdSet) (id : String) : IdSet := Dict.insert s id ()

def ofList (ids : List String) : IdSet := ids.foldl add Dict.empty

def contains (s : IdSet) (id : String) : Bool := s.toList.contains id

def isEmpty (s : IdSet) : Bool := s.toList.isEmpty

end IdSet

abbrev Graph := Dict IdSet

namespace Graph

def empty : Graph := Dict.empty

def successorSet (g : Graph) (id : String) : IdSet := (g.get? id).getD Dict.empty

def successors (g : Graph) (id : String) : List String := (g.successorSet id).toList

/-- Adds edges from one id to several. The id becomes a node even if there are none. -/
def addEdges (g : Graph) (source : String) (targets : List String) : Graph :=
  Dict.insert g source (targets.foldl IdSet.add (g.successorSet source))

def addEdge (g : Graph) (source target : String) : Graph := g.addEdges source [target]

def ofEdges (edges : List (String × String)) : Graph :=
  edges.foldl (fun g e ↦ g.addEdge e.1 e.2) empty

def ids (g : Graph) : List String := g.entries.flatMap fun e ↦ e.1 :: e.2.toList

def Edge (g : Graph) (source target : String) : Prop := target ∈ g.successors source

def encode (g : Graph) : Json := Dict.encode (fun s : IdSet ↦ Json.ofStrings s.toList) g

end Graph

end GamePack
