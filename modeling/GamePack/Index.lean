import GamePack.Content.Pack

namespace GamePack

abbrev Index (α : Type) := Dict (Nat × α)

namespace Index

variable {α : Type}

def ofList (id : α → String) (items : List α) : Index α :=
  Dict.ofList (items.zipIdx.map fun (a, i) ↦ (id a, (i, a)))

def contains (x : Index α) (id : String) : Bool := (x.get? id).isSome

def position? (x : Index α) (id : String) : Option Nat := (x.get? id).map (·.1)

def item? (x : Index α) (id : String) : Option α := (x.get? id).map (·.2)

end Index

namespace Pack

def index (p : Pack) (kind : Kind) : Index kind.Entry := .ofList kind.entryId (p.collection kind)

def Has (p : Pack) (kind : Kind) (id : String) : Prop := id ∈ p.ids kind

instance (p : Pack) (kind : Kind) (id : String) : Decidable (p.Has kind id) :=
  inferInstanceAs (Decidable (id ∈ p.ids kind))

end Pack

end GamePack
