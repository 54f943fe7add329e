import GamePack.Digest
import Std.Data.HashMap

namespace GamePack

/-- Items in three views: in their order, by id in no order, and in the order of ids. -/
structure Frozen (α : Type) where
  items : List α
  byId : Std.HashMap String α
  records : Dict α

namespace Frozen

variable {α : Type}

def lastById (id : α → String) (items : List α) : Std.HashMap String α :=
  items.foldl (fun found a ↦ found.insert (id a) a) ∅

def ofList (id : α → String) (items : List α) : Frozen α :=
  let byId := lastById id items
  ⟨items, byId, Dict.ofList byId.toList⟩

def ids (id : α → String) (c : Frozen α) : List String := c.items.map id

def size (c : Frozen α) : Nat := c.items.length

def isEmpty (c : Frozen α) : Bool := c.items.isEmpty

def get? (c : Frozen α) (id : String) : Option α := c.byId[id]?

def encode (f : α → Json) (c : Frozen α) : Json := .arr (c.items.map f)

end Frozen

structure FrozenPack where
  metadata : Metadata
  collection : (kind : Kind) → Frozen kind.Entry
  digest : Digest

namespace FrozenPack

def ofPack (p : Pack) : FrozenPack where
  metadata := p.metadata
  collection kind := .ofList kind.entryId (p.collection kind)
  digest := .ofShape p.shape

def id (p : FrozenPack) : String := p.metadata.id

def ids (p : FrozenPack) (kind : Kind) : List String := (p.collection kind).ids kind.entryId

def shape (p : FrozenPack) : Shape := ⟨p.metadata.id, p.metadata.version, p.ids⟩

def encode (p : FrozenPack) : Json :=
  .obj (("metadata", p.metadata.encode) ::
    (Kind.all.map fun kind ↦ (kind.key, (p.collection kind).encode kind.encodeEntry)) ++
    [("digest", p.digest.encode)])

end FrozenPack

end GamePack
