import GamePack.Decode.Fields

namespace GamePack

/-- One variant: its tag and its fields. A bare variant has none and ignores what stands beside its
tag in an object. -/
structure Variant (n : Nat) (α : Type) where
  tag : String
  bare : Bool
  fields : Fields n α

namespace Variant

variable {n : Nat} {α : Type}

def title (variant : Variant n α) : String := variant.tag.capitalize

def plain (tag : String) (a : α) : Variant n α := ⟨tag, true, Fields.const a⟩

def withFields (tag : String) (fields : Fields n α) : Variant n α := ⟨tag, false, fields⟩

end Variant

/-- Tagged values: objects whose tag says which variant the other fields belong to, or arrays that
start with the tag. The other fields are set aside until the tag is known. -/
structure Tagged (n : Nat) (α : Type) where
  name : String
  key : String
  variants : List (Variant n α)

namespace Tagged

variable {n : Nat} {α : Type}

def tags (t : Tagged n α) : List String := t.variants.map (·.tag)

/-- The variant that a tag names. Content set aside may also give the variant's number. -/
def variantOf (t : Tagged n α) (mode : Mode) (tag : Json) : Except Decode.Error (Variant n α) :=
  match mode, tag with
  | _, .str s =>
    match t.variants.find? (·.tag = s) with
    | some variant => .ok variant
    | none => Decode.fail (.unknownVariant s t.tags)
  | .aside, .num (.unsigned i) =>
    match t.variants[i]? with
    | some variant => .ok variant
    | none =>
      Decode.fail (.outOfRange (.unsigned i) s!"variant index 0 <= i < {t.variants.length}")
  | _, v => Decode.fail (.wrongSort v "variant identifier")

def ofObject (variant : Variant n α) (fields : List (String × Below n)) : Except Decode.Error α :=
  variant.fields.ofObject (!variant.bare) .aside fields

def ofArray (t : Tagged n α) (variant : Variant n α) (items : List (Below n)) :
    Except Decode.Error α :=
  variant.fields.ofArray s!"struct variant {t.name}::{variant.title}" .aside items

/-- Reads a value from an object. A fault in the tag is blamed on the tag, any other on
the whole value. -/
def keyed (t : Tagged n α) (mode : Mode) (fields : List (String × Below n)) :
    Except Decode.Error α :=
  match fields.lookup t.key with
  | none => Decode.fail (.missingField t.key)
  | some tag => do
    let variant ← Decode.inside (.key t.key) (t.variantOf mode tag)
    (ofObject variant (fields.filter (·.1 ≠ t.key))).mapError (·.atRoot)

def placed (t : Tagged n α) (mode : Mode) (items : List (Below n)) : Except Decode.Error α :=
  match items with
  | [] => Decode.fail (.missingField t.key)
  | tag :: others => do
    let variant ← Decode.inside (.index 0) (t.variantOf mode tag.1)
    (t.ofArray variant others).mapError (·.atRoot)

def decoder {m : Nat} (t : Tagged m α) (h : n ≤ m + 1) : Decoder n α :=
  Decode.compound h ("internally tagged enum " ++ t.name) t.keyed t.placed

end Tagged

end GamePack
