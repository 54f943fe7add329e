import GamePack.Digest
import GamePack.Sample.Pieces

namespace GamePack

structure Builder where
  packId : String
  fields : List (String × Json)

namespace Builder

def ofId (packId : String) : Builder :=
  ⟨packId, [("metadata", Sample.metadata packId "1.0.0" packId)]⟩

def ofDocument (doc : Json) : Builder :=
  ⟨doc.packId?.getD "", doc.fields?.getD []⟩

variable (b : Builder)

def document : Json := .obj b.fields

def qualify (name : String) : String := Sample.qualify b.packId name

def set (key : String) (value : Json) : Builder :=
  { b with fields := Json.insertField key value b.fields }

def editMetadata (f : Json → Json) : Builder :=
  match b.fields.lookup "metadata" with
  | some m => b.set "metadata" (f m)
  | none => b

def push (key : String) (entry : Json) : Builder :=
  match b.fields.lookup key with
  | none => b.set key (.arr [entry])
  | some (.arr items) => b.set key (.arr (items ++ [entry]))
  | some _ => b

def resource (name : String) (edit : Json → Json) : Builder :=
  b.push "resources" (edit (Sample.resource b.packId name))

def generator (name produces currency : String) : Builder :=
  b.push "generators" (Sample.generator b.packId name produces currency)

def upgrade (name currency : String) (edit : Json → Json) : Builder :=
  b.push "upgrades" (edit (Sample.upgrade b.packId name currency))

def transform (name : String) (inputs outputs : List String) : Builder :=
  b.push "transforms" (Sample.transform b.packId name inputs outputs)

def prestigeLayer (name reward : String) : Builder :=
  b.push "prestigeLayers" (Sample.prestigeLayer b.packId name reward)

/-- Requires other packs and no longer those it required before. -/
def requires (packIds : List String) : Builder :=
  let entries := packIds.map fun id ↦ Json.obj [("packId", .str id)]
  b.editMetadata fun m ↦ m.updateField "dependencies" fun d ↦ d.setField "requires" (.arr entries)

end Builder

end GamePack
