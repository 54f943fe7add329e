import GamePack.Content.Achievement
import GamePack.Content.Automation
import GamePack.Content.Entity
import GamePack.Content.Generator
import GamePack.Content.Metadata
import GamePack.Content.Metric
import GamePack.Content.PrestigeLayer
import GamePack.Content.Resource
import GamePack.Content.RuntimeEvent
import GamePack.Content.Transform
import GamePack.Content.Upgrade

namespace GamePack

namespace Kind

abbrev Entry : Kind → Type
  | resource => Resource
  | generator => Generator
  | upgrade => Upgrade
  | achievement => Achievement
  | automation => Automation
  | transform => Transform
  | prestigeLayer => PrestigeLayer
  | entity => Entity
  | metric => Metric
  | runtimeEvent => RuntimeEvent

def entryDecoder {n : Nat} : (kind : Kind) → Decoder n kind.Entry
  | resource => Resource.decoder
  | generator => Generator.decoder
  | upgrade => Upgrade.decoder
  | achievement => Achievement.decoder
  | automation => Automation.decoder
  | transform => Transform.decoder
  | prestigeLayer => PrestigeLayer.decoder
  | entity => Entity.decoder
  | metric => Metric.decoder
  | runtimeEvent => RuntimeEvent.decoder

def encodeEntry : (kind : Kind) → kind.Entry → Json
  | resource => Resource.encode
  | generator => Generator.encode
  | upgrade => Upgrade.encode
  | achievement => Achievement.encode
  | automation => Automation.encode
  | transform => Transform.encode
  | prestigeLayer => PrestigeLayer.encode
  | entity => Entity.encode
  | metric => Metric.encode
  | runtimeEvent => RuntimeEvent.encode

def entryId : (kind : Kind) → kind.Entry → String
  | resource => Resource.id
  | generator => Generator.id
  | upgrade => Upgrade.id
  | achievement => Achievement.id
  | automation => Automation.id
  | transform => Transform.id
  | prestigeLayer => PrestigeLayer.id
  | entity => Entity.id
  | metric => Metric.id
  | runtimeEvent => RuntimeEvent.id

def entryName? : (kind : Kind) → kind.Entry → Option DisplayText
  | resource => fun e ↦ some e.name
  | generator => fun e ↦ some e.name
  | upgrade => fun e ↦ some e.name
  | achievement => fun e ↦ some e.name
  | automation => fun e ↦ some e.name
  | transform => fun e ↦ some e.name
  | prestigeLayer => fun e ↦ some e.name
  | entity => fun e ↦ some e.name
  | metric => fun e ↦ some e.name
  | runtimeEvent => fun _ ↦ none

end Kind

structure Pack where
  metadata : Metadata
  resources : List Resource
  generators : List Generator
  upgrades : List Upgrade
  achievements : List Achievement
  automations : List Automation
  transforms : List Transform
  prestigeLayers : List PrestigeLayer
  entities : List Entity
  metrics : List Metric
  runtimeEvents : List RuntimeEvent

namespace Pack

def collection (p : Pack) : (kind : Kind) → List kind.Entry
  | .resource => p.resources
  | .generator => p.generators
  | .upgrade => p.upgrades
  | .achievement => p.achievements
  | .automation => p.automations
  | .transform => p.transforms
  | .prestigeLayer => p.prestigeLayers
  | .entity => p.entities
  | .metric => p.metrics
  | .runtimeEvent => p.runtimeEvents

def ofCollections (metadata : Metadata) (collection : (kind : Kind) → List kind.Entry) : Pack where
  metadata
  resources := collection .resource
  generators := collection .generator
  upgrades := collection .upgrade
  achievements := collection .achievement
  automations := collection .automation
  transforms := collection .transform
  prestigeLayers := collection .prestigeLayer
  entities := collection .entity
  metrics := collection .metric
  runtimeEvents := collection .runtimeEvent

@[simp]
theorem collection_ofCollections (metadata : Metadata) (f : (kind : Kind) → List kind.Entry)
    (kind : Kind) : (ofCollections metadata f).collection kind = f kind := by
  cases kind <;> rfl

def empty (metadata : Metadata) : Pack := ofCollections metadata fun _ ↦ []

def id (p : Pack) : String := p.metadata.id

def ids (p : Pack) (kind : Kind) : List String := (p.collection kind).map kind.entryId

def size (p : Pack) (kind : Kind) : Nat := (p.collection kind).length

def encodeCollection (p : Pack) (kind : Kind) : Json :=
  .arr ((p.collection kind).map kind.encodeEntry)

def encode (p : Pack) : Json :=
  .obj (("metadata", p.metadata.encode) :: Kind.all.map fun kind ↦
    (kind.key, p.encodeCollection kind))

def resource? (p : Pack) (id : String) : Option Resource := p.resources.find? (·.id = id)

def entity? (p : Pack) (id : String) : Option Entity := p.entities.find? (·.id = id)

end Pack

end GamePack
