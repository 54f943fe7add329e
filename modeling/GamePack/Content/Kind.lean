import GamePack.Decode.Basic

namespace GamePack

inductive Kind
  | resource
  | generator
  | upgrade
  | achievement
  | automation
  | transform
  | prestigeLayer
  | entity
  | metric
  | runtimeEvent
deriving DecidableEq, Repr

namespace Kind

def all : List Kind :=
  [resource, generator, upgrade, achievement, automation, transform, prestigeLayer, entity, metric,
    runtimeEvent]

theorem mem_all (kind : Kind) : kind ∈ all := by cases kind <;> decide

def label : Kind → String
  | resource => "resource"
  | generator => "generator"
  | upgrade => "upgrade"
  | achievement => "achievement"
  | automation => "automation"
  | transform => "transform"
  | prestigeLayer => "prestige layer"
  | entity => "entity"
  | metric => "metric"
  | runtimeEvent => "runtime event"

def name : Kind → String
  | prestigeLayer => "prestigeLayer"
  | runtimeEvent => "runtimeEvent"
  | kind => kind.label

def key : Kind → String
  | resource => "resources"
  | generator => "generators"
  | upgrade => "upgrades"
  | achievement => "achievements"
  | automation => "automations"
  | transform => "transforms"
  | prestigeLayer => "prestigeLayers"
  | entity => "entities"
  | metric => "metrics"
  | runtimeEvent => "runtimeEvents"

def ofKey? (key : String) : Option Kind := all.find? (·.key = key)

def decoder {n : Nat} : Decoder n Kind := Decode.choice (all.map fun kind ↦ (kind.name, kind))

def keyDecoder {n : Nat} : Decoder n Kind := Decode.choice (all.map fun kind ↦ (kind.key, kind))

end Kind

end GamePack
