import GamePack.Content.Condition
import GamePack.Content.DisplayText

namespace GamePack

inductive UpgradeTarget
  | everything
  | resource (id : String)
  | generator (id : String)
  | automation (id : String)
  | prestigeLayer (id : String)
deriving DecidableEq, Repr

structure UpgradeCost where
  currencyId : String
  costMultiplier : Double
  costCurve : Formula

structure Repetition where
  maxPurchases : Option Nat
  costCurve : Option Formula

inductive Operation
  | add
  | multiply
  | set
deriving DecidableEq, Repr

inductive Effect
  | resourceRate (resource : String) (operation : Operation) (value : Formula)
  | resourceCapacity (resource : String) (operation : Operation) (value : Formula)
  | unlockResource (resource : String)
  | dirtyTolerance (resource : String) (operation : Operation) (value : Formula)
  | generatorRate (generator : String) (operation : Operation) (value : Formula)
  | generatorCost (generator : String) (operation : Operation) (value : Formula)
  | generatorConsumption (generator : String) (resource : Option String) (operation : Operation)
      (value : Formula)
  | unlockGenerator (generator : String)
  | grantAutomation (automation : String)
  | grantFlag (flag : String) (value : Bool)
  | emitEvent (event : String)

/-- What must hold before an upgrade is offered. A bare id is short for owning that upgrade. -/
inductive Prerequisite
  | upgrade (id : String)
  | condition (condition : Condition)

structure Upgrade where
  id : String
  name : DisplayText
  category : Option String
  targets : List UpgradeTarget
  cost : UpgradeCost
  repeatable : Option Repetition
  effects : List Effect
  prerequisites : List Prerequisite
  unlockCondition : Option Condition
  visibilityCondition : Option Condition
  tags : List String

variable {n : Nat}

namespace UpgradeTarget

def tagged : Tagged n UpgradeTarget where
  name := "UpgradeTarget"
  key := "kind"
  variants :=
    let id := Fields.required "id" Decode.string
    [.plain "global" everything,
      .withFields "resource" (resource <$> id),
      .withFields "generator" (generator <$> id),
      .withFields "automation" (automation <$> id),
      .withFields "prestigeLayer" (prestigeLayer <$> id)]

def decoder : Decoder n UpgradeTarget := tagged.decoder (Nat.le_succ n)

def encode : UpgradeTarget → Json
  | everything => encodeVariant "kind" "global" []
  | resource id => encodeVariant "kind" "resource" [("id", .str id)]
  | generator id => encodeVariant "kind" "generator" [("id", .str id)]
  | automation id => encodeVariant "kind" "automation" [("id", .str id)]
  | prestigeLayer id => encodeVariant "kind" "prestigeLayer" [("id", .str id)]

end UpgradeTarget

namespace UpgradeCost

def decoder : Decoder n UpgradeCost := Fields.closed "UpgradeCost" <|
  mk <$> .required "currencyId" Decode.string
    <*> .defaulted "costMultiplier" .one Decode.double
    <*> .required "costCurve" (Formula.decoder n)

def encode (c : UpgradeCost) : Json := .obj
  [("currencyId", .str c.currencyId),
    ("costMultiplier", .ofDouble c.costMultiplier),
    ("costCurve", c.costCurve.encode)]

end UpgradeCost

namespace Repetition

def decoder : Decoder n Repetition := Fields.closed "RepeatableCost" <|
  mk <$> .optional "maxPurchases" Decode.nat32 <*> .optional "costCurve" (Formula.decoder n)

def encode (r : Repetition) : Json := .obj
  [("maxPurchases", .ofOption .ofNat r.maxPurchases),
    ("costCurve", .ofOption Formula.encode r.costCurve)]

end Repetition

def Operation.names : List (String × Operation) :=
  [("add", .add), ("multiply", .multiply), ("set", .set)]

namespace Effect

def tagged : Tagged n Effect where
  name := "UpgradeEffect"
  key := "kind"
  variants :=
    let resource := Fields.required "resourceId" Decode.string
    let generator := Fields.required "generatorId" Decode.string
    let operation := Fields.required "operation" (Decode.choice Operation.names)
    let value := Fields.required "value" (Formula.decoder n)
    [.withFields "modifyResourceRate" (resourceRate <$> resource <*> operation <*> value),
      .withFields "modifyResourceCapacity" (resourceCapacity <$> resource <*> operation <*> value),
      .withFields "unlockResource" (unlockResource <$> resource),
      .withFields "alterDirtyTolerance" (dirtyTolerance <$> resource <*> operation <*> value),
      .withFields "modifyGeneratorRate" (generatorRate <$> generator <*> operation <*> value),
      .withFields "modifyGeneratorCost" (generatorCost <$> generator <*> operation <*> value),
      .withFields "modifyGeneratorConsumption" (generatorConsumption <$> generator <*>
        .optional "resourceId" Decode.string <*> operation <*> value),
      .withFields "unlockGenerator" (unlockGenerator <$> generator),
      .withFields "grantAutomation" (grantAutomation <$> .required "automationId" Decode.string),
      .withFields "grantFlag" (grantFlag <$> .required "flagId" Decode.string <*>
        .defaulted "value" true Decode.bool),
      .withFields "emitEvent" (emitEvent <$> .required "eventId" Decode.string)]

def decoder : Decoder n Effect := tagged.decoder (Nat.le_succ n)

def encodeChange (tag : String) (entry : List (String × Json)) (operation : Operation)
    (value : Formula) : Json :=
  encodeVariant "kind" tag
    (entry ++ [("operation", encodeName Operation.names operation), ("value", value.encode)])

def encode : Effect → Json
  | resourceRate resource operation value =>
    encodeChange "modifyResourceRate" [("resourceId", .str resource)] operation value
  | resourceCapacity resource operation value =>
    encodeChange "modifyResourceCapacity" [("resourceId", .str resource)] operation value
  | unlockResource resource =>
    encodeVariant "kind" "unlockResource" [("resourceId", .str resource)]
  | dirtyTolerance resource operation value =>
    encodeChange "alterDirtyTolerance" [("resourceId", .str resource)] operation value
  | generatorRate generator operation value =>
    encodeChange "modifyGeneratorRate" [("generatorId", .str generator)] operation value
  | generatorCost generator operation value =>
    encodeChange "modifyGeneratorCost" [("generatorId", .str generator)] operation value
  | generatorConsumption generator resource operation value =>
    encodeChange "modifyGeneratorConsumption"
      [("generatorId", .str generator), ("resourceId", .ofOption .str resource)] operation value
  | unlockGenerator generator =>
    encodeVariant "kind" "unlockGenerator" [("generatorId", .str generator)]
  | grantAutomation automation =>
    encodeVariant "kind" "grantAutomation" [("automationId", .str automation)]
  | grantFlag flag value =>
    encodeVariant "kind" "grantFlag" [("flagId", .str flag), ("value", .bool value)]
  | emitEvent event => encodeVariant "kind" "emitEvent" [("eventId", .str event)]

end Effect

namespace Prerequisite

def decoder : Decoder n Prerequisite :=
  Decode.orElse (fun mode v ↦ (Decode.string mode v).map upgrade)
    (fun mode v ↦ (Condition.decoder n mode v).map condition) "UpgradePrerequisite"

def encode : Prerequisite → Json
  | upgrade id => .str id
  | condition c => c.encode

def toCondition : Prerequisite → Condition
  | upgrade id => .upgradeOwned id 1
  | condition c => c

end Prerequisite

namespace Upgrade

def decoder : Decoder n Upgrade := Fields.closed "UpgradeData" <|
  mk <$> .required "id" Decode.string
    <*> .required "name" DisplayText.decoder
    <*> .optional "category" Decode.string
    <*> .listed "targets" UpgradeTarget.decoder
    <*> .required "cost" UpgradeCost.decoder
    <*> .optional "repeatable" Repetition.decoder
    <*> .listed "effects" Effect.decoder
    <*> .listed "prerequisites" Prerequisite.decoder
    <*> .optional "unlockCondition" (Condition.decoder n)
    <*> .optional "visibilityCondition" (Condition.decoder n)
    <*> .listed "tags" Decode.string

def encode (u : Upgrade) : Json := .obj
  [("id", .str u.id),
    ("name", u.name.encode),
    ("category", .ofOption .str u.category),
    ("targets", .arr (u.targets.map UpgradeTarget.encode)),
    ("cost", u.cost.encode),
    ("repeatable", .ofOption Repetition.encode u.repeatable),
    ("effects", .arr (u.effects.map Effect.encode)),
    ("prerequisites", .arr (u.prerequisites.map Prerequisite.encode)),
    ("unlockCondition", .ofOption Condition.encode u.unlockCondition),
    ("visibilityCondition", .ofOption Condition.encode u.visibilityCondition),
    ("tags", .ofStrings u.tags)]

def hasTag (u : Upgrade) (tag : String) : Bool := u.tags.contains tag

def isRepeatable (u : Upgrade) : Bool := u.repeatable.isSome

end Upgrade

end GamePack
