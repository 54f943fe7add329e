import GamePack.Content.Condition
import GamePack.Content.DisplayText

namespace GamePack

structure PrestigeReward where
  resourceId : String
  baseReward : Formula
  multiplierCurve : Option Formula

inductive Retention
  | resource (resource : String) (amount : Option Formula)
  | generator (generator : String)
  | upgrade (upgrade : String)

structure PrestigeLayer where
  id : String
  name : DisplayText
  summary : Option DisplayText
  resetTargets : List String
  resetGenerators : List String
  resetUpgrades : List String
  unlockCondition : Condition
  reward : PrestigeReward
  retention : List Retention

variable {n : Nat}

namespace PrestigeReward

def decoder : Decoder n PrestigeReward := Fields.closed "PrestigeReward" <|
  mk <$> .required "resourceId" Decode.string
    <*> .required "baseReward" (Formula.decoder n)
    <*> .optional "multiplierCurve" (Formula.decoder n)

def encode (r : PrestigeReward) : Json := .obj
  [("resourceId", .str r.resourceId),
    ("baseReward", r.baseReward.encode),
    ("multiplierCurve", .ofOption Formula.encode r.multiplierCurve)]

end PrestigeReward

namespace Retention

def tagged : Tagged n Retention where
  name := "PrestigeRetention"
  key := "kind"
  variants :=
    [.withFields "resource" (resource <$> .required "resourceId" Decode.string <*>
        .optional "amount" (Formula.decoder n)),
      .withFields "generator" (generator <$> .required "generatorId" Decode.string),
      .withFields "upgrade" (upgrade <$> .required "upgradeId" Decode.string)]

def decoder : Decoder n Retention := tagged.decoder (Nat.le_succ n)

def encode : Retention → Json
  | resource id amount => encodeVariant "kind" "resource"
      [("resourceId", .str id), ("amount", .ofOption Formula.encode amount)]
  | generator id => encodeVariant "kind" "generator" [("generatorId", .str id)]
  | upgrade id => encodeVariant "kind" "upgrade" [("upgradeId", .str id)]

end Retention

namespace PrestigeLayer

def decoder : Decoder n PrestigeLayer := Fields.closed "PrestigeLayerData" <|
  mk <$> .required "id" Decode.string
    <*> .required "name" DisplayText.decoder
    <*> .optional "summary" DisplayText.decoder
    <*> .listed "resetTargets" Decode.string
    <*> .listed "resetGenerators" Decode.string
    <*> .listed "resetUpgrades" Decode.string
    <*> .required "unlockCondition" (Condition.decoder n)
    <*> .required "reward" PrestigeReward.decoder
    <*> .listed "retention" Retention.decoder

def encode (l : PrestigeLayer) : Json := .obj
  [("id", .str l.id),
    ("name", l.name.encode),
    ("summary", .ofOption DisplayText.encode l.summary),
    ("resetTargets", .ofStrings l.resetTargets),
    ("resetGenerators", .ofStrings l.resetGenerators),
    ("resetUpgrades", .ofStrings l.resetUpgrades),
    ("unlockCondition", l.unlockCondition.encode),
    ("reward", l.reward.encode),
    ("retention", .arr (l.retention.map Retention.encode))]

def countResource (l : PrestigeLayer) : String := Id.prestigeCount l.id

end PrestigeLayer

end GamePack
