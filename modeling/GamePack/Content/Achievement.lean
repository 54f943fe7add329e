import GamePack.Content.Condition
import GamePack.Content.DisplayText

namespace GamePack

inductive Track
  | resource (resource : String) (comparator : Comparator) (threshold : Formula)
  | generatorLevel (generator : String) (level : Formula)
  | upgradeOwned (upgrade : String) (purchases : Option Formula)
  | flag (id : String)
  | script (id : String)
  | customMetric (metric : String) (threshold : Formula)

inductive ProgressMode
  | oneShot
  | incremental
  | repeatable
deriving DecidableEq, Repr

structure Progress where
  target : Option Formula
  mode : ProgressMode

inductive Reward
  | grantResource (resource : String) (amount : Formula)
  | grantUpgrade (upgrade : String)
  | emitEvent (event : String)
  | unlockAutomation (automation : String)
  | grantFlag (flag : String) (value : Bool)

structure Achievement where
  id : String
  name : DisplayText
  description : Option DisplayText
  category : Option String
  track : Track
  progress : Option Progress
  reward : Option Reward
  onUnlockEvents : List String
  unlockCondition : Option Condition
  visibilityCondition : Option Condition
  tags : List String

variable {n : Nat}

namespace Track

def tagged : Tagged n Track where
  name := "AchievementTrack"
  key := "kind"
  variants :=
    [.withFields "resource" (resource <$> .required "resourceId" Decode.string <*>
        Comparator.field <*> .required "threshold" (Formula.decoder n)),
      .withFields "generatorLevel" (generatorLevel <$> .required "generatorId" Decode.string <*>
        .required "level" (Formula.decoder n)),
      .withFields "upgradeOwned" (upgradeOwned <$> .required "upgradeId" Decode.string <*>
        .optional "purchases" (Formula.decoder n)),
      .withFields "flag" (flag <$> .required "flagId" Decode.string),
      .withFields "script" (script <$> .required "scriptId" Decode.string),
      .withFields "customMetric" (customMetric <$> .required "metricId" Decode.string <*>
        .required "threshold" (Formula.decoder n))]

def decoder : Decoder n Track := tagged.decoder (Nat.le_succ n)

def encode : Track → Json
  | resource id comparator threshold => encodeVariant "kind" "resource"
      [("resourceId", .str id), ("comparator", comparator.encode),
        ("threshold", threshold.encode)]
  | generatorLevel generator level => encodeVariant "kind" "generatorLevel"
      [("generatorId", .str generator), ("level", level.encode)]
  | upgradeOwned upgrade purchases => encodeVariant "kind" "upgradeOwned"
      [("upgradeId", .str upgrade), ("purchases", .ofOption Formula.encode purchases)]
  | flag id => encodeVariant "kind" "flag" [("flagId", .str id)]
  | script id => encodeVariant "kind" "script" [("scriptId", .str id)]
  | customMetric metric threshold => encodeVariant "kind" "customMetric"
      [("metricId", .str metric), ("threshold", threshold.encode)]

end Track

def ProgressMode.names : List (String × ProgressMode) :=
  [("oneShot", .oneShot), ("incremental", .incremental), ("repeatable", .repeatable)]

namespace Progress

def decoder : Decoder n Progress := Fields.closed "AchievementProgress" <|
  mk <$> .optional "target" (Formula.decoder n)
    <*> .defaulted "mode" .oneShot (Decode.choice ProgressMode.names)

def encode (p : Progress) : Json := .obj
  [("target", .ofOption Formula.encode p.target), ("mode", encodeName ProgressMode.names p.mode)]

end Progress

namespace Reward

def tagged : Tagged n Reward where
  name := "AchievementReward"
  key := "kind"
  variants :=
    [.withFields "grantResource" (grantResource <$> .required "resourceId" Decode.string <*>
        .required "amount" (Formula.decoder n)),
      .withFields "grantUpgrade" (grantUpgrade <$> .required "upgradeId" Decode.string),
      .withFields "emitEvent" (emitEvent <$> .required "eventId" Decode.string),
      .withFields "unlockAutomation" (unlockAutomation <$> .required "automationId" Decode.string),
      .withFields "grantFlag" (grantFlag <$> .required "flagId" Decode.string <*>
        .defaulted "value" true Decode.bool)]

def decoder : Decoder n Reward := tagged.decoder (Nat.le_succ n)

def encode : Reward → Json
  | grantResource resource amount => encodeVariant "kind" "grantResource"
      [("resourceId", .str resource), ("amount", amount.encode)]
  | grantUpgrade upgrade => encodeVariant "kind" "grantUpgrade" [("upgradeId", .str upgrade)]
  | emitEvent event => encodeVariant "kind" "emitEvent" [("eventId", .str event)]
  | unlockAutomation automation =>
    encodeVariant "kind" "unlockAutomation" [("automationId", .str automation)]
  | grantFlag flag value =>
    encodeVariant "kind" "grantFlag" [("flagId", .str flag), ("value", .bool value)]

end Reward

namespace Achievement

def decoder : Decoder n Achievement := Fields.closed "AchievementData" <|
  mk <$> .required "id" Decode.string
    <*> .required "name" DisplayText.decoder
    <*> .optional "description" DisplayText.decoder
    <*> .optional "category" Decode.string
    <*> .required "track" Track.decoder
    <*> .optional "progress" Progress.decoder
    <*> .optional "reward" Reward.decoder
    <*> .listed "onUnlockEvents" Decode.string
    <*> .optional "unlockCondition" (Condition.decoder n)
    <*> .optional "visibilityCondition" (Condition.decoder n)
    <*> .listed "tags" Decode.string

def encode (a : Achievement) : Json := .obj
  [("id", .str a.id),
    ("name", a.name.encode),
    ("description", .ofOption DisplayText.encode a.description),
    ("category", .ofOption .str a.category),
    ("track", a.track.encode),
    ("progress", .ofOption Progress.encode a.progress),
    ("reward", .ofOption Reward.encode a.reward),
    ("onUnlockEvents", .ofStrings a.onUnlockEvents),
    ("unlockCondition", .ofOption Condition.encode a.unlockCondition),
    ("visibilityCondition", .ofOption Condition.encode a.visibilityCondition),
    ("tags", .ofStrings a.tags)]

end Achievement

end GamePack
