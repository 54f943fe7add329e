import GamePack.Content.Generator

namespace GamePack

inductive AutomationTarget
  | generator
  | upgrade
  | purchaseGenerator
  | collectResource
  | system
deriving DecidableEq, Repr

inductive AutomationTrigger
  | interval (interval : Formula)
  | resourceThreshold (resource : String) (comparator : Comparator) (threshold : Formula)
  | commandQueueEmpty
  | event (event : String)

structure Automation where
  id : String
  name : DisplayText
  description : Option DisplayText
  targetType : AutomationTarget
  targetId : Option String
  systemTargetId : Option String
  trigger : AutomationTrigger
  resourceCost : Option ResourceRate
  cooldown : Option Formula
  unlockCondition : Option Condition
  enabledByDefault : Bool
  order : Option Double

variable {n : Nat}

namespace AutomationTarget

def names : List (String × AutomationTarget) :=
  [("generator", .generator), ("upgrade", .upgrade), ("purchaseGenerator", .purchaseGenerator),
    ("collectResource", .collectResource), ("system", .system)]

def kind? : AutomationTarget → Option Kind
  | generator | purchaseGenerator => some .generator
  | upgrade => some .upgrade
  | collectResource => some .resource
  | system => none

end AutomationTarget

namespace AutomationTrigger

def tagged : Tagged n AutomationTrigger where
  name := "AutomationTrigger"
  key := "kind"
  variants :=
    [.withFields "interval" (interval <$> .required "interval" (Formula.decoder n)),
      .withFields "resourceThreshold"
        (resourceThreshold <$> .required "resourceId" Decode.string <*>
        Comparator.field <*> .required "threshold" (Formula.decoder n)),
      .plain "commandQueueEmpty" commandQueueEmpty,
      .withFields "event" (event <$> .required "eventId" Decode.string)]

def decoder : Decoder n AutomationTrigger := tagged.decoder (Nat.le_succ n)

def encode : AutomationTrigger → Json
  | interval formula => encodeVariant "kind" "interval" [("interval", formula.encode)]
  | resourceThreshold resource comparator threshold => encodeVariant "kind" "resourceThreshold"
      [("resourceId", .str resource), ("comparator", comparator.encode),
        ("threshold", threshold.encode)]
  | commandQueueEmpty => encodeVariant "kind" "commandQueueEmpty" []
  | event id => encodeVariant "kind" "event" [("eventId", .str id)]

end AutomationTrigger

namespace Automation

def decoder : Decoder n Automation := Fields.closed "AutomationData" <|
  mk <$> .required "id" Decode.string
    <*> .required "name" DisplayText.decoder
    <*> .optional "description" DisplayText.decoder
    <*> .required "targetType" (Decode.choice AutomationTarget.names)
    <*> .optional "targetId" Decode.string
    <*> .optional "systemTargetId" Decode.string
    <*> .required "trigger" AutomationTrigger.decoder
    <*> .optional "resourceCost" ResourceRate.decoder
    <*> .optional "cooldown" (Formula.decoder n)
    <*> .optional "unlockCondition" (Condition.decoder n)
    <*> .defaulted "enabledByDefault" false Decode.bool
    <*> .optional "order" Decode.double

def encode (a : Automation) : Json := .obj
  [("id", .str a.id),
    ("name", a.name.encode),
    ("description", .ofOption DisplayText.encode a.description),
    ("targetType", encodeName AutomationTarget.names a.targetType),
    ("targetId", .ofOption .str a.targetId),
    ("systemTargetId", .ofOption .str a.systemTargetId),
    ("trigger", a.trigger.encode),
    ("resourceCost", .ofOption ResourceRate.encode a.resourceCost),
    ("cooldown", .ofOption Formula.encode a.cooldown),
    ("unlockCondition", .ofOption Condition.encode a.unlockCondition),
    ("enabledByDefault", .bool a.enabledByDefault),
    ("order", .ofOption .ofDouble a.order)]

end Automation

end GamePack
