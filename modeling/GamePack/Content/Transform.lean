import GamePack.Content.Condition
import GamePack.Content.DisplayText

namespace GamePack

inductive TransformMode
  | instant
  | continuous
  | batch
  | mission
deriving DecidableEq, Repr

structure ResourceAmount where
  resourceId : String
  amount : Formula

inductive TransformTrigger
  | manual
  | condition (condition : Condition)
  | event (event : String)
  | automation (automation : String)

structure EntityRequirement where
  entityId : String
  count : Formula
  minStats : Dict Formula
  returnOnCompletion : Bool

structure Transform where
  id : String
  name : DisplayText
  description : Option DisplayText
  mode : TransformMode
  inputs : List ResourceAmount
  outputs : List ResourceAmount
  duration : Option Formula
  cooldown : Option Formula
  trigger : TransformTrigger
  entityRequirements : List EntityRequirement
  unlockCondition : Option Condition
  visibilityCondition : Option Condition
  tags : List String

variable {n : Nat}

namespace TransformMode

def names : List (String × TransformMode) :=
  [("instant", .instant), ("continuous", .continuous), ("batch", .batch), ("mission", .mission)]

def requiresDuration (mode : TransformMode) : Bool := mode = batch || mode = mission

end TransformMode

namespace ResourceAmount

def decoder : Decoder n ResourceAmount := Fields.closed "ResourceAmount" <|
  mk <$> .required "resourceId" Decode.string <*> .required "amount" (Formula.decoder n)

def encode (r : ResourceAmount) : Json :=
  .obj [("resourceId", .str r.resourceId), ("amount", r.amount.encode)]

end ResourceAmount

namespace TransformTrigger

def tagged : Tagged n TransformTrigger where
  name := "TransformTrigger"
  key := "kind"
  variants :=
    [.plain "manual" manual,
      .withFields "condition" (condition <$> .required "condition" (Condition.decoder n)),
      .withFields "event" (event <$> .required "eventId" Decode.string),
      .withFields "automation" (automation <$> .required "automationId" Decode.string)]

def decoder : Decoder n TransformTrigger := tagged.decoder (Nat.le_succ n)

def encode : TransformTrigger → Json
  | manual => encodeVariant "kind" "manual" []
  | condition c => encodeVariant "kind" "condition" [("condition", c.encode)]
  | event id => encodeVariant "kind" "event" [("eventId", .str id)]
  | automation id => encodeVariant "kind" "automation" [("automationId", .str id)]

end TransformTrigger

namespace EntityRequirement

def decoder : Decoder n EntityRequirement := Fields.closed "EntityRequirement" <|
  mk <$> .required "entityId" Decode.string
    <*> .defaulted "count" (.constant .one) (Formula.decoder n)
    <*> .defaulted "minStats" .empty (Decode.dict (Formula.decoder n))
    <*> .defaulted "returnOnCompletion" true Decode.bool

def encode (r : EntityRequirement) : Json := .obj
  [("entityId", .str r.entityId),
    ("count", r.count.encode),
    ("minStats", r.minStats.encode Formula.encode),
    ("returnOnCompletion", .bool r.returnOnCompletion)]

end EntityRequirement

namespace Transform

def decoder : Decoder n Transform := Fields.closed "TransformData" <|
  mk <$> .required "id" Decode.string
    <*> .required "name" DisplayText.decoder
    <*> .optional "description" DisplayText.decoder
    <*> .required "mode" (Decode.choice TransformMode.names)
    <*> .listed "inputs" ResourceAmount.decoder
    <*> .listed "outputs" ResourceAmount.decoder
    <*> .optional "duration" (Formula.decoder n)
    <*> .optional "cooldown" (Formula.decoder n)
    <*> .defaulted "trigger" .manual TransformTrigger.decoder
    <*> .listed "entityRequirements" EntityRequirement.decoder
    <*> .optional "unlockCondition" (Condition.decoder n)
    <*> .optional "visibilityCondition" (Condition.decoder n)
    <*> .listed "tags" Decode.string

def encode (t : Transform) : Json := .obj
  [("id", .str t.id),
    ("name", t.name.encode),
    ("description", .ofOption DisplayText.encode t.description),
    ("mode", encodeName TransformMode.names t.mode),
    ("inputs", .arr (t.inputs.map ResourceAmount.encode)),
    ("outputs", .arr (t.outputs.map ResourceAmount.encode)),
    ("duration", .ofOption Formula.encode t.duration),
    ("cooldown", .ofOption Formula.encode t.cooldown),
    ("trigger", t.trigger.encode),
    ("entityRequirements", .arr (t.entityRequirements.map EntityRequirement.encode)),
    ("unlockCondition", .ofOption Condition.encode t.unlockCondition),
    ("visibilityCondition", .ofOption Condition.encode t.visibilityCondition),
    ("tags", .ofStrings t.tags)]

def consumes (t : Transform) (resource : String) : Bool := t.inputs.any (·.resourceId = resource)

def produces (t : Transform) (resource : String) : Bool := t.outputs.any (·.resourceId = resource)

end Transform

end GamePack
