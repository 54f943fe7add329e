import GamePack.Content.Condition
import GamePack.Content.DisplayText

namespace GamePack

structure Stat where
  id : String
  name : DisplayText
  baseValue : Formula
  minValue : Option Formula
  maxValue : Option Formula

structure Progression where
  experienceResource : Option String
  levelFormula : Formula
  maxLevel : Option Nat
  statGrowth : Dict Formula

structure Entity where
  id : String
  name : DisplayText
  description : Option DisplayText
  stats : List Stat
  maxCount : Option Formula
  startCount : Nat
  trackInstances : Bool
  progression : Option Progression
  unlockCondition : Option Condition
  visibilityCondition : Option Condition
  tags : List String

variable {n : Nat}

namespace Stat

def decoder : Decoder n Stat := Fields.closed "EntityStat" <|
  mk <$> .required "id" Decode.string
    <*> .required "name" DisplayText.decoder
    <*> .required "baseValue" (Formula.decoder n)
    <*> .optional "minValue" (Formula.decoder n)
    <*> .optional "maxValue" (Formula.decoder n)

def encode (s : Stat) : Json := .obj
  [("id", .str s.id),
    ("name", s.name.encode),
    ("baseValue", s.baseValue.encode),
    ("minValue", .ofOption Formula.encode s.minValue),
    ("maxValue", .ofOption Formula.encode s.maxValue)]

end Stat

namespace Progression

def decoder : Decoder n Progression := Fields.closed "EntityProgression" <|
  mk <$> .optional "experienceResource" Decode.string
    <*> .required "levelFormula" (Formula.decoder n)
    <*> .optional "maxLevel" Decode.nat32
    <*> .defaulted "statGrowth" .empty (Decode.dict (Formula.decoder n))

def encode (p : Progression) : Json := .obj
  [("experienceResource", .ofOption .str p.experienceResource),
    ("levelFormula", p.levelFormula.encode),
    ("maxLevel", .ofOption .ofNat p.maxLevel),
    ("statGrowth", p.statGrowth.encode Formula.encode)]

end Progression

namespace Entity

def decoder : Decoder n Entity := Fields.closed "EntityData" <|
  mk <$> .required "id" Decode.string
    <*> .required "name" DisplayText.decoder
    <*> .optional "description" DisplayText.decoder
    <*> .listed "stats" Stat.decoder
    <*> .optional "maxCount" (Formula.decoder n)
    <*> .defaulted "startCount" 0 Decode.nat32
    <*> .defaulted "trackInstances" false Decode.bool
    <*> .optional "progression" Progression.decoder
    <*> .optional "unlockCondition" (Condition.decoder n)
    <*> .optional "visibilityCondition" (Condition.decoder n)
    <*> .listed "tags" Decode.string

def encode (e : Entity) : Json := .obj
  [("id", .str e.id),
    ("name", e.name.encode),
    ("description", .ofOption DisplayText.encode e.description),
    ("stats", .arr (e.stats.map Stat.encode)),
    ("maxCount", .ofOption Formula.encode e.maxCount),
    ("startCount", .ofNat e.startCount),
    ("trackInstances", .bool e.trackInstances),
    ("progression", .ofOption Progression.encode e.progression),
    ("unlockCondition", .ofOption Condition.encode e.unlockCondition),
    ("visibilityCondition", .ofOption Condition.encode e.visibilityCondition),
    ("tags", .ofStrings e.tags)]

def hasTag (e : Entity) (tag : String) : Bool := e.tags.contains tag

def stat? (e : Entity) (id : String) : Option Stat := e.stats.find? (·.id = id)

end Entity

end GamePack
