import GamePack.Content.Condition
import GamePack.Content.DisplayText

namespace GamePack

structure Resource where
  id : String
  name : DisplayText
  category : String
  tier : Nat
  icon : Option String
  startAmount : Double
  capacity : Option Double
  visible : Bool
  unlocked : Bool
  unlockCondition : Option Condition
  visibilityCondition : Option Condition
  dirtyTolerance : Option Double
  order : Option Double
  tags : List String

namespace Resource

variable {n : Nat}

def decoder : Decoder n Resource := Fields.closed "ResourceData" <|
  mk <$> .required "id" Decode.string
    <*> .required "name" DisplayText.decoder
    <*> .defaulted "category" "primary" Decode.string
    <*> .defaulted "tier" 1 Decode.nat32
    <*> .optional "icon" Decode.string
    <*> .defaulted "startAmount" .zero Decode.double
    <*> .optional "capacity" Decode.double
    <*> .defaulted "visible" true Decode.bool
    <*> .defaulted "unlocked" true Decode.bool
    <*> .optional "unlockCondition" (Condition.decoder n)
    <*> .optional "visibilityCondition" (Condition.decoder n)
    <*> .optional "dirtyTolerance" Decode.double
    <*> .optional "order" Decode.double
    <*> .listed "tags" Decode.string

def encode (r : Resource) : Json := .obj
  [("id", .str r.id),
    ("name", r.name.encode),
    ("category", .str r.category),
    ("tier", .ofNat r.tier),
    ("icon", .ofOption .str r.icon),
    ("startAmount", .ofDouble r.startAmount),
    ("capacity", .ofOption .ofDouble r.capacity),
    ("visible", .bool r.visible),
    ("unlocked", .bool r.unlocked),
    ("unlockCondition", .ofOption Condition.encode r.unlockCondition),
    ("visibilityCondition", .ofOption Condition.encode r.visibilityCondition),
    ("dirtyTolerance", .ofOption .ofDouble r.dirtyTolerance),
    ("order", .ofOption .ofDouble r.order),
    ("tags", .ofStrings r.tags)]

def hasTag (r : Resource) (tag : String) : Bool := r.tags.contains tag

def capacityAdmitsStart (r : Resource) : Bool := r.capacity.all (r.startAmount ≤ ·)

end Resource

end GamePack
