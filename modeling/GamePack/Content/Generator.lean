import GamePack.Content.Condition
import GamePack.Content.DisplayText

namespace GamePack

structure ResourceRate where
  resourceId : String
  rate : Formula

structure Purchase where
  currencyId : String
  costMultiplier : Double
  costCurve : Formula
  maxBulk : Option Nat

structure Generator where
  id : String
  name : DisplayText
  produces : List ResourceRate
  consumes : List ResourceRate
  purchase : Purchase
  maxLevel : Option Nat
  initialLevel : Nat
  baseUnlock : Option Condition
  visibilityCondition : Option Condition
  order : Option Double
  tags : List String

variable {n : Nat}

namespace ResourceRate

def decoder : Decoder n ResourceRate := Fields.closed "ResourceRate" <|
  mk <$> .required "resourceId" Decode.string <*> .required "rate" (Formula.decoder n)

def encode (r : ResourceRate) : Json :=
  .obj [("resourceId", .str r.resourceId), ("rate", r.rate.encode)]

end ResourceRate

namespace Purchase

def decoder : Decoder n Purchase := Fields.closed "GeneratorPurchase" <|
  mk <$> .required "currencyId" Decode.string
    <*> .defaulted "costMultiplier" .one Decode.double
    <*> .required "costCurve" (Formula.decoder n)
    <*> .optional "maxBulk" Decode.nat32

def encode (p : Purchase) : Json := .obj
  [("currencyId", .str p.currencyId),
    ("costMultiplier", .ofDouble p.costMultiplier),
    ("costCurve", p.costCurve.encode),
    ("maxBulk", .ofOption .ofNat p.maxBulk)]

end Purchase

namespace Generator

def decoder : Decoder n Generator := Fields.closed "GeneratorData" <|
  mk <$> .required "id" Decode.string
    <*> .required "name" DisplayText.decoder
    <*> .listed "produces" ResourceRate.decoder
    <*> .listed "consumes" ResourceRate.decoder
    <*> .required "purchase" Purchase.decoder
    <*> .optional "maxLevel" Decode.nat32
    <*> .defaulted "initialLevel" 0 Decode.nat32
    <*> .optional "baseUnlock" (Condition.decoder n)
    <*> .optional "visibilityCondition" (Condition.decoder n)
    <*> .optional "order" Decode.double
    <*> .listed "tags" Decode.string

def encode (g : Generator) : Json := .obj
  [("id", .str g.id),
    ("name", g.name.encode),
    ("produces", .arr (g.produces.map ResourceRate.encode)),
    ("consumes", .arr (g.consumes.map ResourceRate.encode)),
    ("purchase", g.purchase.encode),
    ("maxLevel", .ofOption .ofNat g.maxLevel),
    ("initialLevel", .ofNat g.initialLevel),
    ("baseUnlock", .ofOption Condition.encode g.baseUnlock),
    ("visibilityCondition", .ofOption Condition.encode g.visibilityCondition),
    ("order", .ofOption .ofDouble g.order),
    ("tags", .ofStrings g.tags)]

def hasTag (g : Generator) (tag : String) : Bool := g.tags.contains tag

def makes (g : Generator) (resource : String) : Bool := g.produces.any (·.resourceId = resource)

def uses (g : Generator) (resource : String) : Bool := g.consumes.any (·.resourceId = resource)

end Generator

end GamePack
