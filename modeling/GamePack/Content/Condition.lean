import GamePack.Content.Formula
import GamePack.Id

namespace GamePack

inductive Comparator
  | gte
  | gt
  | lte
  | lt
deriving DecidableEq, Repr

inductive Condition
  | always
  | never
  | resourceThreshold (resource : String) (comparator : Comparator) (amount : Formula)
  | generatorLevel (generator : String) (comparator : Comparator) (level : Formula)
  | upgradeOwned (upgrade : String) (purchases : Nat)
  | prestigeCount (layer : String) (comparator : Comparator) (count : Nat)
  | prestigeCompleted (layer : String)
  | prestigeUnlocked (layer : String)
  | flag (id : String)
  | script (id : String)
  | allOf (conditions : List Condition)
  | anyOf (conditions : List Condition)
  | not (condition : Condition)
deriving Inhabited, Repr

def Comparator.names : List (String × Comparator) :=
  [("gte", .gte), ("gt", .gt), ("lte", .lte), ("lt", .lt)]

variable {n : Nat}

def Comparator.field : Fields n Comparator :=
  .defaulted "comparator" .gte (Decode.choice names)

def Comparator.encode : Comparator → Json := encodeName names

namespace Condition

def tagged (inner : Decoder n Condition) : Tagged n Condition where
  name := "Condition"
  key := "kind"
  variants :=
    let layer := Fields.required "prestigeLayerId" Decode.string
    let conditions := Fields.required "conditions" (Decode.list inner)
    [.plain "always" always,
      .plain "never" never,
      .withFields "resourceThreshold"
        (resourceThreshold <$> .required "resourceId" Decode.string <*>
        Comparator.field <*> .required "amount" (Formula.decoder n)),
      .withFields "generatorLevel" (generatorLevel <$> .required "generatorId" Decode.string <*>
        Comparator.field <*> .required "level" (Formula.decoder n)),
      .withFields "upgradeOwned" (upgradeOwned <$> .required "upgradeId" Decode.string <*>
        .defaulted "requiredPurchases" 1 Decode.nat32),
      .withFields "prestigeCountThreshold" (prestigeCount <$> layer <*> Comparator.field <*>
        .required "count" Decode.nat32),
      .withFields "prestigeCompleted" (prestigeCompleted <$> layer),
      .withFields "prestigeUnlocked" (prestigeUnlocked <$> layer),
      .withFields "flag" (flag <$> .required "flagId" Decode.string),
      .withFields "script" (script <$> .required "scriptId" Decode.string),
      .withFields "allOf" (allOf <$> conditions),
      .withFields "anyOf" (anyOf <$> conditions),
      .withFields "not" (not <$> .required "condition" inner)]

def decoder : (n : Nat) → Decoder n Condition
  | 0 => fun _ v ↦ absurd v.2 (Nat.not_lt_zero _)
  | n + 1 => (tagged (decoder n)).decoder (Nat.le_refl _)

mutual

def encode : Condition → Json
  | always => encodeVariant "kind" "always" []
  | never => encodeVariant "kind" "never" []
  | resourceThreshold resource comparator amount => encodeVariant "kind" "resourceThreshold"
      [("resourceId", .str resource), ("comparator", comparator.encode), ("amount", amount.encode)]
  | generatorLevel generator comparator level => encodeVariant "kind" "generatorLevel"
      [("generatorId", .str generator), ("comparator", comparator.encode), ("level", level.encode)]
  | upgradeOwned upgrade purchases => encodeVariant "kind" "upgradeOwned"
      [("upgradeId", .str upgrade), ("requiredPurchases", .ofNat purchases)]
  | prestigeCount layer comparator count => encodeVariant "kind" "prestigeCountThreshold"
      [("prestigeLayerId", .str layer), ("comparator", comparator.encode), ("count", .ofNat count)]
  | prestigeCompleted layer =>
    encodeVariant "kind" "prestigeCompleted" [("prestigeLayerId", .str layer)]
  | prestigeUnlocked layer =>
    encodeVariant "kind" "prestigeUnlocked" [("prestigeLayerId", .str layer)]
  | flag id => encodeVariant "kind" "flag" [("flagId", .str id)]
  | script id => encodeVariant "kind" "script" [("scriptId", .str id)]
  | allOf conditions =>
    encodeVariant "kind" "allOf" [("conditions", .arr (encodeAll conditions))]
  | anyOf conditions =>
    encodeVariant "kind" "anyOf" [("conditions", .arr (encodeAll conditions))]
  | not condition => encodeVariant "kind" "not" [("condition", condition.encode)]

def encodeAll : List Condition → List Json
  | [] => []
  | c :: rest => c.encode :: encodeAll rest

end

mutual

/-- The entries whose state a condition reads. How often a prestige layer was completed is read from
the resource that counts it. -/
def reads : Condition → List (Kind × String)
  | always | never | flag _ | script _ => []
  | resourceThreshold resource _ _ => [(.resource, resource)]
  | generatorLevel generator _ _ => [(.generator, generator)]
  | upgradeOwned upgrade _ => [(.upgrade, upgrade)]
  | prestigeCount layer _ _ | prestigeCompleted layer => [(.resource, Id.prestigeCount layer)]
  | prestigeUnlocked layer => [(.prestigeLayer, layer)]
  | allOf conditions | anyOf conditions => readsAll conditions
  | not condition => condition.reads

def readsAll : List Condition → List (Kind × String)
  | [] => []
  | c :: rest => c.reads ++ readsAll rest

end

def dependencies (c : Condition) : List String := c.reads.map (·.2)

end Condition

end GamePack
