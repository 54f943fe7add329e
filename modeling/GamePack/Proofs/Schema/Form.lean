import GamePack.Finding
import GamePack.Path

namespace GamePack

inductive Role
  | nothing
  | entry (kind : Kind)
  | outside (category : Category)
  | event
  | layer
  | declaration
  /-- What an automation acts on, an entry of the kind that the target type beside it says. -/
  | target
  /-- The system that an automation acts on; it counts for the target type of systems only. -/
  | systemTarget
deriving DecidableEq, Repr

inductive KeyRole
  | nothing
  | requiredStat
  | ownStat
deriving DecidableEq, Repr

inductive Record
  | pack
  | metadata
  | dependencies
  | dependency
  | displayText
  | resource
  | generator
  | resourceRate
  | purchase
  | upgrade
  | upgradeCost
  | repetition
  | achievement
  | progress
  | automation
  | transform
  | resourceAmount
  | entityRequirement
  | prestigeLayer
  | prestigeReward
  | entity
  | stat
  | progression
  | metric
  | runtimeEvent
  | payload
  | emitter
  | piece
deriving DecidableEq, Repr

inductive Union
  | target
  | expression
  | formula
  | condition
  | upgradeTarget
  | effect
  | track
  | reward
  | automationTrigger
  | transformTrigger
  | retention
  | metricSource
  | emitterSource
deriving DecidableEq, Repr

/-- How a part of a document is to be read. -/
inductive Form
  | text (role : Role)
  | shorthand (role : Role) (full : Form)
  | list (item : Form)
  | dict (keys : KeyRole) (value : Form)
  | onMission (form : Form)
  | record (record : Record)
  | union (union : Union)
deriving DecidableEq, Repr

namespace Form

abbrev plain : Form := text .nothing

abbrev plains : Form := list plain

abbrev name (kind : Kind) : Form := text (.entry kind)

abbrev names (kind : Kind) : Form := list (name kind)

abbrev records (r : Record) : Form := list (record r)

abbrev unions (u : Union) : Form := list (union u)

abbrev display : Form := shorthand .nothing (record .displayText)

abbrev formula : Form := union .formula

abbrev condition : Form := union .condition

end Form

def Kind.record : Kind → Record
  | resource => .resource
  | generator => .generator
  | upgrade => .upgrade
  | achievement => .achievement
  | automation => .automation
  | transform => .transform
  | prestigeLayer => .prestigeLayer
  | entity => .entity
  | metric => .metric
  | runtimeEvent => .runtimeEvent

def Record.fields : Record → List (String × Form)
  | pack =>
    ("metadata", .record .metadata) :: Kind.all.map fun kind ↦ (kind.key, .records kind.record)
  | metadata =>
    [("id", .plain), ("title", .display), ("summary", .display), ("version", .plain),
      ("engine", .plain), ("authors", .plains), ("tags", .plains), ("defaultLocale", .plain),
      ("supportedLocales", .plains), ("dependencies", .record .dependencies)]
  | dependencies =>
    [("requires", .records .dependency), ("optional", .records .dependency),
      ("conflicts", .records .dependency), ("provides", .plains)]
  | dependency => [("packId", .plain), ("version", .plain)]
  | displayText => [("default", .plain), ("variants", .dict .nothing .plain)]
  | resource =>
    [("id", .plain), ("name", .display), ("category", .plain), ("tier", .plain), ("icon", .plain),
      ("startAmount", .plain), ("capacity", .plain), ("visible", .plain), ("unlocked", .plain),
      ("unlockCondition", .condition), ("visibilityCondition", .condition),
      ("dirtyTolerance", .plain), ("order", .plain), ("tags", .plains)]
  | generator =>
    [("id", .plain), ("name", .display), ("produces", .records .resourceRate),
      ("consumes", .records .resourceRate), ("purchase", .record .purchase), ("maxLevel", .plain),
      ("initialLevel", .plain), ("baseUnlock", .condition), ("visibilityCondition", .condition),
      ("order", .plain), ("tags", .plains)]
  | resourceRate => [("resourceId", .name .resource), ("rate", .formula)]
  | purchase =>
    [("currencyId", .name .resource), ("costMultiplier", .plain), ("costCurve", .formula),
      ("maxBulk", .plain)]
  | upgrade =>
    [("id", .plain), ("name", .display), ("category", .plain), ("targets", .unions .upgradeTarget),
      ("cost", .record .upgradeCost), ("repeatable", .record .repetition),
      ("effects", .unions .effect),
      ("prerequisites", .list (.shorthand (.entry .upgrade) .condition)),
      ("unlockCondition", .condition), ("visibilityCondition", .condition), ("tags", .plains)]
  | upgradeCost =>
    [("currencyId", .name .resource), ("costMultiplier", .plain), ("costCurve", .formula)]
  | repetition => [("maxPurchases", .plain), ("costCurve", .formula)]
  | achievement =>
    [("id", .plain), ("name", .display), ("description", .display), ("category", .plain),
      ("track", .union .track), ("progress", .record .progress), ("reward", .union .reward),
      ("onUnlockEvents", .list (.text .event)), ("unlockCondition", .condition),
      ("visibilityCondition", .condition), ("tags", .plains)]
  | progress => [("target", .formula), ("mode", .plain)]
  | automation =>
    [("id", .plain), ("name", .display), ("description", .display), ("targetType", .plain),
      ("targetId", .text .target), ("systemTargetId", .text .systemTarget),
      ("trigger", .union .automationTrigger), ("resourceCost", .record .resourceRate),
      ("cooldown", .formula), ("unlockCondition", .condition), ("enabledByDefault", .plain),
      ("order", .plain)]
  | transform =>
    [("id", .plain), ("name", .display), ("description", .display), ("mode", .plain),
      ("inputs", .records .resourceAmount), ("outputs", .records .resourceAmount),
      ("duration", .formula), ("cooldown", .formula), ("trigger", .union .transformTrigger),
      ("entityRequirements", .onMission (.records .entityRequirement)),
      ("unlockCondition", .condition), ("visibilityCondition", .condition), ("tags", .plains)]
  | resourceAmount => [("resourceId", .name .resource), ("amount", .formula)]
  | entityRequirement =>
    [("entityId", .name .entity), ("count", .formula), ("minStats", .dict .requiredStat .formula),
      ("returnOnCompletion", .plain)]
  | prestigeLayer =>
    [("id", .text .layer), ("name", .display), ("summary", .display),
      ("resetTargets", .names .resource), ("resetGenerators", .names .generator),
      ("resetUpgrades", .names .upgrade), ("unlockCondition", .condition),
      ("reward", .record .prestigeReward), ("retention", .unions .retention)]
  | prestigeReward =>
    [("resourceId", .name .resource), ("baseReward", .formula), ("multiplierCurve", .formula)]
  | entity =>
    [("id", .plain), ("name", .display), ("description", .display), ("stats", .records .stat),
      ("maxCount", .formula), ("startCount", .plain), ("trackInstances", .plain),
      ("progression", .record .progression), ("unlockCondition", .condition),
      ("visibilityCondition", .condition), ("tags", .plains)]
  | stat =>
    [("id", .plain), ("name", .display), ("baseValue", .formula), ("minValue", .formula),
      ("maxValue", .formula)]
  | progression =>
    [("experienceResource", .name .resource), ("levelFormula", .formula), ("maxLevel", .plain),
      ("statGrowth", .dict .ownStat .formula)]
  | metric =>
    [("id", .plain), ("name", .display), ("description", .display), ("kind", .plain),
      ("unit", .plain), ("aggregation", .plain), ("attributes", .plains),
      ("source", .union .metricSource)]
  | runtimeEvent =>
    [("id", .text .declaration), ("version", .plain), ("payload", .record .payload),
      ("emits", .records .emitter), ("tags", .plains)]
  | payload => [("kind", .plain), ("schemaRef", .plain)]
  | emitter => [("source", .union .emitterSource)]
  | piece => [("untilLevel", .plain), ("formula", .formula)]

/-- A variant of a tagged value. One without fields is bare: beside its tag it holds nothing. -/
structure Branch where
  tag : String
  fields : List (String × Form)

namespace Union

def key : Union → String
  | target => "type"
  | _ => "kind"

def branches : Union → List Branch
  | target =>
    [⟨"variable", [("name", .plain)]⟩, ⟨"resource", [("id", .name .resource)]⟩,
      ⟨"generator", [("id", .name .generator)]⟩, ⟨"upgrade", [("id", .name .upgrade)]⟩,
      ⟨"automation", [("id", .name .automation)]⟩,
      ⟨"prestigeLayer", [("id", .name .prestigeLayer)]⟩]
  | expression =>
    [⟨"literal", [("value", .plain)]⟩, ⟨"ref", [("target", .union .target)]⟩,
      ⟨"binary", [("op", .plain), ("left", .union .expression), ("right", .union .expression)]⟩,
      ⟨"unary", [("op", .plain), ("operand", .union .expression)]⟩,
      ⟨"call", [("name", .plain), ("args", .unions .expression)]⟩]
  | formula =>
    [⟨"constant", [("value", .plain)]⟩, ⟨"linear", [("base", .plain), ("slope", .plain)]⟩,
      ⟨"exponential", [("base", .plain), ("growth", .plain), ("offset", .plain)]⟩,
      ⟨"polynomial", [("coefficients", .plains)]⟩, ⟨"piecewise", [("pieces", .records .piece)]⟩,
      ⟨"expression", [("expression", .union .expression)]⟩]
  | condition =>
    [⟨"always", []⟩, ⟨"never", []⟩,
      ⟨"resourceThreshold",
        [("resourceId", .name .resource), ("comparator", .plain), ("amount", .formula)]⟩,
      ⟨"generatorLevel",
        [("generatorId", .name .generator), ("comparator", .plain), ("level", .formula)]⟩,
      ⟨"upgradeOwned", [("upgradeId", .name .upgrade), ("requiredPurchases", .plain)]⟩,
      ⟨"prestigeCountThreshold",
        [("prestigeLayerId", .name .prestigeLayer), ("comparator", .plain), ("count", .plain)]⟩,
      ⟨"prestigeCompleted", [("prestigeLayerId", .name .prestigeLayer)]⟩,
      ⟨"prestigeUnlocked", [("prestigeLayerId", .name .prestigeLayer)]⟩,
      ⟨"flag", [("flagId", .text (.outside .flags))]⟩,
      ⟨"script", [("scriptId", .text (.outside .scripts))]⟩,
      ⟨"allOf", [("conditions", .unions .condition)]⟩,
      ⟨"anyOf", [("conditions", .unions .condition)]⟩, ⟨"not", [("condition", .condition)]⟩]
  | upgradeTarget =>
    [⟨"global", []⟩, ⟨"resource", [("id", .name .resource)]⟩,
      ⟨"generator", [("id", .name .generator)]⟩, ⟨"automation", [("id", .name .automation)]⟩,
      ⟨"prestigeLayer", [("id", .name .prestigeLayer)]⟩]
  | effect =>
    let change (key : String) (kind : Kind) :=
      [(key, .name kind), ("operation", .plain), ("value", .formula)]
    [⟨"modifyResourceRate", change "resourceId" .resource⟩,
      ⟨"modifyResourceCapacity", change "resourceId" .resource⟩,
      ⟨"unlockResource", [("resourceId", .name .resource)]⟩,
      ⟨"alterDirtyTolerance", change "resourceId" .resource⟩,
      ⟨"modifyGeneratorRate", change "generatorId" .generator⟩,
      ⟨"modifyGeneratorCost", change "generatorId" .generator⟩,
      ⟨"modifyGeneratorConsumption",
        [("generatorId", .name .generator), ("resourceId", .name .resource), ("operation", .plain),
          ("value", .formula)]⟩,
      ⟨"unlockGenerator", [("generatorId", .name .generator)]⟩,
      ⟨"grantAutomation", [("automationId", .name .automation)]⟩,
      ⟨"grantFlag", [("flagId", .text (.outside .flags)), ("value", .plain)]⟩,
      ⟨"emitEvent", [("eventId", .text .event)]⟩]
  | track =>
    [⟨"resource",
        [("resourceId", .name .resource), ("comparator", .plain), ("threshold", .formula)]⟩,
      ⟨"generatorLevel", [("generatorId", .name .generator), ("level", .formula)]⟩,
      ⟨"upgradeOwned", [("upgradeId", .name .upgrade), ("purchases", .formula)]⟩,
      ⟨"flag", [("flagId", .text (.outside .flags))]⟩,
      ⟨"script", [("scriptId", .text (.outside .scripts))]⟩,
      ⟨"customMetric", [("metricId", .name .metric), ("threshold", .formula)]⟩]
  | reward =>
    [⟨"grantResource", [("resourceId", .name .resource), ("amount", .formula)]⟩,
      ⟨"grantUpgrade", [("upgradeId", .name .upgrade)]⟩, ⟨"emitEvent", [("eventId", .text .event)]⟩,
      ⟨"unlockAutomation", [("automationId", .name .automation)]⟩,
      ⟨"grantFlag", [("flagId", .text (.outside .flags)), ("value", .plain)]⟩]
  | automationTrigger =>
    [⟨"interval", [("interval", .formula)]⟩,
      ⟨"resourceThreshold",
        [("resourceId", .name .resource), ("comparator", .plain), ("threshold", .formula)]⟩,
      ⟨"commandQueueEmpty", []⟩, ⟨"event", [("eventId", .text .event)]⟩]
  | transformTrigger =>
    [⟨"manual", []⟩, ⟨"condition", [("condition", .condition)]⟩,
      ⟨"event", [("eventId", .text .event)]⟩, ⟨"automation", [("automationId", .name .automation)]⟩]
  | retention =>
    [⟨"resource", [("resourceId", .name .resource), ("amount", .formula)]⟩,
      ⟨"generator", [("generatorId", .name .generator)]⟩,
      ⟨"upgrade", [("upgradeId", .name .upgrade)]⟩]
  | metricSource =>
    [⟨"runtime", []⟩, ⟨"content", []⟩, ⟨"script", [("scriptId", .text (.outside .scripts))]⟩]
  | emitterSource =>
    [⟨"achievement", [("achievementId", .name .achievement)]⟩,
      ⟨"upgrade", [("upgradeId", .name .upgrade)]⟩,
      ⟨"transform", [("transformId", .name .transform)]⟩,
      ⟨"script", [("scriptId", .text (.outside .scripts))]⟩]

def branchOf (u : Union) : Json → Option Branch
  | .str s => u.branches.find? (·.tag = s)
  | .num (.unsigned i) => u.branches[i]?
  | _ => none

def branch? (u : Union) : Json → Option Branch
  | .obj fields => (fields.lookup u.key).bind u.branchOf
  | .arr items => items.head?.bind u.branchOf
  | _ => none

end Union

namespace Form

/-- How a part of a value is to be read. Structures and tagged values are objects, or arrays that
hold the declared fields in their order. -/
def within : Form → Json → Step → Option Form
  | shorthand _ full, v, s => full.within v s
  | onMission form, v, s => form.within v s
  | list item, .arr _, .index _ => some item
  | dict _ value, .obj _, .key _ => some value
  | record r, .obj _, .key k => r.fields.lookup k
  | record r, .arr _, .index i => r.fields[i]?.map (·.2)
  | union u, .obj fields, .key k =>
    if k = u.key then none else (u.branch? (.obj fields)).bind (·.fields.lookup k)
  | union u, .arr items, .index (i + 1) =>
    (u.branch? (.arr items)).bind fun b ↦ b.fields[i]?.map (·.2)
  | _, _, _ => none

end Form

end GamePack
