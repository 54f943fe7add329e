import GamePack.Content.Pack
import GamePack.Finding

namespace GamePack

inductive Subject
  | entry (kind : Kind) (id : String)
  /-- An id that is defined outside packs. -/
  | outside (category : Category) (id : String)
  | event (id : String)
  | statOf (entity stat : String)
  /-- A stat of the entity that names it. -/
  | ownStat (entity : Entity) (stat : String)
  /-- The resource that has to count the completions of a layer. -/
  | companion (layer : PrestigeLayer)
  | declaration (event : String)

structure Mention where
  path : Path
  subject : Subject

namespace Mention

def entry (path : Path) (kind : Kind) (id : String) : Mention := ⟨path, .entry kind id⟩

def outside (path : Path) (category : Category) (id : String) : Mention :=
  ⟨path, .outside category id⟩

def event (path : Path) (id : String) : Mention := ⟨path, .event id⟩

def optional {α : Type} (f : Path → α → List Mention) (path : Path) : Option α → List Mention
  | none => []
  | some a => f path a

end Mention

/-- A formula is one place, whatever the depth at which it names an entry. -/
def Formula.mentions (path : Path) (f : Formula) : List Mention :=
  f.entries.map fun (kind, id) ↦ .entry path kind id

namespace Condition

mutual

def mentions (path : Path) : Condition → List Mention
  | always | never => []
  | resourceThreshold resource _ amount =>
    .entry (path.key "resourceId") .resource resource :: amount.mentions (path.key "amount")
  | generatorLevel generator _ level =>
    .entry (path.key "generatorId") .generator generator :: level.mentions (path.key "level")
  | upgradeOwned upgrade _ => [.entry (path.key "upgradeId") .upgrade upgrade]
  | prestigeCount layer _ _ | prestigeCompleted layer | prestigeUnlocked layer =>
    [.entry (path.key "prestigeLayerId") .prestigeLayer layer]
  | flag id => [.outside (path.key "flagId") .flags id]
  | script id => [.outside (path.key "scriptId") .scripts id]
  | allOf conditions | anyOf conditions => mentionsFrom (path.key "conditions") 0 conditions
  | not condition => condition.mentions (path.key "condition")

def mentionsFrom (path : Path) (i : Nat) : List Condition → List Mention
  | [] => []
  | c :: rest => c.mentions (path.index i) ++ mentionsFrom path (i + 1) rest

end

end Condition

def optionalFormula : Path → Option Formula → List Mention := Mention.optional Formula.mentions

def optionalCondition : Path → Option Condition → List Mention :=
  Mention.optional Condition.mentions

def Resource.mentions (path : Path) (r : Resource) : List Mention :=
  optionalCondition (path.key "unlockCondition") r.unlockCondition ++
    optionalCondition (path.key "visibilityCondition") r.visibilityCondition

def ResourceRate.mentions (path : Path) (r : ResourceRate) : List Mention :=
  .entry (path.key "resourceId") .resource r.resourceId :: r.rate.mentions (path.key "rate")

def Purchase.mentions (path : Path) (p : Purchase) : List Mention :=
  .entry (path.key "currencyId") .resource p.currencyId ::
    p.costCurve.mentions (path.key "costCurve")

def Generator.mentions (path : Path) (g : Generator) : List Mention :=
  (path.key "produces").each g.produces ResourceRate.mentions ++
    (path.key "consumes").each g.consumes ResourceRate.mentions ++
    g.purchase.mentions (path.key "purchase") ++
    optionalCondition (path.key "baseUnlock") g.baseUnlock ++
    optionalCondition (path.key "visibilityCondition") g.visibilityCondition

def UpgradeTarget.mentions (path : Path) : UpgradeTarget → List Mention
  | everything => []
  | resource id => [.entry (path.key "id") .resource id]
  | generator id => [.entry (path.key "id") .generator id]
  | automation id => [.entry (path.key "id") .automation id]
  | prestigeLayer id => [.entry (path.key "id") .prestigeLayer id]

def UpgradeCost.mentions (path : Path) (c : UpgradeCost) : List Mention :=
  .entry (path.key "currencyId") .resource c.currencyId ::
    c.costCurve.mentions (path.key "costCurve")

def Repetition.mentions (path : Path) (r : Repetition) : List Mention :=
  optionalFormula (path.key "costCurve") r.costCurve

namespace Effect

def change (path : Path) (key : String) (kind : Kind) (id : String) (value : Formula) :
    List Mention :=
  .entry (path.key key) kind id :: value.mentions (path.key "value")

def mentions (path : Path) : Effect → List Mention
  | resourceRate resource _ value | resourceCapacity resource _ value
  | dirtyTolerance resource _ value => change path "resourceId" .resource resource value
  | unlockResource resource => [.entry (path.key "resourceId") .resource resource]
  | generatorRate generator _ value | generatorCost generator _ value =>
    change path "generatorId" .generator generator value
  | generatorConsumption generator resource _ value =>
    .entry (path.key "generatorId") .generator generator ::
      (resource.toList.map (.entry (path.key "resourceId") .resource) ++
        value.mentions (path.key "value"))
  | unlockGenerator generator => [.entry (path.key "generatorId") .generator generator]
  | grantAutomation automation => [.entry (path.key "automationId") .automation automation]
  | grantFlag flag _ => [.outside (path.key "flagId") .flags flag]
  | emitEvent event => [.event (path.key "eventId") event]

end Effect

def Prerequisite.mentions (path : Path) : Prerequisite → List Mention
  | upgrade id => [.entry path .upgrade id]
  | condition c => c.mentions path

def Upgrade.mentions (path : Path) (u : Upgrade) : List Mention :=
  (path.key "targets").each u.targets UpgradeTarget.mentions ++
    u.cost.mentions (path.key "cost") ++
    Mention.optional Repetition.mentions (path.key "repeatable") u.repeatable ++
    (path.key "effects").each u.effects Effect.mentions ++
    (path.key "prerequisites").each u.prerequisites Prerequisite.mentions ++
    optionalCondition (path.key "unlockCondition") u.unlockCondition ++
    optionalCondition (path.key "visibilityCondition") u.visibilityCondition

def Track.mentions (path : Path) : Track → List Mention
  | resource id _ threshold =>
    .entry (path.key "resourceId") .resource id :: threshold.mentions (path.key "threshold")
  | generatorLevel id level =>
    .entry (path.key "generatorId") .generator id :: level.mentions (path.key "level")
  | upgradeOwned id purchases =>
    .entry (path.key "upgradeId") .upgrade id :: optionalFormula (path.key "purchases") purchases
  | flag id => [.outside (path.key "flagId") .flags id]
  | script id => [.outside (path.key "scriptId") .scripts id]
  | customMetric id threshold =>
    .entry (path.key "metricId") .metric id :: threshold.mentions (path.key "threshold")

def Progress.mentions (path : Path) (p : Progress) : List Mention :=
  optionalFormula (path.key "target") p.target

def Reward.mentions (path : Path) : Reward → List Mention
  | grantResource id amount =>
    .entry (path.key "resourceId") .resource id :: amount.mentions (path.key "amount")
  | grantUpgrade id => [.entry (path.key "upgradeId") .upgrade id]
  | emitEvent id => [.event (path.key "eventId") id]
  | unlockAutomation id => [.entry (path.key "automationId") .automation id]
  | grantFlag id _ => [.outside (path.key "flagId") .flags id]

def Achievement.mentions (path : Path) (a : Achievement) : List Mention :=
  a.track.mentions (path.key "track") ++
    Mention.optional Progress.mentions (path.key "progress") a.progress ++
    Mention.optional Reward.mentions (path.key "reward") a.reward ++
    (path.key "onUnlockEvents").each a.onUnlockEvents (fun path id ↦ [.event path id]) ++
    optionalCondition (path.key "unlockCondition") a.unlockCondition ++
    optionalCondition (path.key "visibilityCondition") a.visibilityCondition

def AutomationTrigger.mentions (path : Path) : AutomationTrigger → List Mention
  | interval formula => formula.mentions (path.key "interval")
  | resourceThreshold id _ threshold =>
    .entry (path.key "resourceId") .resource id :: threshold.mentions (path.key "threshold")
  | commandQueueEmpty => []
  | event id => [.event (path.key "eventId") id]

namespace Automation

/-- What an automation acts on. Only the target that fits its type counts. -/
def targetMentions (path : Path) (a : Automation) : List Mention :=
  match a.targetType.kind? with
  | some kind => a.targetId.toList.map (.entry (path.key "targetId") kind)
  | none => a.systemTargetId.toList.map (.outside (path.key "systemTargetId") .systemTargets)

def mentions (path : Path) (a : Automation) : List Mention :=
  a.targetMentions path ++
    a.trigger.mentions (path.key "trigger") ++
    Mention.optional ResourceRate.mentions (path.key "resourceCost") a.resourceCost ++
    optionalFormula (path.key "cooldown") a.cooldown ++
    optionalCondition (path.key "unlockCondition") a.unlockCondition

end Automation

def ResourceAmount.mentions (path : Path) (r : ResourceAmount) : List Mention :=
  .entry (path.key "resourceId") .resource r.resourceId :: r.amount.mentions (path.key "amount")

def TransformTrigger.mentions (path : Path) : TransformTrigger → List Mention
  | manual => []
  | condition c => c.mentions (path.key "condition")
  | event id => [.event (path.key "eventId") id]
  | automation id => [.entry (path.key "automationId") .automation id]

def EntityRequirement.mentions (path : Path) (r : EntityRequirement) : List Mention :=
  .entry (path.key "entityId") .entity r.entityId :: r.count.mentions (path.key "count") ++
    r.minStats.entries.flatMap fun (stat, minimum) ↦
      let place := (path.key "minStats").key stat
      ⟨place, .statOf r.entityId stat⟩ :: minimum.mentions place

namespace Transform

/-- Only missions need entities. -/
def requirementMentions (path : Path) (t : Transform) : List Mention :=
  if t.mode = .mission then
    (path.key "entityRequirements").each t.entityRequirements EntityRequirement.mentions
  else []

def mentions (path : Path) (t : Transform) : List Mention :=
  (path.key "inputs").each t.inputs ResourceAmount.mentions ++
    (path.key "outputs").each t.outputs ResourceAmount.mentions ++
    optionalFormula (path.key "duration") t.duration ++
    optionalFormula (path.key "cooldown") t.cooldown ++
    t.trigger.mentions (path.key "trigger") ++
    t.requirementMentions path ++
    optionalCondition (path.key "unlockCondition") t.unlockCondition ++
    optionalCondition (path.key "visibilityCondition") t.visibilityCondition

end Transform

def PrestigeReward.mentions (path : Path) (r : PrestigeReward) : List Mention :=
  .entry (path.key "resourceId") .resource r.resourceId ::
    r.baseReward.mentions (path.key "baseReward") ++
    optionalFormula (path.key "multiplierCurve") r.multiplierCurve

def Retention.mentions (path : Path) : Retention → List Mention
  | resource id amount =>
    .entry (path.key "resourceId") .resource id :: optionalFormula (path.key "amount") amount
  | generator id => [.entry (path.key "generatorId") .generator id]
  | upgrade id => [.entry (path.key "upgradeId") .upgrade id]

def PrestigeLayer.mentions (path : Path) (l : PrestigeLayer) : List Mention :=
  (path.key "resetTargets").each l.resetTargets (fun path id ↦ [.entry path .resource id]) ++
    (path.key "resetGenerators").each l.resetGenerators
      (fun path id ↦ [.entry path .generator id]) ++
    (path.key "resetUpgrades").each l.resetUpgrades (fun path id ↦ [.entry path .upgrade id]) ++
    l.unlockCondition.mentions (path.key "unlockCondition") ++
    l.reward.mentions (path.key "reward") ++
    (path.key "retention").each l.retention Retention.mentions ++
    [⟨path.key "id", .companion l⟩]

def Stat.mentions (path : Path) (s : Stat) : List Mention :=
  s.baseValue.mentions (path.key "baseValue") ++
    optionalFormula (path.key "minValue") s.minValue ++
    optionalFormula (path.key "maxValue") s.maxValue

namespace Entity

def growthMentions (path : Path) (e : Entity) (p : Progression) : List Mention :=
  p.experienceResource.toList.map (.entry (path.key "experienceResource") .resource) ++
    p.levelFormula.mentions (path.key "levelFormula") ++
    p.statGrowth.entries.flatMap fun (stat, growth) ↦
      let place := (path.key "statGrowth").key stat
      ⟨place, .ownStat e stat⟩ :: growth.mentions place

def mentions (path : Path) (e : Entity) : List Mention :=
  (path.key "stats").each e.stats Stat.mentions ++
    optionalFormula (path.key "maxCount") e.maxCount ++
    Mention.optional (fun path p ↦ e.growthMentions path p) (path.key "progression")
      e.progression ++
    optionalCondition (path.key "unlockCondition") e.unlockCondition ++
    optionalCondition (path.key "visibilityCondition") e.visibilityCondition

end Entity

def Metric.mentions (path : Path) (m : Metric) : List Mention :=
  match m.source with
  | .script id => [.outside ((path.key "source").key "scriptId") .scripts id]
  | _ => []

def Emitter.mentions (path : Path) (e : Emitter) : List Mention :=
  let path := path.key "source"
  match e with
  | achievement id => [.entry (path.key "achievementId") .achievement id]
  | upgrade id => [.entry (path.key "upgradeId") .upgrade id]
  | transform id => [.entry (path.key "transformId") .transform id]
  | script id => [.outside (path.key "scriptId") .scripts id]

def RuntimeEvent.mentions (path : Path) (e : RuntimeEvent) : List Mention :=
  ⟨path.key "id", .declaration e.id⟩ :: (path.key "emits").each e.emits Emitter.mentions

def Kind.entryMentions : (kind : Kind) → Path → kind.Entry → List Mention
  | resource => Resource.mentions
  | generator => Generator.mentions
  | upgrade => Upgrade.mentions
  | achievement => Achievement.mentions
  | automation => Automation.mentions
  | transform => Transform.mentions
  | prestigeLayer => PrestigeLayer.mentions
  | entity => Entity.mentions
  | metric => Metric.mentions
  | runtimeEvent => RuntimeEvent.mentions

def Pack.mentions (p : Pack) : List Mention :=
  Kind.all.flatMap fun kind ↦ Path.each [.key kind.key] (p.collection kind) kind.entryMentions

end GamePack
