import GamePack.Content.Pack
import GamePack.Graph.Cycle

namespace GamePack

structure Gate where
  entry : String
  path : Path
  condition : Condition

structure UnlockEdge where
  source : String
  target : String
  origin : Path
deriving DecidableEq, Repr

namespace Gate

def ofOption (entry : String) (path : Path) (condition : Option Condition) : List Gate :=
  condition.toList.map fun c ↦ ⟨entry, path, c⟩

def edges (g : Gate) : List UnlockEdge :=
  g.condition.dependencies.map fun source ↦ ⟨source, g.entry, g.path⟩

end Gate

def Upgrade.gates (path : Path) (u : Upgrade) : List Gate :=
  Gate.ofOption u.id (path.key "unlockCondition") u.unlockCondition ++
    (path.key "prerequisites").each u.prerequisites fun path r ↦ [⟨u.id, path, r.toCondition⟩]

namespace Kind

def unlockable : List Kind :=
  [resource, generator, upgrade, achievement, transform, prestigeLayer]

def entryGates : (kind : Kind) → Path → kind.Entry → List Gate
  | resource => fun path r ↦ Gate.ofOption r.id (path.key "unlockCondition") r.unlockCondition
  | generator => fun path g ↦ Gate.ofOption g.id (path.key "baseUnlock") g.baseUnlock
  | upgrade => Upgrade.gates
  | achievement => fun path a ↦ Gate.ofOption a.id (path.key "unlockCondition") a.unlockCondition
  | transform => fun path t ↦ Gate.ofOption t.id (path.key "unlockCondition") t.unlockCondition
  | prestigeLayer => fun path l ↦ [⟨l.id, path.key "unlockCondition", l.unlockCondition⟩]
  | _ => fun _ _ ↦ []

end Kind

namespace Pack

def gates (p : Pack) : List Gate :=
  Kind.unlockable.flatMap fun kind ↦ Path.each [.key kind.key] (p.collection kind) kind.entryGates

/-- The nodes, in the order in which a search starts from them. -/
def unlockNodes (p : Pack) : List String := Kind.unlockable.flatMap p.ids

def unlockEdges (p : Pack) : List UnlockEdge := p.gates.flatMap Gate.edges

/-- Edges lead from what an unlock condition reads to the entry that it gates. -/
def unlockGraph (p : Pack) : Graph := .ofEdges (p.unlockEdges.map fun e ↦ (e.source, e.target))

def unlockOrigin? (p : Pack) (source target : String) : Option Path :=
  (p.unlockEdges.find? fun e ↦ e.source = source && e.target = target).map (·.origin)

/-- The finding about a cycle, at the field that makes its first edge. -/
def unlockCycle (p : Pack) (cycle : List String) : Finding :=
  let origin :=
    match cycle with
    | a :: b :: _ => (p.unlockOrigin? a b).getD []
    | _ => []
  .fault origin (.unlockCycle cycle)

def checkUnlocks (p : Pack) : List Finding :=
  (p.unlockGraph.cycles p.unlockNodes .first).map p.unlockCycle

end Pack

end GamePack
