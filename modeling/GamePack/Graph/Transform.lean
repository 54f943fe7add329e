import GamePack.Graph.Cycle
import GamePack.Index

namespace GamePack

namespace Transform

def feeds (a b : Transform) : Bool := a.outputs.any fun o ↦ b.consumes o.resourceId

def handedOn (a b : Transform) : IdSet :=
  .ofList ((b.inputs.map (·.resourceId)).filter a.produces)

end Transform

namespace Pack

def transformEdges (p : Pack) : List (String × String) :=
  p.transforms.flatMap fun a ↦
    (p.transforms.filter fun b ↦ b.id ≠ a.id && a.feeds b).map fun b ↦ (a.id, b.id)

/-- A transform that feeds itself makes no edge. -/
def transformGraph (p : Pack) : Graph := .ofEdges p.transformEdges

def cycleLink (p : Pack) (producer consumer : String) : CycleLink :=
  let transforms := p.index .transform
  let resources :=
    match transforms.item? producer, transforms.item? consumer with
    | some a, some b => (a.handedOn b).toList
    | _, _ => []
  ⟨producer, consumer, resources⟩

def transformCycle (p : Pack) (cycle : List String) : Finding :=
  let position := ((p.index .transform).position? (cycle.headD "")).getD 0
  .fault [.key "transforms", .index position]
    (.transformCycle cycle ((cycle.zip cycle.tail).map fun (a, b) ↦ p.cycleLink a b))

def checkTransforms (p : Pack) : List Finding :=
  (p.transformGraph.cycles (p.ids .transform) .first).map p.transformCycle

end Pack

end GamePack
