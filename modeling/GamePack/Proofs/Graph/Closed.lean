import GamePack.Proofs.Graph.Origin

namespace GamePack

namespace Pack

variable {p : Pack} {allowlists : Allowlists} {c : Config} {id : String}

theorem mem_unlockNodes_iff : id ∈ p.unlockNodes ↔ ∃ kind ∈ Kind.unlockable, id ∈ p.ids kind := by
  rw [unlockNodes, List.mem_flatMap]

/-- Where no reference is at fault, both ends of every edge are scanned, and the edges are those
that the conditions of the pack make, whatever stands between the condition as a whole and the part
that reads something. -/
theorem unlockGraph_closed (h : hasIssues (Scope.ofConfig p allowlists c).check = false) :
    (∀ a b, p.unlockGraph.Edge a b ↔ ∃ path, p.MakesEdge path a b) ∧
      ∀ a b, p.unlockGraph.Edge a b → a ∈ p.unlockNodes ∧ b ∈ p.unlockNodes := by
  constructor
  · intro a b
    rw [edge_unlockGraph_eq]
  · intro a b hab
    obtain ⟨kind, kind', hkind', hunlocks⟩ := (edge_unlockGraph_iff a b).1 hab
    have hsource : a ∈ p.ids kind := mem_ids_of_unlocks h hunlocks
    have htarget : b ∈ p.ids kind' := hunlocks.mem_ids
    exact ⟨mem_unlockNodes_iff.2 ⟨kind, hunlocks.unlockable, hsource⟩,
      mem_unlockNodes_iff.2 ⟨kind', hkind', htarget⟩⟩

end Pack

def Sample.renewed : Json :=
  let completed := Json.obj [("kind", .str "prestigeCompleted"), ("prestigeLayerId", .str "p.dawn")]
  let either :=
    Json.obj [("conditions", .arr [completed, .obj [("kind", .str "never")]]),
      ("kind", .str "anyOf")]
  let neither := Json.obj [("condition", either), ("kind", .str "not")]
  .obj
    [("metadata", metadata "p" "1.0.0" "P"),
      ("prestigeLayers", .arr [prestigeLayer "p" "dawn" "gold"]),
      ("resources", .arr
        [(resource "p" "gold").setField "unlockCondition" neither,
          resource "p" "dawn-prestige-count"])]

theorem Pack.unlockGraph_closed_renewed : ∃ p, (Pack.parse Sample.renewed).1 = some p ∧
    hasIssues (Scope.ofConfig p (fun _ ↦ none) .initial).check = false ∧
    p.unlockGraph.Edge "p.dawn-prestige-count" "p.gold" ∧
    "p.dawn-prestige-count" ∈ p.unlockNodes ∧ "p.gold" ∈ p.unlockNodes := by
  let p := (Pack.parse Sample.renewed).1.get (by decide +kernel)
  have hscope : hasIssues (Scope.ofConfig p (fun _ ↦ none) .initial).check = false := by
    decide +kernel
  have hedge : p.unlockGraph.Edge "p.dawn-prestige-count" "p.gold" := by
    have hmem :
        ("p.dawn-prestige-count", "p.gold") ∈ p.unlockEdges.map fun e ↦ (e.source, e.target) := by
      decide +kernel
    exact (Graph.edge_ofEdges _ _ _).2 hmem
  exact ⟨p, (Option.some_get _).symm, hscope, hedge, (unlockGraph_closed hscope).2 _ _ hedge⟩

end GamePack
