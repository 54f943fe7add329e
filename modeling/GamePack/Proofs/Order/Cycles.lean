import GamePack.Proofs.Graph.Acyclic
import GamePack.Proofs.Graph.Searched
import GamePack.Proofs.Order.Structure
import GamePack.Validation

namespace GamePack

def Gate.content (g : Gate) : String × Condition := (g.entry, g.condition)

theorem Gate.map_content_ofOption (entry : String) (path path' : Path)
    (condition : Option Condition) :
    (Gate.ofOption entry path condition).map content =
      (Gate.ofOption entry path' condition).map content := by
  cases condition <;> rfl

theorem Kind.content_entryGates (kind : Kind) (path path' : Path) (e : kind.Entry) :
    ((kind.entryGates path e).map Gate.content).Perm
      ((kind.entryGates path' e).map Gate.content) := by
  cases kind with
  | resource | generator | achievement | transform => exact .of_eq (Gate.map_content_ofOption ..)
  | upgrade =>
    have hprerequisites (path : Path) : ((path.each e.prerequisites fun path r ↦
          [(⟨e.id, path, r.toCondition⟩ : Gate)]).map Gate.content).Perm
        (e.prerequisites.flatMap fun r ↦ [(e.id, r.toCondition)]) :=
      Path.map_each_perm fun _ _ _ ↦ .refl _
    have hgates (path : Path) : (Upgrade.gates path e).map Gate.content =
        (Gate.ofOption e.id (path.key "unlockCondition") e.unlockCondition).map Gate.content ++
          ((path.key "prerequisites").each e.prerequisites fun path r ↦
            [(⟨e.id, path, r.toCondition⟩ : Gate)]).map Gate.content := List.map_append
    have hupgrade : Kind.upgrade.entryGates = Upgrade.gates := rfl
    rw [hupgrade, hgates, hgates, Gate.map_content_ofOption e.id _ (path'.key "unlockCondition")]
    exact .append_left _ ((hprerequisites _).trans (hprerequisites _).symm)
  | _ => exact .refl _

namespace Pack.Shuffled

variable {p q : Pack}

theorem content_gates (h : p.Shuffled q) :
    (p.gates.map Gate.content).Perm (q.gates.map Gate.content) :=
  h.map_each_perm Kind.content_entryGates

theorem edge_transformGraph (h : p.Shuffled q) (a b : String) :
    p.transformGraph.Edge a b ↔ q.transformGraph.Edge a b := by
  have hmem (t : Transform) : t ∈ p.transforms ↔ t ∈ q.transforms :=
    (h.collection .transform).mem_iff
  simp only [Pack.edge_transformGraph, hmem]

theorem edge_unlockGraph (h : p.Shuffled q) (a b : String) :
    p.unlockGraph.Edge a b ↔ q.unlockGraph.Edge a b := by
  have hedge (p : Pack) : p.unlockGraph.Edge a b ↔
      ∃ x ∈ p.gates.map Gate.content, x.1 = b ∧ a ∈ x.2.dependencies := by
    rw [Pack.edge_unlockGraph]
    simp only [List.mem_map, Gate.content, exists_exists_and_eq_and]
  simp only [hedge, h.content_gates.mem_iff]

/-- As many cycles are reported in every order. -/
theorem alike_cycles (h : p.Shuffled q) (c : Config) :
    Alike (p.checkCycles c) (q.checkCycles c) := by
  have hnodes (id : String) : id ∈ p.unlockNodes ↔ id ∈ q.unlockNodes := by
    simp only [unlockNodes, List.mem_flatMap, (h.ids _).mem_iff]
  rw [checkCycles, checkCycles, h.metadata]
  refine .append (.append (.map_fault ?_) (.map_fault ?_)) (.refl _)
  · exact Graph.length_cycles_first_eq h.edge_transformGraph fun _ ↦ (h.ids .transform).mem_iff
  · exact Graph.length_cycles_first_eq h.edge_unlockGraph hnodes

end Pack.Shuffled

end GamePack
