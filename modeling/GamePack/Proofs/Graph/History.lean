import GamePack.Proofs.Graph.Ledger
import GamePack.Proofs.Sorted
import Mathlib.Data.List.Count

namespace GamePack

namespace Ledger

variable {g : Graph} {roots pushed pending : List String} {extent : Extent} {entries : List Entry}
  {examined : List (String × String)} {b b' : Ledger} {s : Search} {rest : List Frame} {e : Entry}
  {id node next u v : String} {rounds : Nat}

def targets (id : String) (examined : List (String × String)) : List String :=
  (examined.filter (·.1 = id)).map (·.2)

@[simp]
theorem targets_concat_self :
    targets node (examined ++ [(node, next)]) = targets node examined ++ [next] := by
  simp [targets]

theorem targets_concat_of_ne (h : node ≠ id) :
    targets id (examined ++ [(node, next)]) = targets id examined := by
  simp [targets, h]

/-- Edges are told apart by where they end once they are sorted by where they start. -/
theorem nodup_of_targets (h : ∀ id, (targets id examined).Nodup) : examined.Nodup := by
  rw [List.nodup_iff_count_le_one]
  intro edge
  calc
    examined.count edge = (examined.filter (·.1 = edge.1)).count edge :=
      (List.count_filter (by simp)).symm
    _ ≤ (targets edge.1 examined).count edge.2 := List.count_le_count_map
    _ ≤ 1 := List.nodup_iff_count_le_one.1 (h edge.1) edge.2

/-- The books tell which ids were pushed and which edges were looked at. -/
structure Logged (g : Graph) (pushed : List String) (examined : List (String × String))
    (b : Ledger) : Prop where
  distinct : pushed.Nodup
  pushed : ∀ id, id ∈ pushed ↔ id ∈ b.onStack ∨ id ∈ b.done
  stack : ∀ f ∈ b.stack, targets f.node examined ++ f.pending = g.successors f.node
  done : ∀ id ∈ b.done, targets id examined = g.successors id
  fresh : ∀ id, id ∉ b.onStack → id ∉ b.done → targets id examined = []

structure Stacked (b : Ledger) : Prop where
  nodup : (b.stack.map (·.node)).Nodup
  mem_iff : ∀ id, id ∈ b.onStack ↔ id ∈ b.stack.map (·.node)
  apart : Disjoint b.onStack b.done

theorem Follows.stacked (h : Follows g roots extent rounds b s) : b.Stacked where
  nodup := by
    rw [h.agrees.stack]
    exact List.nodup_reverse.1 h.reached.trail.distinct
  mem_iff := by
    intro id
    rw [← h.agrees.mem_path, Search.path, List.mem_reverse, h.agrees.stack]
  apart := h.agrees.apart

namespace Logged

theorem start (g : Graph) (roots : List String) : Logged g [] [] (.start roots) := by
  refine ⟨List.nodup_nil, ?_, ?_, ?_, ?_⟩ <;> simp [Ledger.start, targets]

theorem push (h : Logged g pushed examined b) (hpath : id ∉ b.onStack) (hdone : id ∉ b.done) :
    Logged g (pushed ++ [id]) examined (b.push g id) where
  distinct := by
    have hnew : id ∉ pushed := by simp [h.pushed, hpath, hdone]
    exact List.Nodup.append h.distinct (List.nodup_singleton id) (List.disjoint_singleton.2 hnew)
  pushed := by
    intro x
    simp only [Ledger.push, List.mem_append, h.pushed, List.mem_singleton, Finset.mem_insert]
    tauto
  stack := by
    intro f hf
    rcases List.mem_cons.1 hf with rfl | hf
    · simp [h.fresh id hpath hdone]
    · exact h.stack f hf
  done := h.done
  fresh := by
    intro x hx
    exact h.fresh x fun hmem ↦ hx (Finset.mem_insert_of_mem hmem)

theorem look (h : Logged g pushed examined b) (hs : b.Stacked)
    (hstack : b.stack = ⟨node, next :: pending⟩ :: rest) :
    Logged g pushed (examined ++ [(node, next)]) { b with stack := ⟨node, pending⟩ :: rest } := by
  have hnode : node ∈ b.onStack := by simp [hs.mem_iff, hstack]
  refine ⟨h.distinct, h.pushed, ?_, ?_, ?_⟩
  · intro f hf
    rcases List.mem_cons.1 hf with rfl | hf
    · have hhead := h.stack ⟨node, next :: pending⟩ (by simp [hstack])
      simpa using hhead
    · have hne : node ≠ f.node := by
        have hnodup := hs.nodup
        rw [hstack, List.map_cons, List.nodup_cons] at hnodup
        intro heq
        exact hnodup.1 (List.mem_map.2 ⟨f, hf, heq.symm⟩)
      rw [targets_concat_of_ne hne]
      exact h.stack f (by simp [hstack, hf])
  · intro id hid
    have hne : node ≠ id := fun heq ↦ Finset.disjoint_left.1 hs.apart hnode (heq ▸ hid)
    rw [targets_concat_of_ne hne]
    exact h.done id hid
  · intro id hpath hdone
    have hne : node ≠ id := fun heq ↦ hpath (heq ▸ hnode)
    rw [targets_concat_of_ne hne]
    exact h.fresh id hpath hdone

theorem leave (h : Logged g pushed examined b) (hs : b.Stacked)
    (hstack : b.stack = ⟨node, []⟩ :: rest) : Logged g pushed examined (b.leave node rest) := by
  have hnode : node ∈ b.onStack := by simp [hs.mem_iff, hstack]
  refine ⟨h.distinct, ?_, ?_, ?_, ?_⟩
  · intro id
    simp only [Ledger.leave, h.pushed, Finset.mem_erase, Finset.mem_insert]
    grind
  · intro f hf
    exact h.stack f (hstack ▸ List.mem_cons_of_mem _ hf)
  · intro id hid
    rcases Finset.mem_insert.1 hid with rfl | hid
    · have hhead := h.stack ⟨id, []⟩ (by simp [hstack])
      simpa using hhead
    · exact h.done id hid
  · intro id hpath hdone
    simp only [Ledger.leave, Finset.mem_erase, Finset.mem_insert, not_or] at hpath hdone
    exact h.fresh id (fun hmem ↦ hpath ⟨hdone.1, hmem⟩) hdone.2

theorem record (h : Logged g pushed examined b) (id : String) :
    Logged g pushed examined (b.record id) := by
  refine ⟨h.distinct, ?_, ?_, ?_, ?_⟩
  · simpa using h.pushed
  · simpa using h.stack
  · simpa using h.done
  · simpa using h.fresh

theorem wait (h : Logged g pushed examined b) (waiting : List String) :
    Logged g pushed examined { b with waiting } := ⟨h.distinct, h.pushed, h.stack, h.done, h.fresh⟩

theorem round (h : Logged g pushed examined b) (hs : b.Stacked) (hr : Round g b e b') :
    Logged g (pushed ++ e.pushed?.toList) (examined ++ e.examined?.toList) b' := by
  cases hr with
  | pass _ _ _ => simpa [Entry.pushed?, Entry.examined?] using h.wait _
  | @enter root waiting hempty _ hdone =>
    have hpath : root ∉ b.onStack := by simp [hs.mem_iff, hempty]
    simpa [Entry.pushed?, Entry.examined?] using (h.wait waiting).push hpath hdone
  | leave hstack => simpa [Entry.pushed?, Entry.examined?] using h.leave hs hstack
  | close hstack _ => simpa [Entry.pushed?, Entry.examined?] using (h.look hs hstack).record _
  | skip hstack _ _ => simpa [Entry.pushed?, Entry.examined?] using h.look hs hstack
  | meet hstack hpath hdone => exact (h.look hs hstack).push hpath hdone

theorem targets_prefix (h : Logged g pushed examined b) (hs : b.Stacked) (id : String) :
    targets id examined <+: g.successors id := by
  by_cases hpath : id ∈ b.onStack
  · obtain ⟨f, hf, rfl⟩ := List.mem_map.1 ((hs.mem_iff id).1 hpath)
    exact ⟨f.pending, h.stack f hf⟩
  · by_cases hdone : id ∈ b.done
    · rw [h.done id hdone]
    · rw [h.fresh id hpath hdone]
      exact List.nil_prefix

theorem nodup_examined (h : Logged g pushed examined b) (hs : b.Stacked) : examined.Nodup := by
  refine nodup_of_targets fun id ↦ ?_
  have hsuccessors : (g.successors id).Nodup := nodup_of_ascending (g.successorSet id).ascending
  exact hsuccessors.sublist (h.targets_prefix hs id).sublist

theorem edge_of_mem (h : Logged g pushed examined b) (hs : b.Stacked) (hmem : (u, v) ∈ examined) :
    g.Edge u v := by
  have hv : v ∈ targets u examined := by simpa [targets] using hmem
  exact (h.targets_prefix hs u).subset hv

theorem mem_examined (h : Logged g pushed examined b) (hu : u ∈ b.done) (hedge : g.Edge u v) :
    (u, v) ∈ examined := by
  have hv : v ∈ targets u examined := by
    rw [h.done u hu]
    exact hedge
  simpa [targets] using hv

end Logged

theorem History.logged (h : History g roots extent entries b) :
    Logged g (entries.filterMap Entry.pushed?) (entries.filterMap Entry.examined?) b := by
  induction h with
  | start => exact .start g roots
  | @next entries b b' e hprevious hact ih =>
    obtain ⟨s, hs⟩ := hprevious.follows
    have hround := ih.round hs.stacked (round_of_act hact).2
    rw [List.filterMap_append, List.filterMap_append]
    cases e <;> exact hround

theorem Round.settles (hr : Round g b e b') (he : e.examined? = some (u, v)) :
    v ∈ b.done ∨ v ∈ b.onStack ∨ e.pushed? = some v := by
  cases hr with
  | pass _ _ _ => cases he
  | enter _ _ _ => cases he
  | leave _ => cases he
  | close _ hpath =>
    cases he
    exact .inr (.inl hpath)
  | skip _ _ hdone =>
    cases he
    exact .inl hdone
  | meet _ _ _ =>
    cases he
    exact .inr (.inr rfl)

structure Kept (g : Graph) (roots : List String) (extent : Extent) (entries : List Entry)
    (b : Ledger) : Prop where
  agrees : ∃ s, Search.Reached g roots s ∧ Agrees g roots b s
  path : b.path = (b.stack.map (·.node)).reverse
  distinct : b.path.Nodup
  joined : List.IsChain g.Edge b.path
  onStack : b.onStack = b.path.toFinset
  apart : Disjoint b.onStack b.done
  /-- When a successor of an id that is done was looked at, it was done or on the stack,
  or it was pushed. -/
  settled : ∀ u ∈ b.done, ∀ v, g.Edge u v → ∃ before e b₁ b₂, before ++ [e] <+: entries ∧
    History g roots extent before b₁ ∧ b₁.act g extent = some (e, b₂) ∧ e.examined? = some (u, v) ∧
    (v ∈ b₁.done ∨ v ∈ b₁.onStack ∨ e.pushed? = some v)
  found : ∀ node next pending rest, b.stack = ⟨node, next :: pending⟩ :: rest → next ∈ b.onStack →
    (b.path.findIdx? (· = next)).isSome
  pushed : ∀ id, id ∈ entries.filterMap Entry.pushed? ↔ id ∈ b.onStack ∨ id ∈ b.done
  pushedOnce : (entries.filterMap Entry.pushed?).Nodup
  examined : ∀ u v, (u, v) ∈ entries.filterMap Entry.examined? → g.Edge u v
  examinedOnce : (entries.filterMap Entry.examined?).Nodup
  bounded : entries.length ≤ roots.length + g.size roots

theorem History.settled (h : History g roots extent entries b) (hu : u ∈ b.done)
    (hedge : g.Edge u v) :
    ∃ before e b₁ b₂, before ++ [e] <+: entries ∧ History g roots extent before b₁ ∧
      b₁.act g extent = some (e, b₂) ∧ e.examined? = some (u, v) ∧
      (v ∈ b₁.done ∨ v ∈ b₁.onStack ∨ e.pushed? = some v) := by
  obtain ⟨e, he, hexamined⟩ := List.mem_filterMap.1 (h.logged.mem_examined hu hedge)
  obtain ⟨before, b₁, b₂, hbefore, hprevious, hact⟩ := h.exists_round he
  exact ⟨before, e, b₁, b₂, hbefore, hprevious, hact, hexamined,
    (round_of_act hact).2.settles hexamined⟩

/-- The books of a search are right after each of its rounds, and its rounds come to an end, with
the cycles of the graph. -/
theorem books_kept (g : Graph) (roots : List String) (extent : Extent) :
    (∀ entries b, History g roots extent entries b → Kept g roots extent entries b) ∧
      ∃ entries b, History g roots extent entries b ∧ b.act g extent = none ∧
        b.cycles = g.cycles roots extent := by
  constructor
  · intro entries b h
    obtain ⟨s, hs⟩ := h.follows
    have htrail := hs.reached.trail
    have hlogged := h.logged
    constructor
    · exact ⟨s, hs.reached, hs.agrees⟩
    · rw [hs.agrees.path, Search.path, hs.agrees.stack]
    · rw [hs.agrees.path]
      exact htrail.distinct
    · rw [hs.agrees.path]
      exact htrail.chain
    · exact hs.agrees.onStack
    · exact hs.agrees.apart
    · intro u hu v hedge
      exact h.settled hu hedge
    · intro node next pending rest hstack hnext
      exact hs.agrees.findIdx?_isSome hnext
    · exact hlogged.pushed
    · exact hlogged.distinct
    · intro u v hmem
      exact hlogged.edge_of_mem hs.stacked hmem
    · exact hlogged.nodup_examined hs.stacked
    · exact h.length_le
  · have hstart : History g roots extent [] (.start roots) := .start
    obtain ⟨entries, b, h, hend⟩ := hstart.exists_end
    exact ⟨entries, b, h, hend, h.cycles_of_end hend⟩

end Ledger

end GamePack
