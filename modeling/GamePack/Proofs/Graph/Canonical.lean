import GamePack.Graph.Cycle
import GamePack.Proofs.Graph.Cyclic
import Mathlib.Data.List.Nodup

namespace GamePack

namespace Cycle

variable {id : String} {rest : List String}

theorem opened_closed (id : String) (rest : List String) :
    opened (id :: (rest ++ [id])) = id :: rest := by
  have hlast : (id :: (rest ++ [id])).getLast? = some id := by
    rw [← List.cons_append, List.getLast?_concat]
  have hclosed : 2 ≤ (id :: (rest ++ [id])).length ∧
      (id :: (rest ++ [id])).head? = (id :: (rest ++ [id])).getLast? := ⟨by simp, hlast.symm⟩
  rw [opened, if_pos hclosed, ← List.cons_append, List.dropLast_concat]

theorem exists_least_cons (id : String) (rest : List String) :
    ∃ m, least (id :: rest) = some m ∧ m ∈ id :: rest ∧ ∀ x ∈ id :: rest, ¬ x < m := by
  induction rest generalizing id with
  | nil =>
    exact ⟨id, rfl, List.mem_singleton_self id, List.forall_mem_singleton.2 (String.lt_irrefl id)⟩
  | cons x rest ih =>
    obtain ⟨m, hm, hmem, hleast⟩ := ih (if x < id then x else id)
    have hfirst := hleast _ List.mem_cons_self
    exact ⟨m, hm, by grind, by grind⟩

theorem exists_canonical (hnodup : (id :: rest).Nodup) :
    ∃ before m after, id :: rest = before ++ m :: after ∧
    canonical (id :: (rest ++ [id])) = m :: (after ++ before ++ [m]) ∧
    ∀ x ∈ after ++ before, m < x := by
  obtain ⟨m, hm, hmem, hleast⟩ := exists_least_cons id rest
  obtain ⟨before, after, hsplit⟩ := List.append_of_mem hmem
  have hother : ∀ x ∈ before ++ after, x ≠ m := by
    rw [hsplit, List.nodup_middle, List.nodup_cons] at hnodup
    exact fun x hx hxm ↦ hnodup.1 (hxm ▸ hx)
  have hbefore : ∀ x ∈ before, decide (x ≠ m) = true := fun x hx ↦
    decide_eq_true (hother x (List.mem_append_left _ hx))
  refine ⟨before, m, after, hsplit, ?_, ?_⟩
  · rw [canonical, opened_closed, hm]
    dsimp only
    rw [hsplit, List.dropWhile_append_of_pos hbefore, List.takeWhile_append_of_pos hbefore]
    simp
  · intro x hx
    have hne := hother x (by grind)
    have hnlt := hleast x (by grind)
    exact (Std.lt_trichotomy m x).resolve_right (by grind)

end Cycle

namespace Graph

/-- Distinct ids, each of which leads to the next and the last to the first, with a way to
them from a root. -/
structure Circuit (g : Graph) (roots ids : List String) : Prop where
  distinct : ids.Nodup
  cyclic : Cyclic g.Edge ids
  reached : ∃ u ∈ roots, ∃ v ∈ ids, Relation.ReflTransGen g.Edge u v

def CanonicalCycle (g : Graph) (roots cycle : List String) : Prop :=
  ∃ id rest, cycle = id :: (rest ++ [id]) ∧ g.Circuit roots (id :: rest) ∧ ∀ x ∈ rest, id < x

variable {g : Graph} {roots rest before after cycle : List String} {id u : String}

theorem Circuit.turn (h : g.Circuit roots (before ++ after)) :
    g.Circuit roots (after ++ before) where
  distinct := List.nodup_append_comm.1 h.distinct
  cyclic := h.cyclic.append_comm
  reached := by
    obtain ⟨u, hu, v, hv, hway⟩ := h.reached
    exact ⟨u, hu, v, by grind, hway⟩

theorem Circuit.canonical (h : g.Circuit roots (id :: rest)) :
    g.CanonicalCycle roots (Cycle.canonical (id :: (rest ++ [id]))) := by
  obtain ⟨before, m, after, hsplit, hcanonical, hleast⟩ := Cycle.exists_canonical h.distinct
  rw [hsplit] at h
  rw [hcanonical]
  exact ⟨m, after ++ before, rfl, h.turn, hleast⟩

theorem Circuit.closing_edge (h : g.Circuit roots (id :: rest))
    (hlast : (id :: rest).getLast? = some u) :
    [u, id] <:+: Cycle.canonical (id :: (rest ++ [id])) := by
  obtain ⟨before, m, after, hsplit, hcanonical, -⟩ := Cycle.exists_canonical h.distinct
  rw [hcanonical]
  rw [hsplit] at hlast
  cases before with
  | nil =>
    obtain ⟨rfl, rfl⟩ := List.cons.inj hsplit
    obtain ⟨init, hinit⟩ := List.getLast?_eq_some_iff.1 hlast
    refine ⟨init, [], ?_⟩
    simp only [List.nil_append] at hinit
    rw [List.append_nil, List.append_nil, ← List.cons_append, hinit, List.append_assoc]
    rfl
  | cons b before =>
    obtain ⟨rfl, -⟩ := List.cons.inj hsplit
    rw [List.getLast?_append_of_ne_nil _ (List.cons_ne_nil _ _)] at hlast
    obtain ⟨init, hinit⟩ := List.getLast?_eq_some_iff.1 hlast
    refine ⟨init, before ++ [m], ?_⟩
    rw [← List.cons_append, ← List.cons_append, hinit]
    simp

theorem CanonicalCycle.edge (h : g.CanonicalCycle roots cycle) {v : String}
    (huv : [u, v] <:+: cycle) : g.Edge u v := by
  obtain ⟨id, rest, rfl, hcircuit, -⟩ := h
  have hchain : List.IsChain g.Edge (id :: (rest ++ [id])) := hcircuit.cyclic
  have hpair := hchain.infix huv
  exact List.isChain_pair.1 hpair

end Graph

end GamePack
