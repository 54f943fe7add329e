import GamePack.Proofs.Graph.Behind
import GamePack.Proofs.Graph.Bounded
import GamePack.Proofs.Id

namespace GamePack

namespace Graph

variable {g : Graph} {roots ids cycle : List String} {extent : Extent}

def ReachesCycle (g : Graph) (roots : List String) : Prop :=
  ∃ u ∈ roots, ∃ v, Relation.ReflTransGen g.Edge u v ∧ Relation.TransGen g.Edge v v

theorem Circuit.reachesCycle (h : g.Circuit roots ids) : g.ReachesCycle roots := by
  obtain ⟨u, hu, v, hv, hway⟩ := h.reached
  exact ⟨u, hu, v, hway, h.cyclic.transGen_of_mem hv⟩

theorem canonical_of_mem_cycles (h : cycle ∈ g.cycles roots extent) :
    g.CanonicalCycle roots cycle :=
  (Search.reached_final g roots extent).trail.found cycle h

theorem nodup_cycles (g : Graph) (roots : List String) (extent : Extent) :
    (g.cycles roots extent).Nodup :=
  .of_map renderCycle (Search.reached_final g roots extent).trail.apart

theorem cycles_eq_nil_iff : g.cycles roots extent = [] ↔ ¬ g.ReachesCycle roots := by
  constructor
  · rintro h ⟨u, hu, v, hp, hcycle⟩
    exact acyclic_of_cycles_eq_nil h hu hp hcycle
  · intro h
    by_contra hfound
    obtain ⟨cycle, hcycle⟩ := List.exists_mem_of_ne_nil _ hfound
    obtain ⟨id, rest, -, hcircuit, -⟩ := canonical_of_mem_cycles hcycle
    exact h hcircuit.reachesCycle

theorem cycles_eq_nil_of_forward {f : Nat → String} (hf : Function.Injective f)
    (hedge : ∀ u v, g.Edge u v → ∃ i j, i < j ∧ f i = u ∧ f j = v) :
    g.cycles roots extent = [] := by
  have hway {u v : String} (h : Relation.TransGen g.Edge u v) :
      ∃ i j, i < j ∧ f i = u ∧ f j = v := by
    induction h with
    | single h => exact hedge _ _ h
    | tail _ h ih =>
      obtain ⟨i, j, hij, hi, hj⟩ := ih
      obtain ⟨j', k, hjk, hj', hk⟩ := hedge _ _ h
      obtain rfl : j' = j := hf (hj'.trans hj.symm)
      exact ⟨i, k, hij.trans hjk, hi, hk⟩
  rw [cycles_eq_nil_iff]
  intro hreaches
  obtain ⟨u, -, v, -, hcycle⟩ := hreaches
  obtain ⟨i, j, hij, hi, hj⟩ := hway hcycle
  obtain rfl : i = j := hf (hi.trans hj.symm)
  exact Nat.lt_irrefl i hij

/-- A search that ends at the first cycle finds one and no more, if any. -/
theorem exists_cycles_first_eq (h : g.cycles roots .first ≠ []) : ∃ id rest,
    g.cycles roots .first = [id :: (rest ++ [id])] ∧ g.Circuit roots (id :: rest) ∧
    ∀ x ∈ rest, id < x := by
  have hlength : (g.cycles roots .first).length = 1 :=
    Nat.le_antisymm (g.length_cycles_first_le roots) (List.length_pos_iff.2 h)
  obtain ⟨cycle, hcycle⟩ := List.length_eq_one_iff.1 hlength
  obtain ⟨id, rest, rfl, hcircuit, hleast⟩ :=
    canonical_of_mem_cycles (hcycle ▸ List.mem_singleton_self cycle)
  exact ⟨id, rest, hcycle, hcircuit, hleast⟩

theorem cycles_eq_nil_iff_circuit : g.cycles roots extent = [] ↔ ∀ ids, ¬ g.Circuit roots ids := by
  constructor
  · exact fun h ids hcircuit ↦ cycles_eq_nil_iff.1 h hcircuit.reachesCycle
  · intro h
    rw [List.eq_nil_iff_forall_not_mem]
    intro cycle hcycle
    obtain ⟨id, rest, -, hcircuit, -⟩ := canonical_of_mem_cycles hcycle
    exact h _ hcircuit

theorem ReachesCycle.mono {g' : Graph} {roots' : List String} (h : g.ReachesCycle roots)
    (hedge : ∀ {a b}, g.Edge a b → g'.Edge a b) (hroots : roots ⊆ roots') :
    g'.ReachesCycle roots' := by
  obtain ⟨u, hu, v, hp, hcycle⟩ := h
  exact ⟨u, hroots hu, v, Relation.ReflTransGen.mono (fun _ _ ↦ hedge) _ _ hp,
    Relation.TransGen.mono (fun _ _ ↦ hedge) _ _ hcycle⟩

theorem cycles_cons_filter (g : Graph) (id : String) (rest : List String) (extent : Extent) :
    g.cycles (id :: rest.filter (· ≠ id)) extent = g.cycles (id :: rest) extent := by
  have hscope : (id :: rest.filter (· ≠ id) ++ g.ids).eraseDups =
      (id :: rest ++ g.ids).eraseDups := by
    rw [List.cons_append, List.cons_append, List.eraseDups_cons, List.eraseDups_cons,
      List.filter_append, List.filter_append, List.filter_filter]
    simp [beq_eq_decide]
  have hmet : id ∉ (Search.scan g extent (.start (id :: rest ++ g.ids).eraseDups) id).fresh :=
    Search.not_mem_fresh_scan (Search.nodup_eraseDups _) (Search.not_satisfied rfl)
  rw [cycles, cycles, hscope, List.foldl_cons, List.foldl_cons, ← Search.scans_filter hmet]

/-- How many cycles a search that ends at the first one finds depends on the edges and
the roots alone. -/
theorem length_cycles_first_eq {g' : Graph} {roots' : List String}
    (hedge : ∀ a b, g.Edge a b ↔ g'.Edge a b) (hroots : ∀ id, id ∈ roots ↔ id ∈ roots') :
    (g.cycles roots .first).length = (g'.cycles roots' .first).length := by
  have hreaches : g.ReachesCycle roots ↔ g'.ReachesCycle roots' :=
    ⟨fun h ↦ h.mono (hedge _ _).1 fun _ ↦ (hroots _).1,
      fun h ↦ h.mono (hedge _ _).2 fun _ ↦ (hroots _).2⟩
  have hle := g.length_cycles_first_le roots
  have hle' := g'.length_cycles_first_le roots'
  have hnil : g.cycles roots .first = [] ↔ g'.cycles roots' .first = [] := by
    rw [cycles_eq_nil_iff, cycles_eq_nil_iff, hreaches]
  rw [← List.length_eq_zero_iff, ← List.length_eq_zero_iff] at hnil
  omega

structure Searched (g : Graph) (roots : List String) (extent : Extent) : Prop where
  ends : g.cyclesWithin (g.size roots + 1) roots extent = some (g.cycles roots extent)
  canonical : ∀ cycle ∈ g.cycles roots extent, g.CanonicalCycle roots cycle
  distinct : (g.cycles roots extent).Nodup
  none_iff : g.cycles roots extent = [] ↔ ∀ ids, ¬ g.Circuit roots ids
  first : g.cycles roots .first = (g.cycles roots .all).take 1

theorem searched (g : Graph) (roots : List String) (extent : Extent) : g.Searched roots extent where
  ends := g.cyclesWithin_size roots extent
  canonical _ h := canonical_of_mem_cycles h
  distinct := g.nodup_cycles roots extent
  none_iff := cycles_eq_nil_iff_circuit
  first := g.cycles_first roots

def ShareEdge (cycle other : List String) : Prop := ∃ u v, [u, v] <:+: cycle ∧ [u, v] <:+: other

theorem CanonicalCycle.valid (h : g.CanonicalCycle roots cycle)
    (hvalid : ∀ id ∈ g.ids, Id.isValid id) : ∀ id ∈ cycle, Id.isValid id := by
  intro id hid
  refine hvalid id ?_
  obtain ⟨first, rest, rfl, hcircuit, -⟩ := h
  have hmem : id ∈ first :: rest := by grind
  obtain ⟨b, -, hedge⟩ := Relation.TransGen.tail'_iff.1 (hcircuit.cyclic.transGen_of_mem hmem)
  exact mem_ids_of_edge hedge

/-- A search for all cycles finds, of every cycle that can be reached, one that shares an edge with
it: the cycle itself, and this once, if it shares no edge with another. -/
theorem cycles_all_cover (hvalid : ∀ id ∈ g.ids, Id.isValid id) (h : g.CanonicalCycle roots cycle) :
    (∃ found ∈ g.cycles roots .all, ShareEdge found cycle) ∧
      ((∀ other, g.CanonicalCycle roots other → other ≠ cycle → ¬ ShareEdge other cycle) →
        (g.cycles roots .all).count cycle = 1) := by
  obtain ⟨found, hcanonical, hrender, hshared⟩ := exists_shared_edge h
  have hfound : found ∈ g.cycles roots .all := by
    obtain ⟨found', hfound', heq⟩ := List.mem_map.1 hrender
    have hvalid' := (canonical_of_mem_cycles hfound').valid hvalid
    rwa [← renderCycle_inj hvalid' (hcanonical.valid hvalid) heq]
  refine ⟨⟨found, hfound, hshared⟩, fun hapart ↦ ?_⟩
  have hsame : found = cycle := by
    by_contra hne
    exact hapart found hcanonical hne hshared
  exact List.count_eq_one_of_mem (g.nodup_cycles roots .all) (hsame ▸ hfound)

theorem ShareEdge.symm {other : List String} (h : ShareEdge cycle other) :
    ShareEdge other cycle := by
  obtain ⟨u, v, hcycle, hother⟩ := h
  exact ⟨u, v, hother, hcycle⟩

theorem CanonicalCycle.of_pair {root u v : String} (hroot : root ∈ roots)
    (hway : Relation.ReflTransGen g.Edge root u) (hlt : u < v) (huv : g.Edge u v)
    (hvu : g.Edge v u) : g.CanonicalCycle roots [u, v, u] := by
  have hne : u ≠ v := by
    intro heq
    exact String.lt_irrefl v (heq ▸ hlt)
  refine ⟨u, [v], rfl, ⟨?_, .pair huv hvu, ?_⟩, ?_⟩
  · simpa using hne
  · exact ⟨root, hroot, u, List.mem_cons_self, hway⟩
  · simpa using hlt

/-- Two cycles with an id in common and no edge. -/
def touching : Graph := .ofEdges [("a", "b"), ("b", "a"), ("b", "c"), ("c", "b")]

theorem edge_touching_iff {u v : String} :
    touching.Edge u v ↔ u = "b" ∧ (v = "a" ∨ v = "c") ∨ (u = "a" ∨ u = "c") ∧ v = "b" := by
  simp only [touching, edge_ofEdges, List.mem_cons, Prod.mk.injEq, List.not_mem_nil]
  grind

theorem CanonicalCycle.eq_or_eq_of_touching (h : touching.CanonicalCycle roots cycle) :
    cycle = ["a", "b", "a"] ∨ cycle = ["b", "c", "b"] := by
  obtain ⟨id, rest, rfl, hcircuit, hleast⟩ := h
  have hway : List.IsChain touching.Edge (id :: (rest ++ [id])) := hcircuit.cyclic
  have hdistinct := hcircuit.distinct
  match rest with
  | [] =>
    simp only [List.nil_append, List.isChain_pair, edge_touching_iff] at hway
    grind
  | [x] =>
    simp only [List.singleton_append, List.isChain_cons_cons, edge_touching_iff] at hway
    have hlt : id < x := hleast x List.mem_cons_self
    obtain ⟨⟨rfl, rfl | rfl⟩ | ⟨rfl | rfl, rfl⟩, -⟩ := hway
    · exact absurd hlt (by decide)
    · exact .inr rfl
    · exact .inl rfl
    · exact absurd hlt (by decide)
  | x :: y :: rest =>
    -- Every edge has one end at `b`, so `b` would come again two places further.
    simp only [List.nodup_cons, List.mem_cons] at hdistinct
    cases rest <;> simp only [List.cons_append, List.nil_append, List.isChain_cons_cons,
      edge_touching_iff] at hway <;> grind

theorem not_shareEdge_touching : ¬ ShareEdge ["a", "b", "a"] ["b", "c", "b"] := by
  intro ⟨u, v, hleft, hright⟩
  simp only [List.infix_cons_iff, List.prefix_cons_iff, List.cons.injEq] at hleft hright
  grind

theorem cycles_all_cover_touching :
    (∀ id ∈ touching.ids, Id.isValid id) ∧ touching.CanonicalCycle ["a"] ["a", "b", "a"] ∧
    touching.CanonicalCycle ["a"] ["b", "c", "b"] ∧ ¬ ShareEdge ["a", "b", "a"] ["b", "c", "b"] ∧
    (∃ found ∈ touching.cycles ["a"] .all, ShareEdge found ["b", "c", "b"]) ∧
    (touching.cycles ["a"] .all).count ["a", "b", "a"] = 1 ∧
    (touching.cycles ["a"] .all).count ["b", "c", "b"] = 1 := by
  have hvalid : ∀ id ∈ touching.ids, Id.isValid id := by decide +kernel
  have hab : touching.Edge "a" "b" := edge_touching_iff.2 (by decide)
  have hba : touching.Edge "b" "a" := edge_touching_iff.2 (by decide)
  have hbc : touching.Edge "b" "c" := edge_touching_iff.2 (by decide)
  have hcb : touching.Edge "c" "b" := edge_touching_iff.2 (by decide)
  have hleft : touching.CanonicalCycle ["a"] ["a", "b", "a"] :=
    .of_pair List.mem_cons_self .refl (by decide) hab hba
  have hright : touching.CanonicalCycle ["a"] ["b", "c", "b"] :=
    .of_pair List.mem_cons_self (.single hab) (by decide) hbc hcb
  obtain ⟨hcovered, hrightOnce⟩ := cycles_all_cover hvalid hright
  refine ⟨hvalid, hleft, hright, not_shareEdge_touching, hcovered,
    (cycles_all_cover hvalid hleft).2 ?_, hrightOnce ?_⟩
  · intro other hother hne hshared
    obtain rfl := hother.eq_or_eq_of_touching.resolve_left hne
    exact not_shareEdge_touching hshared.symm
  · intro other hother hne
    obtain rfl := hother.eq_or_eq_of_touching.resolve_right hne
    exact not_shareEdge_touching

def overlapping : Graph := .ofEdges [("a", "b"), ("b", "c"), ("c", "a"), ("a", "c")]

/-- When the search looks at the edge into the last id, it is done with that id. -/
theorem missed_of_overlapping : (∀ id ∈ overlapping.ids, Id.isValid id) ∧
    overlapping.CanonicalCycle ["a"] ["a", "c", "a"] ∧
    ["a", "c", "a"] ∉ overlapping.cycles ["a"] .all := by
  have hac : overlapping.Edge "a" "c" := (edge_ofEdges _ _ _).2 (by decide)
  have hca : overlapping.Edge "c" "a" := (edge_ofEdges _ _ _).2 (by decide)
  have hcycles : overlapping.cycles ["a"] .all = [["a", "b", "c", "a"]] :=
    cycles_of_cyclesWithin (n := 9) (by decide +kernel)
  refine ⟨by decide +kernel, .of_pair List.mem_cons_self .refl (by decide) hac hca, ?_⟩
  rw [hcycles]
  decide

end Graph

end GamePack
