import GamePack.Proofs.Graph.Canonical
import GamePack.Proofs.Graph.Search

namespace GamePack

namespace Search

variable {g : Graph} {roots ids : List String} {extent : Extent} {s s' : Search}

structure Trail (g : Graph) (roots : List String) (s : Search) : Prop where
  chain : List.IsChain g.Edge s.path
  distinct : s.path.Nodup
  rooted : ∀ id ∈ s.path, ∃ u ∈ roots, Relation.ReflTransGen g.Edge u id
  pending : ∀ f ∈ s.stack, ∀ v ∈ f.pending, g.Edge f.node v
  found : ∀ cycle ∈ s.cycles, g.CanonicalCycle roots cycle
  apart : (s.cycles.map renderCycle).Nodup

variable {node next : String} {pending fresh : List String} {rest : List Frame}
  {cycles : List (List String)}

def closing (next : String) (s : Search) : List String :=
  Cycle.canonical (s.path.dropWhile (· ≠ next) ++ [next])

theorem Trail.edge (h : Trail g roots ⟨⟨node, next :: pending⟩ :: rest, fresh, cycles⟩) :
    g.Edge node next :=
  h.pending _ List.mem_cons_self next List.mem_cons_self

theorem Trail.look (h : Trail g roots ⟨⟨node, next :: pending⟩ :: rest, fresh, cycles⟩) :
    Trail g roots ⟨⟨node, pending⟩ :: rest, fresh, cycles⟩ where
  chain := by simpa using h.chain
  distinct := by simpa using h.distinct
  rooted := by simpa using h.rooted
  pending := by
    obtain ⟨hend, hrest⟩ := List.forall_mem_cons.1 h.pending
    exact List.forall_mem_cons.2 ⟨fun v hv ↦ hend v (List.mem_cons_of_mem _ hv), hrest⟩
  found := h.found
  apart := h.apart

theorem Trail.closing (h : Trail g roots ⟨⟨node, pending⟩ :: rest, fresh, cycles⟩)
    (hedge : g.Edge node next) (hpath : next ∈ path ⟨⟨node, pending⟩ :: rest, fresh, cycles⟩) :
    g.CanonicalCycle roots (closing next ⟨⟨node, pending⟩ :: rest, fresh, cycles⟩) ∧
      [node, next] <:+: closing next ⟨⟨node, pending⟩ :: rest, fresh, cycles⟩ := by
  let s : Search := ⟨⟨node, pending⟩ :: rest, fresh, cycles⟩
  obtain ⟨before, way, hsplit, hbefore⟩ := List.eq_append_cons_of_mem hpath
  have hway : s.path.dropWhile (· ≠ next) = next :: way := by
    have hother : ∀ x ∈ before, decide (x ≠ next) = true := fun x hx ↦
      decide_eq_true fun hxn ↦ hbefore (hxn ▸ hx)
    rw [hsplit, List.dropWhile_append_of_pos hother]
    simp
  have hsuffix : next :: way <:+ s.path := ⟨before, hsplit.symm⟩
  have hlast : (next :: way).getLast? = some node := by
    have hend : s.path.getLast? = some node := by simp [s]
    rwa [hsplit, List.getLast?_append_of_ne_nil _ (List.cons_ne_nil _ _)] at hend
  have hcyclic : Cyclic g.Edge (next :: way) := by
    have hchain : List.IsChain g.Edge (next :: way ++ [next]) := by
      refine List.isChain_append.2 ⟨h.chain.suffix hsuffix, List.isChain_singleton next, ?_⟩
      intro x hx y hy
      rw [hlast, Option.mem_some_iff] at hx
      rw [List.head?_singleton, Option.mem_some_iff] at hy
      exact hx ▸ hy ▸ hedge
    exact hchain
  have hcircuit : g.Circuit roots (next :: way) := by
    obtain ⟨u, hu, hreach⟩ := h.rooted next hpath
    exact ⟨h.distinct.sublist hsuffix.sublist, hcyclic, u, hu, next, List.mem_cons_self, hreach⟩
  have hclosing : Search.closing next s = Cycle.canonical (next :: (way ++ [next])) := by
    rw [Search.closing, hway, List.cons_append]
  rw [hclosing]
  exact ⟨hcircuit.canonical, hcircuit.closing_edge hlast⟩

theorem Trail.record {next : String} (h : Trail g roots s)
    (hclosing : g.CanonicalCycle roots (Search.closing next s)) :
    Trail g roots (s.record next) := by
  refine ⟨?_, ?_, ?_, ?_, ?_, ?_⟩
  · simpa using h.chain
  · simpa using h.distinct
  · simpa using h.rooted
  · simpa using h.pending
  · intro cycle hcycle
    rw [Search.record] at hcycle
    split at hcycle
    · exact h.found cycle hcycle
    · rcases List.mem_append.1 hcycle with hcycle | hcycle
      · exact h.found cycle hcycle
      · obtain rfl := List.mem_singleton.1 hcycle
        exact hclosing
  · rw [Search.record]
    split
    · exact h.apart
    · rename_i hnew
      rw [List.map_append, List.map_singleton]
      exact List.Nodup.append h.apart (List.nodup_singleton _) (List.disjoint_singleton.2 hnew)

theorem Trail.push (h : Trail g roots s) {id : String} (hid : id ∉ s.path)
    (hedge : ∀ node ∈ s.path.getLast?, g.Edge node id)
    (hrooted : ∃ u ∈ roots, Relation.ReflTransGen g.Edge u id) : Trail g roots (s.push g id) where
  chain := by
    rw [path_push, List.isChain_append]
    exact ⟨h.chain, List.isChain_singleton id, by simpa using hedge⟩
  distinct := by
    rw [path_push]
    exact List.Nodup.append h.distinct (List.nodup_singleton _) (List.disjoint_singleton.2 hid)
  rooted := by
    rw [path_push]
    exact List.forall_mem_append.2 ⟨h.rooted, by simpa using hrooted⟩
  pending := List.forall_mem_cons.2 ⟨fun v hv ↦ hv, h.pending⟩
  found := h.found
  apart := h.apart

theorem Move.trail (hm : Move g roots s s') (h : Trail g roots s) : Trail g roots s' := by
  cases hm with
  | enter hroot _ => exact h.push (by simp [path]) (by simp [path]) ⟨_, hroot, .refl⟩
  | drop node rest fresh cycles =>
    obtain ⟨chain, distinct, rooted, pending, found, apart⟩ := h
    rw [path_cons] at chain distinct rooted
    exact ⟨chain.left_of_append, distinct.of_append_left,
      fun id hid ↦ rooted id (List.mem_append_left _ hid),
      (List.forall_mem_cons.1 pending).2, found, apart⟩
  | close hpath => exact h.look.record (h.look.closing h.edge hpath).1
  | @meet node next pending fresh rest cycles hpath hfresh =>
    obtain ⟨u, hu, hway⟩ := h.rooted node (mem_path (f := ⟨node, _⟩) List.mem_cons_self)
    refine h.look.push hpath ?_ ⟨u, hu, hway.tail h.edge⟩
    intro x hx
    simp only [path_cons, List.getLast?_concat, Option.mem_some_iff] at hx
    exact hx ▸ h.edge
  | skip _ _ => exact h.look

theorem Reached.trail (h : Reached g roots s) : Trail g roots s := by
  refine h.induct ?_ fun _ hm hs ↦ hm.trail hs
  exact ⟨.nil, .nil, by simp [path, start], by simp [start], by simp [start], by simp [start]⟩

theorem not_satisfied (h : s.cycles = []) : ¬ s.satisfied extent := by simp [satisfied, h]

theorem not_satisfied_all (s : Search) : ¬ s.satisfied .all := by simp [satisfied]

theorem satisfied_first (h : s.cycles ≠ []) : s.satisfied .first := by simp [satisfied, h]

theorem Move.length_cycles_le (hm : Move g roots s s') :
    s'.cycles.length ≤ s.cycles.length + 1 := by
  cases hm with
  | close _ =>
    rw [record]
    split
    · exact Nat.le_succ _
    · rw [List.length_append]
      exact Nat.le_refl _
  | enter | drop | meet | skip => exact Nat.le_succ _

/-- A search for one cycle is the search for all of them up to the first that is found. -/
theorem drain_first (h : s.cycles = []) :
    (drain g .first s).cycles = (drain g .all s).cycles.take 1 ∧
      ((drain g .first s).cycles = [] → drain g .first s = drain g .all s) := by
  induction s using drain.induct g .first with
  | case1 s hs =>
    have hstack : s.stack = [] := hs.resolve_right (not_satisfied h)
    rw [drain_over hs, drain_over (.inl hstack), h]
    exact ⟨rfl, fun _ ↦ rfl⟩
  | case2 s hs ih =>
    have hgo : ¬ (s.stack = [] ∨ s.satisfied .all) :=
      not_or.2 ⟨(not_or.1 hs).1, s.not_satisfied_all⟩
    rw [drain_step hs, drain_step hgo]
    by_cases hnone : (s.step g).cycles = []
    · exact ih hnone
    -- This step found the first cycle: one search ends, and the other adds to what is found.
    have hfirst : drain g .first (s.step g) = s.step g := drain_over (.inr (satisfied_first hnone))
    have hlength : (s.step g).cycles.length = 1 := by
      have hmove : Move g [] s (s.step g) := move_step (not_or.1 hs).1
      have hle := hmove.length_cycles_le
      have hpos := List.length_pos_iff.2 hnone
      rw [h, List.length_nil] at hle
      omega
    have hleads : Leads g [] (s.step g) (drain g .all (s.step g)) := leads_drain _
    rw [hfirst]
    refine ⟨?_, fun hnil ↦ absurd hnil hnone⟩
    rw [← hlength]
    exact List.prefix_iff_eq_take.1 hleads.cycles_grow

theorem scans_of_satisfied (h : s.satisfied extent) (ids : List String) :
    ids.foldl (scan g extent) s = s := by
  induction ids with
  | nil => rfl
  | cons root rest ih => rw [List.foldl_cons, scan_eq_self (.inl h), ih]

theorem scans_first (h : s.cycles = []) :
    (ids.foldl (scan g .first) s).cycles = (ids.foldl (scan g .all) s).cycles.take 1 := by
  induction ids generalizing s with
  | nil => simp [h]
  | cons root rest ih =>
    rw [List.foldl_cons, List.foldl_cons]
    by_cases hfresh : root ∈ s.fresh
    · rw [scan_eq_drain (not_satisfied h) hfresh, scan_eq_drain s.not_satisfied_all hfresh]
      obtain ⟨htake, hsame⟩ := drain_first (g := g) (s := s.push g root) h
      by_cases hnone : (drain g .first (s.push g root)).cycles = []
      · rw [← hsame hnone]
        exact ih hnone
      rw [scans_of_satisfied (satisfied_first hnone), htake]
      have hgrow : (drain g .all (s.push g root)).cycles <+:
          (rest.foldl (scan g .all) (drain g .all (s.push g root))).cycles :=
        (leads_scans (List.Subset.refl rest) (rests_drain _)).1.cycles_grow
      have hpos : 1 ≤ (drain g .all (s.push g root)).cycles.length := by
        rw [htake] at hnone
        exact List.length_pos_iff.2 fun hnil ↦ hnone (by rw [hnil, List.take_nil])
      obtain ⟨later, hlater⟩ := hgrow
      rw [← hlater, List.take_append_of_le_length hpos]
    · rw [scan_eq_self (.inr hfresh), scan_eq_self (.inr hfresh)]
      exact ih h

end Search

namespace Graph

variable (g : Graph) (roots : List String)

theorem cycles_first : g.cycles roots .first = (g.cycles roots .all).take 1 :=
  Search.scans_first rfl

theorem length_cycles_first_le : (g.cycles roots .first).length ≤ 1 := by
  rw [cycles_first, List.length_take]
  exact Nat.min_le_left ..

end Graph

end GamePack
