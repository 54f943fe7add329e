import GamePack.Parse
import GamePack.Proofs.Graph.Acyclic
import GamePack.Proofs.Graph.Searched
import GamePack.Sample.Pieces

namespace GamePack

/-- A link from one transform to another, with what the first puts out and the second takes in. -/
structure CycleLink.Joins (a b : Transform) (l : CycleLink) : Prop where
  producer : l.producer = a.id
  consumer : l.consumer = b.id
  shared : ∀ id, id ∈ l.resources ↔
    (∃ o ∈ a.outputs, o.resourceId = id) ∧ ∃ i ∈ b.inputs, i.resourceId = id
  ascending : l.resources.Pairwise (· < ·)
  some : l.resources ≠ []

theorem Transform.mem_handedOn_iff (a b : Transform) (id : String) : id ∈ (a.handedOn b).toList ↔
    (∃ o ∈ a.outputs, o.resourceId = id) ∧ ∃ i ∈ b.inputs, i.resourceId = id := by
  rw [handedOn, IdSet.mem_toList_ofList, List.mem_filter, List.mem_map, and_comm]
  simp [produces]

namespace Pack

variable {p : Pack} {ids : List String} {chain : List Transform}

structure Loop (p : Pack) (chain : List Transform) : Prop where
  subset : chain ⊆ p.transforms
  distinct : chain.Nodup
  several : 2 ≤ chain.length
  cyclic : Cyclic Transform.Supplies chain

theorem transformCycle_closed (id : String) (others : List String) :
    p.transformCycle (id :: (others ++ [id])) =
      .fault [.key "transforms", .index (((p.index .transform).position? id).getD 0)]
        (.transformCycle (id :: (others ++ [id]))
          ((neighbours (id :: others)).map fun x ↦ p.cycleLink x.1 x.2)) := by
  rw [neighbours_cons]
  rfl

section

variable (hnodup : (p.ids .transform).Nodup)
include hnodup

theorem eq_of_transform_id {a b : Transform} (ha : a ∈ p.transforms) (hb : b ∈ p.transforms)
    (h : a.id = b.id) : a = b :=
  List.inj_on_of_nodup_map hnodup ha hb h

theorem Loop.nodup_ids (h : p.Loop chain) : (chain.map (·.id)).Nodup :=
  h.distinct.map_on fun _ ha _ hb ↦ eq_of_transform_id hnodup (h.subset ha) (h.subset hb)

theorem cycles_ne_nil_of_loop (h : p.Loop chain) :
    p.transformGraph.cycles (p.ids .transform) .first ≠ [] :=
  fun hnil ↦ p.not_cyclic_supplies hnil h.subset (h.nodup_ids hnodup) h.several h.cyclic

/-- A circle of ids is one of transforms, since each id is that of one transform. -/
theorem exists_chain_of_cyclic (h : Cyclic p.transformGraph.Edge ids) :
    ∃ chain ⊆ p.transforms, chain.map (·.id) = ids ∧ Cyclic Transform.Supplies chain := by
  have hfound : ∀ id ∈ ids, ∃ t, t ∈ p.transforms ∧ t.id = id := by
    intro id hid
    obtain ⟨next, -, hedge⟩ := h.exists_next hid
    obtain ⟨s, hs, t, ht, rfl, -⟩ := (p.edge_transformGraph id next).1 hedge
    exact ⟨s, hs, rfl⟩
  have : Nonempty Transform := by
    obtain ⟨a, hway⟩ := h.exists_transGen
    obtain ⟨b, hedge, -⟩ := Relation.TransGen.head'_iff.1 hway
    obtain ⟨s, -⟩ := (p.edge_transformGraph a b).1 hedge
    exact ⟨s⟩
  choose! transform hmem hid using hfound
  have hids : (ids.map transform).map (·.id) = ids := by
    rw [List.map_map]
    exact (List.map_congr_left hid).trans (List.map_id' ids)
  have hsubset : ids.map transform ⊆ p.transforms := fun t ht ↦ List.forall_mem_map.2 hmem t ht
  refine ⟨ids.map transform, hsubset, hids, h.map fun a ha b hb hab ↦ ?_⟩
  -- The transforms that make an edge are those that were chosen for its ends.
  obtain ⟨s, hs, t, ht, rfl, rfl, -, hsupplies⟩ := (p.edge_transformGraph a b).1 hab
  rwa [eq_of_transform_id hnodup (hmem _ ha) hs (hid _ ha),
    eq_of_transform_id hnodup (hmem _ hb) ht (hid _ hb)]

theorem exists_loop_of_cycles (h : p.transformGraph.cycles (p.ids .transform) .first ≠ []) :
    ∃ first rest, p.Loop (first :: rest) ∧ (∀ t ∈ rest, first.id < t.id) ∧
      p.checkTransforms = [p.transformCycle ((first :: (rest ++ [first])).map (·.id))] := by
  obtain ⟨id, others, hcycles, hcircuit, hleast⟩ := Graph.exists_cycles_first_eq h
  obtain ⟨chain, hsubset, hids, hcyclic⟩ := exists_chain_of_cyclic hnodup hcircuit.cyclic
  obtain ⟨first, rest, rfl, rfl, rfl⟩ := List.map_eq_cons_iff.1 hids
  have hseveral : rest ≠ [] := by
    rintro rfl
    obtain ⟨s, -, t, -, hs, ht, hne, -⟩ :=
      (p.edge_transformGraph _ _).1 (List.isChain_pair.1 hcircuit.cyclic)
    exact hne rfl
  refine ⟨first, rest, ⟨hsubset, .of_map Transform.id hcircuit.distinct, ?_, hcyclic⟩, ?_, ?_⟩
  · have := List.length_pos_iff.2 hseveral
    rw [List.length_cons]
    omega
  · exact fun t ht ↦ hleast t.id (List.mem_map_of_mem ht)
  · rw [checkTransforms, hcycles, List.map_singleton, List.map_cons, List.map_append,
      List.map_singleton]

theorem get?_transform {i : Nat} {t : Transform} (h : p.transforms[i]? = some t) :
    (p.index .transform).get? t.id = some (i, t) :=
  Index.get?_ofList_of_nodup hnodup h

theorem item?_transform {t : Transform} (ht : t ∈ p.transforms) :
    (p.index .transform).item? t.id = some t := by
  obtain ⟨i, hi⟩ := List.mem_iff_getElem?.1 ht
  rw [Index.item?, get?_transform hnodup hi]
  rfl

theorem cycleLink_joins {a b : Transform} (ha : a ∈ p.transforms) (hb : b ∈ p.transforms)
    (h : a.Supplies b) : CycleLink.Joins a b (p.cycleLink a.id b.id) := by
  have hresources : (p.cycleLink a.id b.id).resources = (a.handedOn b).toList := by
    rw [cycleLink, item?_transform hnodup ha, item?_transform hnodup hb]
  refine ⟨rfl, rfl, fun id ↦ ?_, ?_, ?_⟩
  · rw [hresources, a.mem_handedOn_iff b]
  · rw [hresources]
    exact (a.handedOn b).ascending
  · obtain ⟨o, ho, i, hi, hsame⟩ := h
    rw [hresources]
    exact List.ne_nil_of_mem ((a.mem_handedOn_iff b _).2 ⟨⟨o, ho, rfl⟩, i, hi, hsame.symm⟩)

theorem exists_transformCycle_eq {first : Transform} {rest : List Transform}
    (h : p.Loop (first :: rest)) :
    ∃ i links, p.transforms[i]? = some first ∧
      List.Forall₂ (fun x ↦ CycleLink.Joins x.1 x.2) (neighbours (first :: rest)) links ∧
      p.transformCycle ((first :: (rest ++ [first])).map (·.id)) =
        .fault [.key "transforms", .index i]
          (.transformCycle ((first :: (rest ++ [first])).map (·.id)) links) := by
  obtain ⟨i, hi⟩ := List.mem_iff_getElem?.1 (h.subset List.mem_cons_self)
  have hposition : ((p.index .transform).position? first.id).getD 0 = i := by
    rw [Index.position?, get?_transform hnodup hi]
    rfl
  refine ⟨i, (neighbours (first :: rest)).map fun x ↦ p.cycleLink x.1.id x.2.id, hi, ?_, ?_⟩
  · rw [List.forall₂_map_right_iff, List.forall₂_same]
    intro x hx
    obtain ⟨hx₁, hx₂⟩ := mem_of_mem_neighbours hx
    exact cycleLink_joins hnodup (h.subset hx₁) (h.subset hx₂) (h.cyclic.of_mem_neighbours hx)
  · have hpairs : neighbours (first.id :: rest.map (·.id)) =
        (neighbours (first :: rest)).map (Prod.map (·.id) (·.id)) :=
          neighbours_map Transform.id (first :: rest)
    rw [List.map_cons, List.map_append, List.map_singleton, transformCycle_closed, hposition,
      hpairs, List.map_map]
    rfl

end

/-- What is told of a loop: the ids on the way around, at the place of the first, and the links
between them. -/
structure Tells (p : Pack) (first : Transform) (rest : List Transform) : Prop where
  loop : p.Loop (first :: rest)
  least : ∀ t ∈ rest, first.id < t.id
  told : ∃ i links, p.transforms[i]? = some first ∧
    List.Forall₂ (fun x ↦ CycleLink.Joins x.1 x.2) (neighbours (first :: rest)) links ∧
    p.checkTransforms = [.fault [.key "transforms", .index i]
      (.transformCycle ((first :: (rest ++ [first])).map (·.id)) links)]

structure ToldOfTransforms (p : Pack) : Prop where
  cyclic : ∀ chain, p.Loop chain → ∃ first rest, p.Tells first rest
  acyclic : (∀ chain, ¬ p.Loop chain) → p.checkTransforms = []

theorem toldOfTransforms (p : Pack) (hnodup : (p.ids .transform).Nodup) : p.ToldOfTransforms where
  cyclic chain h := by
    obtain ⟨first, rest, hloop, hleast, hone⟩ :=
      exists_loop_of_cycles hnodup (cycles_ne_nil_of_loop hnodup h)
    obtain ⟨i, links, hi, hlinks, hcycle⟩ := exists_transformCycle_eq hnodup hloop
    exact ⟨first, rest, hloop, hleast, i, links, hi, hlinks, hcycle ▸ hone⟩
  acyclic h := by
    by_contra hfound
    have hcycles : p.transformGraph.cycles (p.ids .transform) .first ≠ [] := by
      intro hnil
      rw [checkTransforms, hnil] at hfound
      exact hfound rfl
    obtain ⟨first, rest, hloop, -⟩ := exists_loop_of_cycles hnodup hcycles
    exact h _ hloop

end Pack

def Sample.foundry : Json :=
  let smelt := transform "p" "smelt" ["mould", "ore"] ["metal", "mould"]
  .obj
    [("metadata", metadata "p" "1.0.0" "P"),
      ("resources", .arr (["metal", "mould", "ore"].map (resource "p"))),
      ("transforms", .arr [smelt, transform "p" "recycle" ["metal"] ["ore"]])]

theorem Pack.toldOfTransforms_foundry : ∃ p, (Pack.parse Sample.foundry).1 = some p ∧
    hasIssues (Pack.parse Sample.foundry).2 = false ∧ (p.ids .transform).Nodup ∧
    p.ToldOfTransforms ∧
    (issuesOf p.checkTransforms).map (·.render) =
      ["transforms[1]: transform dependency cycle detected: p.recycle -> p.smelt -> p.recycle " ++
        "(p.recycle -> p.smelt via 'p.ore'; p.smelt -> p.recycle via 'p.metal')"] := by
  let p := (Pack.parse Sample.foundry).1.get (by decide +kernel)
  have hnodup : (p.ids .transform).Nodup := by decide +kernel
  have hcycles : p.transformGraph.cycles (p.ids .transform) .first =
      [["p.recycle", "p.smelt", "p.recycle"]] :=
    Graph.cycles_of_cyclesWithin (n := 9) (by decide +kernel)
  refine ⟨p, (Option.some_get _).symm, by decide +kernel, hnodup, p.toldOfTransforms hnodup, ?_⟩
  rw [checkTransforms, hcycles]
  decide +kernel

end GamePack
