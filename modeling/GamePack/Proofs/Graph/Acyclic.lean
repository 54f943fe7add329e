import GamePack.Graph.Dependency
import GamePack.Graph.Transform
import GamePack.Graph.Unlock
import GamePack.Proofs.Finding
import GamePack.Proofs.Graph.Behind

namespace GamePack

namespace Transform

def Supplies (a b : Transform) : Prop :=
  ∃ o ∈ a.outputs, ∃ i ∈ b.inputs, o.resourceId = i.resourceId

theorem feeds_iff (a b : Transform) : a.feeds b ↔ a.Supplies b := by
  simp only [feeds, consumes, Supplies, List.any_eq_true, decide_eq_true_eq]
  refine exists_congr fun o ↦ and_congr_right fun _ ↦ ?_
  exact exists_congr fun i ↦ and_congr_right fun _ ↦ eq_comm

end Transform

namespace Pack

variable (p : Pack)

theorem edge_transformGraph (a b : String) :
    p.transformGraph.Edge a b ↔ ∃ s ∈ p.transforms, ∃ t ∈ p.transforms,
      s.id = a ∧ t.id = b ∧ a ≠ b ∧ s.Supplies t := by
  rw [transformGraph, Graph.edge_ofEdges, transformEdges, List.mem_flatMap]
  refine exists_congr fun s ↦ and_congr_right fun _ ↦ ?_
  simp only [List.mem_map, List.mem_filter, Bool.and_eq_true, decide_eq_true_eq,
    Transform.feeds_iff, Prod.mk.injEq]
  constructor
  · rintro ⟨t, ⟨ht, hne, hs⟩, rfl, rfl⟩
    exact ⟨t, ht, rfl, rfl, hne.symm, hs⟩
  · rintro ⟨t, ht, rfl, rfl, hne, hs⟩
    exact ⟨t, ⟨ht, hne.symm, hs⟩, rfl, rfl⟩

/-- Where the search finds no cycle of transforms, none of at least two distinct ones exists. -/
theorem not_cyclic_supplies (h : p.transformGraph.cycles (p.ids .transform) .first = [])
    {chain : List Transform} (hchain : chain ⊆ p.transforms) (hnodup : (chain.map (·.id)).Nodup)
    (hlength : 2 ≤ chain.length) : ¬ Cyclic Transform.Supplies chain := by
  intro hcyclic
  obtain ⟨a, ha, hway⟩ := hcyclic.exists_transGen_map hnodup hlength fun s hs t ht hne hsupplies ↦
    (p.edge_transformGraph s.id t.id).2 ⟨s, hchain hs, t, hchain ht, rfl, rfl, hne, hsupplies⟩
  exact Graph.acyclic_of_cycles_eq_nil h (List.mem_map_of_mem (hchain ha)) .refl hway

end Pack

inductive Condition.Reads : Condition → Kind × String → Prop
  | resourceThreshold (resource : String) (comparator : Comparator) (amount : Formula) :
      Reads (.resourceThreshold resource comparator amount) (.resource, resource)
  | generatorLevel (generator : String) (comparator : Comparator) (level : Formula) :
      Reads (.generatorLevel generator comparator level) (.generator, generator)
  | upgradeOwned (upgrade : String) (purchases : Nat) :
      Reads (.upgradeOwned upgrade purchases) (.upgrade, upgrade)
  | prestigeCount (layer : String) (comparator : Comparator) (count : Nat) :
      Reads (.prestigeCount layer comparator count) (.resource, layer ++ "-prestige-count")
  | prestigeCompleted (layer : String) :
      Reads (.prestigeCompleted layer) (.resource, layer ++ "-prestige-count")
  | prestigeUnlocked (layer : String) : Reads (.prestigeUnlocked layer) (.prestigeLayer, layer)
  | allOf {c : Condition} {conditions : List Condition} {x : Kind × String} :
      c ∈ conditions → Reads c x → Reads (.allOf conditions) x
  | anyOf {c : Condition} {conditions : List Condition} {x : Kind × String} :
      c ∈ conditions → Reads c x → Reads (.anyOf conditions) x
  | not {c : Condition} {x : Kind × String} : Reads c x → Reads (.not c) x

namespace Condition

theorem mem_readsAll {x : Kind × String} {conditions : List Condition} :
    x ∈ readsAll conditions ↔ ∃ c ∈ conditions, x ∈ c.reads := by
  induction conditions with
  | nil => simp [readsAll]
  | cons c rest ih => simp [readsAll, ih]

theorem Reads.mem_reads {c : Condition} {x : Kind × String} (h : c.Reads x) : x ∈ c.reads := by
  induction h with
  | allOf hc _ ih | anyOf hc _ ih =>
    rw [reads]
    exact mem_readsAll.2 ⟨_, hc, ih⟩
  | not _ ih =>
    rw [reads]
    exact ih
  | _ => simp [reads, Id.prestigeCount]

theorem Reads.kind {c : Condition} {x : Kind × String} (h : c.Reads x) :
    x.1 ∈ [Kind.resource, .generator, .upgrade, .prestigeLayer] := by
  induction h with
  | allOf _ _ ih | anyOf _ _ ih | not _ ih => exact ih
  | _ => simp

end Condition

def Kind.gating : (kind : Kind) → kind.Entry → List Condition
  | resource => fun r ↦ r.unlockCondition.toList
  | generator => fun g ↦ g.baseUnlock.toList
  | upgrade => fun u ↦ u.unlockCondition.toList ++ u.prerequisites.map Prerequisite.toCondition
  | achievement => fun a ↦ a.unlockCondition.toList
  | automation => fun a ↦ a.unlockCondition.toList
  | transform => fun t ↦ t.unlockCondition.toList
  | prestigeLayer => fun l ↦ [l.unlockCondition]
  | entity => fun e ↦ e.unlockCondition.toList
  | metric => fun _ ↦ []
  | runtimeEvent => fun _ ↦ []

/-- Whether the gating of an entry, given by kind and id, reads another one. -/
def Unlocks (entries : (kind : Kind) → List kind.Entry) (a b : Kind × String) : Prop :=
  ∃ e ∈ entries b.1, b.1.entryId e = b.2 ∧ ∃ c ∈ b.1.gating e, c.Reads a

namespace Unlocks

variable {a b : Kind × String}

theorem unlockable {entries : (kind : Kind) → List kind.Entry} (h : Unlocks entries a b) :
    a.1 ∈ Kind.unlockable := by
  obtain ⟨e, -, -, c, -, hreads⟩ := h
  exact List.Sublist.subset (by decide) hreads.kind

theorem mem_ids {p : Pack} (h : Unlocks p.collection a b) : b.2 ∈ p.ids b.1 := by
  obtain ⟨e, he, hid, -⟩ := h
  exact List.mem_map.2 ⟨e, he, hid⟩

end Unlocks

namespace Pack

variable {p : Pack}

theorem edge_unlockGraph (a b : String) :
    p.unlockGraph.Edge a b ↔
      ∃ gate ∈ p.gates, gate.entry = b ∧ a ∈ gate.condition.dependencies := by
  rw [unlockGraph, Graph.edge_ofEdges, unlockEdges, List.mem_map]
  simp only [List.mem_flatMap, Gate.edges, List.mem_map, Prod.mk.injEq]
  constructor
  · rintro ⟨_, ⟨gate, hgate, _, ha, rfl⟩, rfl, rfl⟩
    exact ⟨gate, hgate, rfl, ha⟩
  · rintro ⟨gate, hgate, rfl, ha⟩
    exact ⟨_, ⟨gate, hgate, a, ha, rfl⟩, rfl, rfl⟩

theorem mem_entryGates {kind : Kind} (hkind : kind ∈ Kind.unlockable) {e : kind.Entry}
    {c : Condition} (hc : c ∈ kind.gating e) (path : Path) :
    ∃ gate ∈ kind.entryGates path e, gate.entry = kind.entryId e ∧ gate.condition = c := by
  have hoption {o : Option Condition} {id : String} {path : Path} (ho : c ∈ o.toList) :
      ∃ gate ∈ Gate.ofOption id path o, gate.entry = id ∧ gate.condition = c :=
    ⟨_, List.mem_map_of_mem ho, rfl, rfl⟩
  cases kind with
  | resource | generator | achievement | transform => exact hoption hc
  | prestigeLayer =>
    rw [List.mem_singleton.1 hc]
    exact ⟨_, List.mem_singleton_self _, rfl, rfl⟩
  | upgrade =>
    rcases List.mem_append.1 hc with hc | hc
    · obtain ⟨gate, hgate, h⟩ := hoption hc
      exact ⟨gate, List.mem_append_left _ hgate, h⟩
    · obtain ⟨r, hr, rfl⟩ := List.mem_map.1 hc
      obtain ⟨i, hi⟩ := List.mem_iff_getElem?.1 hr
      refine ⟨⟨e.id, (path.key "prerequisites").index i, r.toCondition⟩, ?_, rfl, rfl⟩
      exact List.mem_append_right _ (Path.mem_each.2 ⟨i, r, hi, List.mem_singleton_self _⟩)
  | automation | entity | metric | runtimeEvent => exact absurd hkind (by decide)

theorem edge_of_unlocks {a b : Kind × String} (h : Unlocks p.collection a b)
    (hb : b.1 ∈ Kind.unlockable) : p.unlockGraph.Edge a.2 b.2 := by
  obtain ⟨e, he, hid, c, hc, hreads⟩ := h
  obtain ⟨i, hi⟩ := List.mem_iff_getElem?.1 he
  obtain ⟨gate, hgate, hentry, rfl⟩ := mem_entryGates hb hc (Path.index [.key b.1.key] i)
  refine (edge_unlockGraph a.2 b.2).2 ⟨gate, ?_, hentry.trans hid,
    List.mem_map_of_mem hreads.mem_reads⟩
  exact List.mem_flatMap.2 ⟨b.1, hb, Path.mem_each.2 ⟨i, e, hi, hgate⟩⟩

theorem transGen_of_unlocks {a b : Kind × String} (h : Relation.TransGen (Unlocks p.collection) a b)
    (hb : b.1 ∈ Kind.unlockable) : Relation.TransGen p.unlockGraph.Edge a.2 b.2 := by
  induction h with
  | single h => exact .single (edge_of_unlocks h hb)
  | tail _ h ih => exact (ih h.unlockable).tail (edge_of_unlocks h hb)

/-- Where the search finds no cycle of gates, there is none, of whatever kinds its entries are. -/
theorem not_cyclic_unlocks (h : p.unlockGraph.cycles p.unlockNodes .first = [])
    (chain : List (Kind × String)) : ¬ Cyclic (Unlocks p.collection) chain := by
  intro hcyclic
  obtain ⟨a, hway⟩ := hcyclic.exists_transGen
  have ha : a.1 ∈ Kind.unlockable := by
    obtain ⟨b, hab, -⟩ := Relation.TransGen.head'_iff.1 hway
    exact hab.unlockable
  have hroot : a.2 ∈ p.unlockNodes := by
    obtain ⟨b, -, hba⟩ := Relation.TransGen.tail'_iff.1 hway
    exact List.mem_flatMap.2 ⟨a.1, ha, hba.mem_ids⟩
  exact Graph.acyclic_of_cycles_eq_nil h hroot .refl (transGen_of_unlocks hway ha)

end Pack

/-- Whether a pack requires another one, by the pack's own word or, for other packs,
by what is known. -/
def Requires (m : Metadata) (known : List KnownPack) (a b : String) : Prop :=
  (a = m.id ∧ ∃ d ∈ m.dependencies.requires, d.packId = b) ∨
    (a ≠ m.id ∧ ∃ k ∈ known, k.id = a ∧ b ∈ k.requires)

namespace Metadata

variable {m : Metadata} {known : List KnownPack}

theorem edge_foldl_addEdges (packs : List KnownPack) (g : Graph) (a b : String) :
    (packs.foldl (fun g k ↦ g.addEdges k.id k.requires) g).Edge a b ↔
      (∃ k ∈ packs, k.id = a ∧ b ∈ k.requires) ∨ g.Edge a b := by
  induction packs generalizing g with
  | nil => simp
  | cons k rest ih =>
    have hk : a = k.id ∧ b ∈ k.requires ↔ k.id = a ∧ b ∈ k.requires :=
      and_congr_left fun _ ↦ eq_comm
    rw [List.foldl_cons, ih, Graph.edge_addEdges, hk, List.exists_mem_cons_iff,
      or_left_comm, or_assoc]

theorem edge_dependencyGraph_iff (a b : String) : (m.dependencyGraph known).Edge a b ↔
    (a = m.id ∧ b ≠ m.id ∧ ∃ d ∈ m.dependencies.requires, d.packId = b) ∨
      (a ≠ m.id ∧ ∃ k ∈ known, k.id = a ∧ b ∈ k.requires) := by
  rw [dependencyGraph, edge_foldl_addEdges, Graph.edge_addEdges]
  simp only [Graph.not_edge_empty, or_false, List.mem_filter, List.mem_map, decide_eq_true_eq]
  constructor
  · rintro (⟨k, ⟨hk, hne⟩, rfl, hb⟩ | ⟨rfl, ⟨d, hd, rfl⟩, hne⟩)
    · exact .inr ⟨hne, k, hk, rfl, hb⟩
    · exact .inl ⟨rfl, hne, d, hd, rfl⟩
  · rintro (⟨rfl, hne, d, hd, rfl⟩ | ⟨hne, k, hk, rfl, hb⟩)
    · exact .inr ⟨rfl, ⟨d, hd, rfl⟩, hne⟩
    · exact .inl ⟨k, ⟨hk, hne⟩, rfl, hb⟩

theorem edge_dependencyGraph (hself : ∀ d ∈ m.dependencies.requires, d.packId ≠ m.id)
    (a b : String) :
    (m.dependencyGraph known).Edge a b ↔ Requires m known a b := by
  have hown : (b ≠ m.id ∧ ∃ d ∈ m.dependencies.requires, d.packId = b) ↔
      ∃ d ∈ m.dependencies.requires, d.packId = b :=
    and_iff_right_of_imp fun ⟨d, hd, hb⟩ ↦ hb ▸ hself d hd
  rw [edge_dependencyGraph_iff, Requires, hown]

theorem mem_roots_of_edge {a b : String} (h : (m.dependencyGraph known).Edge a b) :
    a ∈ m.id :: known.map (·.id) := by
  rcases (edge_dependencyGraph_iff a b).1 h with ⟨rfl, -⟩ | ⟨-, k, hk, rfl, -⟩
  · exact List.mem_cons_self
  · exact List.mem_cons_of_mem _ (List.mem_map_of_mem hk)

/-- The search starts from every pack that requires anything, so it finds a cycle
wherever there is one. -/
theorem not_transGen_edge
    (h : (m.dependencyGraph known).cycles (m.id :: known.map (·.id)) .first = []) (a : String) :
    ¬ Relation.TransGen (m.dependencyGraph known).Edge a a := by
  intro hway
  obtain ⟨b, hab, -⟩ := Relation.TransGen.head'_iff.1 hway
  exact Graph.acyclic_of_cycles_eq_nil h (mem_roots_of_edge hab) .refl hway

theorem not_cyclic_requires (hself : ∀ d ∈ m.dependencies.requires, d.packId ≠ m.id)
    (h : (m.dependencyGraph known).cycles (m.id :: known.map (·.id)) .first = [])
    (chain : List String) : ¬ Cyclic (Requires m known) chain := by
  intro hcyclic
  obtain ⟨a, hway⟩ := hcyclic.exists_transGen
  exact not_transGen_edge h a
    (hway.lift (fun a ↦ a) fun x y hxy ↦ (edge_dependencyGraph hself x y).2 hxy)

end Metadata

end GamePack
