import GamePack.Proofs.Graph.Searched
import GamePack.Proofs.Graph.Unlock
import GamePack.Sample.Pieces

namespace GamePack

def Step.rank : Step → Nat
  | .key name =>
    List.idxOf name ["resources", "generators", "upgrades", "achievements", "transforms",
      "prestigeLayers", "unlockCondition", "prerequisites"]
  | .index i => i

/-- Numbers in whose order the fields of a pack come: by kind, then by position, then the unlock
condition before the prerequisites, and those by position. -/
def Path.rank (path : Path) : List Nat := path.map Step.rank

theorem Path.rank_lt (path : Path) {a b : Path} {s s' : Step} (h : s.rank < s'.rank)
    (ha : path ++ [s] <+: a) (hb : path ++ [s'] <+: b) : a.rank < b.rank := by
  obtain ⟨rest, rfl⟩ := ha
  obtain ⟨rest', rfl⟩ := hb
  simp only [rank, List.append_assoc, List.map_append]
  exact List.append_left_lt (List.cons_lt_cons_iff.2 (.inl h))

/-- Which conditions gate the entries with an id, and in which fields they stand. -/
inductive Pack.Guards (p : Pack) : Path → String → Condition → Prop
  | resource {i : Nat} {r : Resource} {c : Condition} :
      p.resources[i]? = some r → r.unlockCondition = some c →
      Guards p [.key "resources", .index i, .key "unlockCondition"] r.id c
  | generator {i : Nat} {g : Generator} {c : Condition} :
      p.generators[i]? = some g → g.baseUnlock = some c →
      Guards p [.key "generators", .index i, .key "baseUnlock"] g.id c
  | upgrade {i : Nat} {u : Upgrade} {c : Condition} :
      p.upgrades[i]? = some u → u.unlockCondition = some c →
      Guards p [.key "upgrades", .index i, .key "unlockCondition"] u.id c
  | prerequisite {i j : Nat} {u : Upgrade} {r : Prerequisite} : p.upgrades[i]? = some u →
      u.prerequisites[j]? = some r →
      Guards p [.key "upgrades", .index i, .key "prerequisites", .index j] u.id r.toCondition
  | achievement {i : Nat} {a : Achievement} {c : Condition} : p.achievements[i]? = some a →
      a.unlockCondition = some c →
        Guards p [.key "achievements", .index i, .key "unlockCondition"] a.id c
  | transform {i : Nat} {t : Transform} {c : Condition} :
      p.transforms[i]? = some t → t.unlockCondition = some c →
      Guards p [.key "transforms", .index i, .key "unlockCondition"] t.id c
  | prestigeLayer {i : Nat} {l : PrestigeLayer} : p.prestigeLayers[i]? = some l →
      Guards p [.key "prestigeLayers", .index i, .key "unlockCondition"] l.id l.unlockCondition

theorem Gate.mem_ofOption_iff {gate : Gate} {entry : String} {path : Path} {o : Option Condition} :
    gate ∈ ofOption entry path o ↔ ∃ c, o = some c ∧ gate = ⟨entry, path, c⟩ := by
  simp only [ofOption, List.mem_map, Option.mem_toList]
  exact exists_congr fun c ↦ and_congr_right fun _ ↦ eq_comm

namespace Kind

variable {kind : Kind} {path : Path} {e : kind.Entry} {gate : Gate}

theorem prefix_of_mem_entryGates (h : gate ∈ kind.entryGates path e) : path <+: gate.path := by
  have hoption {entry key : String} {o : Option Condition}
      (h : gate ∈ Gate.ofOption entry (path.key key) o) :
      path <+: gate.path := by
    obtain ⟨c, -, rfl⟩ := Gate.mem_ofOption_iff.1 h
    exact List.prefix_append _ _
  cases kind with
  | resource | generator | achievement | transform => exact hoption h
  | upgrade =>
    rcases List.mem_append.1 h with h | h
    · exact hoption h
    · obtain ⟨j, r, -, hgate⟩ := Path.mem_each.1 h
      rw [List.mem_singleton.1 hgate]
      exact (List.prefix_append _ _).trans (List.prefix_append _ _)
  | prestigeLayer =>
    rw [List.mem_singleton.1 h]
    exact List.prefix_append _ _
  | automation | entity | metric | runtimeEvent => cases h

theorem pairwise_entryGates (kind : Kind) (path : Path) (e : kind.Entry) :
    (kind.entryGates path e).Pairwise fun g g' ↦ g.path.rank < g'.path.rank := by
  have hoption {entry : String} {path : Path} {o : Option Condition} :
      (Gate.ofOption entry path o).Pairwise fun g g' ↦ g.path.rank < g'.path.rank := by
    cases o <;> simp [Gate.ofOption]
  cases kind with
  | resource | generator | achievement | transform => exact hoption
  | upgrade =>
    refine List.pairwise_append.2 ⟨hoption,
      Path.pairwise_each (fun j r ↦ List.pairwise_singleton _ _) ?_, ?_⟩
    · intro j k r r' hlt x hx y hy
      rw [List.mem_singleton.1 hx, List.mem_singleton.1 hy]
      have hindex : (Step.index j).rank < (Step.index k).rank := hlt
      exact Path.rank_lt _ hindex (List.prefix_refl _) (List.prefix_refl _)
    · intro x hx y hy
      obtain ⟨c, -, rfl⟩ := Gate.mem_ofOption_iff.1 hx
      obtain ⟨j, r, -, hy⟩ := Path.mem_each.1 hy
      rw [List.mem_singleton.1 hy]
      have hkey : (Step.key "unlockCondition").rank < (Step.key "prerequisites").rank := by decide
      exact Path.rank_lt path hkey (List.prefix_refl _) (List.prefix_append _ _)
  | prestigeLayer => exact List.pairwise_singleton _ _
  | automation | entity | metric | runtimeEvent => exact .nil

end Kind

namespace Pack

variable {p : Pack} {a b : String} {path : Path}

theorem pairwise_gates (p : Pack) : p.gates.Pairwise fun g g' ↦ g.path.rank < g'.path.rank := by
  have hkinds : Kind.unlockable.Pairwise fun kind kind' ↦
      (Step.key kind.key).rank < (Step.key kind'.key).rank := by
    decide
  refine List.pairwise_flatMap.2
    ⟨fun kind _ ↦ Path.pairwise_each (fun i e ↦ kind.pairwise_entryGates _ e) ?_, hkinds.imp ?_⟩
  · intro i j e e' hlt g hg g' hg'
    have hindex : (Step.index i).rank < (Step.index j).rank := hlt
    exact Path.rank_lt _ hindex (Kind.prefix_of_mem_entryGates hg)
      (Kind.prefix_of_mem_entryGates hg')
  · intro kind kind' hlt g hg g' hg'
    obtain ⟨i, e, -, hg⟩ := Path.mem_each.1 hg
    obtain ⟨j, e', -, hg'⟩ := Path.mem_each.1 hg'
    have hi := Kind.prefix_of_mem_entryGates hg
    have hj := Kind.prefix_of_mem_entryGates hg'
    exact Path.rank_lt [] hlt ((List.prefix_append _ _).trans hi)
      ((List.prefix_append _ _).trans hj)

theorem guards_of_mem_gates {gate : Gate} (h : gate ∈ p.gates) :
    p.Guards gate.path gate.entry gate.condition := by
  obtain ⟨kind, hkind, h⟩ := List.mem_flatMap.1 h
  obtain ⟨i, e, he, h⟩ := Path.mem_each.1 h
  cases kind with
  | resource =>
    obtain ⟨c, hc, rfl⟩ := Gate.mem_ofOption_iff.1 h
    exact .resource he hc
  | generator =>
    obtain ⟨c, hc, rfl⟩ := Gate.mem_ofOption_iff.1 h
    exact .generator he hc
  | upgrade =>
    rcases List.mem_append.1 h with h | h
    · obtain ⟨c, hc, rfl⟩ := Gate.mem_ofOption_iff.1 h
      exact .upgrade he hc
    · obtain ⟨j, r, hr, h⟩ := Path.mem_each.1 h
      rw [List.mem_singleton.1 h]
      exact .prerequisite he hr
  | achievement =>
    obtain ⟨c, hc, rfl⟩ := Gate.mem_ofOption_iff.1 h
    exact .achievement he hc
  | transform =>
    obtain ⟨c, hc, rfl⟩ := Gate.mem_ofOption_iff.1 h
    exact .transform he hc
  | prestigeLayer =>
    rw [List.mem_singleton.1 h]
    exact .prestigeLayer he
  | automation | entity | metric | runtimeEvent => cases h

theorem mem_gates_of_entryGates (kind : Kind) (hkind : kind ∈ Kind.unlockable) {i : Nat}
    {e : kind.Entry} (he : (p.collection kind)[i]? = some e) {gate : Gate}
    (h : gate ∈ kind.entryGates [.key kind.key, .index i] e) : gate ∈ p.gates :=
  List.mem_flatMap.2 ⟨kind, hkind, Path.mem_each.2 ⟨i, e, he, h⟩⟩

theorem mem_gates_of_guards {c : Condition} (h : p.Guards path a c) :
    (⟨a, path, c⟩ : Gate) ∈ p.gates := by
  cases h with
  | resource he hc =>
    exact mem_gates_of_entryGates .resource (by decide) he (Gate.mem_ofOption_iff.2 ⟨c, hc, rfl⟩)
  | generator he hc =>
    exact mem_gates_of_entryGates .generator (by decide) he (Gate.mem_ofOption_iff.2 ⟨c, hc, rfl⟩)
  | upgrade he hc =>
    refine mem_gates_of_entryGates .upgrade (by decide) he (List.mem_append_left _ ?_)
    exact Gate.mem_ofOption_iff.2 ⟨c, hc, rfl⟩
  | prerequisite he hr =>
    refine mem_gates_of_entryGates .upgrade (by decide) he (List.mem_append_right _ ?_)
    exact Path.mem_each.2 ⟨_, _, hr, List.mem_singleton_self _⟩
  | achievement he hc =>
    exact mem_gates_of_entryGates .achievement (by decide) he (Gate.mem_ofOption_iff.2 ⟨c, hc, rfl⟩)
  | transform he hc =>
    exact mem_gates_of_entryGates .transform (by decide) he (Gate.mem_ofOption_iff.2 ⟨c, hc, rfl⟩)
  | prestigeLayer he =>
    exact mem_gates_of_entryGates .prestigeLayer (by decide) he (List.mem_singleton_self _)

def MakesEdge (p : Pack) (path : Path) (a b : String) : Prop :=
  ∃ c, p.Guards path b c ∧ ∃ kind, c.Reads (kind, a)

theorem mem_unlockEdges_iff : (⟨a, b, path⟩ : UnlockEdge) ∈ p.unlockEdges ↔
    p.MakesEdge path a b := by
  simp only [unlockEdges, List.mem_flatMap, Gate.edges, List.mem_map, UnlockEdge.mk.injEq]
  constructor
  · rintro ⟨gate, hgate, id, hid, rfl, rfl, rfl⟩
    obtain ⟨⟨kind, id⟩, hreads, rfl⟩ := List.mem_map.1 hid
    exact ⟨gate.condition, guards_of_mem_gates hgate, kind, Condition.reads_of_mem hreads⟩
  · rintro ⟨c, hguards, kind, hreads⟩
    exact ⟨⟨b, path, c⟩, mem_gates_of_guards hguards, a, List.mem_map_of_mem hreads.mem_reads,
      rfl, rfl, rfl⟩

theorem pairwise_unlockEdges (p : Pack) : p.unlockEdges.Pairwise fun e e' ↦
    e'.origin = e.origin ∨ e.origin.rank < e'.origin.rank := by
  refine List.pairwise_flatMap.2 ⟨fun gate _ ↦ ?_,
    p.pairwise_gates.imp fun hlt e he e' he' ↦ .inr ?_⟩
  · exact List.pairwise_map.2 (List.pairwise_of_forall fun _ _ ↦ .inl rfl)
  · obtain ⟨_, -, rfl⟩ := List.mem_map.1 he
    obtain ⟨_, -, rfl⟩ := List.mem_map.1 he'
    exact hlt

structure Origin (p : Pack) (path : Path) (a b : String) : Prop where
  makes : p.MakesEdge path a b
  first : ∀ path', p.MakesEdge path' a b → path' = path ∨ path.rank < path'.rank

theorem origin_of_unlockOrigin? (h : p.unlockOrigin? a b = some path) : p.Origin path a b := by
  obtain ⟨e, he, rfl⟩ := Option.map_eq_some_iff.1 h
  have hends : e.source = a ∧ e.target = b := by simpa using List.find?_some he
  obtain ⟨rfl, rfl⟩ := hends
  obtain ⟨-, before, after, hsplit, hbefore⟩ := List.find?_eq_some_iff_append.1 he
  refine ⟨mem_unlockEdges_iff.1 (List.mem_of_find?_eq_some he), fun path' hmakes ↦ ?_⟩
  have hmem := mem_unlockEdges_iff.2 hmakes
  have hordered := p.pairwise_unlockEdges
  rw [hsplit] at hmem hordered
  -- No edge before the one that was found has its ends; those after it come no earlier.
  rcases List.mem_append.1 hmem with hmem | hmem
  · exact absurd (hbefore _ hmem) (by simp)
  · rcases List.mem_cons.1 hmem with heq | hmem
    · exact .inl (congrArg UnlockEdge.origin heq)
    · exact (List.pairwise_cons.1 (List.pairwise_append.1 hordered).2.1).1 _ hmem

theorem edge_unlockGraph_eq (p : Pack) :
    p.unlockGraph.Edge = fun a b ↦ ∃ path, p.MakesEdge path a b := by
  funext a b
  rw [eq_iff_iff, unlockGraph, Graph.edge_ofEdges, List.mem_map]
  constructor
  · rintro ⟨e, he, hends⟩
    obtain ⟨rfl, rfl⟩ := Prod.mk.inj hends
    exact ⟨e.origin, mem_unlockEdges_iff.1 he⟩
  · rintro ⟨path, hmakes⟩
    exact ⟨⟨a, b, path⟩, mem_unlockEdges_iff.2 hmakes, rfl⟩

theorem exists_unlockOrigin?_of_makesEdge (h : p.MakesEdge path a b) :
    ∃ origin, p.unlockOrigin? a b = some origin := by
  have hsome : (p.unlockEdges.find? fun e ↦ e.source = a && e.target = b).isSome :=
    List.find?_isSome.2 ⟨_, mem_unlockEdges_iff.2 h, by simp⟩
  obtain ⟨e, he⟩ := Option.isSome_iff_exists.1 hsome
  exact ⟨e.origin, by rw [unlockOrigin?, he, Option.map_some]⟩

theorem checkUnlocks_eq_nil_iff :
    p.checkUnlocks = [] ↔ ∀ ids, ¬ Cyclic (fun a b ↦ ∃ path, p.MakesEdge path a b) ids := by
  rw [checkUnlocks, List.map_eq_nil_iff, ← edge_unlockGraph_eq]
  constructor
  · intro hnil ids hcyclic
    obtain ⟨a, hway⟩ := hcyclic.exists_transGen
    obtain ⟨b, -, hba⟩ := Relation.TransGen.tail'_iff.1 hway
    obtain ⟨_, kind, hkind, hunlocks⟩ := (edge_unlockGraph_iff b a).1 hba
    have hroot : a ∈ p.unlockNodes := List.mem_flatMap.2 ⟨kind, hkind, hunlocks.mem_ids⟩
    exact Graph.acyclic_of_cycles_eq_nil hnil hroot .refl hway
  · intro h
    rw [Graph.cycles_eq_nil_iff_circuit]
    exact fun ids hcircuit ↦ h ids hcircuit.cyclic

theorem Guards.ne_nil {c : Condition} (h : p.Guards path a c) : path ≠ [] := by
  cases h <;> exact List.cons_ne_nil _ _

theorem exists_origin_of_mem_checkUnlocks {f : Finding} (hf : f ∈ p.checkUnlocks) :
    ∃ path id next rest,
    f = .fault path (.unlockCycle (id :: next :: rest)) ∧ (next :: rest).getLast? = some id ∧
      p.Origin path id next := by
  obtain ⟨cycle, hcycle, rfl⟩ := List.mem_map.1 hf
  obtain ⟨id, others, rfl, hcircuit, -⟩ := Graph.canonical_of_mem_cycles hcycle
  obtain ⟨next, rest, hway⟩ : ∃ next rest, others ++ [id] = next :: rest :=
    List.exists_cons_of_ne_nil (by simp)
  have hchain : List.IsChain p.unlockGraph.Edge (id :: (others ++ [id])) := hcircuit.cyclic
  rw [hway, edge_unlockGraph_eq] at hchain
  obtain ⟨_, hmakes⟩ := (List.isChain_cons_cons.1 hchain).1
  obtain ⟨path, hpath⟩ := exists_unlockOrigin?_of_makesEdge hmakes
  refine ⟨path, id, next, rest, ?_, ?_, origin_of_unlockOrigin? hpath⟩
  · rw [hway, unlockCycle, hpath, Option.getD_some]
  · rw [← hway, List.getLast?_concat]

/-- What a pack is told about entries that wait for one another: of a cycle if there is any, at the
first field that makes its second id wait for its first, and so never at the root. -/
structure ToldOfGates (p : Pack) : Prop where
  none_iff : p.checkUnlocks = [] ↔ ∀ ids, ¬ Cyclic (fun a b ↦ ∃ path, p.MakesEdge path a b) ids
  origin : ∀ f ∈ p.checkUnlocks, ∃ path id next rest,
    f = .fault path (.unlockCycle (id :: next :: rest)) ∧
    (next :: rest).getLast? = some id ∧ p.Origin path id next ∧ path ≠ []

theorem toldOfGates (p : Pack) : p.ToldOfGates where
  none_iff := checkUnlocks_eq_nil_iff
  origin f hf := by
    obtain ⟨path, id, next, rest, heq, hlast, horigin⟩ := exists_origin_of_mem_checkUnlocks hf
    obtain ⟨c, hguards, -⟩ := horigin.makes
    exact ⟨path, id, next, rest, heq, hlast, horigin, hguards.ne_nil⟩

end Pack

def Sample.mutual : Json :=
  let first := (upgrade "p" "first" "gold").setField "unlockCondition" (upgradeOwned "p.second")
  let second :=
    (upgrade "p" "second" "gold").setField "prerequisites"
      (.arr [.str "p.first", upgradeOwned "p.first"])
  .obj
    [("metadata", metadata "p" "1.0.0" "P"),
      ("resources", .arr [resource "p" "gold"]),
      ("upgrades", .arr [first, second.setField "unlockCondition" (resourceAtLeast "p.gold" .one)])]

theorem Pack.toldOfGates_mutual : ∃ p, (Pack.parse Sample.mutual).1 = some p ∧
    hasIssues (Pack.parse Sample.mutual).2 = false ∧ ∃ f ∈ p.checkUnlocks,
      f.path = [.key "upgrades", .index 1, .key "prerequisites", .index 0] ∧ ∃ path id next rest,
        f = .fault path (.unlockCycle (id :: next :: rest)) ∧ (next :: rest).getLast? = some id ∧
          p.Origin path id next ∧ path ≠ [] := by
  let p := (Pack.parse Sample.mutual).1.get (by decide +kernel)
  have hcycles : p.unlockGraph.cycles p.unlockNodes .first = [["p.first", "p.second", "p.first"]] :=
    Graph.cycles_of_cyclesWithin (n := 9) (by decide +kernel)
  have hf : p.unlockCycle ["p.first", "p.second", "p.first"] ∈ p.checkUnlocks := by
    rw [checkUnlocks, hcycles]
    exact List.mem_singleton_self _
  exact ⟨p, (Option.some_get _).symm, by decide +kernel, _, hf, by decide +kernel,
    p.toldOfGates.origin _ hf⟩

end GamePack
