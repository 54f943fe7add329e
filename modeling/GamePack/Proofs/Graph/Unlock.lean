import GamePack.Proofs.Graph.Searched
import GamePack.Proofs.Soundness
import GamePack.Sample.Pieces

namespace GamePack

namespace Condition

mutual

theorem reads_of_mem {x : Kind × String} : {c : Condition} → x ∈ c.reads → c.Reads x
  | resourceThreshold .., h => List.mem_singleton.1 h ▸ .resourceThreshold ..
  | generatorLevel .., h => List.mem_singleton.1 h ▸ .generatorLevel ..
  | upgradeOwned .., h => List.mem_singleton.1 h ▸ .upgradeOwned ..
  | prestigeCount .., h => List.mem_singleton.1 h ▸ .prestigeCount ..
  | prestigeCompleted .., h => List.mem_singleton.1 h ▸ .prestigeCompleted ..
  | prestigeUnlocked .., h => List.mem_singleton.1 h ▸ .prestigeUnlocked ..
  | allOf _, h =>
    have ⟨_, hc, hreads⟩ := reads_of_mem_all h
    .allOf hc hreads
  | anyOf _, h =>
    have ⟨_, hc, hreads⟩ := reads_of_mem_all h
    .anyOf hc hreads
  | not _, h => .not (reads_of_mem h)

theorem reads_of_mem_all {x : Kind × String} :
    {conditions : List Condition} → x ∈ readsAll conditions → ∃ c ∈ conditions, c.Reads x
  | c :: rest, h => by
    rcases List.mem_append.1 h with h | h
    · exact ⟨c, List.mem_cons_self, reads_of_mem h⟩
    · obtain ⟨d, hd, hreads⟩ := reads_of_mem_all h
      exact ⟨d, List.mem_cons_of_mem c hd, hreads⟩

end

theorem exists_mentions_subset {c : Condition} {conditions : List Condition} (hc : c ∈ conditions)
    (path : Path) (i : Nat) : ∃ place, c.mentions place ⊆ mentionsFrom path i conditions := by
  induction conditions generalizing i with
  | nil => cases hc
  | cons d rest ih =>
    rcases List.mem_cons.1 hc with rfl | hc
    · exact ⟨path.index i, List.subset_append_left _ _⟩
    · obtain ⟨place, hplace⟩ := ih hc (i + 1)
      exact ⟨place, List.Subset.trans hplace (List.subset_append_right _ _)⟩

/-- What a condition reads is there if what it mentions is, and the count resource
of every layer. -/
theorem Reads.mem_ids {p : Pack} {c : Condition} {x : Kind × String} (h : c.Reads x)
    (hcompanion : ∀ layer ∈ p.ids .prestigeLayer, layer ++ "-prestige-count" ∈ p.ids .resource)
    {path : Path}
    (hentry : ∀ m ∈ c.mentions path, ∀ kind id, m.subject = .entry kind id → id ∈ p.ids kind) :
    x.2 ∈ p.ids x.1 := by
  induction h generalizing path with
  | resourceThreshold | generatorLevel | upgradeOwned | prestigeUnlocked =>
    exact hentry _ List.mem_cons_self _ _ rfl
  | prestigeCount | prestigeCompleted => exact hcompanion _ (hentry _ List.mem_cons_self _ _ rfl)
  | allOf hc _ ih | anyOf hc _ ih =>
    obtain ⟨place, hplace⟩ := exists_mentions_subset hc (path.key "conditions") 0
    exact ih fun m hm ↦ hentry m (by rw [mentions]; exact hplace hm)
  | not _ ih => exact ih fun m hm ↦ hentry m (by rw [mentions]; exact hm)

end Condition

namespace Kind

variable {kind : Kind} {e : kind.Entry} {c : Condition}

theorem gating_of_mem_entryGates {path : Path} {gate : Gate} (h : gate ∈ kind.entryGates path e) :
    gate.entry = kind.entryId e ∧ gate.condition ∈ kind.gating e := by
  have hoption {o : Option Condition} {id : String} {path : Path}
      (h : gate ∈ Gate.ofOption id path o) :
      gate.entry = id ∧ gate.condition ∈ o.toList := by
    obtain ⟨c, hc, rfl⟩ := List.mem_map.1 h
    exact ⟨rfl, hc⟩
  cases kind with
  | resource | generator | achievement | transform => exact hoption h
  | prestigeLayer =>
    rw [List.mem_singleton.1 h]
    exact ⟨rfl, List.mem_singleton_self _⟩
  | upgrade =>
    rcases List.mem_append.1 h with h | h
    · exact (hoption h).imp_right (List.mem_append_left _)
    · obtain ⟨i, r, hr, hgate⟩ := Path.mem_each.1 h
      rw [List.mem_singleton.1 hgate]
      exact ⟨rfl, List.mem_append_right _ (List.mem_map_of_mem (List.mem_of_getElem? hr))⟩
  | automation | entity | metric | runtimeEvent => cases h

theorem exists_mention_of_gating (hc : c ∈ kind.gating e) (path : Path) :
    ∃ place, ∀ m ∈ c.mentions place, ∃ m' ∈ kind.entryMentions path e, m'.subject = m.subject := by
  have hoption {o : Option Condition} {all : List Mention} (key : String) (ho : c ∈ o.toList)
      (hall : optionalCondition (path.key key) o ⊆ all) :
      ∃ place, ∀ m ∈ c.mentions place, ∃ m' ∈ all, m'.subject = m.subject := by
    rw [Option.mem_toList.1 ho] at hall
    exact ⟨path.key key, fun m hm ↦ ⟨m, hall hm, rfl⟩⟩
  cases kind with
  | resource | achievement | automation | transform | entity =>
    refine hoption "unlockCondition" hc fun m hm ↦ ?_
    simp only [entryMentions, Resource.mentions, Achievement.mentions, Automation.mentions,
      Transform.mentions, Entity.mentions, List.mem_append]
    tauto
  | generator =>
    refine hoption "baseUnlock" hc fun m hm ↦ ?_
    simp only [entryMentions, Generator.mentions, List.mem_append]
    tauto
  | prestigeLayer =>
    rw [List.mem_singleton.1 hc]
    refine ⟨path.key "unlockCondition", fun m hm ↦ ⟨m, ?_, rfl⟩⟩
    simp only [entryMentions, PrestigeLayer.mentions, List.mem_append]
    tauto
  | upgrade =>
    rcases List.mem_append.1 hc with hc | hc
    · refine hoption "unlockCondition" hc fun m hm ↦ ?_
      simp only [entryMentions, Upgrade.mentions, List.mem_append]
      tauto
    · obtain ⟨r, hr, rfl⟩ := List.mem_map.1 hc
      obtain ⟨i, hi⟩ := List.mem_iff_getElem?.1 hr
      have hsub :
          r.mentions ((path.key "prerequisites").index i) ⊆ Upgrade.mentions path e := fun m hm ↦ by
        have hmem := Path.mem_each (f := Prerequisite.mentions).2 ⟨i, r, hi, hm⟩
        simp only [Upgrade.mentions, List.mem_append]
        tauto
      cases r with
      | upgrade id =>
        -- The bare id is the place itself, while the condition it stands for has a field for it.
        refine ⟨path, fun m hm ↦ ⟨_, hsub List.mem_cons_self, ?_⟩⟩
        rw [List.mem_singleton.1 hm]
        rfl
      | condition c => exact ⟨_, fun m hm ↦ ⟨m, hsub hm, rfl⟩⟩
  | metric | runtimeEvent => cases hc

end Kind

namespace Pack

variable {p : Pack} {allowlists : Allowlists} {c : Config}

theorem edge_unlockGraph_iff (a b : String) : p.unlockGraph.Edge a b ↔
    ∃ kind, ∃ kind' ∈ Kind.unlockable, Unlocks p.collection (kind, a) (kind', b) := by
  constructor
  · intro h
    obtain ⟨gate, hgate, rfl, ha⟩ := (edge_unlockGraph a b).1 h
    obtain ⟨kind', hkind', hgate⟩ := List.mem_flatMap.1 hgate
    obtain ⟨i, e, he, hgate⟩ := Path.mem_each.1 hgate
    obtain ⟨hid, hgating⟩ := Kind.gating_of_mem_entryGates hgate
    obtain ⟨⟨kind, id⟩, hreads, rfl⟩ := List.mem_map.1 ha
    exact ⟨kind, kind', hkind', e, List.mem_of_getElem? he, hid.symm, _, hgating,
      Condition.reads_of_mem hreads⟩
  · rintro ⟨kind, kind', hkind', h⟩
    exact edge_of_unlocks h hkind'

theorem mem_ids_of_unlocks (h : hasIssues (Scope.ofConfig p allowlists c).check = false)
    {a b : Kind × String} (hab : Unlocks p.collection a b) : a.2 ∈ p.ids a.1 := by
  obtain ⟨e, he, -, gating, hgating, hreads⟩ := hab
  obtain ⟨i, hi⟩ := List.mem_iff_getElem?.1 he
  obtain ⟨place, hplace⟩ := Kind.exists_mention_of_gating hgating (Path.index [.key b.1.key] i)
  have hentry : ∀ m ∈ gating.mentions place, ∀ kind id,
      m.subject = .entry kind id → id ∈ p.ids kind := by
    intro m hm kind id hsubject
    obtain ⟨m', hm', hsame⟩ := hplace m hm
    refine Scope.mem_ids_of_entry h (mem_mentions hi hm') ?_
    rw [hsame, hsubject]
    rfl
  exact hreads.mem_ids (fun layer ↦ mem_ids_of_layer h) hentry

/-- Whether, whatever their kinds, an entry with the second id reads in its gating an entry
with the first. -/
def UnlocksId (p : Pack) (a b : String) : Prop :=
  ∃ kind, ∃ kind' ∈ Kind.unlockable, a ∈ p.ids kind ∧ Unlocks p.collection (kind, a) (kind', b)

def ReadAmong (p : Pack) (ids : List String) (x : Kind × String) : Prop :=
  x.2 ∈ p.ids x.1 ∧ ∃ b, b.2 ∈ ids ∧ Unlocks p.collection x b

def GatedAmong (p : Pack) (ids : List String) (x : Kind × String) : Prop :=
  x.1 ∈ Kind.unlockable ∧ ∃ a, a.2 ∈ ids ∧ Unlocks p.collection a x

/-- Whether entries of two kinds, one read and the other gated, have one of some ids in common. -/
def Mistakes (p : Pack) (ids : List String) : Prop :=
  ∃ id ∈ ids, ∃ kind kind', kind ≠ kind' ∧ p.ReadAmong ids (kind, id) ∧ p.GatedAmong ids (kind', id)

theorem unlocksId_of_edge (h : hasIssues (Scope.ofConfig p allowlists c).check = false)
    {a b : String} (hab : p.unlockGraph.Edge a b) : p.UnlocksId a b := by
  obtain ⟨kind, kind', hkind', hunlocks⟩ := (edge_unlockGraph_iff a b).1 hab
  exact ⟨kind, kind', hkind', mem_ids_of_unlocks h hunlocks, hunlocks⟩

variable {ids : List String} {id : String}

theorem exists_readAmong (h : Cyclic p.UnlocksId ids) (hid : id ∈ ids) :
    ∃ kind, p.ReadAmong ids (kind, id) := by
  obtain ⟨b, hb, kind, kind', -, hmem, hunlocks⟩ := h.exists_next hid
  exact ⟨kind, hmem, (kind', b), hb, hunlocks⟩

theorem exists_gatedAmong (h : Cyclic p.UnlocksId ids) (hid : id ∈ ids) :
    ∃ kind, p.GatedAmong ids (kind, id) := by
  obtain ⟨a, ha, kind, kind', hkind', -, hunlocks⟩ := h.exists_previous hid
  exact ⟨kind', hkind', (kind, a), ha, hunlocks⟩

/-- Ids that unlock one another in a circle stand for entries that do, unless two entries
are taken for one. -/
theorem exists_cyclic_unlocks (hcyclic : Cyclic p.UnlocksId ids) (h : ¬ p.Mistakes ids) :
    ∃ chain : List (Kind × String), chain.map (·.2) = ids ∧
      Cyclic (Unlocks p.collection) chain := by
  have hsame {id : String} {kind kind' : Kind} (hid : id ∈ ids) (hread : p.ReadAmong ids (kind, id))
      (hgated : p.GatedAmong ids (kind', id)) : kind = kind' := by
    by_contra hne
    exact h ⟨id, hid, kind, kind', hne, hread, hgated⟩
  -- An id stands for the entry with this id that is gated, which is also the one that is read.
  have : Nonempty Kind := ⟨.resource⟩
  choose! kindOf hkindOf using fun (id : String) (hid : id ∈ ids) ↦ exists_gatedAmong hcyclic hid
  refine ⟨ids.map fun id ↦ (kindOf id, id), by simp [Function.comp_def],
    hcyclic.map fun a ha b hb hab ↦ ?_⟩
  obtain ⟨kind, kind', hkind', hmem, hunlocks⟩ := hab
  have hsource : kind = kindOf a := hsame ha ⟨hmem, _, hb, hunlocks⟩ (hkindOf a ha)
  have htarget : kind' = kindOf b := by
    obtain ⟨read, hread⟩ := exists_readAmong hcyclic hb
    exact (hsame hb hread ⟨hkind', _, ha, hunlocks⟩).symm.trans (hsame hb hread (hkindOf b hb))
  rw [← hsource, ← htarget]
  exact hunlocks

/-- A reported cycle is one of ids. It is one of entries unless, on the way, an entry that is read
and one of another kind that is gated share an id. -/
theorem cyclic_of_mem_checkUnlocks (h : hasIssues (Scope.ofConfig p allowlists c).check = false)
    {f : Finding} (hf : f ∈ p.checkUnlocks) : ∃ id rest, f = p.unlockCycle (id :: (rest ++ [id])) ∧
      (id :: rest).Nodup ∧ Cyclic p.UnlocksId (id :: rest) ∧
      (p.Mistakes (id :: rest) ∨ ∃ chain : List (Kind × String),
        chain.map (·.2) = id :: rest ∧ Cyclic (Unlocks p.collection) chain) := by
  obtain ⟨cycle, hcycle, rfl⟩ := List.mem_map.1 hf
  obtain ⟨id, rest, rfl, hcircuit, -⟩ := Graph.canonical_of_mem_cycles hcycle
  have hcyclic : Cyclic p.UnlocksId (id :: rest) := by
    have hmap := hcircuit.cyclic.map (f := fun id ↦ id) fun a _ b _ hab ↦ unlocksId_of_edge h hab
    rwa [List.map_id'] at hmap
  refine ⟨id, rest, rfl, hcircuit.distinct, hcyclic, ?_⟩
  by_cases hmistakes : p.Mistakes (id :: rest)
  · exact .inl hmistakes
  · exact .inr (exists_cyclic_unlocks hcyclic hmistakes)

end Pack

namespace Sample

def mine (name : String) (gem : Json) : Json :=
  let generator :=
    (generator "p" name "gem" "gem").setField "baseUnlock" (resourceAtLeast "p.gem" .one)
  .obj [("generators", .arr [generator]), ("metadata", metadata "p" "1.0.0" "P"),
    ("resources", .arr [gem])]

def circular : Json := mine "mine" <| (resource "p" "gem").setField "unlockCondition" <| .obj
  [("generatorId", .str "p.mine"), ("kind", .str "generatorLevel"), ("level", constant .one)]

def namesakes : Json := mine "gem" (resource "p" "gem")

end Sample

namespace Pack

theorem cyclic_of_mem_checkUnlocks_circular : ∃ p, (Pack.parse Sample.circular).1 = some p ∧
    hasIssues (Pack.parse Sample.circular).2 = false ∧
    hasIssues (Scope.ofConfig p (fun _ ↦ none) .initial).check = false ∧
    ∃ f ∈ p.checkUnlocks, ∃ id rest, f = p.unlockCycle (id :: (rest ++ [id])) ∧
      (id :: rest).Nodup ∧ Cyclic p.UnlocksId (id :: rest) ∧
      (p.Mistakes (id :: rest) ∨ ∃ chain : List (Kind × String),
        chain.map (·.2) = id :: rest ∧ Cyclic (Unlocks p.collection) chain) := by
  let p := (Pack.parse Sample.circular).1.get (by decide +kernel)
  have hscope : hasIssues (Scope.ofConfig p (fun _ ↦ none) .initial).check = false := by
    decide +kernel
  have hcycles : p.unlockGraph.cycles p.unlockNodes .first = [["p.gem", "p.mine", "p.gem"]] :=
    Graph.cycles_of_cyclesWithin (n := 9) (by decide +kernel)
  have hf : p.unlockCycle ["p.gem", "p.mine", "p.gem"] ∈ p.checkUnlocks := by
    rw [checkUnlocks, hcycles]
    exact List.mem_singleton_self _
  exact ⟨p, (Option.some_get _).symm, by decide +kernel, hscope, _, hf,
    cyclic_of_mem_checkUnlocks hscope hf⟩

/-- Where a resource and a generator share an id, a generator that reads the resource is taken to
read itself. -/
theorem reported_of_namesakes : ∃ p, (Pack.parse Sample.namesakes).1 = some p ∧
    hasIssues (Pack.parse Sample.namesakes).2 = false ∧
    hasIssues (Scope.ofConfig p (fun _ ↦ none) .initial).check = false ∧
    p.checkUnlocks ≠ [] ∧ ∀ chain, ¬ Cyclic (Unlocks p.collection) chain := by
  let p := (Pack.parse Sample.namesakes).1.get (by decide +kernel)
  have hcycles : p.unlockGraph.cycles p.unlockNodes .first = [["p.gem", "p.gem"]] :=
    Graph.cycles_of_cyclesWithin (n := 9) (by decide +kernel)
  have hgating : ∀ kind ∈ Kind.all, ∀ e ∈ p.collection kind, ∀ c ∈ kind.gating e,
      kind = .generator ∧ ∀ x ∈ c.reads, x.1 = .resource := by decide +kernel
  have hunlocks {a b : Kind × String} (h : Unlocks p.collection a b) :
      a.1 = .resource ∧ b.1 = .generator := by
    obtain ⟨e, he, -, c, hc, hreads⟩ := h
    obtain ⟨hkind, hresource⟩ := hgating b.1 b.1.mem_all e he c hc
    exact ⟨hresource a hreads.mem_reads, hkind⟩
  refine ⟨p, (Option.some_get _).symm, by decide +kernel, by decide +kernel, ?_,
    fun chain hcyclic ↦ ?_⟩
  · rw [checkUnlocks, hcycles]
    exact List.cons_ne_nil _ _
  · obtain ⟨a, ha⟩ :=
      List.exists_mem_of_ne_nil chain fun hnil ↦ by rw [hnil] at hcyclic; exact hcyclic
    obtain ⟨b, -, hab⟩ := hcyclic.exists_next ha
    obtain ⟨d, -, hda⟩ := hcyclic.exists_previous ha
    have hkinds := (hunlocks hab).1.symm.trans (hunlocks hda).2
    cases hkinds

end Pack

end GamePack
