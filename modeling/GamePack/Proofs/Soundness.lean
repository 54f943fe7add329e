import GamePack.Proofs.Graph.Acyclic
import GamePack.Proofs.Graph.Bounded
import GamePack.Proofs.Order.PackCycle
import GamePack.Proofs.Reference
import GamePack.Proofs.Validation
import GamePack.Proofs.WellFormed

namespace GamePack

/-- The promises about a frozen pack, given the packs that are known. -/
structure FrozenPack.Sound (p : FrozenPack) (known : List KnownPack) : Prop where
  distinct : ∀ kind, (p.ids kind).Nodup
  shaped : ∀ kind, ∀ id ∈ p.ids kind, Id.isValid id
  /-- Wherever the serialized pack names an entry of a kind, there is one. -/
  resolved : ∀ o ∈ p.encode.occurrences, ∀ kind id, o.reference = .entry kind id → id ∈ p.ids kind
  targeted : ∀ a ∈ (p.collection .automation).items, a.targetType ≠ .system →
    ∃ kind id, a.targetType.kind? = some kind ∧ a.targetId = some id ∧ id ∈ p.ids kind
  /-- Only missions need entities. -/
  missions : ∀ t ∈ (p.collection .transform).items, t.mode ≠ .mission → t.entityRequirements = []
  companions : ∀ layer ∈ p.ids .prestigeLayer, layer ++ "-prestige-count" ∈ p.ids .resource
  transforms : ∀ chain ⊆ (p.collection .transform).items, (chain.map (·.id)).Nodup →
    2 ≤ chain.length → ¬ Cyclic Transform.Supplies chain
  unlocks : ∀ chain, ¬ Cyclic (Unlocks fun kind ↦ (p.collection kind).items) chain
  independent : ∀ d ∈ p.metadata.dependencies.requires ++ p.metadata.dependencies.optional ++
    p.metadata.dependencies.conflicts, d.packId ≠ p.metadata.id
  packs : ∀ chain, ¬ Cyclic (Requires p.metadata known) chain

namespace Scope

variable {p : Pack} {allowlists : Allowlists} {c : Config}

theorem not_offends (h : hasIssues (ofConfig p allowlists c).check = false) {m : Mention}
    (hm : m ∈ p.mentions)
    (hissue : (m.subject.reference.finding allowlists c m.path).issue? ≠ none) :
    m.subject.reference.offends p allowlists c.eventCatalogue = false := by
  have hresolve := hasIssues_flatMap.1 h m hm
  rw [resolve_ofConfig] at hresolve
  by_contra hoffends
  rw [if_pos (Bool.not_eq_false _ ▸ hoffends)] at hresolve
  exact hissue (hasIssues_eq_false.1 hresolve _ (List.mem_singleton_self _))

theorem mem_ids_of_entry (h : hasIssues (ofConfig p allowlists c).check = false) {m : Mention}
    (hm : m ∈ p.mentions) {kind : Kind} {id : String} (he : m.subject.reference = .entry kind id) :
    id ∈ p.ids kind := by
  have hoffends := not_offends h hm (by rw [he]; exact Option.some_ne_none _)
  rw [he] at hoffends
  simpa [Reference.offends] using hoffends

theorem mem_ids_of_companion (h : hasIssues (ofConfig p allowlists c).check = false) {m : Mention}
    (hm : m ∈ p.mentions) {layer : String} (he : m.subject.reference = .companion layer) :
    layer ++ "-prestige-count" ∈ p.ids .resource := by
  have hoffends := not_offends h hm (by rw [he]; exact Option.some_ne_none _)
  rw [he] at hoffends
  simpa [Reference.offends] using hoffends

end Scope

namespace Pack

variable {p : Pack}

theorem mem_mentions {kind : Kind} {i : Nat} {e : kind.Entry}
    (he : (p.collection kind)[i]? = some e) {m : Mention}
    (hm : m ∈ kind.entryMentions (Path.index [.key kind.key] i) e) : m ∈ p.mentions :=
  List.mem_flatMap.2 ⟨kind, kind.mem_all, Path.mem_each.2 ⟨i, e, he, hm⟩⟩

theorem exists_mention_of_target {a : Automation} (ha : a ∈ p.automations) {kind : Kind}
    {id : String} (hkind : a.targetType.kind? = some kind) (hid : a.targetId = some id) :
    ∃ m ∈ p.mentions, m.subject.reference = .entry kind id := by
  obtain ⟨i, hi⟩ : ∃ i : Nat, (p.collection .automation)[i]? = some a := List.mem_iff_getElem?.1 ha
  let path := Path.index [.key Kind.automation.key] i
  refine ⟨.entry (path.key "targetId") kind id, mem_mentions hi ?_, rfl⟩
  have htarget : Mention.entry (path.key "targetId") kind id ∈ a.targetMentions path := by
    rw [Automation.targetMentions, hkind, hid]
    exact List.mem_singleton_self _
  simp only [Kind.entryMentions, Automation.mentions, List.append_assoc]
  exact List.mem_append_left _ htarget

theorem exists_mention_of_layer {layer : String} (h : layer ∈ p.ids .prestigeLayer) :
    ∃ m ∈ p.mentions, m.subject.reference = .companion layer := by
  obtain ⟨l, hl, rfl⟩ := List.mem_map.1 h
  obtain ⟨i, hi⟩ := List.mem_iff_getElem?.1 hl
  let path := Path.index [.key Kind.prestigeLayer.key] i
  refine ⟨⟨path.key "id", .companion l⟩, mem_mentions hi ?_, rfl⟩
  exact List.mem_append_right _ (List.mem_singleton_self _)

theorem mem_ids_of_layer {allowlists : Allowlists} {c : Config}
    (h : hasIssues (Scope.ofConfig p allowlists c).check = false) {layer : String}
    (hlayer : layer ∈ p.ids .prestigeLayer) : layer ++ "-prestige-count" ∈ p.ids .resource := by
  obtain ⟨m, hm, he⟩ := exists_mention_of_layer hlayer
  exact Scope.mem_ids_of_companion h hm he

end Pack

theorem AutomationTarget.kind?_isSome {t : AutomationTarget} (h : t ≠ .system) :
    t.kind?.isSome := by
  cases t with
  | system => exact absurd rfl h
  | _ => rfl

namespace Metadata

variable {m : Metadata} {known : List KnownPack} {active : List String}

theorem ne_of_selfDependencies {field : String} {entries : List Dependency}
    (h : hasIssues (m.selfDependencies field entries) = false) {d : Dependency} (hd : d ∈ entries) :
    d.packId ≠ m.id := by
  obtain ⟨i, hi⟩ := List.mem_iff_getElem?.1 hd
  have hfound := hasIssues_each.1 h i d hi
  rw [hasIssues_ensure, decide_eq_true_iff] at hfound
  exact hfound

theorem checkDependencies_parts (h : hasIssues (m.checkDependencies known active) = false) :
    (∀ d ∈ m.dependencies.requires ++ m.dependencies.optional ++ m.dependencies.conflicts,
      d.packId ≠ m.id) ∧
      (m.dependencyGraph known).cycles (m.id :: known.map (·.id)) .first = [] := by
  simp only [checkDependencies, hasIssues_append] at h
  obtain ⟨⟨⟨⟨⟨hrequires, hoptional⟩, hconflicts⟩, hcycles⟩, -⟩, -⟩ := h
  refine ⟨fun d hd ↦ ?_, hasIssues_map_fault.1 hcycles⟩
  rcases List.mem_append.1 hd with hd | hd
  · rcases List.mem_append.1 hd with hd | hd
    · exact ne_of_selfDependencies hrequires hd
    · exact ne_of_selfDependencies hoptional hd
  · exact ne_of_selfDependencies hconflicts hd

end Metadata

theorem FrozenPack.sound_ofPack {p : Pack} {allowlists : Allowlists} {c : Config}
    (hstructure : hasIssues (Structure.check p) = false)
    (hreferences : hasIssues (p.checkReferences allowlists c) = false)
    (hcycles : hasIssues (p.checkCycles c) = false) : (ofPack p).Sound c.knownPacks := by
  have hwell := Structure.hasIssues_check.1 hstructure
  rw [Pack.checkReferences, hasIssues_append] at hreferences
  rw [Pack.checkCycles, hasIssues_append, hasIssues_append] at hcycles
  obtain ⟨-, hscope⟩ := hreferences
  obtain ⟨⟨htransforms, hunlocks⟩, hdependencies⟩ := hcycles
  obtain ⟨hself, hpacks⟩ := Metadata.checkDependencies_parts hdependencies
  refine
    { distinct := hwell.distinct
      shaped := fun kind id hid ↦ Id.isValid_iff_shaped.2 (hwell.shaped kind id hid)
      resolved := fun o ho kind id he ↦ ?_
      targeted := fun a ha hsystem ↦ ?_
      missions := fun t ht hmode ↦ not_not.1 (mt (hwell.requirements t ht).1 hmode)
      companions := fun layer hlayer ↦ Pack.mem_ids_of_layer hscope hlayer
      transforms := fun chain hchain hnodup hlength ↦
        p.not_cyclic_supplies (hasIssues_map_fault.1 htransforms) hchain hnodup hlength
      unlocks := Pack.not_cyclic_unlocks (hasIssues_map_fault.1 hunlocks)
      independent := hself
      packs := Metadata.not_cyclic_requires
        (fun d hd ↦ hself d (List.mem_append_left _ (List.mem_append_left _ hd))) hpacks }
  · obtain ⟨m, hm, rfl⟩ := List.mem_map.1 ((FrozenPack.occurrences_encode p).mem_iff.1 ho)
    exact Scope.mem_ids_of_entry hscope hm he
  · obtain ⟨kind, hkind⟩ := Option.isSome_iff_exists.1 (AutomationTarget.kind?_isSome hsystem)
    obtain ⟨id, hid⟩ := Option.isSome_iff_exists.1 (hwell.targets a ha hsystem)
    obtain ⟨m, hm, he⟩ := Pack.exists_mention_of_target ha hkind hid
    exact ⟨kind, id, hkind, hid, Scope.mem_ids_of_entry hscope hm he⟩

namespace Sample

def smallPack : Pack := (Pack.parse small).1.get (by decide +kernel)

theorem hasIssues_checkCycles_smallPack : hasIssues (smallPack.checkCycles .initial) = false := by
  have htransforms : smallPack.transformGraph.cycles (smallPack.ids .transform) .first = [] :=
    Graph.cycles_of_cyclesWithin (n := 9) (by decide +kernel)
  have hunlocks : smallPack.unlockGraph.cycles smallPack.unlockNodes .first = [] :=
    Graph.cycles_of_cyclesWithin (n := 9) (by decide +kernel)
  have hpacks :
      (smallPack.metadata.dependencyGraph []).cycles [smallPack.metadata.id] .first = [] :=
    Graph.cycles_of_cyclesWithin (n := 9) (by decide +kernel)
  exact Pack.hasIssues_checkCycles_of_acyclic htransforms hunlocks hpacks (by decide +kernel)
    (by decide +kernel)

theorem small_accepted : ∃ v, (validate none .initial small).outcome = .ok v := by
  have hparse : (Pack.parse small).1 = some smallPack := (Option.some_get _).symm
  have hstructure : hasIssues (Structure.check smallPack) = false := by decide +kernel
  have hreferences : hasIssues (smallPack.checkReferences (fun _ ↦ none) .initial) = false := by
    decide +kernel
  exact exists_ok_of_clean rfl rfl hparse hstructure hreferences hasIssues_checkCycles_smallPack

end Sample

/-- A pack that passed validation keeps all promises. -/
theorem sound_of_validate {check : Option BalanceCheck} {c : Config} {doc : Json} {v : Validated}
    (h : (validate check c doc).outcome = .ok v) : v.pack.Sound c.knownPacks := by
  obtain ⟨allowlists, before, hjson⟩ := exists_json_of_validate h
  obtain ⟨p, known, hparse, hfound, hrun⟩ := Json.of_validate hjson
  obtain ⟨hreferences, hcycles, hpack⟩ := Pack.of_validate hrun
  rw [Pack.check_of_parse hparse] at hfound
  rw [hpack]
  exact FrozenPack.sound_ofPack hfound hreferences hcycles

theorem sound_small :
    ∃ v, (validate none .initial Sample.small).outcome = .ok v ∧ v.pack.Sound [] := by
  obtain ⟨v, h⟩ := Sample.small_accepted
  exact ⟨v, h, sound_of_validate h⟩

end GamePack
