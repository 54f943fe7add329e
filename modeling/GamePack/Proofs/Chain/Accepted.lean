import GamePack.Proofs.Chain.Links
import GamePack.Proofs.Graph.Searched
import GamePack.Proofs.Locale
import GamePack.Proofs.Run

namespace GamePack

namespace Sample

variable {size : Nat}

theorem wellFormed_chainMetadata : chainMetadata.WellFormed :=
  Structure.hasIssues_metadata.1 (by decide +kernel)

theorem wellFormed_chainPack (h : size ≤ 10 ^ 113) : (chainPack size).WellFormed where
  metadata := wellFormed_chainMetadata
  shaped := by
    intro kind id hid
    obtain ⟨e, he, rfl⟩ := List.mem_map.1 hid
    cases linked_of_mem he with
    | resource hi => exact Link.shaped_id (by decide) (by decide) (by omega)
    | generator hi => exact Link.shaped_id (by decide) (by decide) (by omega)
    | upgrade hi => exact Link.shaped_id (by decide) (by decide) (by omega)
    | transform hi => exact Link.shaped_id (by decide) (by decide) (by omega)
  distinct := by
    intro kind
    rw [ids_chainPack]
    exact List.nodup_range.map (Link.id_injective _)
  starts := by
    intro r hr
    obtain ⟨i, -, rfl⟩ := List.mem_map.1 hr
    exact Int.lt_irrefl _
  capacities := by
    intro r hr capacity hcapacity
    obtain ⟨i, -, rfl⟩ := List.mem_map.1 hr
    cases hcapacity
  systems := by
    intro a ha
    cases ha
  targets := by
    intro a ha
    cases ha
  durations := by
    intro t ht hmode
    obtain ⟨i, -, rfl⟩ := List.mem_map.1 ht
    rcases hmode with hmode | hmode <;> cases hmode
  requirements := by
    intro t ht
    obtain ⟨i, -, rfl⟩ := List.mem_map.1 ht
    exact ⟨fun h ↦ absurd rfl h, nofun⟩
  stats := by
    intro e he
    cases he

theorem warnings_chainPack (size : Nat) : warningsOf (Structure.check (chainPack size)) = [] := by
  rw [Structure.warningsOf_check, List.flatMap_eq_nil_iff]
  intro heading hheading
  obtain ⟨place, text⟩ := heading
  have hplain : ∃ t, text = .plain t := by
    rcases Pack.mem_headings_iff.1 hheading with ⟨-, rfl⟩ | ⟨-, hsummary⟩ | ⟨kind, i, -, hname⟩
    · exact ⟨chainId, rfl⟩
    · cases hsummary
    · obtain ⟨e, he, hname⟩ := Option.bind_eq_some_iff.1 hname
      cases linked_of_mem (List.mem_of_getElem? he) with
      | resource hi | generator hi | upgrade hi | transform hi =>
        exact ⟨_, (Option.some_inj.1 hname).symm⟩
  obtain ⟨t, rfl⟩ := hplain
  rfl

theorem structure_chainPack (h : size ≤ 10 ^ 113) : Structure.check (chainPack size) = [] :=
  findings_eq_nil (Structure.hasIssues_check.2 (wellFormed_chainPack h)) (warnings_chainPack size)

theorem Link.mentions_generator (path : Path) (i : Nat) :
    Kind.generator.entryMentions path (Link.generator i) =
    [.entry (((path.key "produces").index 0).key "resourceId") .resource (Link.id "res" i),
      .entry ((path.key "purchase").key "currencyId") .resource (Link.id "res" (i - 1))] := rfl

theorem Link.mentions_upgrade (path : Path) (i : Nat) :
    Kind.upgrade.entryMentions path (Link.upgrade i) =
    .entry ((path.key "cost").key "currencyId") .resource (Link.id "res" i) ::
      .entry (((path.key "effects").index 0).key "resourceId") .resource (Link.id "res" i) ::
      (path.key "prerequisites").each (Link.prerequisites i) Prerequisite.mentions := by
  cases i <;> rfl

theorem Link.mentions_transform (path : Path) (i : Nat) :
    Kind.transform.entryMentions path (Link.transform i) =
    [.entry (((path.key "inputs").index 0).key "resourceId") .resource (Link.id "res" i),
      .entry (((path.key "outputs").index 0).key "resourceId") .resource
        (Link.id "res" (i + 1))] := rfl

theorem mention_chainPack {m : Mention} (hm : m ∈ (chainPack size).mentions) :
    ∃ path kind id, m = .entry path kind id ∧ id ∈ (chainPack size).ids kind := by
  obtain ⟨kind, -, hm⟩ := List.mem_flatMap.1 hm
  obtain ⟨position, e, he, hm⟩ := Path.mem_each.1 hm
  cases linked_of_mem (List.mem_of_getElem? he) with
  | resource hi => cases hm
  | @generator i hi =>
    rw [Link.mentions_generator] at hm
    rcases List.mem_pair.1 hm with rfl | rfl
    · exact ⟨_, _, _, rfl, mem_ids_resource hi⟩
    · exact ⟨_, _, _, rfl, mem_ids_resource (by omega)⟩
  | @upgrade i hi =>
    rw [Link.mentions_upgrade] at hm
    rcases List.mem_cons.1 hm with rfl | hm
    · exact ⟨_, _, _, rfl, mem_ids_resource hi⟩
    rcases List.mem_cons.1 hm with rfl | hm
    · exact ⟨_, _, _, rfl, mem_ids_resource hi⟩
    -- What is left is the prerequisite, which the first upgrade does not have.
    cases i with
    | zero => cases hm
    | succ i =>
      obtain rfl := List.mem_singleton.1 hm
      exact ⟨_, _, _, rfl, mem_ids_upgrade (by omega)⟩
  | @transform i hi =>
    rw [Link.mentions_transform] at hm
    rcases List.mem_pair.1 hm with rfl | rfl
    · exact ⟨_, _, _, rfl, mem_ids_resource (by omega)⟩
    · exact ⟨_, _, _, rfl, mem_ids_resource (by omega)⟩

theorem references_chainPack (size : Nat) (allowlists : Allowlists) :
    (chainPack size).checkReferences allowlists .initial = [] := by
  have hcompatible : (chainPack size).checkCompatibility .initial = [] := rfl
  rw [Pack.checkReferences, hcompatible, List.nil_append, Scope.check, List.flatMap_eq_nil_iff]
  intro m hm
  obtain ⟨path, kind, id, rfl, hid⟩ := mention_chainPack hm
  have hhas : (Scope.ofConfig (chainPack size) allowlists .initial).pack.Has kind id := hid
  simp [Scope.resolve, Mention.entry, hhas, Finding.ensure]

theorem transforms_chainPack (size : Nat) : (chainPack size).checkTransforms = [] := by
  have hcycles :
      (chainPack size).transformGraph.cycles ((chainPack size).ids .transform) .first = [] := by
    refine Graph.cycles_eq_nil_of_forward (Link.id_injective "tx") ?_
    intro u v hedge
    obtain ⟨s, hs, t, ht, rfl, rfl, -, o, ho, input, hinput, hsame⟩ :=
      (Pack.edge_transformGraph _ u v).1 hedge
    obtain ⟨i, -, rfl⟩ := List.mem_map.1 hs
    obtain ⟨j, -, rfl⟩ := List.mem_map.1 ht
    obtain rfl := List.mem_singleton.1 ho
    obtain rfl := List.mem_singleton.1 hinput
    obtain rfl : i + 1 = j := Link.id_injective "res" hsame
    exact ⟨i, i + 1, Nat.lt_succ_self i, rfl, rfl⟩
  rw [Pack.checkTransforms, hcycles, List.map_nil]

theorem unlocks_chainPack (size : Nat) : (chainPack size).checkUnlocks = [] := by
  have hcycles : (chainPack size).unlockGraph.cycles (chainPack size).unlockNodes .first = [] := by
    refine Graph.cycles_eq_nil_of_forward (Link.id_injective "upg") ?_
    intro u v hedge
    obtain ⟨gate, hgate, rfl, hu⟩ := (Pack.edge_unlockGraph u v).1 hedge
    obtain ⟨kind, -, hgate⟩ := List.mem_flatMap.1 hgate
    obtain ⟨position, e, he, hgate⟩ := Path.mem_each.1 hgate
    cases linked_of_mem (List.mem_of_getElem? he) with
    | resource | generator | transform => cases hgate
    | @upgrade i hi =>
      cases i with
      | zero => cases hgate
      | succ i =>
        obtain rfl := List.mem_singleton.1 hgate
        obtain rfl := List.mem_singleton.1 hu
        exact ⟨i, i + 1, Nat.lt_succ_self i, rfl, rfl⟩
  rw [Pack.checkUnlocks, hcycles, List.map_nil]

theorem dependencies_chainPack : chainMetadata.checkDependencies [] [] = [] := by
  have hcycles : (chainMetadata.dependencyGraph []).cycles [chainMetadata.id] .first = [] :=
    Graph.cycles_of_cyclesWithin (n := 9) (by decide +kernel)
  have hpacks : chainMetadata.dependencyCycles [] = [] := congrArg (List.map _) hcycles
  simp only [Metadata.checkDependencies, hpacks]
  rfl

theorem checks_chainPack (size : Nat) (allowlists : Allowlists) :
    (chainPack size).checks allowlists .initial = [] := by
  have hcycles : (chainPack size).checkCycles .initial = [] := by
    rw [Pack.checkCycles, transforms_chainPack, unlocks_chainPack]
    exact dependencies_chainPack
  rw [Pack.checks, references_chainPack, hcycles, List.append_nil]

theorem outcome_chain (h : size ≤ 10 ^ 113) :
    (validate none .initial (chain size)).outcome = .ok ⟨.ofPack (chainPack size), [], .clean⟩ :=
  validate_of_silent rfl (parse_chain size) (structure_chainPack h) (checks_chainPack size _)

/-- A chain is accepted as long as the positions of its links do not have more than 113 digits. -/
theorem exists_ok_chain_iff (size : Nat) :
    (∃ v, (validate none .initial (chain size)).outcome = .ok v) ↔ size ≤ 10 ^ 113 := by
  constructor
  · intro hok
    obtain ⟨v, hv⟩ := hok
    obtain ⟨p, hparse, hpack⟩ := exists_pack_of_validate hv
    obtain rfl : chainPack size = p := Option.some_inj.1 ((parse_chain size).symm.trans hparse)
    have hlong : ¬ Id.isValid (Link.id "res" (10 ^ 113)) := by decide +kernel
    by_contra hsize
    have hmem : Link.id "res" (10 ^ 113) ∈ v.pack.ids .resource := by
      rw [hpack]
      exact mem_ids_resource (by omega)
    exact hlong ((sound_of_validate hv).shaped .resource _ hmem)
  · intro h
    exact ⟨_, outcome_chain h⟩

theorem size_chainPack (size : Nat) (kind : Kind) :
    ((FrozenPack.ofPack (chainPack size)).collection kind).size = Link.count size kind := by
  have hids : ((chainPack size).ids kind).length = Link.count size kind := by simp [ids_chainPack]
  rwa [Pack.ids, List.length_map] at hids

/-- Every chain is accepted without a warning, with the entries that its size says. -/
theorem chain_accepted (size : USize) :
    ∃ v, (validate none .initial (chain size.toNat)).outcome = .ok v ∧
    v.warnings = [] ∧ v.balance = .clean ∧
    (validate none .initial (chain size.toNat)).streamed = [] ∧
    (v.pack.collection .resource).size = max size.toNat 1 ∧
    (v.pack.collection .generator).size = max size.toNat 1 ∧
    (v.pack.collection .upgrade).size = max size.toNat 1 ∧
    (v.pack.collection .transform).size = max size.toNat 1 - 1 := by
  have hsize : size.toNat ≤ 10 ^ 113 := by
    have hlt := size.toNat_lt
    omega
  have hrun := outcome_chain hsize
  refine ⟨_, hrun, rfl, rfl, (warnings_of_validate hrun).symm, size_chainPack _ .resource,
    size_chainPack _ .generator, size_chainPack _ .upgrade, ?_⟩
  have htransforms : Link.count size.toNat .transform = max size.toNat 1 - 1 := by
    rw [Link.count]
    omega
  exact (size_chainPack _ .transform).trans htransforms

end Sample

end GamePack
