import GamePack.Proofs.Compatibility
import GamePack.Proofs.Reference
import GamePack.Validation

namespace GamePack

def Finding.moved (f : Path → Path) : Finding → Finding
  | issue i => .issue { i with path := f i.path }
  | warning w => .warning { w with path := f w.path }

def Finding.message : Finding → String
  | issue i => i.message
  | warning w => w.message

def Mention.moved (f : Path → Path) (m : Mention) : Mention := { m with path := f m.path }

theorem Finding.message_moved (f : Path → Path) (x : Finding) :
    (x.moved f).message = x.message := by
  cases x <;> rfl

theorem Finding.moved_eq {f : Path → Path} {x : Finding} (h : f x.path = x.path) :
    x.moved f = x := by
  cases x with
  | issue i => exact congrArg (fun path ↦ Finding.issue { i with path }) h
  | warning w => exact congrArg (fun path ↦ Finding.warning { w with path }) h

theorem Mention.map_moved_eq {f : Path → Path} {ms : List Mention}
    (h : ∀ m ∈ ms, f m.path = m.path) :
    ms.map (moved f) = ms :=
  (List.map_congr_left fun m hm ↦ congrArg (Mention.mk · m.subject) (h m hm)).trans (List.map_id ms)

namespace Reference

theorem finding_moved (f : Path → Path) (allowlists : Allowlists) (c : Config) (place : Path)
    (r : Reference) :
    r.finding allowlists c (f place) = (r.finding allowlists c place).moved f := by
  cases r with
  | outside => rw [finding, finding]; split <;> rfl
  | event => rw [finding, finding]; split <;> rfl
  | _ => rfl

theorem offends_congr {p q : Pack} (hids : ∀ kind, q.ids kind = p.ids kind)
    (hentities : q.entities = p.entities) (allowlists : Allowlists) (catalogue : List String)
    (r : Reference) : r.offends q allowlists catalogue = r.offends p allowlists catalogue := by
  cases r <;> simp only [offends, hids, Pack.lastEntity?, hentities]

end Reference

namespace Prerequisite

/-- A bare id as the condition that the upgrade was bought once. -/
def spelledOut : Prerequisite → Prerequisite
  | upgrade id => condition (.upgradeOwned id 1)
  | condition c => condition c

def shorthands (path : Path) : Prerequisite → List Path
  | upgrade _ => [path]
  | condition _ => []

theorem toCondition_spelledOut (r : Prerequisite) : r.spelledOut.toCondition = r.toCondition := by
  cases r <;> rfl

end Prerequisite

namespace Upgrade

def spelledOut (chosen : Path → Bool) (path : Path) (u : Upgrade) : Upgrade :=
  { u with
    prerequisites := u.prerequisites.mapIdx fun j r ↦
      if chosen ((path.key "prerequisites").index j) then r.spelledOut else r }

theorem gates_spelledOut (chosen : Path → Bool) (path : Path) (u : Upgrade) :
    (u.spelledOut chosen path).gates path = u.gates path := by
  refine congrArg (Gate.ofOption u.id (path.key "unlockCondition") u.unlockCondition ++ ·) ?_
  refine Path.each_mapIdx fun j r _ ↦ ?_
  rw [apply_ite Prerequisite.toCondition, Prerequisite.toCondition_spelledOut, ite_self]
  rfl

end Upgrade

namespace Pack

def spelledOut (chosen : Path → Bool) (p : Pack) : Pack :=
  { p with upgrades := p.upgrades.mapIdx fun i u ↦
    u.spelledOut chosen (Path.index [.key "upgrades"] i) }

def shorthands (p : Pack) : List Path :=
  Path.each [.key "upgrades"] p.upgrades fun path u ↦
    (path.key "prerequisites").each u.prerequisites Prerequisite.shorthands

/-- Where that is named which a pack names at a place, once the chosen prerequisites
are spelled out. -/
def respelled (p : Pack) (chosen : Path → Bool) (place : Path) : Path :=
  if place ∈ p.shorthands ∧ chosen place then place.key "upgradeId" else place

variable {p : Pack} {chosen : Path → Bool} {place : Path}

theorem mem_shorthands : place ∈ p.shorthands ↔ ∃ i j u id, p.upgrades[i]? = some u ∧
    u.prerequisites[j]? = some (.upgrade id) ∧
    place = [.key "upgrades", .index i, .key "prerequisites", .index j] := by
  rw [shorthands, Path.mem_each]
  simp only [Path.mem_each]
  constructor
  · rintro ⟨i, u, hu, j, r, hr, hplace⟩
    cases r with
    | upgrade id => exact ⟨i, j, u, id, hu, hr, List.mem_singleton.1 hplace⟩
    | condition c => cases hplace
  · rintro ⟨i, j, u, id, hu, hr, rfl⟩
    exact ⟨i, u, hu, j, .upgrade id, hr, List.mem_singleton_self _⟩

theorem respelled_of_not_mem (h : place ∉ p.shorthands) : p.respelled chosen place = place :=
  if_neg fun hplace ↦ h hplace.1

theorem respelled_of_step (h : ∀ i, place[1]? ≠ some (.index i)) :
    p.respelled chosen place = place := by
  refine respelled_of_not_mem fun hplace ↦ ?_
  obtain ⟨i, j, u, id, -, -, rfl⟩ := mem_shorthands.1 hplace
  exact h i rfl

theorem respelled_of_key {i : Nat} {key : String} (hkey : key ≠ "prerequisites")
    (h : [.key "upgrades", .index i, .key key] <+: place) : p.respelled chosen place = place := by
  refine respelled_of_not_mem fun hplace ↦ ?_
  obtain ⟨i', j, u, id, -, -, rfl⟩ := mem_shorthands.1 hplace
  simp [List.cons_prefix_cons, hkey] at h

theorem respelled_of_kind {kind : Kind} (hkind : kind ≠ .upgrade) (h : [.key kind.key] <+: place) :
    p.respelled chosen place = place := by
  have hkey : kind.key ≠ "upgrades" := by cases kind <;> simp_all [Kind.key]
  refine respelled_of_not_mem fun hplace ↦ ?_
  obtain ⟨i, j, u, id, -, -, rfl⟩ := mem_shorthands.1 hplace
  simp [List.cons_prefix_cons, hkey] at h

theorem mentions_prerequisite {i j : Nat} {u : Upgrade} {r : Prerequisite}
    (hu : p.upgrades[i]? = some u) (hr : u.prerequisites[j]? = some r) :
    let place : Path := [.key "upgrades", .index i, .key "prerequisites", .index j]
    (if chosen place then r.spelledOut else r).mentions place =
      (r.mentions place).map (Mention.moved (p.respelled chosen)) := by
  intro place
  cases r with
  | upgrade id =>
    have hplace : place ∈ p.shorthands := mem_shorthands.2 ⟨i, j, u, id, hu, hr, rfl⟩
    by_cases hchosen : chosen place
    · have hrespelled : p.respelled chosen place = place.key "upgradeId" := if_pos ⟨hplace, hchosen⟩
      rw [if_pos hchosen, Prerequisite.mentions, List.map_singleton, Mention.moved,
        Mention.entry, hrespelled]
      rfl
    · have hrespelled : p.respelled chosen place = place := if_neg fun h ↦ hchosen h.2
      rw [if_neg hchosen, Prerequisite.mentions, List.map_singleton, Mention.moved,
        Mention.entry, hrespelled]
  | condition c =>
    rw [Prerequisite.spelledOut, ite_self]
    -- What a condition mentions stands within its place, where no bare id stands.
    refine (Mention.map_moved_eq fun m hm ↦ respelled_of_not_mem fun hplace ↦ ?_).symm
    have hprefix : place <+: m.path := Prerequisite.mirrors.prefix_of_mem hm
    obtain ⟨i', j', u', id, hu', hr', hpath⟩ := mem_shorthands.1 hplace
    rw [hpath] at hprefix
    obtain ⟨rfl, rfl⟩ : i = i' ∧ j = j' := by simpa [place, List.cons_prefix_cons] using hprefix
    obtain rfl : u = u' := Option.some.inj (hu.symm.trans hu')
    cases hr.symm.trans hr'

theorem mentions_upgrade {i : Nat} {u : Upgrade} (hu : p.upgrades[i]? = some u) :
    let path : Path := [.key "upgrades", .index i]
    (u.spelledOut chosen path).mentions path =
      (u.mentions path).map (Mention.moved (p.respelled chosen)) := by
  intro path
  have hkept (key : String) (hkey : key ≠ "prerequisites") {ms : List Mention}
      (hms : ∀ {m}, m ∈ ms → path.key key <+: m.path) : ms.map
        (Mention.moved (p.respelled chosen)) = ms :=
    Mention.map_moved_eq fun m hm ↦ respelled_of_key hkey (hms hm)
  have hprerequisites : (path.key "prerequisites").each (u.spelledOut chosen path).prerequisites
      Prerequisite.mentions =
      ((path.key "prerequisites").each u.prerequisites Prerequisite.mentions).map
        (Mention.moved (p.respelled chosen)) := by
    rw [Path.map_each]
    exact Path.each_mapIdx fun j r hr ↦ mentions_prerequisite hu hr
  rw [Upgrade.mentions, hprerequisites, Upgrade.mentions]
  simp only [List.map_append]
  rw [hkept "targets" (by decide) UpgradeTarget.mirrors.prefix_of_mem_each,
    hkept "cost" (by decide) UpgradeCost.mirrors.prefix_of_mem,
    hkept "repeatable" (by decide) Repetition.mirrors.prefix_of_mem_optional,
    hkept "effects" (by decide) Effect.mirrors.prefix_of_mem_each]
  rw [optionalCondition,
    hkept "unlockCondition" (by decide) Condition.mirrors.prefix_of_mem_optional,
    hkept "visibilityCondition" (by decide) Condition.mirrors.prefix_of_mem_optional]
  rfl

theorem collection_spelledOut {kind : Kind} (hkind : kind ≠ .upgrade) :
    (p.spelledOut chosen).collection kind = p.collection kind := by
  cases kind with
  | upgrade => exact absurd rfl hkind
  | _ => rfl

variable (chosen : Path → Bool) (p : Pack) (allowlists : Allowlists) (c : Config)

/-- Spelled out, a pack mentions the same in the same order. -/
theorem mentions_spelledOut :
    (p.spelledOut chosen).mentions = p.mentions.map (Mention.moved (p.respelled chosen)) := by
  rw [mentions, mentions, List.map_flatMap]
  refine List.flatMap_congr fun kind _ ↦ ?_
  by_cases hkind : kind = .upgrade
  · subst hkind
    rw [Path.map_each]
    exact Path.each_mapIdx fun i u hu ↦ mentions_upgrade hu
  · rw [collection_spelledOut hkind]
    refine (Mention.map_moved_eq fun m hm ↦ respelled_of_kind hkind ?_).symm
    obtain ⟨i, e, -, hm⟩ := Path.mem_each.1 hm
    exact (List.prefix_append _ _).trans (Kind.prefix_of_mem_entryMentions hm)

theorem gates_spelledOut : (p.spelledOut chosen).gates = p.gates := by
  refine List.flatMap_congr fun kind _ ↦ ?_
  by_cases hkind : kind = .upgrade
  · subst hkind
    exact Path.each_mapIdx fun i u _ ↦ u.gates_spelledOut chosen _
  · rw [collection_spelledOut hkind]

theorem ids_spelledOut (kind : Kind) : (p.spelledOut chosen).ids kind = p.ids kind := by
  by_cases hkind : kind = .upgrade
  · subst hkind
    refine List.ext_getElem? fun i ↦ ?_
    rw [ids, ids, List.getElem?_map, List.getElem?_map]
    refine (congrArg _ List.getElem?_mapIdx).trans ?_
    rw [Option.map_map]
    rfl
  · rw [ids, collection_spelledOut hkind, ids]

theorem unlockEdges_spelledOut : (p.spelledOut chosen).unlockEdges = p.unlockEdges := by
  rw [unlockEdges, gates_spelledOut, unlockEdges]

theorem unlockGraph_spelledOut : (p.spelledOut chosen).unlockGraph = p.unlockGraph := by
  rw [unlockGraph, unlockEdges_spelledOut, unlockGraph]

theorem unlockNodes_spelledOut : (p.spelledOut chosen).unlockNodes = p.unlockNodes :=
  List.flatMap_congr fun kind _ ↦ ids_spelledOut chosen p kind

theorem unlockOrigin?_spelledOut : (p.spelledOut chosen).unlockOrigin? = p.unlockOrigin? := by
  funext source target
  rw [unlockOrigin?, unlockEdges_spelledOut, unlockOrigin?]

theorem checkCycles_spelledOut : (p.spelledOut chosen).checkCycles c = p.checkCycles c := by
  have hcycle : (p.spelledOut chosen).unlockCycle = p.unlockCycle := by
    funext cycle
    simp only [unlockCycle, unlockOrigin?_spelledOut]
  have hunlocks : (p.spelledOut chosen).checkUnlocks = p.checkUnlocks := by
    rw [checkUnlocks, unlockGraph_spelledOut, unlockNodes_spelledOut, hcycle, checkUnlocks]
  have htransforms : (p.spelledOut chosen).checkTransforms = p.checkTransforms := rfl
  rw [checkCycles, hunlocks, htransforms, checkCycles]
  rfl

theorem check_spelledOut : (Scope.ofConfig (p.spelledOut chosen) allowlists c).check =
    (Scope.ofConfig p allowlists c).check.map (Finding.moved (p.respelled chosen)) := by
  have hresolve (m : Mention) :
      (Scope.ofConfig (p.spelledOut chosen) allowlists c).resolve (m.moved (p.respelled chosen)) =
        ((Scope.ofConfig p allowlists c).resolve m).map (Finding.moved (p.respelled chosen)) := by
    rw [Scope.resolve_ofConfig, Scope.resolve_ofConfig, apply_ite (List.map _),
      List.map_singleton, List.map_nil, ← Reference.finding_moved,
      Reference.offends_congr (ids_spelledOut chosen p) rfl]
    rfl
  have hmentions : (Scope.ofConfig (p.spelledOut chosen) allowlists c).pack.mentions =
      p.mentions.map (Mention.moved (p.respelled chosen)) := mentions_spelledOut chosen p
  rw [Scope.check, hmentions, List.flatMap_map, Scope.check, List.map_flatMap]
  exact List.flatMap_congr fun m _ ↦ hresolve m

theorem checkCompatibility_spelledOut :
    (p.spelledOut chosen).checkCompatibility c = p.checkCompatibility c := by
  have hsize (kind : Kind) : (p.spelledOut chosen).size kind = p.size kind := by
    rw [size, size, ← List.length_map kind.entryId, ← List.length_map kind.entryId]
    exact congrArg List.length (ids_spelledOut chosen p kind)
  have hengine : (p.spelledOut chosen).checkEngine = p.checkEngine := rfl
  have hgate : (p.spelledOut chosen).checkGate = p.checkGate := by
    funext runtime path g
    rw [checkGate, checkGate, hsize]
  rw [checkCompatibility, checkCompatibility, hengine, hgate]

theorem checkReferences_spelledOut : (p.spelledOut chosen).checkReferences allowlists c =
    (p.checkReferences allowlists c).map (Finding.moved (p.respelled chosen)) := by
  have hcompatibility : (p.checkCompatibility c).map (Finding.moved (p.respelled chosen)) =
      p.checkCompatibility c :=
    (List.map_congr_left fun f hf ↦ Finding.moved_eq (respelled_of_step
      (getElem?_path_of_mem_checkCompatibility hf))).trans (List.map_id _)
  rw [checkReferences, checkReferences, List.map_append, hcompatibility, check_spelledOut,
    checkCompatibility_spelledOut]

/-- Spelling bare upgrade ids out, whichever of them, leaves the nodes, the edges and the origins of
the unlock graph as they are, and what is told of cycles. What is told of references is the same in
the same order, and that of a bare id that is spelled out stands one step further. -/
theorem findings_spelledOut :
    (p.spelledOut chosen).unlockNodes = p.unlockNodes ∧
    (p.spelledOut chosen).unlockEdges = p.unlockEdges ∧
    (p.spelledOut chosen).unlockGraph = p.unlockGraph ∧
    (p.spelledOut chosen).unlockOrigin? = p.unlockOrigin? ∧
    (p.spelledOut chosen).checkCycles c = p.checkCycles c ∧
    (p.spelledOut chosen).checkReferences allowlists c =
      (p.checkReferences allowlists c).map (Finding.moved (p.respelled chosen)) ∧
    ((p.spelledOut chosen).checkReferences allowlists c).map Finding.message =
      (p.checkReferences allowlists c).map Finding.message := by
  have hreferences := checkReferences_spelledOut chosen p allowlists c
  refine ⟨unlockNodes_spelledOut chosen p, unlockEdges_spelledOut chosen p,
    unlockGraph_spelledOut chosen p, unlockOrigin?_spelledOut chosen p,
    checkCycles_spelledOut chosen p c, hreferences, ?_⟩
  rw [hreferences, List.map_map]
  exact List.map_congr_left fun f _ ↦ f.message_moved _

end Pack

end GamePack
