import GamePack.Proofs.Dependency
import GamePack.Proofs.Order.Batch
import GamePack.Proofs.Siblings

namespace GamePack

namespace Dependency

variable {d : Dependency} {k : KnownPack}

theorem known?_append_of_ne (h : d.packId ≠ k.id) (known : List KnownPack) :
    d.known? (known ++ [k]) = d.known? known := by
  rw [known?, List.find?_append, List.find?_singleton, if_neg (by simpa using h.symm),
    Option.or_none, known?]

theorem warningsOf_checkConflict (known : List KnownPack) (active : List String) (path : Path) :
    warningsOf (d.checkConflict known active path) = [] := by
  unfold checkConflict
  dsimp only
  split <;> rfl

end Dependency

namespace Metadata

variable {m : Metadata} {k : KnownPack} {known : List KnownPack} {active : List String}

def strangers (m : Metadata) : List Warning :=
  (dependencyPath.key "requires").each m.dependencies.requires fun path d ↦
    if d.packId = m.id then [] else [⟨path.key "packId", .unknownDependency d.packId⟩]

theorem each_others {field : String} {entries : List Dependency}
    {check check' : Path → Dependency → List Finding}
    (h : ∀ path d, d.packId ≠ m.id → check path d = check' path d) :
    ((dependencyPath.key field).each entries fun path d ↦
        if d.packId = m.id then [] else check path d) =
      (dependencyPath.key field).each entries fun path d ↦
        if d.packId = m.id then [] else check' path d := by
  congr 1
  funext path d
  split
  · rfl
  · rename_i hd
    exact h path d hd

theorem checkConflicts_own (hk : k.id = m.id) (known : List KnownPack) :
    m.checkConflicts (known ++ [k]) active = m.checkConflicts known active :=
  each_others fun path d hd ↦ by
    rw [Dependency.checkConflict, Dependency.known?_append_of_ne (hk ▸ hd),
      Dependency.checkConflict]

theorem checkRequirements_own (hk : k.id = m.id) (hknown : known ≠ []) :
    m.checkRequirements (known ++ [k]) = m.checkRequirements known :=
  each_others fun path d hd ↦ by
    have hempty : (known ++ [k]).isEmpty = known.isEmpty := by
      rw [List.isEmpty_eq_false_iff.2 hknown, List.isEmpty_eq_false_iff]
      exact List.append_ne_nil_of_left_ne_nil hknown _
    rw [Dependency.checkRequired, Dependency.known?_append_of_ne (hk ▸ hd), hempty,
      Dependency.checkRequired]

theorem checkRequirements_nil : m.checkRequirements [] = [] := by
  have hnone : m.checkRequirements [] =
      (dependencyPath.key "requires").each m.dependencies.requires fun _ _ ↦ [] :=
    congrArg _ (funext fun path ↦ funext fun d ↦ ite_self _)
  rw [hnone, Path.each_nil]

theorem checkRequirements_singleton (hk : k.id = m.id) :
    m.checkRequirements [k] = m.strangers.map .warning := by
  have hunknown (path : Path) (d : Dependency) (hd : d.packId ≠ m.id) :
      d.checkRequired [k] path = [.notice (path.key "packId") (.unknownDependency d.packId)] := by
    have hnone : d.known? [k] = none := Dependency.known?_append_of_ne (hk ▸ hd) []
    rw [Dependency.checkRequired, hnone]
    rfl
  rw [checkRequirements, each_others hunknown, strangers, Path.each, Path.each, List.map_flatMap]
  congr 1
  funext e
  split <;> rfl

theorem dependencyCycles_own (hk : k.id = m.id) (known : List KnownPack) :
    m.dependencyCycles (known ++ [k]) = m.dependencyCycles known :=
  dependencyCycles_congr rfl rfl (by simp [hk])

theorem warningsOf_checkConflicts : warningsOf (m.checkConflicts known active) = [] := by
  have hnone : warningsOf (m.checkConflicts known active) =
      (dependencyPath.key "conflicts").each m.dependencies.conflicts fun _ _ ↦ [] := by
    rw [checkConflicts, warningsOf_each]
    congr 1
    funext path d
    split
    · rfl
    · exact Dependency.warningsOf_checkConflict known active path
  rw [hnone, Path.each_nil]

theorem checkDependencies_own (hk : k.id = m.id) (hknown : known ≠ []) :
    m.checkDependencies (known ++ [k]) active = m.checkDependencies known active := by
  rw [checkDependencies_split, checkDependencies_split, dependencyCycles_own hk,
    checkRequirements_own hk hknown, checkConflicts_own hk]

end Metadata

structure MoreWarned (more : List Warning) (fs gs : List Finding) : Prop where
  issues : issuesOf gs = issuesOf fs
  warnings : warningsOf gs = warningsOf fs ++ more

theorem MoreWarned.hasIssues {more : List Warning} {fs gs : List Finding}
    (h : MoreWarned more fs gs) : hasIssues gs = hasIssues fs := by
  rw [Bool.eq_iff_iff, ← not_iff_not, Bool.not_eq_true, Bool.not_eq_true,
    ← issuesOf_eq_nil_iff, h.issues, issuesOf_eq_nil_iff]

theorem MoreWarned.append_left {more : List Warning} {fs gs : List Finding}
    (h : MoreWarned more fs gs) (before : List Finding) :
    MoreWarned more (before ++ fs) (before ++ gs) where
  issues := by rw [issuesOf_append, issuesOf_append, h.issues]
  warnings := by rw [warningsOf_append, warningsOf_append, h.warnings, List.append_assoc]

theorem MoreWarned.refl (fs : List Finding) : MoreWarned [] fs fs := ⟨rfl, (List.append_nil _).symm⟩

namespace Metadata

variable {m : Metadata} {k : KnownPack} {known : List KnownPack} {active : List String}

/-- A pack that is the only one known is warned of all others that it requires. -/
theorem moreWarned_singleton (hk : k.id = m.id) :
    MoreWarned m.strangers (m.checkDependencies [] active) (m.checkDependencies [k] active) := by
  have hcycles : m.dependencyCycles [k] = m.dependencyCycles [] := dependencyCycles_own hk []
  have hconflicts : m.checkConflicts [k] active = m.checkConflicts [] active :=
    checkConflicts_own hk []
  rw [checkDependencies_split, checkDependencies_split, hcycles, hconflicts, checkRequirements_nil,
    checkRequirements_singleton hk]
  refine MoreWarned.append_left ?_ _
  have hissues : issuesOf (m.strangers.map .warning) = [] := by
    rw [issuesOf, List.filterMap_map]
    exact List.filterMap_eq_nil_iff.2 fun _ _ ↦ rfl
  have hwarnings : warningsOf (m.strangers.map .warning) = m.strangers := by
    rw [warningsOf, List.filterMap_map]
    exact List.filterMap_some
  constructor
  · rw [issuesOf_append, hissues]
    rfl
  · rw [warningsOf_append, hwarnings, warningsOf_checkConflicts, List.nil_append,
      warningsOf_checkConflicts]
    exact List.append_nil _

theorem moreWarned_addTo (hk : k.id = m.id) :
    MoreWarned (if known = [] then m.strangers else []) (m.checkDependencies known active)
      (m.checkDependencies (KnownPack.addTo known k) active) := by
  split
  · rename_i hempty
    rw [hempty]
    exact moreWarned_singleton hk
  · rename_i hknown
    have hsame : m.checkDependencies (KnownPack.addTo known k) active =
        m.checkDependencies known active := by
      rw [KnownPack.addTo]
      split
      · rfl
      · exact checkDependencies_own hk hknown
    rw [hsame]
    exact .refl _

end Metadata

structure Run.Extends (more : List Warning) (r r' : Run) : Prop where
  outcome : r'.outcome = r.outcome.map fun v ↦ { v with warnings := v.warnings ++ more }
  streamed : r'.streamed = r.streamed ++ more

namespace Run.Extends

variable {more : List Warning} {r r' : Run}

theorem nil_iff : Extends [] r r' ↔ r'.outcome = r.outcome ∧ r'.streamed = r.streamed := by
  have hsame : r.outcome.map (fun v ↦ { v with warnings := v.warnings ++ [] }) = r.outcome := by
    cases r.outcome with
    | error e => rfl
    | ok v => simp only [Except.map, List.append_nil]
  constructor
  · rintro ⟨houtcome, hstreamed⟩
    exact ⟨houtcome.trans hsame, hstreamed.trans (List.append_nil _)⟩
  · rintro ⟨houtcome, hstreamed⟩
    exact ⟨houtcome.trans hsame.symm, hstreamed.trans (List.append_nil _).symm⟩

theorem refl (r : Run) : Extends [] r r := nil_iff.2 ⟨rfl, rfl⟩

theorem after (h : Extends more r r') (events : List Event) :
    Extends more (r.after events) (r'.after events) where
  outcome := h.outcome
  streamed := by rw [Run.streamed_after, Run.streamed_after, h.streamed, List.append_assoc]

end Run.Extends

theorem FrozenPack.outcome_weigh_append (check : Option BalanceCheck) (settings : BalanceSettings)
    (p : FrozenPack) (warnings more : List Warning) :
    (p.weigh check settings (warnings ++ more)).outcome =
      (p.weigh check settings warnings).outcome.map fun v ↦
        { v with warnings := v.warnings ++ more } := by
  unfold weigh
  cases check with
  | none => rfl
  | some check =>
    dsimp only
    split
    · rfl
    · split <;> rfl

def Json.checked? (doc : Json) (before : List Finding) : Option Pack :=
  if hasIssues (before ++ (Pack.parse doc).2) then none else (Pack.parse doc).1

section

variable {check : Option BalanceCheck} {c : Config} {known : List KnownPack}
  {allowlists : Allowlists} {before : List Finding}

theorem Pack.extends_validate {p : Pack} {more : List Warning}
    (h : MoreWarned more (p.metadata.checkDependencies c.knownPacks c.activePackIds)
      (p.metadata.checkDependencies known c.activePackIds)) :
    (p.validate check c allowlists before).Extends more
      (p.validate check { c with knownPacks := known } allowlists before) := by
  have hchecks : MoreWarned more (p.checks allowlists c)
      (p.checks allowlists { c with knownPacks := known }) :=
    (h.append_left (p.checkTransforms ++ p.checkUnlocks)).append_left
      (p.checkReferences allowlists c)
  have hfindings := hchecks.append_left before
  constructor
  · rw [outcome_validate, outcome_validate, hfindings.hasIssues, hfindings.issues,
      hfindings.warnings, FrozenPack.outcome_weigh_append]
    split <;> rfl
  · rw [streamed_validate, streamed_validate, hchecks.warnings]

theorem Json.extends_validate {doc : Json} {more : Pack → List Warning}
    (h : ∀ p before, (Pack.parse doc).1 = some p →
      (p.validate check c allowlists before).Extends (more p)
        (p.validate check { c with knownPacks := known } allowlists before)) :
    (doc.validate check c allowlists before).Extends ((doc.checked? before).elim [] more)
      (doc.validate check { c with knownPacks := known } allowlists before) := by
  unfold validate checked?
  generalize Pack.parse doc = parsed at h ⊢
  obtain ⟨pack, findings⟩ := parsed
  refine Run.Extends.after ?_ _
  cases pack with
  | none =>
    dsimp only
    rw [ite_self]
    exact .refl _
  | some p =>
    dsimp only
    split
    · exact .refl _
    · exact h p _ rfl

end

namespace Config

/-- The pack whose checks a run comes to. Nothing but a malformed allowlist or an issue found in
parsing keeps a run from them, and then all of them are made, whatever they find. -/
def checked? (c : Config) (doc : Json) : Option Pack :=
  match Allowlists.normalize c.allowlists with
  | (dropped, .ok _) => doc.checked? dropped
  | (_, .error _) => none

/-- What a document is warned of because it is itself the only pack known: the packs
that it requires. -/
def strangers (c : Config) (doc : Json) : List Warning :=
  if c.knownPacks = [] ∧ (KnownPack.ofDocument? doc).isSome then
    (c.checked? doc).elim [] (·.metadata.strangers)
  else []

theorem extends_validate {check : Option BalanceCheck} {c : Config} {doc : Json} {k : KnownPack}
    (hk : KnownPack.ofDocument? doc = some k) : (validate check c doc).Extends (c.strangers doc)
      (validate check { c with knownPacks := KnownPack.addTo c.knownPacks k } doc) := by
  unfold validate strangers checked?
  rw [hk]
  generalize Allowlists.normalize c.allowlists = normalized
  obtain ⟨dropped, allowlists⟩ := normalized
  refine Run.Extends.after ?_ _
  cases allowlists with
  | error e =>
    dsimp only [Option.elim]
    rw [ite_self]
    exact .refl _
  | ok allowlists =>
    let more (p : Pack) : List Warning := if c.knownPacks = [] then p.metadata.strangers else []
    have hrun :
        (doc.validate check c allowlists dropped).Extends ((doc.checked? dropped).elim [] more)
        (doc.validate check { c with knownPacks := KnownPack.addTo c.knownPacks k }
          allowlists dropped) :=
      Json.extends_validate fun p before hparse ↦
        p.extends_validate (Metadata.moreWarned_addTo (KnownPack.id_of_ofDocument? hparse hk))
    by_cases hempty : c.knownPacks = []
    · rw [if_pos ⟨hempty, rfl⟩]
      simpa only [more, if_pos hempty] using hrun
    · have hnone : (doc.checked? dropped).elim [] (fun _ ↦ ([] : List Warning)) = [] := by
        cases doc.checked? dropped <;> rfl
      simp only [more, if_neg hempty, hnone] at hrun
      rwa [if_neg fun h ↦ hempty h.1]

theorem withSiblings_singleton (c : Config) (doc : Json) :
    (KnownPack.ofDocument? doc = none ∧ c.withSiblings [doc] = c) ∨ ∃ k,
      KnownPack.ofDocument? doc = some k ∧
      c.withSiblings [doc] = { c with knownPacks := KnownPack.addTo c.knownPacks k } := by
  rw [withSiblings, List.filterMap_cons]
  cases KnownPack.ofDocument? doc with
  | none => exact .inl ⟨rfl, rfl⟩
  | some k => exact .inr ⟨k, rfl, rfl⟩

theorem strangers_eq_nil {c : Config} {doc : Json}
    (h : c.knownPacks ≠ [] ∨ KnownPack.ofDocument? doc = none) : c.strangers doc = [] := by
  refine if_neg fun hboth ↦ ?_
  rcases h with hknown | hnone
  · exact hknown hboth.1
  · rw [hnone] at hboth
    cases hboth.2

theorem extends_withSiblings_singleton (check : Option BalanceCheck) (c : Config) (doc : Json) :
    (validate check c doc).Extends (c.strangers doc)
      (validate check (c.withSiblings [doc]) doc) := by
  rcases c.withSiblings_singleton doc with ⟨hnone, hsame⟩ | ⟨k, hk, hadded⟩
  · rw [hsame, strangers_eq_nil (.inr hnone)]
    exact .refl _
  · rw [hadded]
    exact extends_validate hk

end Config

namespace Report

/-- A batch of one comes to what its document comes to alone, but for the packs that it is warned of
because it is itself the only pack known. -/
theorem ofDocuments_singleton (check : Option BalanceCheck) (c : Config) (path : String)
    (doc : Json) :
    ∃ r, ofDocuments check c [(path, doc)] = [r] ∧ r.path = path ∧ r.packId = doc.packId? ∧
      (ofDocument check c path doc).run.Extends (c.strangers doc) r.run ∧
      (c.knownPacks ≠ [] ∨ KnownPack.ofDocument? doc = none →
        r.run.outcome = (ofDocument check c path doc).run.outcome ∧
        r.run.streamed = (ofDocument check c path doc).run.streamed) := by
  have hextends := c.extends_withSiblings_singleton check doc
  refine ⟨ofDocument check (c.withSiblings [doc]) path doc, rfl, rfl, rfl, hextends, fun h ↦ ?_⟩
  rw [Config.strangers_eq_nil h] at hextends
  exact Run.Extends.nil_iff.1 hextends

def needy : Member :=
  .ofDocument "p.json" (Member.requiring "p" (.obj [("packId", .str "core")])) (by decide +kernel)
    (by decide +kernel)

theorem exists_ok_needy :
    ∃ v, (ofDocument none .initial needy.path needy.doc).run.outcome = .ok v := by
  have htransforms : needy.pack.transformGraph.cycles (needy.pack.ids .transform) .first = [] :=
    Graph.cycles_of_cyclesWithin (n := 3) (by decide +kernel)
  have hunlocks : needy.pack.unlockGraph.cycles needy.pack.unlockNodes .first = [] :=
    Graph.cycles_of_cyclesWithin (n := 3) (by decide +kernel)
  have hpacks :
      (needy.pack.metadata.dependencyGraph []).cycles [needy.pack.metadata.id] .first = [] :=
    Graph.cycles_of_cyclesWithin (n := 5) (by decide +kernel)
  have hcycles : hasIssues (needy.pack.checkCycles .initial) = false :=
    Pack.hasIssues_checkCycles_of_acyclic htransforms hunlocks hpacks (by decide +kernel)
      (by decide +kernel)
  exact exists_ok_of_clean rfl rfl needy.parsed (by decide +kernel) (by decide +kernel) hcycles

theorem ofDocuments_singleton_known :
    let c : Config := { Config.initial with knownPacks := [⟨"core", "1.0.0", []⟩] }
    c.knownPacks ≠ [] ∧ ∃ r, ofDocuments none c [(needy.path, needy.doc)] = [r] ∧
      r.run.outcome = (ofDocument none c needy.path needy.doc).run.outcome := by
  intro c
  have hknown : c.knownPacks ≠ [] := List.cons_ne_nil _ _
  obtain ⟨r, hr, -, -, -, hsame⟩ := ofDocuments_singleton none c needy.path needy.doc
  exact ⟨hknown, r, hr, (hsame (.inl hknown)).1⟩

/-- The pack is accepted alone and in a batch of one, but only the batch warns of the pack
that it requires. -/
theorem ofDocuments_singleton_warned :
    let path : Path :=
      [.key "metadata", .key "dependencies", .key "requires", .index 0, .key "packId"]
    ∃ v w r, (ofDocument none .initial needy.path needy.doc).run.outcome = .ok v ∧
      ofDocuments none .initial [(needy.path, needy.doc)] = [r] ∧ r.run.outcome = .ok w ∧
      w.warnings = v.warnings ++ [⟨path, .unknownDependency "core"⟩] := by
  intro path
  obtain ⟨v, hv⟩ := exists_ok_needy
  have hstrangers : Config.initial.strangers needy.doc = [⟨path, .unknownDependency "core"⟩] := by
    decide +kernel
  have houtcome := (Config.initial.extends_withSiblings_singleton none needy.doc).outcome
  rw [show (validate none Config.initial needy.doc).outcome = .ok v from hv, hstrangers] at houtcome
  let r := ofDocument none (Config.initial.withSiblings [needy.doc]) needy.path needy.doc
  exact ⟨v, _, r, hv, rfl, houtcome, rfl⟩

end Report

end GamePack
