import GamePack.Proofs.Validation

namespace GamePack

def heard (events : List Event) : List Warning := events.filterMap Event.streamed?

section

variable {events rest : List Event}

theorem heard_append : heard (events ++ rest) = heard events ++ heard rest := List.filterMap_append

theorem heard_found (fs : List Finding) : heard (fs.map Event.found) = warningsOf fs := by
  rw [heard, List.filterMap_map]
  rfl

theorem heard_cons_silent {e : Event} (he : e.streamed? = none) : heard (e :: rest) = heard rest :=
  List.filterMap_cons_none he

theorem heard_eq_nil (h : ∀ e ∈ events, e.streamed? = none) : heard events = [] :=
  List.filterMap_eq_nil_iff.2 h

theorem Run.streamed_reject (packId : Option String) (findings : List Finding) :
    (reject packId findings).streamed = [] := rfl

theorem Run.streamed_after (r : Run) : (r.after events).streamed = heard events ++ r.streamed :=
  heard_append

end

theorem FrozenPack.streamed_weigh (check : Option BalanceCheck) (settings : BalanceSettings)
    (p : FrozenPack) (warnings : List Warning) :
    (p.weigh check settings warnings).streamed = [] := by
  have hsilent (report : BalanceReport) :
      heard (.balanceChecked p.id report.warnings.length report.errors.length ::
        report.warnings.map Event.balanceWarning) = [] :=
    heard_eq_nil fun e he ↦ by
      rcases List.mem_cons.1 he with rfl | he
      · rfl
      · obtain ⟨issue, -, rfl⟩ := List.mem_map.1 he
        rfl
  unfold weigh
  split
  · rfl
  · split
    · rfl
    · dsimp only
      split
      · exact hsilent _
      · rw [Run.streamed_after, hsilent]
        rfl

theorem FrozenPack.weigh_ne_rejected (check : Option BalanceCheck) (settings : BalanceSettings)
    (p : FrozenPack) (warnings : List Warning) (packId : Option String) (issues : List Issue) :
    (p.weigh check settings warnings).outcome ≠ .error (.rejected packId issues) := by
  intro heq
  unfold weigh at heq
  split at heq
  · cases heq
  · split at heq
    · cases heq
    · dsimp only at heq
      split at heq <;> cases heq

variable {check : Option BalanceCheck} {c : Config} {allowlists : Allowlists}
  {before : List Finding}

namespace Pack

variable (p : Pack)

def checks (allowlists : Allowlists) (c : Config) : List Finding :=
  p.checkReferences allowlists c ++ p.checkCycles c

theorem outcome_validate : (p.validate check c allowlists before).outcome =
    if hasIssues (before ++ p.checks allowlists c) then
      .error (.rejected p.id (issuesOf (before ++ p.checks allowlists c)))
    else ((FrozenPack.ofPack p).weigh check c.balance
      (warningsOf (before ++ p.checks allowlists c))).outcome := by
  rw [checks, ← List.append_assoc]
  unfold validate
  dsimp only
  split <;> rfl

theorem streamed_validate : (p.validate check c allowlists before).streamed =
    warningsOf (p.checks allowlists c) := by
  have hstages (rest : List Event) : heard (.parsed p.id (warningsOf before).length ::
      (p.checkReferences allowlists c).map Event.found ++
        .referencesChecked p.id (issuesOf (before ++ p.checkReferences allowlists c)).length
          (warningsOf (before ++ p.checkReferences allowlists c)).length ::
        (p.checkCycles c).map Event.found ++ rest) =
      warningsOf (p.checks allowlists c) ++ heard rest := by
    rw [heard_append, heard_append, heard_cons_silent rfl, heard_cons_silent rfl,
      heard_found, heard_found, checks, warningsOf_append (p.checkReferences allowlists c)]
  unfold validate
  dsimp only
  split
  · rw [Run.streamed_after, Run.streamed_reject, List.append_nil, hstages]
    exact List.append_nil _
  · rw [Run.streamed_after, FrozenPack.streamed_weigh, List.append_nil, List.append_assoc, hstages]
    exact List.append_nil _

end Pack

namespace Json

variable (doc : Json)

theorem outcome_validate : (doc.validate check c allowlists before).outcome =
    let findings := before ++ (Pack.parse doc).2
    match (Pack.parse doc).1 with
    | some p =>
      if hasIssues findings then .error (.rejected doc.packId? (issuesOf findings))
      else (p.validate check c allowlists findings).outcome
    | none => .error (.rejected doc.packId? (issuesOf findings)) := by
  unfold validate
  generalize Pack.parse doc = parsed
  obtain ⟨pack, findings⟩ := parsed
  cases pack with
  | none => rfl
  | some p =>
    dsimp only [Run.after]
    split <;> rfl

def checks (allowlists : Allowlists) (c : Config) (before : List Finding) : List Finding :=
  (Pack.parse doc).2 ++
    match (Pack.parse doc).1 with
    | some p => if hasIssues (before ++ (Pack.parse doc).2) then [] else p.checks allowlists c
    | none => []

theorem streamed_validate : (doc.validate check c allowlists before).streamed =
    warningsOf (doc.checks allowlists c before) := by
  unfold validate checks
  generalize Pack.parse doc = parsed
  obtain ⟨pack, findings⟩ := parsed
  dsimp only
  rw [Run.streamed_after, heard_found, warningsOf_append]
  cases pack with
  | none => rfl
  | some p =>
    dsimp only
    split
    · rfl
    · rw [Pack.streamed_validate]

end Json

section

variable {doc : Json} (hnormal : Allowlists.normalize c.allowlists = (before, .ok allowlists))

include hnormal

theorem outcome_validate :
    (validate check c doc).outcome = (doc.validate check c allowlists before).outcome := by
  rw [validate, hnormal]
  rfl

theorem streamed_validate :
    (validate check c doc).streamed = warningsOf (before ++ doc.checks allowlists c before) := by
  rw [validate, hnormal, Run.streamed_after, heard_found, Json.streamed_validate,
    ← warningsOf_append]

end

/-- A pack that is accepted has the warnings with it that a listener heard. -/
theorem warnings_of_validate {doc : Json} {v : Validated}
    (h : (validate check c doc).outcome = .ok v) :
    v.warnings = (validate check c doc).streamed := by
  obtain ⟨dropped, allowlists, hnormal⟩ : ∃ dropped allowlists,
      Allowlists.normalize c.allowlists = (dropped, .ok allowlists) := by
    unfold validate at h
    generalize Allowlists.normalize c.allowlists = normalized at h ⊢
    obtain ⟨dropped, allowlists⟩ := normalized
    cases allowlists with
    | error e => cases h
    | ok allowlists => exact ⟨dropped, allowlists, rfl⟩
  rw [outcome_validate hnormal, Json.outcome_validate] at h
  rw [streamed_validate hnormal, Json.checks]
  generalize Pack.parse doc = parsed at h ⊢
  obtain ⟨pack, findings⟩ := parsed
  cases pack with
  | none => cases h
  | some p =>
    dsimp only at h ⊢
    split at h
    · cases h
    · rename_i hissues
      rw [if_neg hissues, ← List.append_assoc]
      rw [Pack.outcome_validate] at h
      split at h
      · cases h
      · exact (FrozenPack.of_weigh h).2

theorem validate_of_silent {doc : Json} {p : Pack} {c : Config} {allowlists : Allowlists}
    (hnormal : Allowlists.normalize c.allowlists = ([], .ok allowlists))
    (hparse : (Pack.parse doc).1 = some p) (hstructure : Structure.check p = [])
    (hchecks : p.checks allowlists c = []) :
    (validate none c doc).outcome = .ok ⟨.ofPack p, [], .clean⟩ := by
  have hfound : (Pack.parse doc).2 = [] := (Pack.check_of_parse hparse).trans hstructure
  rw [outcome_validate hnormal, Json.outcome_validate, hparse, hfound]
  dsimp only
  rw [Pack.outcome_validate, hchecks]
  rfl

end GamePack
