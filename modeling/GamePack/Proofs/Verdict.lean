import GamePack.Proofs.Cache
import GamePack.Report

namespace GamePack

namespace Pack

variable {doc : Json}

theorem issue?_of_mem_unread {fields : List (String × Json)} {f : Finding}
    (hf : f ∈ unread fields) :
    f.issue?.isSome := by
  have herror {α : Type} (entry : Except Issue α) (h : error? entry = some f) :
      f.issue?.isSome := by
    cases entry with
    | ok a => cases h
    | error i =>
      obtain rfl := Option.some_inj.1 h
      rfl
  rw [unread, List.mem_append, List.mem_append, Option.mem_toList, List.mem_flatMap] at hf
  obtain (hkey | hmetadata) | ⟨kind, -, hentry⟩ := hf
  · obtain ⟨field, -, rfl⟩ := List.mem_map.1 hkey
    rfl
  · exact herror _ hmetadata
  · obtain ⟨entry, -, hentry⟩ := List.mem_filterMap.1 hentry
    exact herror _ hentry

theorem hasIssues_of_parse (h : (parse doc).1 = none) : hasIssues (parse doc).2 = true := by
  cases doc with
  | obj fields =>
    obtain ⟨-, hsome⟩ | ⟨hne, hparse⟩ := parse_obj fields
    · rw [h] at hsome
      cases hsome
    · obtain ⟨f, hf⟩ := List.exists_mem_of_ne_nil _ hne
      rw [hparse]
      exact List.any_eq_true.2 ⟨f, hf, issue?_of_mem_unread hf⟩
  | _ => rfl

end Pack

def Outcome.Speaks (o : Outcome) : Prop := ∀ packId, o ≠ .error (.rejected packId [])

section

variable {check : Option BalanceCheck} {c : Config} {allowlists : Allowlists}
  {before findings : List Finding}

theorem Outcome.speaks_of_hasIssues (packId : Option String) (h : hasIssues findings = true) :
    Outcome.Speaks (.error (.rejected packId (issuesOf findings))) := by
  intro packId' heq
  have hnil : issuesOf findings = [] := (Failure.rejected.inj (Except.error.inj heq)).2
  rw [issuesOf_eq_nil_iff.1 hnil] at h
  cases h

theorem Pack.speaks_validate (p : Pack) :
    Outcome.Speaks (p.validate check c allowlists before).outcome := by
  rw [outcome_validate]
  split
  · rename_i hissues
    exact Outcome.speaks_of_hasIssues _ hissues
  · exact fun packId ↦ FrozenPack.weigh_ne_rejected _ _ _ _ packId []

theorem Json.speaks_validate (doc : Json) :
    Outcome.Speaks (doc.validate check c allowlists before).outcome := by
  rw [outcome_validate]
  cases hparse : (Pack.parse doc).1 with
  | none =>
    have hfindings : hasIssues (before ++ (Pack.parse doc).2) = true := by
      rw [hasIssues, List.any_append, Bool.or_eq_true]
      exact .inr (Pack.hasIssues_of_parse hparse)
    exact Outcome.speaks_of_hasIssues _ hfindings
  | some p =>
    dsimp only
    split
    · rename_i hissues
      exact Outcome.speaks_of_hasIssues _ hissues
    · exact p.speaks_validate

theorem speaks_validate (check : Option BalanceCheck) (c : Config) (doc : Json) :
    Outcome.Speaks (validate check c doc).outcome := by
  cases hnormal : Allowlists.normalize c.allowlists with
  | mk dropped allowlists =>
    cases allowlists with
    | ok allowlists =>
      rw [outcome_validate hnormal]
      exact doc.speaks_validate
    | error e =>
      rw [validate, hnormal]
      intro packId heq
      cases heq

end

namespace Cache

def serve (cache : Cache) (check : Option BalanceCheck) : Request → Cache
  | .validate c doc => (cache.validate check c doc).1
  | .clear => cache.clear

/-- The cache after some uses. Not all who share it need have the same check. -/
def ofUses (uses : List (Option BalanceCheck × Request)) : Cache :=
  uses.foldl (fun cache u ↦ cache.serve u.1 u.2) .empty

def Speaks (cache : Cache) : Prop :=
  ∀ key outcome, cache.get? key = some outcome → Outcome.Speaks outcome

variable {cache : Cache} {check : Option BalanceCheck} {c : Config} {doc : Json}

theorem Speaks.validate (h : cache.Speaks) :
    (cache.validate check c doc).1.Speaks ∧
    Outcome.Speaks (cache.validate check c doc).2.outcome := by
  cases hkey : cache.get? (.of c doc) with
  | some outcome =>
    -- The outcome was computed for the key, maybe by someone with another check.
    rw [validate_of_some hkey]
    exact ⟨h, h _ _ hkey⟩
  | none =>
    rw [validate_of_none hkey]
    refine ⟨?_, speaks_validate check c doc⟩
    intro key outcome hfound
    rw [get?_insert] at hfound
    split at hfound
    · rw [← Option.some_inj.1 hfound]
      exact speaks_validate check c doc
    · exact h key outcome hfound

theorem Speaks.serve (h : cache.Speaks) (r : Request) : (cache.serve check r).Speaks := by
  cases r with
  | validate c doc => exact h.validate.1
  | clear => exact fun key outcome hkey ↦ by cases hkey

theorem speaks_ofUses (uses : List (Option BalanceCheck × Request)) : (ofUses uses).Speaks := by
  induction uses using List.reverseRecOn with
  | nil => exact fun key outcome hkey ↦ by cases hkey
  | append_singleton uses u ih =>
    rw [ofUses, List.foldl_concat]
    exact ih.serve u.2

end Cache

structure Options where
  check : Option BalanceCheck
  config : Config
  uses : Option (List (Option BalanceCheck × Request))

namespace Options

def validate (o : Options) (doc : Json) : Run :=
  match o.uses with
  | none => GamePack.validate o.check o.config doc
  | some uses => ((Cache.ofUses uses).validate o.check o.config doc).2

def report (o : Options) (path : String) (doc : Json) : Report :=
  ⟨path, doc.packId?, o.validate doc⟩

theorem speaks_validate (o : Options) (doc : Json) : Outcome.Speaks (o.validate doc).outcome := by
  rw [validate]
  cases o.uses with
  | none => exact GamePack.speaks_validate o.check o.config doc
  | some uses => exact (Cache.speaks_ofUses uses).validate.2

end Options

inductive Verdict
  | accepted
  | rejected
  | failed
deriving DecidableEq

namespace Verdict

def ofOutcome : Outcome → Verdict
  | .ok _ => accepted
  | .error (.rejected ..) => rejected
  | .error (.unbalanced ..) | .error (.badAllowlist _) => failed

end Verdict

namespace Report

def Says (r : Report) : Verdict → Prop
  | .accepted => r.isValid ∧ r.digest?.isSome ∧ r.summary.issues = [] ∧ r.summary.error = none
  | .rejected => r.summary.issues ≠ [] ∧ ¬ r.isValid ∧ r.digest? = none ∧ r.summary.error = none
  | .failed => r.summary.error.isSome ∧ ¬ r.isValid ∧ r.digest? = none ∧ r.summary.issues = []

theorem says_iff {r : Report} {verdict : Verdict} (h : Outcome.Speaks r.run.outcome) :
    r.Says verdict ↔ verdict = .ofOutcome r.run.outcome := by
  obtain ⟨path, packId, events, outcome⟩ := r
  match outcome with
  | .ok _ | .error (.unbalanced ..) | .error (.badAllowlist _) =>
    cases verdict <;>
      simp [Says, isValid, digest?, summary, Summary.ofOutcome, Verdict.ofOutcome, Failure.issues]
  | .error (.rejected packId issues) =>
    have hissues : issues ≠ [] := by
      rintro rfl
      exact h packId rfl
    cases verdict <;>
      simp [Says, isValid, digest?, summary, Summary.ofOutcome, Verdict.ofOutcome,
        Failure.issues, hissues]

end Report

/-- No document is rejected without an issue, and each report says exactly one thing. -/
theorem Options.existsUnique_says (o : Options) (path : String) (doc : Json) :
    (∀ packId, (o.validate doc).outcome ≠ .error (.rejected packId [])) ∧
      ∃! verdict, (o.report path doc).Says verdict := by
  have hspeaks := o.speaks_validate doc
  refine ⟨hspeaks, .ofOutcome (o.validate doc).outcome, (Report.says_iff hspeaks).2 rfl, ?_⟩
  exact fun verdict hsays ↦ (Report.says_iff hspeaks).1 hsays

end GamePack
