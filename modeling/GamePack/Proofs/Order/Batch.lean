import GamePack.Proofs.Graph.Searched
import GamePack.Proofs.Order.PackCycle
import GamePack.Proofs.Siblings

namespace GamePack

/-- Lists of known packs with the same packs, in which each id is looked up to the same one. -/
structure KnownPack.Interchangeable (known known' : List KnownPack) : Prop where
  mem_iff : ∀ k, k ∈ known ↔ k ∈ known'
  find?_eq : ∀ id, known.find? (·.id = id) = known'.find? (·.id = id)

namespace KnownPack.Interchangeable

variable {known known' : List KnownPack}

theorem isEmpty_eq (h : Interchangeable known known') : known.isEmpty = known'.isEmpty := by
  rw [Bool.eq_iff_iff, List.isEmpty_iff, List.isEmpty_iff, List.eq_nil_iff_forall_not_mem,
    List.eq_nil_iff_forall_not_mem]
  simp only [h.mem_iff]

theorem of_perm {packs packs' : List KnownPack} (h : packs.Perm packs')
    (hnodup : (packs.map (·.id)).Nodup) :
    Interchangeable (packs.foldl addTo known) (packs'.foldl addTo known) := by
  rw [foldl_addTo_eq_filter hnodup, foldl_addTo_eq_filter ((h.map _).nodup_iff.1 hnodup)]
  -- Which packs are added depends on those known before alone, and no two of them share an id.
  have hadded := h.filter fun k ↦ !known.any (·.id = k.id)
  have hdistinct : ((packs.filter fun k ↦ !known.any (·.id = k.id)).map (·.id)).Nodup :=
    hnodup.sublist (List.filter_sublist.map _)
  constructor
  · intro k
    rw [List.mem_append, List.mem_append, hadded.mem_iff]
  · intro id
    rw [List.find?_append, List.find?_append, find?_key_perm hadded hdistinct]

variable (h : Interchangeable known known')

include h

theorem known? (d : Dependency) : d.known? known = d.known? known' := h.find?_eq d.packId

theorem checkOthers (m : Metadata) (active : List String) :
    m.checkOthers known active = m.checkOthers known' active := by
  have hrequired : Dependency.checkRequired known = Dependency.checkRequired known' := by
    funext path d
    rw [Dependency.checkRequired, h.known?, h.isEmpty_eq, Dependency.checkRequired]
  have hconflict :
      Dependency.checkConflict known active = Dependency.checkConflict known' active := by
    funext path d
    rw [Dependency.checkConflict, h.known?, Dependency.checkConflict]
  rw [Metadata.checkOthers, hrequired, hconflict, Metadata.checkOthers]

theorem length_cycles (m : Metadata) :
    ((m.dependencyGraph known).cycles (m.id :: known.map (·.id)) .first).length =
      ((m.dependencyGraph known').cycles (m.id :: known'.map (·.id)) .first).length := by
  refine Graph.length_cycles_first_eq (fun a b ↦ ?_) fun id ↦ ?_
  · simp only [Metadata.edge_dependencyGraph_iff, h.mem_iff]
  · simp only [List.mem_cons, List.mem_map, h.mem_iff]

end KnownPack.Interchangeable

def Issue.packCycle (cycle : List String) : Issue :=
  ⟨Metadata.dependencyPath.key "requires", .packCycle cycle⟩

/-- The same issues, of which at most one tells of a cycle of packs, and may tell of another. -/
inductive SameIssues : List Issue → List Issue → Prop
  | same {issues : List Issue} : (∀ i ∈ issues, i.tellsPackCycle = false) → SameIssues issues issues
  | cycle {before after : List Issue} (cycle cycle' : List String) :
      (∀ i ∈ before ++ after, i.tellsPackCycle = false) →
      SameIssues (before ++ .packCycle cycle :: after) (before ++ .packCycle cycle' :: after)

theorem SameIssues.eq_nil_iff {issues issues' : List Issue} (h : SameIssues issues issues') :
    issues = [] ↔ issues' = [] := by
  cases h with
  | same => rfl
  | cycle => simp

structure SameFindings (fs gs : List Finding) : Prop where
  issues : SameIssues (issuesOf fs) (issuesOf gs)
  warnings : warningsOf fs = warningsOf gs

theorem issuesOf_append (fs gs : List Finding) : issuesOf (fs ++ gs) = issuesOf fs ++ issuesOf gs :=
  List.filterMap_append

namespace SameFindings

variable {fs gs before after : List Finding} {c c' : Config} {allowlists : Allowlists}

theorem refl (h : Spares fs) : SameFindings fs fs := ⟨.same h.issuesOf, rfl⟩

theorem hasIssues (h : SameFindings fs gs) : hasIssues fs = hasIssues gs := by
  have hnil := h.issues.eq_nil_iff
  rw [issuesOf_eq_nil_iff, issuesOf_eq_nil_iff] at hnil
  rw [Bool.eq_iff_iff, ← not_iff_not, Bool.not_eq_true, Bool.not_eq_true, hnil]

theorem cycles {cycles cycles' : List (List String)} (hbefore : Spares before)
    (hafter : Spares after) (hlength : cycles.length = cycles'.length) (hone : cycles.length ≤ 1) :
    SameFindings (before ++ cycles.map (fun cycle ↦ .issue (.packCycle cycle)) ++ after)
      (before ++ cycles'.map (fun cycle ↦ .issue (.packCycle cycle)) ++ after) := by
  have hspares : ∀ i ∈ issuesOf before ++ issuesOf after, i.tellsPackCycle = false :=
    List.forall_mem_append.2 ⟨hbefore.issuesOf, hafter.issuesOf⟩
  -- The other lengths are excluded by the bound and the equality.
  match cycles, cycles' with
  | [], [] => exact .refl (.append (.append hbefore .nil) hafter)
  | [cycle], [cycle'] =>
    constructor
    · simp only [issuesOf_append, List.append_assoc]
      exact .cycle cycle cycle' hspares
    · simp only [warningsOf_append]
      rfl

theorem checks (p : Pack) (hbefore : Spares before) {known known' : List KnownPack}
    (h : KnownPack.Interchangeable known known') :
    SameFindings (before ++ p.checks allowlists { c with knownPacks := known })
      (before ++ p.checks allowlists { c with knownPacks := known' }) := by
  have hchecks (known : List KnownPack) :
      before ++ p.checks allowlists { c with knownPacks := known } =
      before ++ p.checksBefore allowlists c ++ p.metadata.dependencyCycles known ++
        p.metadata.checkOthers known c.activePackIds := by
    rw [Pack.checks_eq, ← List.append_assoc, ← List.append_assoc]
    rfl
  rw [hchecks, hchecks, h.checkOthers]
  exact cycles (.append hbefore (p.spares_checksBefore allowlists c))
    (p.metadata.spares_checkOthers _ _)
    (h.length_cycles p.metadata) (Graph.length_cycles_first_le _ _)

end SameFindings

inductive Outcome.Agrees : Outcome → Outcome → Prop
  | accepted (v : Validated) : Agrees (.ok v) (.ok v)
  | rejected (packId : Option String) {issues issues' : List Issue} : SameIssues issues issues' →
      Agrees (.error (.rejected packId issues)) (.error (.rejected packId issues'))
  | unbalanced (packId : String) (errors : List BalanceIssue) :
      Agrees (.error (.unbalanced packId errors)) (.error (.unbalanced packId errors))
  | badAllowlist (e : AllowlistError) : Agrees (.error (.badAllowlist e)) (.error (.badAllowlist e))

structure Run.Agrees (r r' : Run) : Prop where
  outcome : Outcome.Agrees r.outcome r'.outcome
  streamed : r.streamed = r'.streamed

structure Report.Agrees (r r' : Report) : Prop where
  path : r.path = r'.path
  packId : r.packId = r'.packId
  run : r.run.Agrees r'.run

section

variable {check : Option BalanceCheck} {c : Config} {allowlists : Allowlists}
  {before : List Finding} {known known' : List KnownPack}
  (h : KnownPack.Interchangeable known known')

theorem FrozenPack.agrees_weigh (check : Option BalanceCheck) (settings : BalanceSettings)
    (p : FrozenPack) (warnings : List Warning) :
    Outcome.Agrees (p.weigh check settings warnings).outcome
      (p.weigh check settings warnings).outcome := by
  cases houtcome : (p.weigh check settings warnings).outcome with
  | ok v => exact .accepted v
  | error e =>
    cases e with
    | rejected packId issues =>
      exact absurd houtcome (p.weigh_ne_rejected check settings warnings packId issues)
    | unbalanced packId errors => exact .unbalanced packId errors
    | badAllowlist e => exact .badAllowlist e

include h

theorem Pack.agrees_validate (p : Pack) (hbefore : Spares before) :
    Outcome.Agrees (p.validate check { c with knownPacks := known } allowlists before).outcome
      (p.validate check { c with knownPacks := known' } allowlists before).outcome := by
  have hchecks : SameFindings (before ++ p.checks allowlists { c with knownPacks := known })
    (before ++ p.checks allowlists { c with knownPacks := known' }) := .checks p hbefore h
  rw [outcome_validate, outcome_validate, hchecks.hasIssues, hchecks.warnings]
  split
  · exact .rejected _ hchecks.issues
  · exact FrozenPack.agrees_weigh ..

theorem Json.agrees_validate (doc : Json) (hbefore : Spares before) :
    (doc.validate check { c with knownPacks := known } allowlists before).Agrees
      (doc.validate check { c with knownPacks := known' } allowlists before) := by
  have hfindings : Spares (before ++ (Pack.parse doc).2) := .append hbefore (Pack.spares_parse doc)
  constructor
  · rw [outcome_validate, outcome_validate]
    dsimp only
    split
    · split
      · exact .rejected _ (.same hfindings.issuesOf)
      · exact Pack.agrees_validate h _ hfindings
    · exact .rejected _ (.same hfindings.issuesOf)
  · rw [streamed_validate, streamed_validate, checks, checks, warningsOf_append, warningsOf_append]
    congr 1
    split
    · split
      · rfl
      · exact (SameFindings.checks _ .nil h).warnings
    · rfl

theorem agrees_validate (doc : Json) :
    (validate check { c with knownPacks := known } doc).Agrees
      (validate check { c with knownPacks := known' } doc) := by
  have hdropped := Allowlists.spares_normalize c.allowlists
  cases hnormal : Allowlists.normalize c.allowlists with
  | mk dropped allowlists =>
    rw [hnormal] at hdropped
    cases allowlists with
    | error e =>
      rw [validate, validate, hnormal]
      exact ⟨.badAllowlist e, rfl⟩
    | ok allowlists =>
      have hrest : (doc.validate check { c with knownPacks := known } allowlists dropped).Agrees
        (doc.validate check { c with knownPacks := known' } allowlists dropped) :=
          doc.agrees_validate h hdropped
      rw [validate, validate, hnormal]
      constructor
      · exact hrest.outcome
      · rw [Run.streamed_after, Run.streamed_after, hrest.streamed]

end

/-- In whatever order documents are validated together, each has the same report, but for the
ids on a cycle. -/
theorem Report.agrees_ofDocuments (check : Option BalanceCheck) (c : Config)
    {files files' : List (String × Json)} (h : files.Perm files')
    (hids : (((files.map (·.2)).filterMap KnownPack.ofDocument?).map (·.id)).Nodup) {i j : Nat}
    {file : String × Json} (hi : files[i]? = some file) (hj : files'[j]? = some file) :
    ∃ r r', (ofDocuments check c files)[i]? = some r ∧ (ofDocuments check c files')[j]? = some r' ∧
      r.Agrees r' := by
  have hknown : KnownPack.Interchangeable (c.withSiblings (files.map (·.2))).knownPacks
      (c.withSiblings (files'.map (·.2))).knownPacks :=
    .of_perm ((h.map (·.2)).filterMap KnownPack.ofDocument?) hids
  let report (files : List (String × Json)) :=
    ofDocument check (c.withSiblings (files.map (·.2))) file.1 file.2
  have hpath (files : List (String × Json)) : (report files).path = file.1 := rfl
  have hpackId (files : List (String × Json)) : (report files).packId = file.2.packId? := rfl
  have hrun : (report files).run.Agrees (report files').run := agrees_validate hknown file.2
  refine ⟨report files, report files', ?_, ?_, ?_⟩
  · rw [ofDocuments, List.getElem?_map, hi]
    rfl
  · rw [ofDocuments, List.getElem?_map, hj]
    rfl
  · exact ⟨(hpath _).trans (hpath _).symm, (hpackId _).trans (hpackId _).symm, hrun⟩

namespace Member

def files : List (String × Json) :=
  [(named.path, named.doc), (partner.path, partner.doc), ("c.json", .null)]

end Member

theorem Report.agrees_ofDocuments_reverse :
    (((Member.files.map (·.2)).filterMap KnownPack.ofDocument?).map (·.id)).Nodup ∧
      Member.files.Perm Member.files.reverse ∧ ∃ r r',
        (ofDocuments none .initial Member.files)[0]? = some r ∧
        (ofDocuments none .initial Member.files.reverse)[2]? = some r' ∧ r.Agrees r' := by
  have hids : (((Member.files.map (·.2)).filterMap KnownPack.ofDocument?).map (·.id)).Nodup := by
    decide +kernel
  have hperm : Member.files.Perm Member.files.reverse := (List.reverse_perm _).symm
  exact ⟨hids, hperm, agrees_ofDocuments none .initial hperm hids rfl rfl⟩

end GamePack
