import GamePack.Proofs.Finding
import GamePack.Proofs.Parse
import GamePack.Validation

namespace GamePack

theorem AllowlistSpec.hasIssues_dropped (category : Category) (s : AllowlistSpec) :
    hasIssues (s.dropped category) = false := by
  rw [hasIssues_eq_false]
  intro f hf
  obtain ⟨_, -, rfl⟩ := List.mem_map.1 hf
  rfl

theorem AllowlistSpec.invalid_eq_nil {s : AllowlistSpec} :
    s.invalid = [] ↔ ∀ id ∈ s.required, Id.isValid id := by
  rw [invalid, List.map_eq_nil_iff, List.filter_eq_nil_iff]
  constructor
  · intro h id hid
    obtain ⟨i, hi⟩ := List.mem_iff_getElem?.1 hid
    simpa using h (id, i) (List.mem_zipIdx_iff_getElem?.2 hi)
  · rintro h ⟨id, i⟩ hid
    simpa using h id (List.mem_of_getElem? (List.mem_zipIdx_iff_getElem?.1 hid))

def AllowlistSpecs.WellFormed (specs : AllowlistSpecs) : Prop :=
  ∀ category spec, specs.get category = some spec → ∀ id ∈ spec.required, Id.isValid id

theorem Allowlists.normalizeOne_ok {specs : AllowlistSpecs} (h : specs.WellFormed)
    (category : Category) :
    ∃ found allowlist, normalizeOne specs category = (found, .ok allowlist) ∧
      hasIssues found = false := by
  unfold normalizeOne
  cases hspec : specs.get category with
  | none => exact ⟨[], none, rfl, rfl⟩
  | some spec =>
    have hnil := AllowlistSpec.invalid_eq_nil.2 (h category spec hspec)
    dsimp only
    rw [AllowlistSpec.normalize, hnil]
    exact ⟨_, _, rfl, spec.hasIssues_dropped category⟩

theorem Allowlists.normalize_ok {specs : AllowlistSpecs} (h : specs.WellFormed) :
    ∃ dropped allowlists, normalize specs = (dropped, .ok allowlists) ∧
      hasIssues dropped = false := by
  obtain ⟨flags, a, hflags, hflags'⟩ := normalizeOne_ok h .flags
  obtain ⟨scripts, b, hscripts, hscripts'⟩ := normalizeOne_ok h .scripts
  obtain ⟨targets, d, htargets, htargets'⟩ := normalizeOne_ok h .systemTargets
  rw [normalize, hflags, hscripts, htargets]
  exact ⟨_, _, rfl, hasIssues_append.2 ⟨hasIssues_append.2 ⟨hflags', hscripts'⟩, htargets'⟩⟩

theorem FrozenPack.of_weigh {check : Option BalanceCheck} {settings : BalanceSettings}
    {p : FrozenPack} {warnings : List Warning} {v : Validated}
    (h : (p.weigh check settings warnings).outcome = .ok v) :
    v.pack = p ∧ v.warnings = warnings := by
  unfold weigh at h
  split at h
  · cases h
    exact ⟨rfl, rfl⟩
  · split at h
    · cases h
      exact ⟨rfl, rfl⟩
    · dsimp only at h
      split at h
      · cases h
      · cases h
        exact ⟨rfl, rfl⟩

theorem Pack.of_validate {p : Pack} {check : Option BalanceCheck} {c : Config}
    {allowlists : Allowlists} {before : List Finding} {v : Validated}
    (h : (p.validate check c allowlists before).outcome = .ok v) :
    hasIssues (p.checkReferences allowlists c) = false ∧ hasIssues (p.checkCycles c) = false ∧
      v.pack = .ofPack p := by
  unfold validate at h
  dsimp only at h
  split at h
  · cases h
  · rename_i hissues
    rw [Bool.not_eq_true, hasIssues_append, hasIssues_append] at hissues
    exact ⟨hissues.1.2, hissues.2, (FrozenPack.of_weigh h).1⟩

theorem Json.of_validate {doc : Json} {check : Option BalanceCheck} {c : Config}
    {allowlists : Allowlists} {before : List Finding} {v : Validated}
    (h : (doc.validate check c allowlists before).outcome = .ok v) :
    ∃ p known, (Pack.parse doc).1 = some p ∧ hasIssues (Pack.parse doc).2 = false ∧
      (p.validate check c allowlists known).outcome = .ok v := by
  unfold validate at h
  generalize Pack.parse doc = parsed at h ⊢
  obtain ⟨pack, findings⟩ := parsed
  cases pack with
  | none => cases h
  | some p =>
    dsimp only [Run.after] at h
    split at h
    · cases h
    · rename_i hissues
      rw [Bool.not_eq_true, hasIssues_append] at hissues
      exact ⟨p, before ++ findings, rfl, hissues.2, h⟩

theorem exists_json_of_validate {check : Option BalanceCheck} {c : Config} {doc : Json}
    {v : Validated} (h : (validate check c doc).outcome = .ok v) :
    ∃ allowlists before, (doc.validate check c allowlists before).outcome = .ok v := by
  unfold validate at h
  generalize Allowlists.normalize c.allowlists = normalized at h
  obtain ⟨dropped, allowlists⟩ := normalized
  cases allowlists with
  | error e => cases h
  | ok allowlists => exact ⟨allowlists, dropped, h⟩

theorem exists_pack_of_validate {check : Option BalanceCheck} {c : Config} {doc : Json}
    {v : Validated} (h : (validate check c doc).outcome = .ok v) :
    ∃ p, (Pack.parse doc).1 = some p ∧ v.pack = .ofPack p := by
  obtain ⟨allowlists, before, hjson⟩ := exists_json_of_validate h
  obtain ⟨p, known, hparse, -, hrun⟩ := Json.of_validate hjson
  exact ⟨p, hparse, (Pack.of_validate hrun).2.2⟩

theorem Pack.exists_ok_of_clean {p : Pack} {c : Config} {allowlists : Allowlists}
    {before : List Finding} (hbefore : hasIssues before = false)
    (hreferences : hasIssues (p.checkReferences allowlists c) = false)
    (hcycles : hasIssues (p.checkCycles c) = false) :
    ∃ v, (p.validate none c allowlists before).outcome = .ok v := by
  have hall : hasIssues (before ++ p.checkReferences allowlists c ++ p.checkCycles c) = false :=
    hasIssues_append.2 ⟨hasIssues_append.2 ⟨hbefore, hreferences⟩, hcycles⟩
  unfold validate
  dsimp only
  rw [hall]
  exact ⟨_, rfl⟩

/-- Without a check of the balance, a document is accepted that can be read and about which no other
check has an issue. -/
theorem exists_ok_of_clean {doc : Json} {c : Config} {allowlists : Allowlists}
    {dropped : List Finding} {p : Pack}
    (hnormal : Allowlists.normalize c.allowlists = (dropped, .ok allowlists))
    (hdropped : hasIssues dropped = false) (hparse : (Pack.parse doc).1 = some p)
    (hstructure : hasIssues (Structure.check p) = false)
    (hreferences : hasIssues (p.checkReferences allowlists c) = false)
    (hcycles : hasIssues (p.checkCycles c) = false) :
    ∃ v, (validate none c doc).outcome = .ok v := by
  unfold validate
  rw [hnormal]
  unfold Json.validate
  have hfound := Pack.check_of_parse hparse
  generalize Pack.parse doc = parsed at hparse hfound
  obtain ⟨pack, findings⟩ := parsed
  obtain rfl : pack = some p := hparse
  have hfindings : hasIssues findings = false := by
    rw [show findings = Structure.check p from hfound, hstructure]
  have hknown : hasIssues (dropped ++ findings) = false := hasIssues_append.2 ⟨hdropped, hfindings⟩
  dsimp only [Run.after]
  rw [hknown]
  exact Pack.exists_ok_of_clean hknown hreferences hcycles

end GamePack
