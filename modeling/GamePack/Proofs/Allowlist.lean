import GamePack.Proofs.Dict
import GamePack.Proofs.Validation

namespace GamePack

variable {category : Category} {id : String} {path : Path}

theorem IdSet.toList_ofList_eq_nil_iff (ids : List String) :
    (ofList ids).toList = [] ↔ ids = [] := by
  simp only [List.eq_nil_iff_forall_not_mem, mem_toList_ofList]

theorem Allowlist.check_ofLists (required soft : List String) :
    check (some ⟨.ofList required, .ofList soft⟩) category id path =
      if id ∈ required ∨ id ∈ soft then []
      else if soft ≠ [] ∧ required = [] then [.notice path (.softMiss category id)]
      else [.fault path (.notAllowed category id)] := by
  have hcontains : contains ⟨.ofList required, .ofList soft⟩ id = true ↔
      id ∈ required ∨ id ∈ soft := by
    simp only [contains, Bool.or_eq_true, IdSet.contains_iff, IdSet.mem_toList_ofList]
  have hadvisory : isAdvisory ⟨.ofList required, .ofList soft⟩ = true ↔
      soft ≠ [] ∧ required = [] := by
    simp only [isAdvisory, Bool.and_eq_true, Bool.not_eq_true', Bool.eq_false_iff,
      IdSet.isEmpty_iff, IdSet.toList_ofList_eq_nil_iff, ne_eq]
  simp only [check, miss, hcontains, hadvisory]
  split_ifs <;> rfl

namespace AllowlistSpec

variable {s : AllowlistSpec}

theorem normalize_of_valid (h : ∀ id ∈ s.required, Id.isValid id) : s.normalize category =
    (s.dropped category, .ok ⟨.ofList s.required, .ofList (s.soft.filter Id.isValid)⟩) := by
  rw [normalize, invalid_eq_nil.2 h]

theorem check_advisory (hrequired : s.required = []) :
    Allowlist.check (some ⟨.ofList s.required, .ofList (s.soft.filter Id.isValid)⟩)
        category id path =
      if id ∈ s.soft ∧ Id.isValid id then []
      else if ∃ entry ∈ s.soft, Id.isValid entry then [.notice path (.softMiss category id)]
      else [.fault path (.notAllowed category id)] := by
  have hsome : s.soft.filter Id.isValid ≠ [] ↔ ∃ entry ∈ s.soft, Id.isValid entry := by
    simp only [ne_eq, List.filter_eq_nil_iff, not_forall, not_not, exists_prop]
  rw [Allowlist.check_ofLists]
  simp only [hrequired, hsome, List.not_mem_nil, false_or, and_true, List.mem_filter]

/-- A list that enforces nothing has no issue with any id exactly if some of its advice is
well-formed. -/
theorem normalize_advisory (hrequired : s.required = []) (category : Category) :
    ∃ a, s.normalize category = (s.dropped category, .ok a) ∧
      hasIssues (s.dropped category) = false ∧
      (∀ id path, Allowlist.check (some a) category id path =
        if id ∈ s.soft ∧ Id.isValid id then []
        else if ∃ entry ∈ s.soft, Id.isValid entry then [.notice path (.softMiss category id)]
        else [.fault path (.notAllowed category id)]) ∧
      ((∀ id path, hasIssues (Allowlist.check (some a) category id path) = false) ↔
        ∃ entry ∈ s.soft, Id.isValid entry) := by
  have hvalid : ∀ id ∈ s.required, Id.isValid id := by simp [hrequired]
  refine ⟨_, normalize_of_valid hvalid, s.hasIssues_dropped category,
    fun id path ↦ check_advisory hrequired, ?_⟩
  simp only [check_advisory hrequired]
  constructor
  · intro hclean
    by_contra hnone
    have hissue := hclean "" []
    rw [if_neg fun hmem ↦ hnone ⟨"", hmem⟩, if_neg hnone] at hissue
    cases hissue
  · intro hsome id path
    rw [if_pos hsome]
    split_ifs <;> rfl

theorem normalize_advisory_mixed : ∃ a,
    (advisory ["Bad Id", "p.open"]).normalize .flags =
      ((advisory ["Bad Id", "p.open"]).dropped .flags, .ok a) ∧
      ∀ id path, hasIssues (Allowlist.check (some a) .flags id path) = false := by
  obtain ⟨a, hnormal, -, -, hclean⟩ :=
    normalize_advisory (s := advisory ["Bad Id", "p.open"]) rfl .flags
  exact ⟨a, hnormal, hclean.2 ⟨"p.open", by decide, by decide +kernel⟩⟩

/-- Where all advice is malformed, every id is an issue. -/
theorem normalize_malformed_advice : ∃ a,
    (advisory ["Bad Id"]).normalize .flags = ((advisory ["Bad Id"]).dropped .flags, .ok a) ∧
      Allowlist.check (some a) .flags "p.open" [] = [.fault [] (.notAllowed .flags "p.open")] := by
  refine ⟨⟨.empty, .empty⟩, ?_, ?_⟩ <;> rfl

end AllowlistSpec

end GamePack
