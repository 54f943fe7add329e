import GamePack.Proofs.Soundness
import GamePack.Proofs.WellFormed

namespace GamePack

namespace Text

theorem exists_split_append {p : Char → Bool} (xs : List Char) {ys : List Char}
    (hys : ∀ c ∈ ys, p c = false) :
    ∃ before last, split p xs = before ++ [last] ∧ split p (xs ++ ys) = before ++ [last ++ ys] := by
  induction xs with
  | nil =>
    refine ⟨[], [], rfl, ?_⟩
    rw [List.nil_append, split_eq_splitOnP, List.splitOnP_eq_singleton hys]
    rfl
  | cons c rest ih =>
    obtain ⟨before, last, hrest, happend⟩ := ih
    rw [List.cons_append, split, split, hrest, happend]
    by_cases hc : p c
    · exact ⟨[] :: before, last, by simp [hc], by simp [hc]⟩
    · cases before with
      | nil => exact ⟨[], c :: last, by simp [hc], by simp [hc]⟩
      | cons piece pieces => exact ⟨(c :: piece) :: pieces, last, by simp [hc], by simp [hc]⟩

end Text

namespace Id

variable {id : String}

theorem isSegment_append {cs ys : List Char} (hcs : isSegment cs) (hys : ∀ c ∈ ys, isInner c) :
    isSegment (cs ++ ys) := by
  cases cs with
  | nil => cases hcs
  | cons first rest =>
    rw [isSegment, Bool.and_eq_true, List.all_eq_true] at hcs
    rw [List.cons_append, isSegment, Bool.and_eq_true, List.all_eq_true]
    exact ⟨hcs.1, fun c hc ↦ (List.mem_append.1 hc).elim (hcs.2 c) (hys c)⟩

theorem isValid_prestigeCount_iff (h : isValid id) :
    isValid (prestigeCount id) ↔ id.length ≤ 113 := by
  have hinner : ∀ c ∈ "-prestige-count".toList, isInner c := List.all_eq_true.1 (by decide)
  have hplain : ∀ c ∈ "-prestige-count".toList, decide (c = '.') = false := by simp
  obtain ⟨before, last, hsplit, happend⟩ :=
    Text.exists_split_append (p := (· = '.')) id.toList hplain
  rw [isValid, Bool.and_eq_true, hsplit, List.all_append, Bool.and_eq_true,
    List.all_cons, List.all_nil, Bool.and_true] at h
  obtain ⟨-, hbefore, hlast⟩ := h
  have hlength : (prestigeCount id).toList.length = id.length + 15 := by
    rw [prestigeCount, String.toList_append, List.length_append, String.length_toList]
    rfl
  rw [isValid, hlength, prestigeCount, String.toList_append, happend, List.all_append, hbefore,
    List.all_cons, isSegment_append hlast hinner, maxLength, Bool.and_eq_true, decide_eq_true_iff]
  simp

end Id

def Resource.named (id : String) : Resource where
  id
  name := .plain id
  category := "primary"
  tier := 1
  icon := none
  startAmount := .zero
  capacity := none
  visible := true
  unlocked := true
  unlockCondition := none
  visibilityCondition := none
  dirtyTolerance := none
  order := none
  tags := []

namespace Pack

def Counts (p : Pack) (l : PrestigeLayer) : Prop :=
  hasIssues (Structure.ids p .resource) = false ∧ p.Has .resource l.countResource

variable {p : Pack} {l : PrestigeLayer}

theorem exists_counts_iff :
    (∃ resources, Counts { p with resources } l) ↔ Id.isValid l.countResource := by
  constructor
  · rintro ⟨resources, hids, hmem⟩
    exact Id.isValid_iff_shaped.2 ((Structure.hasIssues_ids.1 hids).1 _ hmem)
  · intro hvalid
    have hids : ({ p with resources := [.named l.countResource] } : Pack).ids .resource =
        [l.countResource] := rfl
    refine ⟨[.named l.countResource], Structure.hasIssues_ids.2 ?_, ?_⟩
    · rw [hids]
      exact ⟨List.forall_mem_singleton.2 (Id.isValid_iff_shaped.1 hvalid), List.nodup_singleton _⟩
    · rw [Has, hids]
      exact List.mem_singleton_self _

theorem counts_of_validate {doc : Json} {check : Option BalanceCheck} {c : Config} {v : Validated}
    (hp : (parse doc).1 = some p) (hl : l ∈ p.prestigeLayers)
    (h : (GamePack.validate check c doc).outcome = .ok v) : p.Counts l := by
  obtain ⟨allowlists, before, hjson⟩ := exists_json_of_validate h
  obtain ⟨q, known, hq, hclean, hrun⟩ := Json.of_validate hjson
  obtain rfl : p = q := Option.some.inj (hp.symm.trans hq)
  rw [check_of_parse hp] at hclean
  obtain ⟨hreferences, -, -⟩ := of_validate hrun
  have hwell := Structure.hasIssues_check.1 hclean
  refine ⟨Structure.hasIssues_ids.2 ⟨hwell.shaped .resource, hwell.distinct .resource⟩, ?_⟩
  exact mem_ids_of_layer (hasIssues_append.1 hreferences).2 (List.mem_map_of_mem hl)

/-- A layer whose id has the shape of an id can be counted exactly if that id has at most 113
characters: then its count resource can stand beside it. No document that has a layer with a longer
id is accepted. -/
theorem exists_counts_iff_length (p : Pack) (h : Id.isValid l.id) :
    (Id.isValid l.countResource ↔ l.id.length ≤ 113) ∧
    ((∃ resources, Counts { p with resources } l) ↔ l.id.length ≤ 113) ∧
    (113 < l.id.length → ∀ doc check c v, (parse doc).1 = some p → l ∈ p.prestigeLayers →
      (GamePack.validate check c doc).outcome ≠ .ok v) := by
  have hlength : Id.isValid l.countResource ↔ l.id.length ≤ 113 := Id.isValid_prestigeCount_iff h
  refine ⟨hlength, exists_counts_iff.trans hlength, fun hlong doc check c v hp hl hv ↦ ?_⟩
  have hcounts : ∃ resources, Counts { p with resources } l :=
    ⟨p.resources, counts_of_validate hp hl hv⟩
  have hshort := hlength.1 (exists_counts_iff.1 hcounts)
  omega

end Pack

namespace Sample

def longName : String := String.ofList (List.replicate 112 'a')

def layered (name : String) : Json := .obj
  [("metadata", metadata "p" "1.0.0" "P"),
    ("prestigeLayers", .arr [prestigeLayer "p" name (name ++ "-prestige-count")]),
    ("resources", .arr [resource "p" (name ++ "-prestige-count")])]

end Sample

namespace Pack

theorem exists_counts_iff_length_alpha :
    ∃ p l, (parse (Sample.layered "alpha")).1 = some p ∧ l ∈ p.prestigeLayers ∧
    Id.isValid l.id ∧ ∃ resources, Counts { p with resources } l := by
  let p := (parse (Sample.layered "alpha")).1.get (by decide +kernel)
  let l := p.prestigeLayers.head (by decide +kernel)
  have hvalid : Id.isValid l.id := by decide +kernel
  obtain ⟨-, hcounts, -⟩ := exists_counts_iff_length p hvalid
  exact ⟨p, l, (Option.some_get _).symm, List.head_mem _, hvalid, hcounts.2 (by decide +kernel)⟩

/-- The id of a layer is valid, and that of the resource it demands, which is there, is all that is
wrong with the pack. -/
theorem uncounted_of_longName :
    ∃ p l, (parse (Sample.layered Sample.longName)).1 = some p ∧ l ∈ p.prestigeLayers ∧
    Id.isValid l.id ∧ l.countResource ∈ p.ids .resource ∧ Id.isValid l.countResource = false ∧
    (parse (Sample.layered Sample.longName)).2.map Finding.path =
      [[.key "resources", .index 0, .key "id"]] := by
  let p := (parse (Sample.layered Sample.longName)).1.get (by decide +kernel)
  let l := p.prestigeLayers.head (by decide +kernel)
  exact ⟨p, l, (Option.some_get _).symm,
    List.head_mem _, by decide +kernel, by decide +kernel, by decide +kernel, by decide +kernel⟩

end Pack

end GamePack
