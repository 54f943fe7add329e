import GamePack.Finding

namespace GamePack

theorem Path.mem_each {α β : Type} {path : Path} {items : List α} {f : Path → α → List β} {b : β} :
    b ∈ path.each items f ↔ ∃ i a, items[i]? = some a ∧ b ∈ f (path.index i) a := by
  rw [each, List.mem_flatMap]
  constructor
  · rintro ⟨⟨a, i⟩, ha, hb⟩
    exact ⟨i, a, List.mem_zipIdx_iff_getElem?.1 ha, hb⟩
  · rintro ⟨i, a, ha, hb⟩
    exact ⟨(a, i), List.mem_zipIdx_iff_getElem?.2 ha, hb⟩

theorem Path.pairwise_each {α β : Type} {path : Path} {items : List α} {f : Path → α → List β}
    {R : β → β → Prop} (hone : ∀ i a, (f (path.index i) a).Pairwise R)
    (htwo : ∀ i j a b, i < j → ∀ x ∈ f (path.index i) a, ∀ y ∈ f (path.index j) b, R x y) :
    (path.each items f).Pairwise R := by
  have hpositions : items.zipIdx.Pairwise fun x y ↦ x.2 < y.2 := by
    rw [← List.pairwise_map (f := Prod.snd), List.zipIdx_map_snd]
    exact List.pairwise_lt_range'
  rw [each, List.pairwise_flatMap]
  exact ⟨fun item _ ↦ hone _ _, hpositions.imp fun hlt ↦ htwo _ _ _ _ hlt⟩

theorem Path.each_nil {α β : Type} (path : Path) (items : List α) :
    path.each items (fun _ _ ↦ ([] : List β)) = [] := by
  rw [each, List.flatMap_eq_nil_iff]
  exact fun _ _ ↦ rfl

theorem Path.flatMap_each {α β γ : Type} (path : Path) (items : List α) (f : Path → α → List β)
    (g : β → List γ) :
    (path.each items f).flatMap g = path.each items fun path a ↦ (f path a).flatMap g :=
  List.flatMap_assoc

theorem Path.map_each {α β γ : Type} (path : Path) (items : List α) (f : Path → α → List β)
    (g : β → γ) : (path.each items f).map g = path.each items fun path a ↦ (f path a).map g :=
  List.map_flatMap

theorem Path.each_take_succ {α β : Type} (path : Path) (items : List α) (f : Path → α → List β)
    (i : Nat) :
    path.each (items.take (i + 1)) f =
      path.each (items.take i) f ++ (items[i]?.map (f (path.index i))).getD [] := by
  rw [each, each, List.take_add_one]
  cases ha : items[i]? with
  | none => simp
  | some a =>
    have hlength : (items.take i).length = i :=
      List.length_take_of_le (Nat.le_of_lt (List.getElem?_eq_some_iff.1 ha).1)
    rw [Option.toList_some, List.zipIdx_append, List.flatMap_append, hlength]
    simp

theorem Path.each_mapIdx {α β γ : Type} {path : Path} {items : List α} {g : Nat → α → β}
    {f : Path → β → List γ} {f' : Path → α → List γ}
    (h : ∀ i a, items[i]? = some a → f (path.index i) (g i a) = f' (path.index i) a) :
    path.each (items.mapIdx g) f = path.each items f' := by
  have hitems : (items.mapIdx g).zipIdx = items.zipIdx.map fun item ↦
      (g item.2 item.1, item.2) := by
    refine List.ext_getElem? fun i ↦ ?_
    cases hi : items[i]? <;> simp [List.getElem?_zipIdx, hi]
  rw [each, hitems, List.flatMap_map]
  exact congrArg List.flatten (List.map_congr_left fun item hitem ↦
    h item.2 item.1 (List.mem_zipIdx_iff_getElem?.1 hitem))

def Finding.path : Finding → Path
  | issue i => i.path
  | warning w => w.path

theorem hasIssues_eq_false {findings : List Finding} :
    hasIssues findings = false ↔ ∀ f ∈ findings, f.issue? = none := by
  simp [hasIssues]

theorem issuesOf_eq_nil_iff {findings : List Finding} :
    issuesOf findings = [] ↔ hasIssues findings = false := by
  rw [issuesOf, List.filterMap_eq_nil_iff, hasIssues_eq_false]

theorem hasIssues_append {xs ys : List Finding} :
    hasIssues (xs ++ ys) = false ↔ hasIssues xs = false ∧ hasIssues ys = false := by
  simp only [hasIssues_eq_false, List.forall_mem_append]

theorem hasIssues_flatMap {α : Type} {items : List α} {f : α → List Finding} :
    hasIssues (items.flatMap f) = false ↔ ∀ a ∈ items, hasIssues (f a) = false := by
  simp only [hasIssues_eq_false, List.mem_flatMap]
  exact ⟨fun h a ha x hx ↦ h x ⟨a, ha, hx⟩, fun h x ⟨a, ha, hx⟩ ↦ h a ha x hx⟩

theorem hasIssues_each {α : Type} {path : Path} {items : List α} {f : Path → α → List Finding} :
    hasIssues (path.each items f) = false ↔
      ∀ i a, items[i]? = some a → hasIssues (f (path.index i) a) = false := by
  simp only [hasIssues_eq_false, Path.mem_each]
  exact ⟨fun h i a ha x hx ↦ h x ⟨i, a, ha, hx⟩, fun h x ⟨i, a, ha, hx⟩ ↦ h i a ha x hx⟩

theorem hasIssues_ensure {holds : Bool} {path : Path} {f : Fault} :
    hasIssues (Finding.ensure holds path f) = false ↔ holds = true := by
  cases holds <;> simp [Finding.ensure, hasIssues, Finding.fault, Finding.issue?]

theorem hasIssues_map_fault {α : Type} {items : List α} {path : α → Path} {fault : α → Fault} :
    hasIssues (items.map fun a ↦ .fault (path a) (fault a)) = false ↔ items = [] := by
  cases items <;> simp [hasIssues, Finding.fault, Finding.issue?]

theorem warningsOf_append (fs gs : List Finding) :
    warningsOf (fs ++ gs) = warningsOf fs ++ warningsOf gs :=
  List.filterMap_append

theorem warningsOf_flatMap {α : Type} (items : List α) (f : α → List Finding) :
    warningsOf (items.flatMap f) = items.flatMap fun a ↦ warningsOf (f a) :=
  List.filterMap_flatMap

theorem warningsOf_each {α : Type} (path : Path) (items : List α) (f : Path → α → List Finding) :
    warningsOf (path.each items f) = path.each items fun path a ↦ warningsOf (f path a) :=
  warningsOf_flatMap ..

theorem warningsOf_ensure (holds : Bool) (path : Path) (f : Fault) :
    warningsOf (Finding.ensure holds path f) = [] := by
  cases holds <;> rfl

theorem findings_eq_nil {findings : List Finding} (hissues : hasIssues findings = false)
    (hwarnings : warningsOf findings = []) : findings = [] := by
  rw [List.eq_nil_iff_forall_not_mem]
  intro f hf
  cases f with
  | issue i => exact absurd (hasIssues_eq_false.1 hissues _ hf) (Option.some_ne_none i)
  | warning w => exact absurd (List.filterMap_eq_nil_iff.1 hwarnings _ hf) (Option.some_ne_none w)

end GamePack
