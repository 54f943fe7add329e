import GamePack.Version

namespace GamePack.Version

open Std

theorem compareTag_isLE_iff {a b : Option String} :
    (compareTag a b).isLE ↔ b = none ∨ ∃ s t, a = some s ∧ b = some t ∧ (compare s t).isLE := by
  cases a <;> cases b <;> simp [compareTag]

theorem compareTag_none_iff {a : Option String} :
    compareTag a none = .lt ↔ ∃ tag, a = some tag := by
  cases a <;> simp [compareTag]

instance : OrientedCmp compareTag where
  eq_swap {a b} := by
    cases a with
    | none => cases b <;> rfl
    | some s =>
      cases b with
      | none => rfl
      | some t => exact OrientedOrd.eq_swap

instance : TransCmp compareTag where
  isLE_trans {a b c} hab hbc := by
    rw [compareTag_isLE_iff] at hab hbc ⊢
    obtain rfl | ⟨t, u, rfl, rfl, htu⟩ := hbc
    · exact .inl rfl
    · obtain hnone | ⟨s, t', rfl, heq, hst⟩ := hab
      · cases hnone
      · cases heq
        exact .inr ⟨s, u, rfl, rfl, TransOrd.isLE_trans hst htu⟩

instance : LawfulEqCmp compareTag where
  compare_self {a} := by cases a <;> simp [compareTag]
  eq_of_compare {a b} h := by cases a <;> cases b <;> simp_all [compareTag]

instance : TransCmp cmp :=
  have : TransCmp fun v w : Version ↦ compareTag v.tag w.tag :=
    { eq_swap {_ _} := OrientedCmp.eq_swap
      isLE_trans {_ _ _} := TransCmp.isLE_trans }
  inferInstanceAs (TransCmp (compareLex (compareOn major) <| compareLex (compareOn minor) <|
    compareLex (compareOn patch) fun v w ↦ compareTag v.tag w.tag))

instance : LawfulEqCmp cmp where
  eq_of_compare {v w} h := by
    have hparts : v.major = w.major ∧ v.minor = w.minor ∧ v.patch = w.patch ∧ v.tag = w.tag := by
      simpa only [cmp, Ordering.then_eq_eq, LawfulEqOrd.compare_eq_iff_eq,
        LawfulEqCmp.compare_eq_iff_eq] using h
    obtain ⟨hmajor, hminor, hpatch, htag⟩ := hparts
    cases v
    cases w
    congr

instance : LE Version := ⟨fun v w ↦ (v.cmp w).isLE⟩

instance : LT Version := ⟨fun v w ↦ v.cmp w = .lt⟩

variable {v w : Version}

theorem le_iff_isLE : v ≤ w ↔ (v.cmp w).isLE := Iff.rfl

theorem lt_iff_cmp : v < w ↔ v.cmp w = .lt := Iff.rfl

theorem not_lt_iff : ¬ v < w ↔ w ≤ v := by
  rw [le_iff_isLE, Ordering.isLE_iff_ne_gt, lt_iff_cmp]
  exact not_congr OrientedCmp.gt_iff_lt.symm

theorem le_iff_parts : v ≤ w ↔ v.major < w.major ∨ v.major = w.major ∧ (v.minor < w.minor ∨
    v.minor = w.minor ∧
    (v.patch < w.patch ∨ v.patch = w.patch ∧ (compareTag v.tag w.tag).isLE)) := by
  simp only [le_iff_isLE, cmp, Ordering.isLE_then_iff_or, Nat.compare_eq_lt, Nat.compare_eq_eq]

theorem lt_iff_parts : v < w ↔ v.major < w.major ∨ v.major = w.major ∧ (v.minor < w.minor ∨
    v.minor = w.minor ∧
    (v.patch < w.patch ∨ v.patch = w.patch ∧ compareTag v.tag w.tag = .lt)) := by
  simp only [lt_iff_cmp, cmp, Ordering.then_eq_lt, Nat.compare_eq_lt, Nat.compare_eq_eq]

end GamePack.Version
