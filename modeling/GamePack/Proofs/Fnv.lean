import GamePack.Fnv
import Mathlib.Data.List.Basic

namespace GamePack

section

variable {α β : Type} {a b : α} {c d : β} {xs ys : List α}

/-- Whether lists are the same but for one place, where the one has one item and
the other another. -/
def Apart (a b : α) (xs ys : List α) : Prop :=
  ∃ before after, xs = before ++ a :: after ∧ ys = before ++ b :: after

theorem Apart.singleton (a b : α) : Apart a b [a] [b] := ⟨[], [], rfl, rfl⟩

theorem Apart.append (h : Apart a b xs ys) (first last : List α) :
    Apart a b (first ++ xs ++ last) (first ++ ys ++ last) := by
  obtain ⟨before, after, rfl, rfl⟩ := h
  exact ⟨first ++ before, after ++ last, by simp, by simp⟩

theorem Apart.flatMap {f : α → List β} (h : Apart a b xs ys) (hf : Apart c d (f a) (f b)) :
    Apart c d (xs.flatMap f) (ys.flatMap f) := by
  obtain ⟨before, after, rfl, rfl⟩ := h
  have hwhole := hf.append (before.flatMap f) (after.flatMap f)
  simpa only [List.flatMap_append, List.flatMap_cons, List.append_assoc] using hwhole

theorem exists_apart (hlength : xs.length = ys.length) (h : ∃! i : Nat, xs[i]? ≠ ys[i]?) :
    ∃ a ∈ xs, ∃ b ∈ ys, a ≠ b ∧ Apart a b xs ys := by
  obtain ⟨i, hne, hunique⟩ := h
  have hsame (j : Nat) (hj : j ≠ i) : xs[j]? = ys[j]? := by
    by_contra hdiffer
    exact hj (hunique j hdiffer)
  have hxs : i < xs.length := by
    by_contra hge
    exact hne (by rw [List.getElem?_eq_none (by omega), List.getElem?_eq_none (by omega)])
  have hys : i < ys.length := hlength ▸ hxs
  have hbefore : ys.take i = xs.take i := by
    refine List.ext_getElem? fun j ↦ ?_
    rw [List.getElem?_take, List.getElem?_take]
    split
    · rename_i hj
      exact (hsame j (Nat.ne_of_lt hj)).symm
    · rfl
  have hafter : ys.drop (i + 1) = xs.drop (i + 1) := by
    refine List.ext_getElem? fun j ↦ ?_
    rw [List.getElem?_drop, List.getElem?_drop]
    exact (hsame _ (by omega)).symm
  refine ⟨xs[i], List.getElem_mem hxs, ys[i], List.getElem_mem hys, fun heq ↦ hne ?_,
    xs.take i, xs.drop (i + 1), ?_, ?_⟩
  · rw [List.getElem?_eq_getElem hxs, List.getElem?_eq_getElem hys, heq]
  · rw [← List.drop_eq_getElem_cons, List.take_append_drop]
  · rw [← hbefore, ← hafter, ← List.drop_eq_getElem_cons, List.take_append_drop]

end

namespace Text

theorem lt_of_mem_unitsOfChar {c : Char} {u : Nat} (h : u ∈ unitsOfChar c) : u < 0x10000 := by
  have hc : c.toNat < 0xD800 ∨ 0xDFFF < c.toNat ∧ c.toNat < 0x110000 := c.valid
  rw [unitsOfChar] at h
  split at h
  · rename_i hsmall
    rwa [List.mem_singleton.1 h]
  · simp only [List.mem_cons, List.not_mem_nil, or_false] at h
    omega

theorem lt_of_mem_units {cs : List Char} {u : Nat} (h : u ∈ units cs) : u < 0x10000 := by
  obtain ⟨c, -, hu⟩ := List.mem_flatMap.1 h
  exact lt_of_mem_unitsOfChar hu

end Text

namespace Fnv

/-- What undoes the multiplication by the prime modulo `2 ^ 32`. -/
def inverse : UInt32 := 0x359c449b

theorem prime_mul_inverse : prime * inverse = 1 := by decide

theorem mul_prime_inj {a b : UInt32} (h : a * prime = b * prime) : a = b := by
  have hundone := congrArg (· * inverse) h
  simpa only [UInt32.mul_assoc, prime_mul_inverse, UInt32.mul_one] using hundone

theorem step_state_inj {s t : UInt32} {u : Nat} (h : step s u = step t u) : s = t :=
  (UInt32.xor_left_inj _).1 (mul_prime_inj h)

theorem step_unit_inj {s : UInt32} {u v : Nat} (hu : u < 0x10000) (hv : v < 0x10000)
    (h : step s u = step s v) : u = v := by
  have hwords := congrArg UInt32.toNat ((UInt32.xor_right_inj _).1 (mul_prime_inj h))
  rwa [Nat.toUInt32_eq, Nat.toUInt32_eq, UInt32.toNat_ofNat_of_lt',
    UInt32.toNat_ofNat_of_lt'] at hwords
  all_goals
    unfold UInt32.size
    omega

theorem foldl_step_inj {units : List Nat} {s t : UInt32}
    (h : units.foldl step s = units.foldl step t) : s = t := by
  induction units generalizing s t with
  | nil => exact h
  | cons u rest ih => exact step_state_inj (ih h)

theorem foldl_step_ne {u v : Nat} {us vs : List Nat} (hu : u < 0x10000) (hv : v < 0x10000)
    (hne : u ≠ v) (h : Apart u v us vs) (s : UInt32) : us.foldl step s ≠ vs.foldl step s := by
  obtain ⟨before, after, rfl, rfl⟩ := h
  rw [List.foldl_append, List.foldl_append, List.foldl_cons, List.foldl_cons]
  exact fun heq ↦ hne (step_unit_inj hu hv (foldl_step_inj heq))

end Fnv

end GamePack
