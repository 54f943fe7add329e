import Mathlib.Data.List.Chain
import Mathlib.Logic.Relation

namespace GamePack

def Cyclic {α : Type} (R : α → α → Prop) : List α → Prop
  | [] => False
  | a :: rest => List.IsChain R (a :: (rest ++ [a]))

namespace Cyclic

variable {α : Type} {R S : α → α → Prop} {a b : α} {rest items : List α}

theorem pair (h : R a b) (h' : R b a) : Cyclic R [a, b] :=
  .cons_cons h (.cons_cons h' (.singleton a))

theorem transGen_of_isChain (h : List.IsChain R (a :: (rest ++ [b]))) :
    Relation.TransGen R a b := by
  induction rest generalizing a with
  | nil => exact .single (List.isChain_pair.1 h)
  | cons x rest ih =>
    rw [List.cons_append, List.isChain_cons_cons] at h
    exact .head h.1 (ih h.2)

theorem transGen (h : Cyclic R (a :: rest)) : Relation.TransGen R a a := transGen_of_isChain h

theorem exists_transGen (h : Cyclic R items) : ∃ a, Relation.TransGen R a a := by
  cases items with
  | nil => exact h.elim
  | cons a rest => exact ⟨a, h.transGen⟩

theorem append_comm {before after : List α} (h : Cyclic R (before ++ after)) :
    Cyclic R (after ++ before) := by
  cases before with
  | nil => rwa [List.append_nil]
  | cons b before =>
    cases after with
    | nil => rwa [List.append_nil] at h
    | cons a after =>
      have hway : List.IsChain R (b :: before ++ a :: (after ++ [b])) := by simpa [Cyclic] using h
      obtain ⟨hbefore, hafter⟩ := List.isChain_split.1 hway
      have hturned : List.IsChain R (a :: after ++ b :: (before ++ [a])) :=
        List.isChain_split.2 ⟨by simpa using hafter, by simpa using hbefore⟩
      simpa [Cyclic] using hturned

/-- A cyclic chain may be entered at each of its items. -/
theorem exists_turn (h : Cyclic R items) (ha : a ∈ items) :
    ∃ rest ⊆ items, Cyclic R (a :: rest) := by
  obtain ⟨before, after, rfl⟩ := List.append_of_mem ha
  exact ⟨after ++ before, by grind, h.append_comm⟩

theorem transGen_of_mem (h : Cyclic R items) (ha : a ∈ items) : Relation.TransGen R a a := by
  obtain ⟨rest, -, hturned⟩ := h.exists_turn ha
  exact hturned.transGen

theorem exists_next (h : Cyclic R items) (ha : a ∈ items) : ∃ b ∈ items, R a b := by
  obtain ⟨rest, hrest, hturned⟩ := h.exists_turn ha
  cases rest with
  | nil => exact ⟨a, ha, List.isChain_pair.1 hturned⟩
  | cons b rest => exact ⟨b, hrest List.mem_cons_self, (List.isChain_cons_cons.1 hturned).1⟩

theorem exists_previous (h : Cyclic R items) (ha : a ∈ items) : ∃ b ∈ items, R b a := by
  obtain ⟨rest, hrest, hturned⟩ := h.exists_turn ha
  rcases List.eq_nil_or_concat' rest with rfl | ⟨rest, b, rfl⟩
  · exact ⟨a, ha, List.isChain_pair.1 hturned⟩
  · have hway : List.IsChain R (a :: (rest ++ [b] ++ [a])) := hturned
    have hlast : [b, a] <:+: a :: (rest ++ [b] ++ [a]) := ⟨a :: rest, [], by simp⟩
    have hpair := hway.infix hlast
    exact ⟨b, hrest (List.mem_append_right _ (List.mem_singleton_self b)),
      List.isChain_pair.1 hpair⟩

theorem isChain_ne (hnodup : (a :: rest).Nodup) (hrest : rest ≠ []) :
    List.IsChain (· ≠ ·) (a :: (rest ++ [a])) := by
  have hne : a ∉ rest := (List.nodup_cons.1 hnodup).1
  rw [← List.cons_append, List.isChain_append]
  refine ⟨List.Pairwise.isChain hnodup, List.isChain_singleton a, ?_⟩
  intro x hx y hy
  rw [List.getLast?_cons_of_ne_nil hrest] at hx
  obtain rfl : a = y := by simpa using hy
  exact fun he ↦ hne (he ▸ List.mem_of_getLast? hx)

theorem map {β : Type} {f : α → β} {S : β → β → Prop} (h : Cyclic R items)
    (hstep : ∀ x ∈ items, ∀ y ∈ items, R x y → S (f x) (f y)) : Cyclic S (items.map f) := by
  cases items with
  | nil => exact h.elim
  | cons a rest =>
    have hway : List.IsChain R (a :: (rest ++ [a])) := h
    have hmem : ∀ x ∈ a :: (rest ++ [a]), x ∈ a :: rest := by grind
    have hboth : List.IsChain (fun x y ↦ S (f x) (f y)) (a :: (rest ++ [a])) :=
      hway.imp_of_mem_imp fun x y hx hy ↦ hstep x (hmem x hx) y (hmem y hy)
    rw [← List.isChain_map (R := S) f, List.map_cons, List.map_append] at hboth
    exact hboth

theorem exists_transGen_map {β : Type} {f : α → β} {S : β → β → Prop} (h : Cyclic R items)
    (hnodup : (items.map f).Nodup) (hlength : 2 ≤ items.length)
    (hstep : ∀ x ∈ items, ∀ y ∈ items, f x ≠ f y → R x y → S (f x) (f y)) :
    ∃ a ∈ items, Relation.TransGen S (f a) (f a) := by
  obtain ⟨a, rest, rfl⟩ :=
    List.exists_cons_of_length_pos (Nat.lt_of_lt_of_le Nat.zero_lt_two hlength)
  have hrest : rest.map f ≠ [] := by
    intro hnil
    rw [List.map_eq_nil_iff.1 hnil] at hlength
    exact absurd hlength (Nat.not_succ_le_self 1)
  have hne : List.IsChain (fun x y ↦ f x ≠ f y) (a :: (rest ++ [a])) := by
    rw [← List.isChain_map (R := (· ≠ ·)) f, List.map_cons, List.map_append]
    exact isChain_ne hnodup hrest
  have hboth : Cyclic (fun x y ↦ f x ≠ f y ∧ R x y) (a :: rest) := by
    have hway : List.IsChain R (a :: (rest ++ [a])) := h
    rw [List.isChain_iff_getElem] at hway hne
    exact List.isChain_iff_getElem.2 fun i hi ↦ ⟨hne i hi, hway i hi⟩
  have himages : Cyclic S (f a :: rest.map f) :=
    hboth.map fun x hx y hy hxy ↦ hstep x hx y hy hxy.1 hxy.2
  exact ⟨a, List.mem_cons_self, himages.transGen⟩

end Cyclic

def neighbours {α : Type} : List α → List (α × α)
  | [] => []
  | a :: rest => (a :: rest).zip (rest ++ [a])

section

variable {α β : Type} {items : List α} {x : α × α}

theorem neighbours_cons (a : α) (rest : List α) :
    neighbours (a :: rest) = (a :: (rest ++ [a])).zip (rest ++ [a]) := by
  have hzip : ((a :: rest) ++ [a]).zip ((rest ++ [a]) ++ []) =
      (a :: rest).zip (rest ++ [a]) ++ [a].zip [] :=
    List.zip_append (by simp)
  simpa [neighbours] using hzip.symm

theorem mem_of_mem_neighbours (h : x ∈ neighbours items) : x.1 ∈ items ∧ x.2 ∈ items := by
  cases items with
  | nil => cases h
  | cons a rest =>
    obtain ⟨hfirst, hsecond⟩ := List.of_mem_zip (a := x.1) (b := x.2) h
    exact ⟨hfirst, by grind⟩

theorem Cyclic.of_mem_neighbours {R : α → α → Prop} (h : Cyclic R items)
    (hx : x ∈ neighbours items) :
    R x.1 x.2 := by
  cases items with
  | nil => cases hx
  | cons a rest => exact List.forall₂_zip (List.isChain_cons_append_singleton_iff_forall₂.1 h) hx

theorem neighbours_map (f : α → β) (items : List α) :
    neighbours (items.map f) = (neighbours items).map (Prod.map f f) := by
  cases items with
  | nil => rfl
  | cons a rest =>
    have hturned : rest.map f ++ [f a] = (rest ++ [a]).map f := by
      rw [List.map_append, List.map_singleton]
    rw [List.map_cons, neighbours, hturned, ← List.map_cons, List.zip_map, neighbours]

end

end GamePack
