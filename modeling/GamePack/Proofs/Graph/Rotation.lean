import GamePack.Proofs.Graph.Canonical
import GamePack.Proofs.Id
import Mathlib.Data.List.Rotate

namespace GamePack

namespace Cycle

variable {ids xs ys v w before after : List String} {m : String}

/-- The two ways in which some ids are given as a cycle: once each, or with the first
repeated at the end. -/
def Gives (ids given : List String) : Prop := given = ids ∨ given = ids ++ ids.take 1

theorem opened_of_nodup (h : ids.Nodup) : opened ids = ids := by
  rw [opened, if_neg]
  intro hclosed
  obtain ⟨hlength, hends⟩ := hclosed
  cases ids with
  | nil => simp at hlength
  | cons first others =>
    cases others with
    | nil => simp at hlength
    | cons second rest =>
      rw [List.head?_cons, List.getLast?_cons_cons] at hends
      exact (List.nodup_cons.1 h).1 (List.mem_of_getLast? hends.symm)

theorem Gives.opened_eq (h : Gives ids v) (hnodup : ids.Nodup) : opened v = ids := by
  rcases h with rfl | rfl
  · exact opened_of_nodup hnodup
  · cases ids with
    | nil => rfl
    | cons id rest => exact opened_closed id rest

theorem canonical_congr (h : opened v = opened w) : canonical v = canonical w := by
  rw [canonical, canonical, h]

theorem Gives.exists_canonical (h : Gives ids v) (hnodup : ids.Nodup) (hne : ids ≠ []) :
    ∃ m rest, canonical v = m :: (rest ++ [m]) ∧ ids ~r m :: rest ∧ ∀ x ∈ rest, m < x := by
  obtain ⟨id, others, rfl⟩ := List.exists_cons_of_ne_nil hne
  obtain ⟨before, m, after, hsplit, hcanonical, hleast⟩ := Cycle.exists_canonical hnodup
  have hopened : opened v = opened (id :: (others ++ [id])) := by
    rw [h.opened_eq hnodup, opened_closed]
  refine ⟨m, after ++ before, by rw [canonical_congr hopened, hcanonical], ?_, hleast⟩
  rw [hsplit]
  exact List.isRotated_append

theorem eq_of_isRotated {rest rest' : List String} {m' : String} (h : m :: rest ~r m' :: rest')
    (hleast : ∀ x ∈ rest, m < x) (hleast' : ∀ x ∈ rest', m' < x) : m = m' ∧ rest = rest' := by
  have hmem : m' ∈ m :: rest := h.mem_iff.2 List.mem_cons_self
  have hmem' : m ∈ m' :: rest' := h.mem_iff.1 List.mem_cons_self
  have hsame : m = m' := by
    rcases List.mem_cons.1 hmem with heq | hlt
    · exact heq.symm
    · rcases List.mem_cons.1 hmem' with heq | hlt'
      · exact heq
      · exact absurd (hleast m' hlt) (String.lt_asymm (hleast' m hlt'))
  subst hsame
  refine ⟨rfl, ?_⟩
  obtain ⟨n, hn, hrotate⟩ := List.isRotated_iff_mod.1 h
  cases n with
  | zero => simpa using hrotate
  | succ n =>
    rw [List.rotate_eq_drop_append_take hn, List.drop_succ_cons, List.take_succ_cons] at hrotate
    cases hdrop : rest.drop n with
    | nil =>
      have htake : rest.take n = rest := List.take_of_length_le (List.drop_eq_nil_iff.1 hdrop)
      rw [hdrop, htake] at hrotate
      exact (List.cons.inj hrotate).2
    | cons x later =>
      -- Another start would make the smallest item occur again.
      rw [hdrop] at hrotate
      have hx : x ∈ rest := List.mem_of_mem_drop (hdrop ▸ List.mem_cons_self)
      have hlt := hleast x hx
      rw [(List.cons.inj hrotate).1] at hlt
      exact absurd hlt (String.lt_irrefl m)

theorem Gives.canonical_eq_iff (hv : Gives xs v) (hw : Gives ys w) (hxs : xs.Nodup) (hys : ys.Nodup)
    (hnx : xs ≠ []) (hny : ys ≠ []) : canonical v = canonical w ↔ xs ~r ys := by
  obtain ⟨m, rest, hcv, hturn, hleast⟩ := hv.exists_canonical hxs hnx
  obtain ⟨m', rest', hcw, hturn', hleast'⟩ := hw.exists_canonical hys hny
  rw [hcv, hcw]
  constructor
  · intro h
    obtain ⟨rfl, hrest⟩ := List.cons.inj h
    obtain rfl := List.append_cancel_right hrest
    exact hturn.trans hturn'.symm
  · intro h
    obtain ⟨rfl, rfl⟩ := eq_of_isRotated ((hturn.symm.trans h).trans hturn') hleast hleast'
    rfl

theorem canonical_eq_of_least (h : least (opened v) = some m) (hmem : m ∈ opened v) :
    ∃ before after,
    opened v = before ++ m :: after ∧ canonical v = m :: (after ++ before ++ [m]) := by
  obtain ⟨before, after, hsplit, hbefore⟩ := List.eq_append_cons_of_mem hmem
  have hother : ∀ x ∈ before, decide (x ≠ m) = true := by
    intro x hx
    exact decide_eq_true fun heq ↦ hbefore (heq ▸ hx)
  refine ⟨before, after, hsplit, ?_⟩
  rw [canonical, h]
  dsimp only
  rw [hsplit, List.dropWhile_append_of_pos hother, List.takeWhile_append_of_pos hother]
  simp

theorem canonical_canonical (v : List String) : canonical (canonical v) = canonical v := by
  cases hopened : opened v with
  | nil =>
    have hnil : canonical v = [] := by rw [canonical, hopened]; rfl
    rw [hnil]
    rfl
  | cons id others =>
    obtain ⟨m, hm, hmem, hleast⟩ := exists_least_cons id others
    rw [← hopened] at hm hmem hleast
    obtain ⟨before, after, hsplit, hcanonical⟩ := canonical_eq_of_least hm hmem
    obtain ⟨m', hm', hmem', hleast'⟩ := exists_least_cons m (after ++ before)
    have hsame : m' = m := by
      have hle : ¬ m' < m := hleast m' (by rw [hsplit]; grind)
      have hge : ¬ m < m' := hleast' m List.mem_cons_self
      exact (Std.lt_trichotomy m' m).resolve_left hle |>.resolve_right hge
    rw [hsame] at hm'
    rw [hcanonical, canonical, opened_closed, hm']
    simp

theorem Gives.valid_canonical (h : Gives ids v) (hnodup : ids.Nodup) (hne : ids ≠ [])
    (hvalid : ∀ id ∈ ids, Id.isValid id) : ∀ id ∈ canonical v, Id.isValid id := by
  obtain ⟨m, rest, hcanonical, hturn, -⟩ := h.exists_canonical hnodup hne
  intro id hid
  apply hvalid
  rw [hturn.mem_iff]
  simp only [hcanonical, List.mem_cons, List.mem_append, List.not_mem_nil, or_false] at hid ⊢
  tauto

/-- The form in which cycles are written is settled when it is reached. Two lists of distinct ids
have the same one exactly if one is a rotation of the other, whichever way they are given, and if
the ids are valid the texts of the forms are as good as the forms. -/
theorem canonical_identifies (hv : Gives xs v) (hw : Gives ys w) (hxs : xs.Nodup) (hys : ys.Nodup)
    (hnx : xs ≠ []) (hny : ys ≠ []) :
    (∀ ids, canonical (canonical ids) = canonical ids) ∧ (canonical v = canonical w ↔ xs ~r ys) ∧
      (∀ ids ids', (∀ id ∈ ids, Id.isValid id) → (∀ id ∈ ids', Id.isValid id) →
        renderCycle ids = renderCycle ids' → ids = ids') ∧
      ((∀ id ∈ xs, Id.isValid id) → (∀ id ∈ ys, Id.isValid id) →
        (renderCycle (canonical v) = renderCycle (canonical w) ↔ xs ~r ys)) := by
  have hforms := hv.canonical_eq_iff hw hxs hys hnx hny
  refine ⟨canonical_canonical, hforms, fun ids ids' ↦ renderCycle_inj, ?_⟩
  intro hvx hvy
  rw [← hforms]
  constructor
  · exact renderCycle_inj (hv.valid_canonical hxs hnx hvx) (hw.valid_canonical hys hny hvy)
  · intro h
    rw [h]

theorem canonical_identifies_turned :
    Gives ["c", "a", "b"] ["c", "a", "b"] ∧ Gives ["b", "c", "a"] ["b", "c", "a", "b"] ∧
      canonical ["c", "a", "b"] = canonical ["b", "c", "a", "b"] ∧
      renderCycle (canonical ["c", "a", "b"]) = renderCycle (canonical ["b", "c", "a", "b"]) := by
  have hopen : Gives ["c", "a", "b"] ["c", "a", "b"] := .inl rfl
  have hclosed : Gives ["b", "c", "a"] ["b", "c", "a", "b"] := .inr rfl
  have hturn : ["c", "a", "b"] ~r ["b", "c", "a"] := ⟨2, rfl⟩
  obtain ⟨-, hforms, -, htexts⟩ :=
    canonical_identifies hopen hclosed (by decide) (by decide) (by decide) (by decide)
  exact ⟨hopen, hclosed, hforms.2 hturn, (htexts (by decide +kernel) (by decide +kernel)).2 hturn⟩

end Cycle

end GamePack
