import GamePack.Proofs.Graph.Search

namespace GamePack

namespace Search

variable {g : Graph} {extent : Extent} {s s' : Search}

/-- Steps until the path is empty or the search is satisfied, with a bound on their number so that
they can be run inside the logic. -/
def drainWithin (g : Graph) (extent : Extent) : Nat → Search → Option Search
  | 0, _ => none
  | n + 1, s =>
    if s.stack = [] ∨ s.satisfied extent then some s else drainWithin g extent n (s.step g)

def scanWithin (g : Graph) (extent : Extent) (n : Nat) (s : Search) (root : String) :
    Option Search :=
  if s.satisfied extent || !s.fresh.contains root then some s
  else drainWithin g extent n (s.push g root)

theorem drain_of_drainWithin {n : Nat} (h : drainWithin g extent n s = some s') :
    drain g extent s = s' := by
  induction n generalizing s with
  | zero => cases h
  | succ n ih =>
    rw [drainWithin] at h
    split at h
    · rename_i hdone
      rw [drain_over hdone]
      exact Option.some_inj.1 h
    · rename_i hdone
      rw [drain_step hdone]
      exact ih h

theorem scan_of_scanWithin {n : Nat} {root : String} (h : scanWithin g extent n s root = some s') :
    scan g extent s root = s' := by
  rw [scanWithin] at h
  rw [scan]
  split at h
  · rename_i hover
    rw [if_pos hover]
    exact Option.some_inj.1 h
  · rename_i hover
    rw [if_neg hover]
    exact drain_of_drainWithin h

theorem foldl_scan_of_foldlM {n : Nat} {roots : List String}
    (h : roots.foldlM (scanWithin g extent n) s = some s') :
    roots.foldl (scan g extent) s = s' := by
  induction roots generalizing s with
  | nil => exact Option.some_inj.1 h
  | cons root rest ih =>
    rw [List.foldlM_cons, Option.bind_eq_bind, Option.bind_eq_some_iff] at h
    obtain ⟨t, ht, hrest⟩ := h
    rw [List.foldl_cons, scan_of_scanWithin ht]
    exact ih hrest

def weight (g : Graph) (ids : List String) : Nat :=
  ids.foldr (fun id n ↦ (g.successors id).length + 1 + n) 0

theorem weight_erase {ids : List String} {id : String} (hid : id ∈ ids) :
    (g.successors id).length + 1 + weight g (ids.erase id) = weight g ids := by
  induction ids with
  | nil => cases hid
  | cons x rest ih =>
    by_cases hx : x = id
    · rw [hx, List.erase_cons_head]
      rfl
    · have hrest := ih ((List.mem_cons.1 hid).resolve_left (Ne.symm hx))
      rw [List.erase_cons_tail (by simpa using hx)]
      simp only [weight, List.foldr_cons] at hrest ⊢
      omega

/-- The edges to be looked at and the ids to be dropped until nothing is left. -/
def work (g : Graph) (s : Search) : Nat := s.load + weight g s.fresh

theorem work_push {id : String} (hid : id ∈ s.fresh) : (s.push g id).work g = s.work g := by
  have hweight := weight_erase (g := g) hid
  have hload : (s.push g id).load = (g.successors id).length + 1 + s.load := rfl
  have hfresh : (s.push g id).fresh = s.fresh.erase id := rfl
  rw [work, work, hload, hfresh]
  omega

theorem work_move {roots : List String} (hm : Move g roots s s') (h : s.stack ≠ []) :
    s'.work g + 1 = s.work g := by
  cases hm with
  | enter => exact absurd rfl h
  | meet _ hfresh =>
    rw [work_push hfresh]
    simp only [work, load, List.foldr_cons, List.length_cons]
    omega
  | close _ =>
    simp only [work, load, stack_record, fresh_record, List.foldr_cons, List.length_cons]
    omega
  | drop | skip =>
    simp only [work, load, List.foldr_cons, List.length_cons, List.length_nil]
    omega

theorem work_step (h : s.stack ≠ []) : (s.step g).work g + 1 = s.work g := by
  have hmove : Move g [] s (s.step g) := move_step h
  exact work_move hmove h

theorem work_drain_le (s : Search) : (drain g extent s).work g ≤ s.work g := by
  induction s using drain.induct g extent with
  | case1 s hs => exact Nat.le_of_eq (by rw [drain_over hs])
  | case2 s hs ih =>
    have hstep := work_step (g := g) (not_or.1 hs).1
    rw [drain_step hs]
    omega

theorem drainWithin_of_work {n : Nat} (h : s.work g < n) :
    drainWithin g extent n s = some (drain g extent s) := by
  induction n generalizing s with
  | zero => exact absurd h (Nat.not_lt_zero _)
  | succ n ih =>
    rw [drainWithin]
    split
    · rename_i hdone
      rw [drain_over hdone]
    · rename_i hdone
      have hstep := work_step (g := g) (not_or.1 hdone).1
      rw [drain_step hdone]
      exact ih (by omega)

theorem scanWithin_of_work {n : Nat} (h : s.work g < n) (root : String) :
    scanWithin g extent n s root = some (scan g extent s root) ∧
    (scan g extent s root).work g ≤ s.work g := by
  rw [scanWithin, scan]
  split
  · exact ⟨rfl, Nat.le_refl _⟩
  · rename_i hgo
    have hroot : root ∈ s.fresh := by simp_all
    rw [← work_push (g := g) hroot] at h ⊢
    exact ⟨drainWithin_of_work h, work_drain_le _⟩

theorem foldlM_of_work {n : Nat} (h : s.work g < n) (roots : List String) :
    roots.foldlM (scanWithin g extent n) s = some (roots.foldl (scan g extent) s) := by
  induction roots generalizing s with
  | nil => rfl
  | cons root rest ih =>
    obtain ⟨hscan, hle⟩ : scanWithin g extent n s root = some (scan g extent s root) ∧ _ :=
      scanWithin_of_work h root
    rw [List.foldlM_cons, hscan, List.foldl_cons, ← ih (Nat.lt_of_le_of_lt hle h)]
    rfl

end Search

namespace Graph

def cyclesWithin (g : Graph) (n : Nat) (roots : List String) (extent : Extent) :
    Option (List (List String)) :=
  (roots.foldlM (Search.scanWithin g extent n) (.start (roots ++ g.ids).eraseDups)).map (·.cycles)

theorem cycles_of_cyclesWithin {g : Graph} {n : Nat} {roots : List String} {extent : Extent}
    {found : List (List String)} (h : g.cyclesWithin n roots extent = some found) :
    g.cycles roots extent = found := by
  rw [cyclesWithin, Option.map_eq_some_iff] at h
  obtain ⟨s, hs, rfl⟩ := h
  rw [cycles, Search.foldl_scan_of_foldlM hs]

def size (g : Graph) (roots : List String) : Nat := Search.weight g (Search.scope g roots)

theorem cyclesWithin_size (g : Graph) (roots : List String) (extent : Extent) :
    g.cyclesWithin (g.size roots + 1) roots extent = some (g.cycles roots extent) := by
  have hwork : (Search.start (Search.scope g roots)).work g = g.size roots := Nat.zero_add _
  have hlt : (Search.start (Search.scope g roots)).work g < g.size roots + 1 := by omega
  exact congrArg (Option.map (·.cycles)) (Search.foldlM_of_work hlt roots)

end Graph

end GamePack
