import GamePack.Graph.Cycle
import GamePack.Proofs.Dict
import Mathlib.Data.List.Nodup
import Mathlib.Logic.Relation

namespace GamePack

namespace Search

inductive Move (g : Graph) (roots : List String) : Search → Search → Prop
  | enter {root : String} {fresh : List String} {cycles : List (List String)} :
      root ∈ roots → root ∈ fresh →
        Move g roots ⟨[], fresh, cycles⟩ (push g root ⟨[], fresh, cycles⟩)
  | drop (node : String) (rest : List Frame) (fresh : List String) (cycles : List (List String)) :
      Move g roots ⟨⟨node, []⟩ :: rest, fresh, cycles⟩ ⟨rest, fresh, cycles⟩
  | close {node next : String} {pending fresh : List String} {rest : List Frame}
      {cycles : List (List String)} :
      next ∈ path ⟨⟨node, pending⟩ :: rest, fresh, cycles⟩ →
      Move g roots ⟨⟨node, next :: pending⟩ :: rest, fresh, cycles⟩
        (record next ⟨⟨node, pending⟩ :: rest, fresh, cycles⟩)
  | meet {node next : String} {pending fresh : List String} {rest : List Frame}
      {cycles : List (List String)} :
      next ∉ path ⟨⟨node, pending⟩ :: rest, fresh, cycles⟩ → next ∈ fresh →
      Move g roots ⟨⟨node, next :: pending⟩ :: rest, fresh, cycles⟩
        (push g next ⟨⟨node, pending⟩ :: rest, fresh, cycles⟩)
  | skip {node next : String} {pending fresh : List String} {rest : List Frame}
      {cycles : List (List String)} :
      next ∉ path ⟨⟨node, pending⟩ :: rest, fresh, cycles⟩ → next ∉ fresh →
      Move g roots ⟨⟨node, next :: pending⟩ :: rest, fresh, cycles⟩
        ⟨⟨node, pending⟩ :: rest, fresh, cycles⟩

abbrev Leads (g : Graph) (roots : List String) : Search → Search → Prop :=
  Relation.ReflTransGen (Move g roots)

def scope (g : Graph) (roots : List String) : List String := (roots ++ g.ids).eraseDups

def Reached (g : Graph) (roots : List String) : Search → Prop :=
  Leads g roots (.start (scope g roots))

variable {g : Graph} {roots ids : List String} {s s' : Search} {extent : Extent} {root : String}

@[simp]
theorem path_cons (f : Frame) (rest : List Frame) (fresh : List String)
    (cycles : List (List String)) :
    path ⟨f :: rest, fresh, cycles⟩ = path ⟨rest, fresh, cycles⟩ ++ [f.node] := by
  simp [path]

@[simp]
theorem path_push (id : String) (s : Search) : (push g id s).path = s.path ++ [id] := by
  simp [path, push]

@[simp]
theorem path_record (id : String) (s : Search) : (s.record id).path = s.path := by
  rw [path, stack_record, path]

theorem mem_path {f : Frame} (h : f ∈ s.stack) : f.node ∈ s.path :=
  List.mem_reverse.2 (List.mem_map_of_mem h)

theorem move_step (h : s.stack ≠ []) : Move g roots s (s.step g) := by
  obtain ⟨stack, fresh, cycles⟩ := s
  match stack with
  | [] => exact absurd rfl h
  | ⟨node, []⟩ :: rest => exact .drop node rest fresh cycles
  | ⟨node, next :: pending⟩ :: rest =>
    simp only [step]
    split
    · rename_i hpath
      exact .close hpath
    · rename_i hpath
      split
      · rename_i hfresh
        exact .meet hpath hfresh
      · rename_i hfresh
        exact .skip hpath hfresh

theorem drain_over (h : s.stack = [] ∨ s.satisfied extent) : drain g extent s = s := by
  rw [drain, if_pos h]

theorem drain_step (h : ¬ (s.stack = [] ∨ s.satisfied extent)) :
    drain g extent s = drain g extent (s.step g) := by
  rw [drain, if_neg h]

theorem leads_drain (s : Search) : Leads g roots s (drain g extent s) := by
  induction s using drain.induct g extent with
  | case1 s hs => rw [drain_over hs]
  | case2 s hs ih =>
    rw [drain_step hs]
    exact .head (move_step (not_or.1 hs).1) ih

/-- Between two scans the path is empty, unless the search is over. -/
def Rests (extent : Extent) (s : Search) : Prop := s.stack = [] ∨ s.satisfied extent

theorem rests_drain (s : Search) : Rests extent (drain g extent s) := by
  induction s using drain.induct g extent with
  | case1 s hs =>
    rw [drain_over hs]
    exact hs
  | case2 s hs ih =>
    rw [drain_step hs]
    exact ih

theorem scan_eq_drain (hs : ¬ s.satisfied extent) (hroot : root ∈ s.fresh) :
    scan g extent s root = drain g extent (s.push g root) := by
  simp [scan, hs, hroot]

theorem scan_eq_self (h : s.satisfied extent ∨ root ∉ s.fresh) : scan g extent s root = s := by
  rcases h with h | h <;> simp [scan, h]

theorem leads_scan (hroot : root ∈ roots) (h : Rests extent s) :
    Leads g roots s (scan g extent s root) ∧ Rests extent (scan g extent s root) := by
  by_cases hs : s.satisfied extent
  · rw [scan_eq_self (.inl hs)]
    exact ⟨.refl, h⟩
  by_cases hfresh : root ∈ s.fresh
  · rw [scan_eq_drain hs hfresh]
    obtain ⟨stack, fresh, cycles⟩ := s
    obtain rfl : stack = [] := h.resolve_right hs
    exact ⟨.head (.enter hroot hfresh) (leads_drain _), rests_drain _⟩
  · rw [scan_eq_self (.inr hfresh)]
    exact ⟨.refl, h⟩

theorem leads_scans (hids : ids ⊆ roots) (h : Rests extent s) :
    Leads g roots s (ids.foldl (scan g extent) s) ∧ Rests extent (ids.foldl (scan g extent) s) := by
  induction ids generalizing s with
  | nil => exact ⟨.refl, h⟩
  | cons root rest ih =>
    obtain ⟨hroot, hrest⟩ := List.cons_subset.1 hids
    obtain ⟨hscan, hrests⟩ := leads_scan (g := g) hroot h
    obtain ⟨hscans, hend⟩ := ih hrest hrests
    exact ⟨hscan.trans hscans, hend⟩

def final (g : Graph) (roots : List String) (extent : Extent) : Search :=
  roots.foldl (scan g extent) (.start (scope g roots))

theorem cycles_final (g : Graph) (roots : List String) (extent : Extent) :
    (final g roots extent).cycles = g.cycles roots extent := rfl

theorem reached_final (g : Graph) (roots : List String) (extent : Extent) :
    Reached g roots (final g roots extent) :=
  (leads_scans (List.Subset.refl roots) (.inl rfl)).1

/-- What holds of a search at its start and is kept by its moves holds whenever it is looked at. -/
theorem Reached.induct {P : Search → Prop} (h : Reached g roots s)
    (hstart : P (.start (scope g roots)))
    (hmove : ∀ {s s'}, Reached g roots s → Move g roots s s' → P s → P s') : P s := by
  induction h with
  | refl => exact hstart
  | tail hs hm ih => exact hmove hs hm ih

theorem cycles_grow_record (id : String) (s : Search) : s.cycles <+: (s.record id).cycles := by
  rw [record]
  split
  · exact List.prefix_rfl
  · exact List.prefix_append ..

theorem Leads.cycles_grow (h : Leads g roots s s') : s.cycles <+: s'.cycles := by
  induction h with
  | refl => exact List.prefix_rfl
  | tail _ hm ih =>
    refine ih.trans ?_
    cases hm with
    | @close node next pending fresh rest cycles _ =>
      exact cycles_grow_record next ⟨⟨node, pending⟩ :: rest, fresh, cycles⟩
    | enter | drop | meet | skip => exact List.prefix_rfl

theorem Leads.fresh_subset (h : Leads g roots s s') : s'.fresh ⊆ s.fresh := by
  induction h with
  | refl => exact List.Subset.refl _
  | tail _ hm ih =>
    refine List.Subset.trans ?_ ih
    cases hm with
    | enter | meet => exact List.erase_subset
    | close _ => simp
    | drop | skip => exact List.Subset.refl _

theorem mem_scope {id : String} : id ∈ scope g roots ↔ id ∈ roots ∨ id ∈ g.ids := by
  rw [scope, List.mem_eraseDups, List.mem_append]

theorem nodup_eraseDups (ids : List String) : ids.eraseDups.Nodup := by
  induction hn : ids.length using Nat.strongRecOn generalizing ids with
  | ind n ih =>
    cases ids with
    | nil => simp
    | cons id rest =>
      rw [List.eraseDups_cons, List.nodup_cons, List.mem_eraseDups, List.mem_filter]
      refine ⟨by simp, ih _ ?_ _ rfl⟩
      exact hn ▸ Nat.lt_succ_of_le (List.length_filter_le ..)

theorem Reached.nodup_fresh (h : Reached g roots s) : s.fresh.Nodup := by
  refine h.induct (P := fun s ↦ s.fresh.Nodup) (nodup_eraseDups _) fun _ hm hs ↦ ?_
  cases hm with
  | enter | meet => exact hs.erase _
  | close _ => simpa using hs
  | drop | skip => exact hs

theorem satisfied_of_leads (h : Leads g roots s s') (hs : s.satisfied extent) :
    s'.satisfied extent := by
  have hgrow := h.cycles_grow.length_le
  simp only [satisfied, Bool.and_eq_true, Bool.not_eq_true',
    List.isEmpty_eq_false_iff_exists_mem] at hs ⊢
  exact ⟨hs.1, hs.2.imp fun _ ↦ (h.cycles_grow.subset ·)⟩

theorem fresh_scan_subset (s : Search) (root : String) :
    (scan g extent s root).fresh ⊆ s.fresh := by
  by_cases h : s.satisfied extent ∨ root ∉ s.fresh
  · rw [scan_eq_self h]
    exact List.Subset.refl _
  · obtain ⟨hs, hroot⟩ := not_or.1 h
    rw [scan_eq_drain hs (not_not.1 hroot)]
    have hleads : Leads g [] (s.push g root) (drain g extent (s.push g root)) := leads_drain _
    exact List.Subset.trans hleads.fresh_subset List.erase_subset

theorem not_mem_fresh_scan (hnodup : s.fresh.Nodup) (hs : ¬ s.satisfied extent) :
    root ∉ (scan g extent s root).fresh := by
  by_cases hfresh : root ∈ s.fresh
  · rw [scan_eq_drain hs hfresh]
    have hleads : Leads g [] (s.push g root) (drain g extent (s.push g root)) := leads_drain _
    exact fun hmem ↦ hnodup.not_mem_erase (hleads.fresh_subset hmem)
  · rwa [scan_eq_self (.inr hfresh)]

theorem scans_filter {id : String} (h : id ∉ s.fresh) :
    ids.foldl (scan g extent) s = (ids.filter (· ≠ id)).foldl (scan g extent) s := by
  induction ids generalizing s with
  | nil => rfl
  | cons x rest ih =>
    rw [List.foldl_cons, List.filter_cons]
    by_cases hx : x = id
    · rw [scan_eq_self (.inr (hx ▸ h)), ih h]
      simp [hx]
    · rw [ih fun hmem ↦ h (fresh_scan_subset s x hmem)]
      simp [hx]

theorem exhausted_scans (h : Reached g roots s) (hids : ids ⊆ roots) (hrests : Rests extent s)
    (hend : ¬ (ids.foldl (scan g extent) s).satisfied extent) :
    (ids.foldl (scan g extent) s).stack = [] ∧ ∀ root ∈ ids,
      root ∉ (ids.foldl (scan g extent) s).fresh := by
  refine ⟨(leads_scans hids hrests).2.resolve_right hend, ?_⟩
  induction ids generalizing s with
  | nil => simp
  | cons root rest ih =>
    obtain ⟨hroot, hrest⟩ := List.cons_subset.1 hids
    obtain ⟨hscan, hrests'⟩ := leads_scan (g := g) hroot hrests
    obtain ⟨hscans, -⟩ := leads_scans (g := g) hrest hrests'
    have hmet : root ∉ (scan g extent s root).fresh :=
      not_mem_fresh_scan h.nodup_fresh fun hs ↦ hend (satisfied_of_leads (hscan.trans hscans) hs)
    intro r hr
    rcases List.mem_cons.1 hr with rfl | hr
    · exact fun hmem ↦ hmet (hscans.fresh_subset hmem)
    · exact ih (h.trans hscan) hrest hrests' hend r hr

theorem exhausted_final (h : ¬ (final g roots extent).satisfied extent) :
    (final g roots extent).stack = [] ∧ ∀ root ∈ roots, root ∉ (final g roots extent).fresh :=
  exhausted_scans .refl (List.Subset.refl roots) (.inl rfl) h

end Search

end GamePack
