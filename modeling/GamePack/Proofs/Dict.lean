import GamePack.Index
import GamePack.Graph.Basic

namespace GamePack

theorem lookup_cons {α : Type} (k : String) (e : String × α) (rest : List (String × α)) :
    (e :: rest).lookup k = if k = e.1 then some e.2 else rest.lookup k := by
  rw [List.lookup_cons]
  by_cases h : k = e.1
  · rw [if_pos h, beq_iff_eq.2 h]
  · rw [if_neg h, beq_eq_false_iff_ne.2 h]

theorem lookup_map {α β : Type} (f : String → α → β) (key : String) (entries : List (String × α)) :
    (entries.map fun e ↦ (e.1, f e.1 e.2)).lookup key = (entries.lookup key).map (f key) := by
  induction entries with
  | nil => rfl
  | cons e rest ih =>
    rw [List.map_cons, List.lookup_cons, List.lookup_cons, ih]
    cases hkey : key == e.1 with
    | true => rw [beq_iff_eq.1 hkey]; rfl
    | false => rfl

theorem lookup_filter {α : Type} (P : String → Bool) (key : String) (entries : List (String × α)) :
    (entries.filter fun e ↦ P e.1).lookup key = if P key then entries.lookup key else none := by
  induction entries with
  | nil => simp
  | cons e rest ih =>
    rw [List.filter_cons, lookup_cons]
    by_cases hkey : key = e.1
    · subst hkey
      cases hP : P e.1 with
      | true => simp [lookup_cons]
      | false => simpa [hP] using ih
    · rw [if_neg hkey, ← ih]
      cases P e.1 with
      | true => exact (lookup_cons ..).trans (if_neg hkey)
      | false => rfl

theorem keys_filter {α : Type} (P : String → Bool) (entries : List (String × α)) :
    (entries.filter fun e ↦ P e.1).map (·.1) = (entries.map (·.1)).filter P := List.filter_map.symm

theorem lookup_of_mem {α : Type} {entries : List (String × α)} (hnodup : (entries.map (·.1)).Nodup)
    {e : String × α} (he : e ∈ entries) : entries.lookup e.1 = some e.2 := by
  induction entries with
  | nil => cases he
  | cons first rest ih =>
    rw [List.map_cons, List.nodup_cons] at hnodup
    rw [lookup_cons]
    rcases List.mem_cons.1 he with rfl | he
    · rw [if_pos rfl]
    · have hne : e.1 ≠ first.1 := fun heq ↦ hnodup.1 (heq ▸ List.mem_map_of_mem he)
      rw [if_neg hne]
      exact ih hnodup.2 he

theorem isSome_lookup_iff {α : Type} (k : String) (entries : List (String × α)) :
    (entries.lookup k).isSome ↔ k ∈ entries.map (·.1) := by
  rw [List.lookup_isSome_iff, List.mem_map]
  exact exists_congr fun e ↦ and_congr_right fun _ ↦ by rw [beq_iff_eq, eq_comm]

theorem mem_of_lookup {α : Type} {k : String} {a : α} {entries : List (String × α)}
    (h : entries.lookup k = some a) : (k, a) ∈ entries := by
  obtain ⟨before, after, rfl, -⟩ := List.lookup_eq_some_iff.1 h
  exact List.mem_append_right _ List.mem_cons_self

section

variable {α : Type} {key : α → String} {items items' : List α}

theorem lookup_map_key (k : String) :
    (items.map fun a ↦ (key a, a)).lookup k = items.find? (key · = k) := by
  induction items with
  | nil => rfl
  | cons a rest ih =>
    rw [List.map_cons, lookup_cons, List.find?_cons]
    by_cases h : key a = k
    · simp [h]
    · rw [if_neg (Ne.symm h), decide_eq_false h]
      exact ih

theorem find?_key_iff (hnodup : (items.map key).Nodup) {k : String} {a : α} :
    items.find? (key · = k) = some a ↔ a ∈ items ∧ key a = k := by
  have hentries : ((items.map fun a ↦ (key a, a)).map (·.1)).Nodup := by rwa [List.map_map]
  rw [← lookup_map_key]
  constructor
  · intro h
    obtain ⟨b, hb, heq⟩ := List.mem_map.1 (mem_of_lookup h)
    obtain ⟨rfl, rfl⟩ := Prod.mk.inj heq
    exact ⟨hb, rfl⟩
  · rintro ⟨ha, rfl⟩
    exact lookup_of_mem hentries (List.mem_map_of_mem ha)

theorem find?_key_perm (h : items.Perm items') (hnodup : (items.map key).Nodup) (k : String) :
    items.find? (key · = k) = items'.find? (key · = k) :=
  Option.ext fun a ↦ by
    rw [find?_key_iff hnodup, find?_key_iff ((h.map key).nodup_iff.1 hnodup), h.mem_iff]

end

namespace Dict

variable {α : Type}

theorem lookup_insertEntry (key k : String) (a : α) (entries : List (String × α)) :
    (insertEntry key a entries).lookup k = if k = key then some a else entries.lookup k := by
  induction entries with
  | nil => simp [insertEntry, lookup_cons]
  | cons e rest ih =>
    obtain ⟨k', b⟩ := e
    rw [insertEntry]
    split
    · rw [lookup_cons]
    · split
      · rename_i heq
        simp only [lookup_cons, heq]
        split <;> rfl
      · rename_i hne
        simp only [lookup_cons, ih]
        by_cases h : k = key
        · rw [if_pos h, if_pos h, if_neg fun hk ↦ hne (h.symm.trans hk)]
        · simp only [if_neg h]

@[simp]
theorem get?_empty (k : String) : (empty : Dict α).get? k = none := rfl

theorem get?_insert (d : Dict α) (key k : String) (a : α) :
    (d.insert key a).get? k = if k = key then some a else d.get? k :=
  lookup_insertEntry key k a d.entries

theorem mem_keys_iff (d : Dict α) (k : String) : k ∈ d.keys ↔ (d.get? k).isSome :=
  (isSome_lookup_iff k d.entries).symm

theorem mem_keys_insert (d : Dict α) (key k : String) (a : α) :
    k ∈ (d.insert key a).keys ↔ k = key ∨ k ∈ d.keys := by
  rw [mem_keys_iff, mem_keys_iff, get?_insert]
  split <;> simp_all

theorem get?_foldl_insert (entries : List (String × α)) (d : Dict α) (k : String) :
    (entries.foldl (fun d e ↦ d.insert e.1 e.2) d).get? k =
      (entries.reverse.lookup k).or (d.get? k) := by
  induction entries generalizing d with
  | nil => simp
  | cons e rest ih =>
    rw [List.foldl_cons, ih, List.reverse_cons, List.lookup_append, get?_insert, Option.or_assoc,
      lookup_cons]
    split <;> simp

theorem get?_ofList (entries : List (String × α)) (k : String) :
    (ofList entries).get? k = entries.reverse.lookup k := by
  rw [ofList, get?_foldl_insert]
  simp

end Dict

namespace IdSet

theorem mem_toList_add (s : IdSet) (id x : String) :
    x ∈ (s.add id).toList ↔ x = id ∨ x ∈ s.toList :=
  Dict.mem_keys_insert s id x ()

theorem mem_toList_foldl_add (ids : List String) (s : IdSet) (x : String) :
    x ∈ (ids.foldl add s).toList ↔ x ∈ ids ∨ x ∈ s.toList := by
  induction ids generalizing s with
  | nil => simp
  | cons id rest ih =>
    rw [List.foldl_cons, ih, mem_toList_add, List.mem_cons]
    grind

theorem mem_toList_ofList (ids : List String) (x : String) : x ∈ (ofList ids).toList ↔ x ∈ ids := by
  rw [ofList, mem_toList_foldl_add, or_iff_left]
  exact List.not_mem_nil

theorem contains_iff (s : IdSet) (x : String) : s.contains x = true ↔ x ∈ s.toList := by
  simp [contains]

theorem isEmpty_iff (s : IdSet) : s.isEmpty = true ↔ s.toList = [] := List.isEmpty_iff

end IdSet

namespace Index

variable {α : Type}

theorem item?_ofList (id : α → String) (items : List α) (k : String) :
    (ofList id items).item? k = items.reverse.find? (id · = k) := by
  have lookup_map (pairs : List (α × Nat)) :
      ((pairs.map fun x ↦ (id x.1, (x.2, x.1))).lookup k).map (·.2) =
        (pairs.map (·.1)).find? (id · = k) := by
    induction pairs with
    | nil => rfl
    | cons x rest ih =>
      rw [List.map_cons, List.map_cons, lookup_cons, List.find?_cons]
      by_cases h : id x.1 = k
      · simp [h]
      · rw [if_neg (Ne.symm h), decide_eq_false h]
        exact ih
  rw [item?, ofList, Dict.get?_ofList, ← List.map_reverse, lookup_map, List.map_reverse,
    List.zipIdx_map_fst]

theorem get?_ofList_of_nodup {id : α → String} {items : List α} (hnodup : (items.map id).Nodup)
    {i : Nat} {a : α} (h : items[i]? = some a) : (ofList id items).get? (id a) = some (i, a) := by
  let entries : List (String × Nat × α) := items.zipIdx.map fun x ↦ (id x.1, (x.2, x.1))
  have hkeys : entries.map (·.1) = (items.zipIdx.map Prod.fst).map id := by
    rw [List.map_map, List.map_map]
    rfl
  have hreverse : (entries.reverse.map (·.1)).Nodup := by
    rw [List.map_reverse, hkeys, List.zipIdx_map_fst]
    exact (List.reverse_perm _).nodup_iff.2 hnodup
  have hmem : (id a, (i, a)) ∈ entries.reverse :=
    List.mem_reverse.2 (List.mem_map.2 ⟨(a, i), List.mem_zipIdx_iff_getElem?.2 h, rfl⟩)
  exact (Dict.get?_ofList entries (id a)).trans (lookup_of_mem hreverse hmem)

end Index

namespace Graph

theorem mem_successors_addEdges (g : Graph) (source : String) (targets : List String)
    (a b : String) :
    b ∈ (g.addEdges source targets).successors a ↔
      a = source ∧ b ∈ targets ∨ b ∈ g.successors a := by
  rw [successors, successorSet, addEdges, Dict.get?_insert]
  split
  · rename_i h
    subst h
    simp [IdSet.mem_toList_foldl_add, successors]
  · rename_i h
    simp [h, successors, successorSet]

theorem edge_addEdges (g : Graph) (source : String) (targets : List String) (a b : String) :
    (g.addEdges source targets).Edge a b ↔ a = source ∧ b ∈ targets ∨ g.Edge a b :=
  mem_successors_addEdges g source targets a b

theorem not_edge_empty (a b : String) : ¬ empty.Edge a b := by
  simp [Edge, successors, successorSet, empty, IdSet.toList, Dict.keys, Dict.empty, Dict.get?]

theorem edge_foldl_addEdge (edges : List (String × String)) (g : Graph) (a b : String) :
    (edges.foldl (fun g e ↦ g.addEdge e.1 e.2) g).Edge a b ↔ (a, b) ∈ edges ∨ g.Edge a b := by
  induction edges generalizing g with
  | nil => simp
  | cons e rest ih =>
    rw [List.foldl_cons, ih, addEdge, edge_addEdges, List.mem_singleton, List.mem_cons,
      Prod.ext_iff, or_left_comm, or_assoc]

theorem edge_ofEdges (edges : List (String × String)) (a b : String) :
    (ofEdges edges).Edge a b ↔ (a, b) ∈ edges := by
  rw [ofEdges, edge_foldl_addEdge]
  simp [not_edge_empty]

theorem mem_ids_of_edge {g : Graph} {a b : String} (h : g.Edge a b) : b ∈ g.ids := by
  rw [Edge, successors, successorSet] at h
  cases hg : g.get? a with
  | none => simp [hg, IdSet.toList, Dict.keys, Dict.empty] at h
  | some s =>
    rw [hg, Option.getD_some] at h
    exact List.mem_flatMap.2 ⟨(a, s), mem_of_lookup hg, List.mem_cons_of_mem _ h⟩

end Graph

end GamePack
