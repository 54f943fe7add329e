import GamePack.Proofs.Dict
import GamePack.Proofs.Path

namespace GamePack

section

variable {α : Type} {entries : List (String × α)} {key : String}

theorem lookup_eq_some_iff_mem (hnodup : (entries.map (·.1)).Nodup) {a : α} :
    entries.lookup key = some a ↔ (key, a) ∈ entries :=
  ⟨mem_of_lookup, lookup_of_mem hnodup⟩

theorem lookup_reverse (hnodup : (entries.map (·.1)).Nodup) :
    entries.reverse.lookup key = entries.lookup key := by
  have hreverse : (entries.reverse.map (·.1)).Nodup := by
    rw [List.map_reverse]
    exact List.pairwise_reverse.2 (hnodup.imp Ne.symm)
  ext a
  rw [lookup_eq_some_iff_mem hreverse, lookup_eq_some_iff_mem hnodup, List.mem_reverse]

theorem nodup_of_ascending (h : (entries.map (·.1)).Pairwise (· < ·)) :
    (entries.map (·.1)).Nodup := by
  refine h.imp fun {a b} hlt heq ↦ ?_
  subst heq
  exact String.lt_irrefl a hlt

end

namespace Dict

variable {α : Type}

theorem insertEntry_of_forall_lt {key : String} {a : α} {entries : List (String × α)}
    (h : ∀ e ∈ entries, e.1 < key) : insertEntry key a entries = entries ++ [(key, a)] := by
  induction entries with
  | nil => rfl
  | cons e rest ih =>
    obtain ⟨hlt, hrest⟩ := List.forall_mem_cons.1 h
    have hnot : ¬key < e.1 := fun hgt ↦ String.lt_irrefl _ (String.lt_trans hlt hgt)
    have hne : key ≠ e.1 := fun heq ↦ String.lt_irrefl _ (heq ▸ hlt)
    rw [insertEntry, if_neg hnot, if_neg hne, ih hrest]
    rfl

theorem entries_foldl_insert (entries : List (String × α)) (d : Dict α)
    (h : ((d.entries ++ entries).map (·.1)).Pairwise (· < ·)) :
    (entries.foldl (fun d e ↦ d.insert e.1 e.2) d).entries = d.entries ++ entries := by
  induction entries generalizing d with
  | nil => exact (List.append_nil _).symm
  | cons e rest ih =>
    have hlt : ∀ f ∈ d.entries, f.1 < e.1 := by
      rw [List.map_append, List.pairwise_append] at h
      exact fun f hf ↦ h.2.2 f.1 (List.mem_map_of_mem hf) e.1 List.mem_cons_self
    have hinsert : (d.insert e.1 e.2).entries = d.entries ++ [e] := insertEntry_of_forall_lt hlt
    rw [List.foldl_cons, ih, hinsert, List.append_assoc, List.singleton_append]
    rwa [hinsert, List.append_assoc, List.singleton_append]

theorem entries_ofList {entries : List (String × α)} (h : (entries.map (·.1)).Pairwise (· < ·)) :
    (ofList entries).entries = entries := entries_foldl_insert entries empty h

theorem ofList_entries (d : Dict α) : ofList d.entries = d := by
  have hentries := entries_ofList d.ascending
  cases d
  cases h : ofList _
  simp only [h] at hentries
  cases hentries
  rfl

end Dict

namespace Json

theorem insertField_eq (key : String) (value : Json) (fields : List (String × Json)) :
    insertField key value fields = Dict.insertEntry key value fields := by
  induction fields with
  | nil => rfl
  | cons f rest ih => rw [insertField, Dict.insertEntry, ih]

theorem sortFields_eq (fields : List (String × Json)) :
    sortFields fields = (Dict.ofList fields).entries := by
  have hfold (d : Dict Json) : fields.foldl (fun sorted f ↦ insertField f.1 f.2 sorted) d.entries =
      (fields.foldl (fun d e ↦ d.insert e.1 e.2) d).entries := by
    induction fields generalizing d with
    | nil => rfl
    | cons f rest ih =>
      rw [List.foldl_cons, List.foldl_cons, insertField_eq]
      exact ih (d.insert f.1 f.2)
  exact hfold .empty

variable {fields : List (String × Json)} {items : List Json}

theorem ascending_sortFields (fields : List (String × Json)) :
    ((sortFields fields).map (·.1)).Pairwise (· < ·) :=
  sortFields_eq fields ▸ (Dict.ofList fields).ascending

theorem sortFields_of_ascending (h : (fields.map (·.1)).Pairwise (· < ·)) :
    sortFields fields = fields :=
  (sortFields_eq fields).trans (Dict.entries_ofList h)

theorem lookup_sortFields (key : String) :
    (sortFields fields).lookup key = fields.reverse.lookup key := by
  rw [sortFields_eq]
  exact Dict.get?_ofList fields key

theorem mem_of_mem_sortFields {f : String × Json} (h : f ∈ sortFields fields) : f ∈ fields := by
  have hlookup := lookup_of_mem (nodup_of_ascending (ascending_sortFields fields)) h
  rw [lookup_sortFields] at hlookup
  exact List.mem_reverse.1 (mem_of_lookup hlookup)

theorem sorted_arr (items : List Json) : (arr items).sorted = .arr (items.map sorted) := by
  have hitems : sortedItems items = items.map sorted := by
    induction items with
    | nil => rfl
    | cons v rest ih => rw [sortedItems, ih, List.map_cons]
  rw [sorted, hitems]

theorem sorted_obj (fields : List (String × Json)) :
    (obj fields).sorted = .obj (sortFields (fields.map fun f ↦ (f.1, f.2.sorted))) := by
  have hfields : sortedFields fields = fields.map fun f ↦ (f.1, f.2.sorted) := by
    induction fields with
    | nil => rfl
    | cons f rest ih => rw [sortedFields, ih, List.map_cons]
  rw [sorted, hfields, ofFields]

theorem sorted_sorted (v : Json) : v.sorted.sorted = v.sorted := by
  induction hdepth : v.depth using Nat.strongRecOn generalizing v with
  | ind n ih =>
    subst hdepth
    cases v with
    | arr items =>
      rw [sorted_arr, sorted_arr, List.map_map]
      refine congrArg arr (List.map_congr_left fun w hw ↦ ?_)
      exact ih w.depth (depth_item hw) w rfl
    | obj fields =>
      rw [sorted_obj, sorted_obj]
      have hkeep : ∀ f ∈ sortFields (fields.map fun f ↦ (f.1, f.2.sorted)),
          (f.1, f.2.sorted) = f := by
        intro f hf
        obtain ⟨g, hg, rfl⟩ := List.mem_map.1 (mem_of_mem_sortFields hf)
        exact congrArg (Prod.mk g.1) (ih g.2.depth (depth_field hg) g.2 rfl)
      rw [List.map_congr_left hkeep, List.map_id', sortFields_of_ascending (ascending_sortFields _)]
    | _ => rfl

variable {v : Json}

theorem sorted_of_mem_arr (h : (arr items).sorted = .arr items) (hv : v ∈ items) :
    v.sorted = v := by
  rw [sorted_arr] at h
  rw [← Json.arr.inj h] at hv
  obtain ⟨w, -, rfl⟩ := List.mem_map.1 hv
  exact sorted_sorted w

theorem sorted_of_mem_obj (h : (obj fields).sorted = .obj fields) {f : String × Json}
    (hf : f ∈ fields) : f.2.sorted = f.2 := by
  rw [sorted_obj] at h
  rw [← Json.obj.inj h] at hf
  obtain ⟨g, -, rfl⟩ := List.mem_map.1 (mem_of_mem_sortFields hf)
  exact sorted_sorted g.2

theorem ascending_of_sorted (h : (obj fields).sorted = .obj fields) :
    (fields.map (·.1)).Pairwise (· < ·) := by
  rw [sorted_obj] at h
  rw [← Json.obj.inj h]
  exact ascending_sortFields _

theorem sorted_at? {path : Path} {w : Json} (h : v.sorted = v) (hw : v.at? path = some w) :
    w.sorted = w := by
  induction path generalizing v with
  | nil => exact Option.some.inj hw ▸ h
  | cons s rest ih =>
    cases s with
    | key key =>
      obtain ⟨u, hu, hrest⟩ := Option.bind_eq_some_iff.1 hw
      cases v with
      | obj fields => exact ih (sorted_of_mem_obj h (mem_of_lookup hu)) hrest
      | _ => cases hu
    | index i =>
      obtain ⟨u, hu, hrest⟩ := Option.bind_eq_some_iff.1 hw
      cases v with
      | arr items => exact ih (sorted_of_mem_arr h (List.mem_of_getElem? hu)) hrest
      | _ => cases hu

theorem sorted_atom (hitems : v.items? = none) (hfields : v.fields? = none) : v.sorted = v := by
  cases v with
  | arr items => cases hitems
  | obj fields => cases hfields
  | _ => rfl

end Json

inductive FieldOrder
  | declared
  | ascending
deriving DecidableEq, Repr

namespace Json

def inOrder : FieldOrder → Json → Json
  | .declared, v => v
  | .ascending, v => v.sorted

variable {order : FieldOrder} {fields : List (String × Json)} {v : Json}

theorem inOrder_atom (hitems : v.items? = none) (hfields : v.fields? = none) :
    v.inOrder order = v := by
  cases order with
  | declared => rfl
  | ascending => exact sorted_atom hitems hfields

theorem inOrder_arr (items : List Json) :
    (arr items).inOrder order = .arr (items.map (inOrder order)) := by
  cases order with
  | declared => exact congrArg arr (List.map_id items).symm
  | ascending => exact sorted_arr items

theorem exists_inOrder_obj (order : FieldOrder) (hnodup : (fields.map (·.1)).Nodup) :
    ∃ fields', (obj fields).inOrder order = .obj fields' ∧
      ∀ key, fields'.lookup key = (fields.lookup key).map (inOrder order) := by
  cases order with
  | declared => exact ⟨fields, rfl, fun key ↦ (Option.map_id' ..).symm⟩
  | ascending =>
    refine ⟨_, sorted_obj fields, fun key ↦ ?_⟩
    have hkeys : ((fields.map fun f ↦ (f.1, f.2.sorted)).map (·.1)).Nodup := by
      rwa [List.map_map]
    rw [lookup_sortFields, lookup_reverse hkeys]
    exact lookup_map (fun _ w ↦ w.sorted) key fields

theorem inOrder_obj_of_ascending (h : (fields.map (·.1)).Pairwise (· < ·)) :
    (obj fields).inOrder order = .obj (fields.map fun f ↦ (f.1, f.2.inOrder order)) := by
  cases order with
  | declared => exact congrArg obj (List.map_id fields).symm
  | ascending =>
    rw [inOrder, sorted_obj, sortFields_of_ascending]
    · rfl
    · rwa [List.map_map]

theorem inOrder_ne_null (h : v ≠ .null) : v.inOrder order ≠ .null := by
  cases order with
  | declared => exact h
  | ascending => cases v <;> simp_all [inOrder, sorted, ofFields]

end Json

end GamePack
