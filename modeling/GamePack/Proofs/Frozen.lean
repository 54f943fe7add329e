import GamePack.Frozen
import GamePack.Proofs.Sorted
import GamePack.Proofs.WellFormed

namespace GamePack

variable {α : Type} {id : α → String} {items : List α} {k : String}

theorem Dict.ext_get? {d d' : Dict α} (h : ∀ key, d.get? key = d'.get? key) : d = d' := by
  have hnodup (d : Dict α) : d.entries.Nodup := (nodup_of_ascending d.ascending).of_map _
  have hmem (e : String × α) : e ∈ d.entries ↔ e ∈ d'.entries := by
    rw [← lookup_eq_some_iff_mem (nodup_of_ascending d.ascending),
      ← lookup_eq_some_iff_mem (nodup_of_ascending d'.ascending)]
    exact Eq.congr_left (h e.1)
  have hentries : d.entries = d'.entries := by
    refine ((List.perm_ext_iff_of_nodup (hnodup d) (hnodup d')).2 hmem).eq_of_pairwise ?_
      (List.pairwise_map.1 d.ascending) (List.pairwise_map.1 d'.ascending)
    exact fun a b _ _ hab hba ↦ absurd (String.lt_trans hab hba) (String.lt_irrefl _)
  cases d
  cases d'
  congr

namespace Frozen

theorem getElem?_foldl_insert (items : List α) (found : Std.HashMap String α) (k : String) :
    (items.foldl (fun found a ↦ found.insert (id a) a) found)[k]? =
      (items.reverse.find? (id · = k)).or found[k]? := by
  induction items generalizing found with
  | nil => rfl
  | cons a rest ih =>
    rw [List.foldl_cons, ih, List.reverse_cons, List.find?_append, Option.or_assoc,
      Std.HashMap.getElem?_insert]
    by_cases h : id a = k <;> simp [h]

theorem getElem?_lastById (id : α → String) (items : List α) (k : String) :
    (lastById id items)[k]? = items.reverse.find? (id · = k) := by
  rw [lastById, getElem?_foldl_insert, Std.HashMap.getElem?_empty, Option.or_none]

theorem get?_ofList (id : α → String) (items : List α) (k : String) :
    (ofList id items).get? k = items.reverse.find? (id · = k) := getElem?_lastById id items k

theorem get?_ofList_eq_none_iff : (ofList id items).get? k = none ↔ k ∉ items.map id := by
  rw [get?_ofList, List.find?_eq_none]
  simp

theorem get?_ofList_of_perm {map : Std.HashMap String α} {order : List (String × α)}
    (h : order.Perm map.toList) (k : String) : (Dict.ofList order).get? k = map[k]? := by
  have hnodup : (order.map (·.1)).Nodup := by
    rw [(h.map Prod.fst).nodup_iff, Std.HashMap.map_fst_toList_eq_keys]
    exact Std.HashMap.nodup_keys
  rw [Dict.get?_ofList, lookup_reverse hnodup]
  ext a
  rw [lookup_eq_some_iff_mem hnodup, h.mem_iff, Std.HashMap.mem_toList_iff_getElem?_eq_some]

/-- The records do not depend on the order in which the map by id gives its entries. -/
theorem ofList_eq_records {order : List (String × α)}
    (h : order.Perm (ofList id items).byId.toList) :
    Dict.ofList order = (ofList id items).records :=
  Dict.ext_get? fun k ↦ (get?_ofList_of_perm h k).trans (get?_ofList_of_perm (.refl _) k).symm

theorem get?_records (id : α → String) (items : List α) (k : String) :
    (ofList id items).records.get? k = (ofList id items).get? k := get?_ofList_of_perm (.refl _) k

end Frozen

def LastAt (id : α → String) (items : List α) (k : String) (i : Nat) (a : α) : Prop :=
  items[i]? = some a ∧ id a = k ∧ ∀ j b, i < j → items[j]? = some b → id b ≠ k

theorem lastAt_concat (b : α) {i : Nat} {a : α} : LastAt id (items ++ [b]) k i a ↔
    if id b = k then i = items.length ∧ a = b else LastAt id items k i a := by
  have hend : (items ++ [b])[items.length]? = some b := by simp
  have hbefore {j : Nat} {c : α} (h : items[j]? = some c) : (items ++ [b])[j]? = some c :=
    List.getElem?_append_left (List.getElem?_eq_some_iff.1 h).1 ▸ h
  have hcases {j : Nat} {c : α} (h : (items ++ [b])[j]? = some c) :
      items[j]? = some c ∨ j = items.length ∧ c = b := by
    rcases lt_or_ge j items.length with hj | hj
    · rw [List.getElem?_append_left hj] at h
      exact .inl h
    · rw [List.getElem?_append_right hj, List.getElem?_singleton] at h
      split at h
      · exact .inr ⟨by omega, (Option.some.inj h).symm⟩
      · cases h
  split
  · rename_i hb
    constructor
    · rintro ⟨ha, -, hafter⟩
      refine (hcases ha).resolve_left fun ha ↦ ?_
      exact hafter items.length b (List.getElem?_eq_some_iff.1 ha).1 hend hb
    · rintro ⟨rfl, rfl⟩
      refine ⟨hend, hb, fun j c hj hc ↦ ?_⟩
      have hlength := (List.getElem?_eq_some_iff.1 hc).1
      rw [List.length_append, List.length_singleton] at hlength
      omega
  · rename_i hb
    constructor
    · rintro ⟨ha, hk, hafter⟩
      rcases hcases ha with ha | ⟨-, rfl⟩
      · exact ⟨ha, hk, fun j c hj hc ↦ hafter j c hj (hbefore hc)⟩
      · exact absurd hk hb
    · rintro ⟨ha, hk, hafter⟩
      refine ⟨hbefore ha, hk, fun j c hj hc ↦ ?_⟩
      rcases hcases hc with hc | ⟨-, rfl⟩
      · exact hafter j c hj hc
      · exact hb

namespace Index

theorem get?_ofList_concat (id : α → String) (items : List α) (b : α) (k : String) :
    (ofList id (items ++ [b])).get? k =
      if id b = k then some (items.length, b) else (ofList id items).get? k := by
  have hentries :
      ofList id (items ++ [b]) = Dict.insert (ofList id items) (id b) (items.length, b) := by
    rw [ofList, List.zipIdx_append, List.map_append, Dict.ofList, List.foldl_append]
    simp [ofList, Dict.ofList]
  rw [hentries, Dict.get?_insert]
  exact if_congr eq_comm rfl rfl

theorem get?_ofList_eq_some_iff {i : Nat} {a : α} :
    (ofList id items).get? k = some (i, a) ↔ LastAt id items k i a := by
  induction items using List.reverseRecOn with
  | nil => simp [ofList, Dict.ofList, LastAt]
  | append_singleton items b ih =>
    rw [get?_ofList_concat, lastAt_concat, ← ih]
    split
    · rw [Option.some.injEq, Prod.mk.injEq, eq_comm, @eq_comm _ b]
    · rfl

theorem get?_ofList_eq_none_iff : (ofList id items).get? k = none ↔ k ∉ items.map id := by
  rw [← Option.map_eq_none_iff (f := Prod.snd), ← Frozen.get?_ofList_eq_none_iff,
    Frozen.get?_ofList, ← item?_ofList, item?]

end Index

structure FindsLast (id : α → String) (items : List α) (c : Frozen α) (x : Index α) : Prop where
  frozen : ∀ k a, c.get? k = some a ↔ ∃ i, LastAt id items k i a
  indexed : ∀ k i a, x.get? k = some (i, a) ↔ LastAt id items k i a
  missing : ∀ k, (c.get? k = none ↔ k ∉ items.map id) ∧ (x.get? k = none ↔ k ∉ items.map id)
  byId : ∀ k, c.byId[k]? = c.get? k ∧ (k ∈ c.byId ↔ k ∈ items.map id)
  records : ∀ k, c.records.get? k = c.get? k ∧ (k ∈ c.records.keys ↔ k ∈ items.map id)
  ascending : c.records.keys.Pairwise (· < ·)
  anyOrder : ∀ order, order.Perm c.byId.toList → Dict.ofList order = c.records
  inOrder : c.items = items ∧ c.ids id = items.map id

theorem findsLast (id : α → String) (items : List α) :
    FindsLast id items (.ofList id items) (.ofList id items) where
  frozen k a := by
    simp only [← Index.get?_ofList_eq_some_iff]
    rw [Frozen.get?_ofList, ← Index.item?_ofList, Index.item?, Option.map_eq_some_iff]
    simp
  indexed k i a := Index.get?_ofList_eq_some_iff
  missing k := ⟨Frozen.get?_ofList_eq_none_iff, Index.get?_ofList_eq_none_iff⟩
  byId k := by
    refine ⟨rfl, ?_⟩
    rw [← Std.HashMap.isSome_getElem?_iff_mem, Option.isSome_iff_ne_none]
    exact (not_congr Frozen.get?_ofList_eq_none_iff).trans not_not
  records k := by
    refine ⟨Frozen.get?_records id items k, ?_⟩
    rw [Dict.mem_keys_iff, Frozen.get?_records, Option.isSome_iff_ne_none]
    exact (not_congr Frozen.get?_ofList_eq_none_iff).trans not_not
  ascending := (Frozen.ofList id items).records.ascending
  anyOrder _ h := Frozen.ofList_eq_records h
  inOrder := ⟨rfl, rfl⟩

namespace Pack

/-- What every look-up for an id of a kind leads to: the entry with that id and its
position, or nothing. -/
structure LeadsTo (p : Pack) (kind : Kind) (id : String) (found : Option (Nat × kind.Entry)) :
    Prop where
  placed : ∀ i e, found = some (i, e) ↔ (p.collection kind)[i]? = some e ∧ kind.entryId e = id
  first : (p.collection kind).find? (kind.entryId · = id) = found.map (·.2)
  indexed : (p.index kind).get? id = found
  frozen : ((FrozenPack.ofPack p).collection kind).get? id = found.map (·.2)
  byId : ((FrozenPack.ofPack p).collection kind).byId[id]? = found.map (·.2)
  records : ((FrozenPack.ofPack p).collection kind).records.get? id = found.map (·.2)
  items : ∀ i e, found = some (i, e) ↔
    ((FrozenPack.ofPack p).collection kind).items[i]? = some e ∧ kind.entryId e = id

/-- All ways to look for an entry find the same, and the digest of the frozen pack is the
one it carries. -/
structure LookupsAgree (p : Pack) : Prop where
  entry : ∀ kind id, p.LeadsTo kind id ((p.index kind).get? id)
  resource : ∀ id, p.resource? id = (p.index .resource).item? id
  entity : ∀ id, p.entity? id = (p.index .entity).item? id
  digest : .ofShape (FrozenPack.ofPack p).shape = (FrozenPack.ofPack p).digest

variable {p : Pack}

theorem find?_eq_item? (kind : Kind) (hnodup : (p.ids kind).Nodup) (id : String) :
    (p.collection kind).find? (kind.entryId · = id) = (p.index kind).item? id := by
  rw [index, Index.item?_ofList]
  exact find?_key_perm (List.reverse_perm _).symm hnodup id

theorem leadsTo_get? {kind : Kind} (hnodup : (p.ids kind).Nodup) (id : String) :
    p.LeadsTo kind id ((p.index kind).get? id) := by
  have hplaced (i : Nat) (e : kind.Entry) : (p.index kind).get? id = some (i, e) ↔
      (p.collection kind)[i]? = some e ∧ kind.entryId e = id := by
    refine ⟨fun h ↦ ?_, ?_⟩
    · obtain ⟨he, hid, -⟩ := Index.get?_ofList_eq_some_iff.1 h
      exact ⟨he, hid⟩
    · rintro ⟨he, rfl⟩
      exact Index.get?_ofList_of_nodup hnodup he
  have hfrozen : ((FrozenPack.ofPack p).collection kind).get? id =
      ((p.index kind).get? id).map (·.2) :=
    (Frozen.get?_ofList _ _ _).trans (Index.item?_ofList _ _ _).symm
  exact
    { placed := hplaced
      first := find?_eq_item? kind hnodup id
      indexed := rfl
      frozen := hfrozen
      byId := hfrozen
      records := (Frozen.get?_records _ _ id).trans hfrozen
      items := hplaced }

theorem lookupsAgree_of_nodup (hnodup : ∀ kind, (p.ids kind).Nodup) : p.LookupsAgree where
  entry kind := leadsTo_get? (hnodup kind)
  resource := find?_eq_item? .resource (hnodup .resource)
  entity := find?_eq_item? .entity (hnodup .entity)
  digest := rfl

end Pack

/-- Look-up by id finds the last of the items with an id, and in a pack about which there is no
issue the only one, by whatever way an entry is looked for. -/
theorem lookups_agree :
    (∀ {α : Type} (id : α → String) (items : List α),
        FindsLast id items (.ofList id items) (.ofList id items)) ∧
      ∀ {doc : Json} {p : Pack}, (Pack.parse doc).1 = some p → issuesOf (Pack.parse doc).2 = [] →
        p.LookupsAgree := by
  refine ⟨findsLast, fun {doc p} hp hclean ↦ ?_⟩
  rw [Pack.check_of_parse hp, issuesOf_eq_nil_iff] at hclean
  exact Pack.lookupsAgree_of_nodup (Structure.hasIssues_check.1 hclean).distinct

theorem lookups_agree_small :
    ∃ p, (Pack.parse Sample.small).1 = some p ∧ issuesOf (Pack.parse Sample.small).2 = [] ∧
    p.LookupsAgree := by
  let p := (Pack.parse Sample.small).1.get (by decide +kernel)
  have hp : (Pack.parse Sample.small).1 = some p := (Option.some_get _).symm
  have hclean : issuesOf (Pack.parse Sample.small).2 = [] :=
    issuesOf_eq_nil_iff.2 (by decide +kernel)
  exact ⟨p, hp, hclean, lookups_agree.2 hp hclean⟩

end GamePack
