import GamePack.Proofs.Decode.Tracks

namespace GamePack

variable {n n' : Nat} {α β : Type}

namespace Fields

/-- Descriptions of the declared fields, of any indices, whose decoders track the declared forms. -/
structure Tracks (fs : List (String × Form)) (x : Fields n α) (x' : Fields n' α) : Prop where
  names : x.names = fs.map (·.1)
  names' : x'.names = fs.map (·.1)
  keyed : ∀ {mode : Mode} {find : String → Option (Below n)} (find' : String → Option (Below n'))
      {a : α},
    x.keyed mode find = .ok a →
    (∀ f ∈ fs, (find f.1).map (f.2.trim ·.1) = (find' f.1).map (f.2.trim ·.1)) →
    x'.keyed mode find' = .ok a ∧ ∀ f ∈ fs, ∀ v, find f.1 = some v → f.2.Strict v.1
  placed : ∀ {mode : Mode} {wanted wanted' : String} {i i' : Nat} {items left : List (Below n)}
      (items' : List (Below n')) {a : α},
    x.placed mode wanted i items = .ok (a, left) →
    (∀ (k : Nat) (f : String × Form), fs[k]? = some f →
      items[k]?.map (f.2.trim ·.1) = items'[k]?.map (f.2.trim ·.1)) →
    left = items.drop fs.length ∧
      x'.placed mode wanted' i' items' = .ok (a, items'.drop fs.length) ∧
      ∀ (k : Nat) (f : String × Form) (v : Below n), fs[k]? = some f → items[k]? = some v →
        f.2.Strict v.1

namespace Tracks

variable {fs gs : List (String × Form)}

theorem const (a : α) : Tracks [] (Fields.const (n := n) a) (Fields.const (n := n') a) where
  names := rfl
  names' := rfl
  keyed _ _ h _ := ⟨h, fun f hf ↦ absurd hf List.not_mem_nil⟩
  placed _ _ h _ := by
    obtain ⟨rfl, rfl⟩ := Prod.mk.inj (Except.ok.inj h)
    exact ⟨rfl, rfl, fun k f v hf ↦ by cases hf⟩

theorem map {f : α → β} {x : Fields n α} {x' : Fields n' α} (hx : Tracks fs x x') :
    Tracks fs (f <$> x) (f <$> x') where
  names := hx.names
  names' := hx.names'
  keyed _ _ h hagree := by
    obtain ⟨b, hb, rfl⟩ := keyed_map.1 h
    obtain ⟨hb', hstrict⟩ := hx.keyed _ hb hagree
    exact ⟨keyed_map.2 ⟨b, hb', rfl⟩, hstrict⟩
  placed _ _ h hagree := by
    obtain ⟨b, hb, rfl⟩ := placed_map.1 h
    obtain ⟨hleft, hb', hstrict⟩ := hx.placed _ hb hagree
    exact ⟨hleft, placed_map.2 ⟨b, hb', rfl⟩, hstrict⟩

theorem seq {f : Fields n (α → β)} {f' : Fields n' (α → β)} {x : Fields n α} {x' : Fields n' α}
    (hf : Tracks fs f f') (hx : Tracks gs x x') : Tracks (fs ++ gs) (f <*> x) (f' <*> x') where
  names := by
    rw [List.map_append, ← hf.names, ← hx.names]
    rfl
  names' := by
    rw [List.map_append, ← hf.names', ← hx.names']
    rfl
  keyed _ _ h hagree := by
    obtain ⟨g, hg, b, hb, rfl⟩ := keyed_seq.1 h
    obtain ⟨hg', hfs⟩ := hf.keyed _ hg fun f hf ↦ hagree f (List.mem_append_left _ hf)
    obtain ⟨hb', hgs⟩ := hx.keyed _ hb fun f hf ↦ hagree f (List.mem_append_right _ hf)
    refine ⟨keyed_seq.2 ⟨g, hg', b, hb', rfl⟩, fun f hf ↦ ?_⟩
    rcases List.mem_append.1 hf with hf | hf
    · exact hfs f hf
    · exact hgs f hf
  placed {_ _ _ _ _ items _} items' _ h hagree := by
    have hright (k : Nat) : (fs ++ gs)[fs.length + k]? = gs[k]? := by
      rw [List.getElem?_append_right (Nat.le_add_right ..), Nat.add_sub_cancel_left]
    obtain ⟨g, mid, hg, b, hb, rfl⟩ := placed_seq.1 h
    obtain ⟨rfl, hg', hfs⟩ := hf.placed _ hg fun k f hk ↦ by
      have hlength : k < fs.length := (List.getElem?_eq_some_iff.1 hk).1
      exact hagree k f (by rw [List.getElem?_append_left hlength, hk])
    obtain ⟨rfl, hb', hgs⟩ := hx.placed (items'.drop fs.length) hb fun k f hk ↦ by
      rw [List.getElem?_drop, List.getElem?_drop]
      exact hagree _ f (by rw [hright, hk])
    rw [List.length_append]
    refine ⟨List.drop_drop, ?_, fun k f v hk hv ↦ ?_⟩
    · rw [← List.drop_drop]
      exact placed_seq.2 ⟨g, _, hg', b, hb', rfl⟩
    · rcases Nat.lt_or_ge k fs.length with hlt | hge
      · exact hfs k f v (by rwa [List.getElem?_append_left hlt] at hk) hv
      · obtain ⟨j, rfl⟩ := Nat.exists_eq_add_of_le hge
        exact hgs j f v (by rwa [hright] at hk) (by rwa [List.getElem?_drop])

theorem field {name : String} {absentKey absentPlace : Option α} {g : Form} {d : Decoder n α}
    {d' : Decoder n' α} (h : Decode.Tracks g d d') :
    Tracks [(name, g)] (Fields.field name absentKey absentPlace d)
      (Fields.field name absentKey absentPlace d') where
  names := rfl
  names' := rfl
  keyed {mode find} find' a hrun hagree := by
    have hfind := hagree (name, g) List.mem_cons_self
    rcases keyed_field.1 hrun with ⟨v, hv, ha⟩ | ⟨hv, ha⟩
    · obtain ⟨v', hv', htrim⟩ : ∃ v', find' name = some v' ∧ g.trim v'.1 = g.trim v.1 := by
        rw [hv] at hfind
        exact Option.map_eq_some_iff.1 hfind.symm
      obtain ⟨ha', hstrict⟩ := h mode v v' a ha htrim.symm
      refine ⟨keyed_field.2 (.inl ⟨v', hv', ha'⟩), fun f hf w hw ↦ ?_⟩
      obtain rfl := List.mem_singleton.1 hf
      obtain rfl := Option.some.inj (hv.symm.trans hw)
      exact hstrict
    · have hv' : find' name = none := by
        rw [hv] at hfind
        exact Option.map_eq_none_iff.1 hfind.symm
      refine ⟨keyed_field.2 (.inr ⟨hv', ha⟩), fun f hf w hw ↦ ?_⟩
      obtain rfl := List.mem_singleton.1 hf
      exact absurd (hv.symm.trans hw) (by simp)
  placed {mode _ _ _ _ items _} items' a hrun hagree := by
    have hhead := hagree 0 (name, g) rfl
    rcases placed_field.1 hrun with ⟨v, rfl, ha⟩ | ⟨rfl, rfl, ha⟩
    · cases items' with
      | nil => cases hhead
      | cons v' rest' =>
        obtain ⟨ha', hstrict⟩ := h mode v v' a ha (Option.some.inj hhead)
        refine ⟨rfl, placed_field.2 (.inl ⟨v', rfl, ha'⟩), fun k f w hk hw ↦ ?_⟩
        cases k with
        | zero =>
          obtain rfl := Option.some.inj hk
          obtain rfl := Option.some.inj hw
          exact hstrict
        | succ k => cases hk
    · cases items' with
      | nil => exact ⟨rfl, placed_field.2 (.inr ⟨rfl, rfl, ha⟩), fun k f w _ hw ↦ by cases hw⟩
      | cons v' rest' => cases hhead

theorem required {name : String} {g : Form} {d : Decoder n α} {d' : Decoder n' α}
    (h : Decode.Tracks g d d') :
    Tracks [(name, g)] (Fields.required name d) (Fields.required name d') := field h

theorem defaulted {name : String} {a : α} {g : Form} {d : Decoder n α} {d' : Decoder n' α}
    (h : Decode.Tracks g d d') :
    Tracks [(name, g)] (Fields.defaulted name a d) (Fields.defaulted name a d') := field h

theorem optional {name : String} {g : Form} {d : Decoder n α} {d' : Decoder n' α}
    (h : Decode.Tracks g d d') :
    Tracks [(name, g)] (Fields.optional name d) (Fields.optional name d') := defaulted h.option

theorem listed {name : String} {g : Form} {d : Decoder n α} {d' : Decoder n' α}
    (h : Decode.Tracks g d d') :
    Tracks [(name, .list g)] (Fields.listed name d) (Fields.listed name d') := defaulted h.list

variable {x : Fields n α} {x' : Fields n' α} {mode : Mode} {a : α}

theorem ofObject (h : Tracks fs x x') {closed : Bool} {entries : List (String × Below n)}
    {entries' : List (String × Below n')}
    (hkeys : closed = true → entries.map (·.1) = entries'.map (·.1))
    (hagree : ∀ f ∈ fs,
      (entries.lookup f.1).map (f.2.trim ·.1) = (entries'.lookup f.1).map (f.2.trim ·.1))
    (hrun : x.ofObject closed mode entries = .ok a) :
    x'.ofObject closed mode entries' = .ok a ∧
      (closed = true → ∀ key ∈ entries.map (·.1), key ∈ fs.map (·.1)) ∧
      ∀ f ∈ fs, ∀ v, entries.lookup f.1 = some v → f.2.Strict v.1 := by
  obtain ⟨hkeyed, hknown⟩ := ofObject_eq_ok.1 hrun
  obtain ⟨hkeyed', hstrict⟩ := h.keyed (fun key ↦ entries'.lookup key) hkeyed hagree
  rw [h.names] at hknown
  refine ⟨ofObject_eq_ok.2 ⟨hkeyed', fun hclosed ↦ ?_⟩, hknown, hstrict⟩
  rw [h.names', ← hkeys hclosed]
  exact hknown hclosed

theorem ofArray (h : Tracks fs x x') {wanted wanted' : String} {items : List (Below n)}
    {items' : List (Below n')} (hlength : items.length = items'.length)
    (hagree : ∀ (k : Nat) (f : String × Form), fs[k]? = some f →
      items[k]?.map (f.2.trim ·.1) = items'[k]?.map (f.2.trim ·.1))
    (hrun : x.ofArray wanted mode items = .ok a) :
    x'.ofArray wanted' mode items' = .ok a ∧
      ∀ (k : Nat) (f : String × Form) (v : Below n), fs[k]? = some f → items[k]? = some v →
        f.2.Strict v.1 := by
  obtain ⟨hleft, hplaced, hstrict⟩ := h.placed _ (ofArray_eq_ok.1 hrun) hagree
  have hnil : items'.drop fs.length = [] := by
    rw [List.drop_eq_nil_iff, ← hlength]
    exact List.drop_eq_nil_iff.1 hleft.symm
  rw [hnil] at hplaced
  exact ⟨ofArray_eq_ok.2 hplaced, hstrict⟩

end Tracks

end Fields

namespace Record

variable {r : Record}

theorem nodup_fields (r : Record) : (r.fields.map (·.1)).Nodup := by
  cases r <;> decide

theorem strict_obj {fields : List (String × Json)}
    (hknown : ∀ key ∈ fields.map (·.1), key ∈ r.fields.map (·.1))
    (hparts : ∀ f ∈ r.fields, ∀ w, fields.lookup f.1 = some w → f.2.Strict w) :
    (Form.record r).Strict (.obj fields) := by
  refine Form.strict_iff.2 ⟨?_, fun s g w hg hw ↦ ?_⟩
  · intro fields₀ keys hfields hkeys _ e he
    obtain rfl := Json.obj.inj hfields
    obtain rfl := Option.some.inj hkeys
    exact hknown e.1 (List.mem_map_of_mem he)
  · cases s with
    | key key => exact hparts (key, g) (mem_of_lookup hg) w hw
    | index i => cases hg

theorem strict_arr {items : List Json}
    (hparts : ∀ (k : Nat) (f : String × Form) (w : Json), r.fields[k]? = some f →
      items[k]? = some w → f.2.Strict w) : (Form.record r).Strict (.arr items) := by
  refine Form.strict_iff.2 ⟨?_, fun s g w hg hw ↦ ?_⟩
  · intro fields _ hfields
    cases hfields
  · cases s with
    | key key => cases hg
    | index i =>
      obtain ⟨f, hf, rfl⟩ := Option.map_eq_some_iff.1 hg
      exact hparts i f w hf hw

end Record

namespace Union

variable {u : Union} {b : Branch}

theorem nodup_fields (u : Union) : ∀ b ∈ u.branches, (u.key :: b.fields.map (·.1)).Nodup := by
  cases u <;> decide

theorem mem_branches {tag : Json} (h : u.branchOf tag = some b) : b ∈ u.branches := by
  unfold branchOf at h
  split at h
  · exact List.mem_of_find?_eq_some h
  · exact List.mem_of_getElem? h
  · cases h

theorem within_of_mem {fields : List (String × Json)} (hb : u.branch? (.obj fields) = some b)
    (hmem : b ∈ u.branches) {f : String × Form} (hf : f ∈ b.fields) :
    f.1 ≠ u.key ∧ (Form.union u).within (.obj fields) (.key f.1) = some f.2 := by
  obtain ⟨htag, hnodup⟩ := List.nodup_cons.1 (u.nodup_fields b hmem)
  have hne : f.1 ≠ u.key := fun heq ↦ htag (heq ▸ List.mem_map_of_mem hf)
  refine ⟨hne, ?_⟩
  rw [Form.within, if_neg hne, hb]
  exact lookup_of_mem hnodup hf

theorem strict_obj {fields : List (String × Json)} (hb : u.branch? (.obj fields) = some b)
    (hknown : b.fields.isEmpty = false →
      ∀ e ∈ fields, e.1 ≠ u.key → e.1 ∈ b.fields.map (·.1))
    (hparts : ∀ f ∈ b.fields, ∀ w, f.1 ≠ u.key → fields.lookup f.1 = some w → f.2.Strict w) :
    (Form.union u).Strict (.obj fields) := by
  refine Form.strict_iff.2 ⟨?_, fun s g w hg hw ↦ ?_⟩
  · intro fields₀ keys hfields hkeys hbare e he
    obtain rfl := Json.obj.inj hfields
    rw [Form.keys?, hb] at hkeys
    obtain rfl := Option.some.inj hkeys
    rw [Form.isBare, hb, Option.any_some] at hbare
    by_cases htag : e.1 = u.key
    · exact htag ▸ List.mem_cons_self
    · exact List.mem_cons_of_mem _ (hknown hbare e he htag)
  · cases s with
    | key key =>
      have hne : key ≠ u.key := Form.ne_key_of_within hg rfl
      rw [Form.within, if_neg hne, hb] at hg
      exact hparts (key, g) (mem_of_lookup hg) w hne hw
    | index i => cases hg

theorem strict_arr {items : List Json} (hb : u.branch? (.arr items) = some b)
    (hparts : ∀ (k : Nat) (f : String × Form) (w : Json), b.fields[k]? = some f →
      items[k + 1]? = some w → f.2.Strict w) : (Form.union u).Strict (.arr items) := by
  refine Form.strict_iff.2 ⟨?_, fun s g w hg hw ↦ ?_⟩
  · intro fields _ hfields
    cases hfields
  · rcases s with key | _ | i
    · cases hg
    · cases hg
    · rw [Form.within, hb, Option.bind_some] at hg
      obtain ⟨f, hf, rfl⟩ := Option.map_eq_some_iff.1 hg
      exact hparts i f w hf hw

end Union

namespace Decode.Tracks

theorem closed {r : Record} {fs : List (String × Form)} {x : Fields n α} {x' : Fields n' α}
    {name : String} (h : Fields.Tracks fs x x') (hr : r.fields = fs) :
    Tracks (.record r) (x.closed name) (x'.closed name) := by
  subst hr
  rintro mode ⟨v, hv⟩ ⟨v', hv'⟩ a hrun hagree
  cases v with
  | obj fields =>
    obtain ⟨fields', rfl⟩ := Form.Agree.exists_obj hagree
    have hbelow : (Json.obj fields).depth < n + 1 := Nat.lt_succ_of_lt hv
    have hbelow' : (Json.obj fields').depth < n' + 1 := Nat.lt_succ_of_lt hv'
    have hkeys :
        (fieldsBelow fields hbelow).map (·.1) = (fieldsBelow fields' hbelow').map (·.1) := by
      rw [keys_fieldsBelow, keys_fieldsBelow]
      exact hagree.keys_eq rfl
    have hlookup : ∀ f ∈ r.fields, ((fieldsBelow fields hbelow).lookup f.1).map (f.2.trim ·.1) =
        ((fieldsBelow fields' hbelow').lookup f.1).map (f.2.trim ·.1) := by
      intro f hf
      rw [map_lookup_fieldsBelow, map_lookup_fieldsBelow]
      exact hagree.lookup_eq (lookup_of_mem r.nodup_fields hf)
    obtain ⟨hrun', hknown, hstrict⟩ := h.ofObject (fun _ ↦ hkeys) hlookup hrun
    refine ⟨hrun', Record.strict_obj ?_ fun f hf w hw ↦ ?_⟩
    · rw [← keys_fieldsBelow fields hbelow]
      exact hknown rfl
    · obtain ⟨below, hfind⟩ := exists_lookup_fieldsBelow hbelow hw
      exact hstrict f hf _ hfind
  | arr items =>
    obtain ⟨items', rfl⟩ := Form.Agree.exists_arr hagree
    have hbelow : (Json.arr items).depth < n + 1 := Nat.lt_succ_of_lt hv
    have hbelow' : (Json.arr items').depth < n' + 1 := Nat.lt_succ_of_lt hv'
    have hlength : (itemsBelow items hbelow).length = (itemsBelow items' hbelow').length := by
      rw [length_itemsBelow, length_itemsBelow]
      exact hagree.length_eq
    have hitems : ∀ (k : Nat) (f : String × Form), r.fields[k]? = some f →
        (itemsBelow items hbelow)[k]?.map (f.2.trim ·.1) =
          (itemsBelow items' hbelow')[k]?.map (f.2.trim ·.1) := by
      intro k f hf
      rw [map_getElem?_itemsBelow, map_getElem?_itemsBelow]
      have hwithin : (Form.record r).within (.arr items) (.index k) = some f.2 := by
        rw [Form.within, hf, Option.map_some]
      exact hagree.getElem?_eq hwithin
    obtain ⟨hrun', hstrict⟩ := h.ofArray hlength hitems hrun
    refine ⟨hrun', Record.strict_arr fun k f w hf hw ↦ ?_⟩
    obtain ⟨below, hitem⟩ := exists_getElem?_itemsBelow hbelow hw
    exact hstrict k f _ hf hitem
  | _ => cases hrun

end Decode.Tracks

structure Variant.Tracks (b : Branch) (x : Variant n α) (x' : Variant n' α) : Prop where
  tag : x.tag = b.tag
  tag' : x'.tag = b.tag
  bare : x.bare = b.fields.isEmpty
  bare' : x'.bare = b.fields.isEmpty
  fields : Fields.Tracks b.fields x.fields x'.fields

namespace Variant.Tracks

theorem plain {tag : String} {a : α} :
    Variant.Tracks ⟨tag, []⟩ (Variant.plain (n := n) tag a) (Variant.plain (n := n') tag a) :=
  ⟨rfl, rfl, rfl, rfl, .const a⟩

theorem withFields {tag : String} {f : String × Form} {fs : List (String × Form)} {x : Fields n α}
    {x' : Fields n' α} (h : Fields.Tracks (f :: fs) x x') :
    Variant.Tracks ⟨tag, f :: fs⟩ (.withFields tag x) (.withFields tag x') :=
  ⟨rfl, rfl, rfl, rfl, h⟩

end Variant.Tracks

namespace Tagged

inductive Aligned : List Branch → List (Variant n α) → List (Variant n' α) → Prop
  | nil : Aligned [] [] []
  | cons {b : Branch} {bs : List Branch} {x : Variant n α} {xs : List (Variant n α)}
      {x' : Variant n' α} {xs' : List (Variant n' α)} :
      x.Tracks b x' → Aligned bs xs xs' → Aligned (b :: bs) (x :: xs) (x' :: xs')

variable {bs : List Branch} {xs : List (Variant n α)} {xs' : List (Variant n' α)}

theorem Aligned.find? (h : Aligned bs xs xs') {s : String} {x : Variant n α}
    (hx : xs.find? (·.tag = s) = some x) :
    ∃ b x', bs.find? (·.tag = s) = some b ∧ xs'.find? (·.tag = s) = some x' ∧ x.Tracks b x' := by
  induction h with
  | nil => cases hx
  | @cons b bs y xs y' xs' hy _ ih =>
    rw [List.find?_cons, hy.tag] at hx
    rw [List.find?_cons, List.find?_cons, hy.tag']
    by_cases htag : b.tag = s
    · rw [decide_eq_true htag] at hx ⊢
      obtain rfl := Option.some.inj hx
      exact ⟨b, y', rfl, rfl, hy⟩
    · rw [decide_eq_false htag] at hx ⊢
      exact ih hx

theorem Aligned.getElem? (h : Aligned bs xs xs') {i : Nat} {x : Variant n α}
    (hx : xs[i]? = some x) :
    ∃ b x', bs[i]? = some b ∧ xs'[i]? = some x' ∧ x.Tracks b x' := by
  induction h generalizing i with
  | nil => cases hx
  | @cons b bs y xs y' xs' hy _ ih =>
    cases i with
    | zero =>
      obtain rfl := Option.some.inj hx
      exact ⟨b, y', rfl, rfl, hy⟩
    | succ i => exact ih hx

variable {u : Union} {t : Tagged n α} {t' : Tagged n' α}

theorem exists_branch (h : Aligned u.branches t.variants t'.variants) {mode : Mode} {tag : Json}
    {x : Variant n α} (hx : t.variantOf mode tag = .ok x) :
    ∃ b x', u.branchOf tag = some b ∧ t'.variantOf mode tag = .ok x' ∧ x.Tracks b x' := by
  unfold variantOf at hx ⊢
  cases tag with
  | str s =>
    dsimp only at hx ⊢
    cases hfind : t.variants.find? (·.tag = s) with
    | none => rw [hfind] at hx; cases hx
    | some y =>
      rw [hfind] at hx
      obtain rfl := Except.ok.inj hx
      obtain ⟨b, y', hb, hy', htracks⟩ := h.find? hfind
      exact ⟨b, y', hb, by rw [hy'], htracks⟩
  | num k =>
    cases mode with
    | direct => cases k <;> cases hx
    | aside =>
      cases k with
      | unsigned i =>
        dsimp only at hx ⊢
        cases hitem : t.variants[i]? with
        | none => rw [hitem] at hx; cases hx
        | some y =>
          rw [hitem] at hx
          obtain rfl := Except.ok.inj hx
          obtain ⟨b, y', hb, hy', htracks⟩ := h.getElem? hitem
          exact ⟨b, y', hb, by rw [hy'], htracks⟩
      | _ => cases hx
  | _ => cases mode <;> cases hx

end Tagged

namespace Decode.Tracks

variable {m m' : Nat} {u : Union} {t : Tagged m α} {t' : Tagged m' α}

theorem beside {x : Variant m α} {x' : Variant m' α} {b : Branch} (htracks : x.Tracks b x')
    {fields fields' : List (String × Json)} (hbranch : u.branch? (.obj fields) = some b)
    (hmem : b ∈ u.branches) {hbelow : (Json.obj fields).depth < m + 1}
    {hbelow' : (Json.obj fields').depth < m' + 1} {a : α}
    (hrun : Tagged.ofObject x ((fieldsBelow fields hbelow).filter (·.1 ≠ u.key)) = .ok a)
    (hagree : (Form.union u).Agree (.obj fields) (.obj fields')) :
    Tagged.ofObject x' ((fieldsBelow fields' hbelow').filter (·.1 ≠ u.key)) = .ok a ∧
      (Form.union u).Strict (.obj fields) := by
  let others (key : String) : Bool := key ≠ u.key
  have hfull : (!x.bare) = true ↔ b.fields.isEmpty = false := by
    rw [htracks.bare, Bool.not_eq_true']
  have hbare : (Form.union u).isBare (.obj fields) = b.fields.isEmpty := by
    rw [Form.isBare, hbranch, Option.any_some]
  have hkeys : (!x.bare) = true →
      ((fieldsBelow fields hbelow).filter fun e ↦ others e.1).map (·.1) =
      ((fieldsBelow fields' hbelow').filter fun e ↦ others e.1).map (·.1) := by
    intro hclosed
    rw [keys_filter, keys_filter, keys_fieldsBelow, keys_fieldsBelow,
      hagree.keys_eq (hbare.trans (hfull.1 hclosed))]
  have hlookup : ∀ f ∈ b.fields,
      (((fieldsBelow fields hbelow).filter fun e ↦ others e.1).lookup f.1).map (f.2.trim ·.1) =
        (((fieldsBelow fields' hbelow').filter fun e ↦ others e.1).lookup f.1).map
          (f.2.trim ·.1) := by
    intro f hf
    obtain ⟨hne, hwithin⟩ := Union.within_of_mem hbranch hmem hf
    rw [lookup_filter, lookup_filter, if_pos (decide_eq_true hne), if_pos (decide_eq_true hne),
      map_lookup_fieldsBelow, map_lookup_fieldsBelow]
    exact hagree.lookup_eq hwithin
  obtain ⟨hrun', hknown, hstrict⟩ := htracks.fields.ofObject hkeys hlookup hrun
  refine ⟨?_, Union.strict_obj hbranch (fun hfields e he hne ↦ ?_) fun f hf w hne hw ↦ ?_⟩
  · rw [Tagged.ofObject, htracks.bare', ← htracks.bare]
    exact hrun'
  · refine hknown (hfull.2 hfields) e.1 ?_
    rw [keys_filter, keys_fieldsBelow]
    exact List.mem_filter.2 ⟨List.mem_map_of_mem he, decide_eq_true hne⟩
  · obtain ⟨below, hpart⟩ := exists_lookup_fieldsBelow hbelow hw
    refine hstrict f hf ⟨w, below⟩ ?_
    rw [lookup_filter, if_pos (decide_eq_true hne)]
    exact hpart

theorem keyed (h : Tagged.Aligned u.branches t.variants t'.variants) (hkey : t.key = u.key)
    (hkey' : t'.key = u.key) {mode : Mode} {fields fields' : List (String × Json)}
    {hbelow : (Json.obj fields).depth < m + 1} {hbelow' : (Json.obj fields').depth < m' + 1} {a : α}
    (hrun : t.keyed mode (fieldsBelow fields hbelow) = .ok a)
    (hagree : (Form.union u).Agree (.obj fields) (.obj fields')) :
    t'.keyed mode (fieldsBelow fields' hbelow') = .ok a ∧ (Form.union u).Strict (.obj fields) := by
  unfold Tagged.keyed at hrun ⊢
  rw [hkey] at hrun
  rw [hkey']
  cases hfind : (fieldsBelow fields hbelow).lookup u.key with
  | none => rw [hfind] at hrun; cases hrun
  | some tag =>
    rw [hfind] at hrun
    obtain ⟨x, hx, hobject⟩ := bind_eq_ok.1 hrun
    obtain ⟨b, x', hb, hx', htracks⟩ := Tagged.exists_branch h (mapError_eq_ok.1 hx)
    have htag : fields.lookup u.key = some tag.1 := by
      rw [← lookup_fieldsBelow fields hbelow, hfind, Option.map_some]
    have hbranch : u.branch? (.obj fields) = some b := by
      rw [Union.branch?, htag, Option.bind_some, hb]
    have htag' : fields'.lookup u.key = some tag.1 := (hagree.lookup_key rfl).symm.trans htag
    obtain ⟨below, hfind'⟩ := exists_lookup_fieldsBelow hbelow' htag'
    obtain ⟨hobject', hstrict⟩ :=
      beside htracks hbranch (Union.mem_branches hb) (mapError_eq_ok.1 hobject) hagree
    refine ⟨?_, hstrict⟩
    rw [hfind']
    exact bind_eq_ok.2 ⟨x', mapError_eq_ok.2 hx', mapError_eq_ok.2 hobject'⟩

theorem placed (h : Tagged.Aligned u.branches t.variants t'.variants) {mode : Mode}
    {items items' : List Json}
    {hbelow : (Json.arr items).depth < m + 1} {hbelow' : (Json.arr items').depth < m' + 1} {a : α}
    (hrun : t.placed mode (itemsBelow items hbelow) = .ok a)
    (hagree : (Form.union u).Agree (.arr items) (.arr items')) :
    t'.placed mode (itemsBelow items' hbelow') = .ok a ∧ (Form.union u).Strict (.arr items) := by
  have hlength := hagree.length_eq
  have hhead := hagree.head?_eq (u := u) rfl
  cases items with
  | nil => cases hrun
  | cons tag rest =>
    cases items' with
    | nil => cases hhead
    | cons tag' rest' =>
      obtain rfl : tag = tag' := Option.some.inj hhead
      obtain ⟨below, others, hitems, hothers⟩ := exists_itemsBelow_cons hbelow
      obtain ⟨below', others', hitems', hothers'⟩ := exists_itemsBelow_cons hbelow'
      rw [hitems] at hrun
      rw [hitems']
      obtain ⟨x, hx, harray⟩ := bind_eq_ok.1 hrun
      obtain ⟨b, x', hb, hx', htracks⟩ := Tagged.exists_branch h (mapError_eq_ok.1 hx)
      have hbranch : u.branch? (.arr (tag :: rest)) = some b := by
        rw [Union.branch?, List.head?_cons, Option.bind_some, hb]
      have hwithin (i : Nat) : (Form.union u).within (.arr (tag :: rest)) (.index (i + 1)) =
          b.fields[i]?.map (·.2) := by
        rw [Form.within, hbranch, Option.bind_some]
      have hlength' : others.length = others'.length := by
        have hleft := congrArg List.length hothers
        have hright := congrArg List.length hothers'
        rw [List.length_map] at hleft hright
        rw [hleft, hright]
        exact Nat.succ.inj hlength
      have hparts : ∀ (k : Nat) (f : String × Form), b.fields[k]? = some f →
          others[k]?.map (f.2.trim ·.1) = others'[k]?.map (f.2.trim ·.1) := by
        intro k f hf
        have hpart := hagree.getElem?_eq ((hwithin k).trans (congrArg (Option.map (·.2)) hf))
        rw [List.getElem?_cons_succ, List.getElem?_cons_succ, ← hothers, ← hothers',
          List.getElem?_map, List.getElem?_map, Option.map_map, Option.map_map] at hpart
        exact hpart
      obtain ⟨harray', hstrict⟩ := htracks.fields.ofArray hlength' hparts (mapError_eq_ok.1 harray)
      refine ⟨bind_eq_ok.2 ⟨x', mapError_eq_ok.2 hx', mapError_eq_ok.2 harray'⟩,
        Union.strict_arr hbranch fun k f w hf hw ↦ ?_⟩
      rw [List.getElem?_cons_succ, ← hothers, List.getElem?_map] at hw
      obtain ⟨v, hv, rfl⟩ := Option.map_eq_some_iff.1 hw
      exact hstrict k f v hf hv

theorem tagged {bs : List Branch} {hle : n ≤ m + 1} {hle' : n' ≤ m' + 1}
    (h : Tagged.Aligned bs t.variants t'.variants) (hu : u.branches = bs) (hkey : t.key = u.key)
    (hkey' : t'.key = u.key) : Tracks (.union u) (t.decoder hle) (t'.decoder hle') := by
  subst hu
  rintro mode ⟨v, hv⟩ ⟨v', hv'⟩ a hrun hagree
  cases v with
  | obj fields =>
    obtain ⟨fields', rfl⟩ := Form.Agree.exists_obj hagree
    exact keyed h hkey hkey' hrun hagree
  | arr items =>
    obtain ⟨items', rfl⟩ := Form.Agree.exists_arr hagree
    exact placed h hrun hagree
  | _ => cases hrun

end Decode.Tracks

end GamePack
