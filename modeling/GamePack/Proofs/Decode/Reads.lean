import GamePack.Encode
import GamePack.Proofs.Decode.Tracks
import GamePack.Proofs.Sorted

namespace GamePack

variable {n m : Nat} {α β : Type} {order : FieldOrder}

namespace Decode

theorem natBelow_eq_ok {bound : Nat} {name : String} {mode : Mode} {v : Below n} {k : Nat} :
    natBelow bound name mode v = .ok k ↔ v.1 = .ofNat k ∧ k < bound := by
  unfold natBelow
  split
  · rename_i j hj
    have hnum : v.1 = .ofNat k ↔ j = k := by simp [hj, Json.ofNat]
    rw [hnum]
    by_cases hlt : j < bound
    · rw [if_pos hlt, Except.ok.injEq]
      exact ⟨fun heq ↦ ⟨heq, heq ▸ hlt⟩, And.left⟩
    · rw [if_neg hlt]
      constructor
      · intro h
        cases h
      · rintro ⟨rfl, hk⟩
        exact absurd hk hlt
  · simp_all [fail, Json.ofNat]
  · rename_i hother _
    constructor
    · intro h
      cases h
    · intro h
      exact absurd h.1 (hother k)

/-- The decoder reads a document as a value once the fields of the document are in order. -/
def Reads (order : FieldOrder) (d : Decoder n α) (w : Json) (a : α) : Prop :=
  ∀ mode v, v.1 = w.inOrder order → d mode v = .ok a

namespace Reads

variable {d : Decoder n α} {encode : α → Json} {a : α} {w : Json}

theorem atom (hitems : w.items? = none) (hfields : w.fields? = none)
    (h : ∀ mode (v : Below n), v.1 = w → d mode v = .ok a) : Reads order d w a :=
  fun mode v hv ↦ h mode v (hv.trans (Json.inOrder_atom hitems hfields))

theorem string {s : String} : Reads order (Decode.string (n := n)) (.str s) s :=
  atom rfl rfl fun _ _ hv ↦ string_eq_ok.2 hv

theorem bool {b : Bool} : Reads order (Decode.bool (n := n)) (.bool b) b :=
  atom rfl rfl fun _ _ hv ↦ by rw [Decode.bool, hv]

theorem double {x : Double} : Reads order (Decode.double (n := n)) (.ofDouble x) x :=
  atom rfl rfl fun _ _ hv ↦ by rw [Decode.double, hv]; rfl

theorem nat32 {k : Nat} (h : k < 0x100000000) : Reads order (Decode.nat32 (n := n)) (.ofNat k) k :=
  atom rfl rfl fun _ _ hv ↦ natBelow_eq_ok.2 ⟨hv, h⟩

theorem nat64 {k : Nat} (h : k < 0x10000000000000000) :
    Reads order (Decode.nat64 (n := n)) (.ofNat k) k :=
  atom rfl rfl fun _ _ hv ↦ natBelow_eq_ok.2 ⟨hv, h⟩

theorem any (h : w.inOrder order = w) : Reads order (Decode.any (n := n)) w w :=
  fun _ _ hv ↦ congrArg Except.ok (hv.trans h)

theorem choice [DecidableEq α] {values : List (String × α)} (hnodup : (values.map (·.1)).Nodup)
    (ha : a ∈ values.map (·.2)) :
    Reads order (Decode.choice (n := n) values) (encodeName values a) a := by
  obtain ⟨e, hfind⟩ : ∃ e, values.find? (·.2 = a) = some e := by
    obtain ⟨f, hf, heq⟩ := List.mem_map.1 ha
    exact Option.isSome_iff_exists.1 (List.find?_isSome.2 ⟨f, hf, decide_eq_true heq⟩)
  have hname : encodeName values a = .str e.1 := by
    rw [encodeName, nameIn, hfind]
    rfl
  have hvalue : e.2 = a := by simpa using List.find?_some hfind
  have hlookup : values.lookup e.1 = some a :=
    hvalue ▸ lookup_of_mem hnodup (List.mem_of_find?_eq_some hfind)
  refine hname ▸ atom rfl rfl fun mode v hv ↦ ?_
  obtain ⟨v, below⟩ := v
  cases hv
  rw [Decode.choice, named, hlookup]

theorem absent : Reads order (Decode.option d) (.ofOption encode none) none :=
  atom rfl rfl fun _ _ hv ↦ option_of_null hv

theorem present (h : Reads order d (encode a) a) (hnull : encode a ≠ .null) :
    Reads order (Decode.option d) (.ofOption encode (some a)) (some a) := by
  intro mode v hv
  have hpresent : v.1 ≠ .null := fun heq ↦ Json.inOrder_ne_null hnull (hv.symm.trans heq)
  rw [option_of_ne_null hpresent, h mode v hv]
  rfl

theorem option {o : Option α} (h : ∀ a, Reads order d (encode a) a)
    (hnull : ∀ a, encode a ≠ .null) :
    Reads order (Decode.option d) (.ofOption encode o) o := by
  cases o with
  | none => exact absent
  | some a => exact present (h a) (hnull a)

theorem eachItem {mode : Mode} {as : List α} {items : List (Below n)} {i : Nat}
    (h : ∀ a ∈ as, Reads order d (encode a) a)
    (hitems : items.map (·.1) = as.map fun a ↦ (encode a).inOrder order) :
    Decode.eachItem (d mode) i items = .ok as := by
  induction as generalizing items i with
  | nil =>
    obtain rfl := List.map_eq_nil_iff.1 hitems
    rfl
  | cons a rest ih =>
    obtain ⟨v, others, rfl, hv, hothers⟩ := List.map_eq_cons_iff.1 hitems
    obtain ⟨hhead, hrest⟩ := List.forall_mem_cons.1 h
    rw [Decode.eachItem, bind_eq_ok]
    exact ⟨a, mapError_eq_ok.2 (hhead mode v hv), bind_eq_ok.2 ⟨rest, ih hrest hothers, rfl⟩⟩

theorem list {as : List α} (h : ∀ a ∈ as, Reads order d (encode a) a) :
    Reads order (Decode.list d) (.arr (as.map encode)) as := by
  rintro mode ⟨v, below⟩ hv
  rw [Json.inOrder_arr] at hv
  cases hv
  refine eachItem h ?_
  rw [map_itemsBelow, List.map_map]
  rfl

theorem nonEmpty {as : List α} (h : ∀ a ∈ as, Reads order d (encode a) a) (hsome : as ≠ []) :
    Reads order (Decode.nonEmpty d) (.arr (as.map encode)) as := by
  intro mode v hv
  refine bind_eq_ok.2 ⟨as, list h mode v hv, ?_⟩
  cases as with
  | nil => exact absurd rfl hsome
  | cons a rest => rfl

theorem eachField {mode : Mode} {entries : List (String × α)} {fields : List (String × Below n)}
    (h : ∀ e ∈ entries, Reads order d (encode e.2) e.2)
    (hfields : fields.map (fun f ↦ (f.1, f.2.1)) =
        entries.map fun e ↦ (e.1, (encode e.2).inOrder order)) :
    Decode.eachField (d mode) fields = .ok entries := by
  induction entries generalizing fields with
  | nil =>
    obtain rfl := List.map_eq_nil_iff.1 hfields
    rfl
  | cons e rest ih =>
    obtain ⟨⟨key, v⟩, others, rfl, hv, hothers⟩ := List.map_eq_cons_iff.1 hfields
    obtain ⟨rfl, hv⟩ := Prod.mk.inj hv
    obtain ⟨hhead, hrest⟩ := List.forall_mem_cons.1 h
    rw [Decode.eachField, bind_eq_ok]
    exact ⟨e.2, mapError_eq_ok.2 (hhead mode v hv), bind_eq_ok.2 ⟨rest, ih hrest hothers, rfl⟩⟩

theorem dict {entries : Dict α} (h : ∀ e ∈ entries.entries, Reads order d (encode e.2) e.2) :
    Reads order (Decode.dict d) (entries.encode encode) entries := by
  rintro mode ⟨v, below⟩ hv
  have hascending :
      ((entries.entries.map fun e ↦ (e.1, encode e.2)).map (·.1)).Pairwise (· < ·) := by
    rw [List.map_map]
    exact entries.ascending
  rw [Dict.encode, Json.inOrder_obj_of_ascending hascending, List.map_map] at hv
  cases hv
  refine map_eq_ok.2 ⟨entries.entries, eachField h ?_, Dict.ofList_entries entries⟩
  rw [map_fieldsBelow]
  rfl

theorem empty : Reads order (Decode.dict d) (Dict.empty.encode encode) .empty :=
  dict fun _ h ↦ absurd h List.not_mem_nil

theorem map {f : α → β} (h : Reads order d w a) :
    Reads order (fun mode v ↦ (d mode v).map f) w (f a) :=
  fun mode v hv ↦ map_eq_ok.2 ⟨a, h mode v hv, rfl⟩

variable {build : String → α} {wanted : String}

theorem short {s : String} :
    Reads order (Decode.orElse (fun mode v ↦ (Decode.string mode v).map build) d wanted)
      (.str s) (build s) :=
  atom rfl rfl fun _ _ hv ↦ orElse_eq_ok.2 (.inl (map_eq_ok.2 ⟨s, string_eq_ok.2 hv, rfl⟩))

theorem full {fields : List (String × Json)} (h : Reads order d (.obj fields) a) :
    Reads order (Decode.orElse (fun mode v ↦ (Decode.string mode v).map build) d wanted)
      (.obj fields) a := by
  intro mode v hv
  refine orElse_eq_ok.2 (.inr ⟨fun b hb ↦ ?_, h .aside v hv⟩)
  obtain ⟨s, hs, -⟩ := map_eq_ok.1 hb
  rw [string_eq_ok.1 hs] at hv
  cases order <;> cases hv

end Reads

end Decode

namespace Fields

structure Reads (order : FieldOrder) (x : Fields n α) (written : List (String × Json)) (a : α) :
    Prop where
  names : x.names = written.map (·.1)
  keyed : ∀ {mode : Mode} {find : String → Option (Below n)},
    (∀ f ∈ written, ∃ v, find f.1 = some v ∧ v.1 = f.2.inOrder order) → x.keyed mode find = .ok a

namespace Reads

variable {written written' : List (String × Json)} {a : α}

theorem const : Reads order (Fields.const (n := n) a) [] a := ⟨rfl, fun _ ↦ rfl⟩

theorem map {f : β → α} {x : Fields n β} {b : β} (hx : Reads order x written b) :
    Reads order (f <$> x) written (f b) :=
  ⟨hx.names, fun h ↦ keyed_map.2 ⟨b, hx.keyed h, rfl⟩⟩

theorem seq {f : Fields n (β → α)} {x : Fields n β} {g : β → α} {b : β}
    (hf : Reads order f written g) (hx : Reads order x written' b) :
    Reads order (f <*> x) (written ++ written') (g b) where
  names := by
    rw [List.map_append, ← hf.names, ← hx.names]
    rfl
  keyed h :=
    keyed_seq.2 ⟨g, hf.keyed fun f hf ↦ h f (List.mem_append_left _ hf), b,
      hx.keyed fun f hf ↦ h f (List.mem_append_right _ hf), rfl⟩

theorem field {name : String} {absentKey absentPlace : Option α} {d : Decoder n α} {w : Json}
    (h : Decode.Reads order d w a) :
    Reads order (Fields.field name absentKey absentPlace d) [(name, w)] a where
  names := rfl
  keyed hfind := by
    obtain ⟨v, hv, heq⟩ := hfind (name, w) List.mem_cons_self
    exact keyed_field.2 (.inl ⟨v, hv, h _ v heq⟩)

variable {name : String} {d : Decoder n α} {w : Json} {encode : α → Json}

theorem required (h : Decode.Reads order d w a) :
    Reads order (.required name d) [(name, w)] a := field h

theorem defaulted {b : α} (h : Decode.Reads order d w a) :
    Reads order (.defaulted name b d) [(name, w)] a :=
  field h

theorem optional {o : Option α} (h : ∀ a, Decode.Reads order d (encode a) a)
    (hnull : ∀ a, encode a ≠ .null) :
    Reads order (.optional name d) [(name, .ofOption encode o)] o := defaulted (.option h hnull)

theorem listed {as : List α} (h : ∀ a ∈ as, Decode.Reads order d (encode a) a) :
    Reads order (.listed name d) [(name, .arr (as.map encode))] as := defaulted (.list h)

variable {x : Fields n α} {closed : Bool} {fields : List (String × Below n)} {mode : Mode}

theorem ofObject (h : Reads order x written a)
    (hfind : ∀ f ∈ written, ∃ v, fields.lookup f.1 = some v ∧ v.1 = f.2.inOrder order)
    (hkeys : ∀ key ∈ fields.map (·.1), key ∈ written.map (·.1)) :
    x.ofObject closed mode fields = .ok a :=
  ofObject_eq_ok.2 ⟨h.keyed hfind, fun _ ↦ h.names ▸ hkeys⟩

end Reads

end Fields

namespace Decode

/-- In what is left of a written object, a field is found where it was written. -/
theorem exists_inOrder_fieldsBelow {written : List (String × Json)}
    (hnodup : (written.map (·.1)).Nodup) {v : Json} (hv : v = (Json.obj written).inOrder order) :
    ∃ fields, v = .obj fields ∧ ∀ (below : (Json.obj fields).depth < n + 1),
      (∀ f ∈ written, ∃ w, (fieldsBelow fields below).lookup f.1 = some w ∧
        w.1 = f.2.inOrder order) ∧
      ∀ key ∈ (fieldsBelow fields below).map (·.1), key ∈ written.map (·.1) := by
  obtain ⟨fields, hobj, hlookup⟩ := Json.exists_inOrder_obj order hnodup
  refine ⟨fields, hv.trans hobj, fun below ↦ ⟨fun f hf ↦ ?_, fun key hkey ↦ ?_⟩⟩
  · have hfield : fields.lookup f.1 = some (f.2.inOrder order) := by
      rw [hlookup, lookup_of_mem hnodup hf]
      rfl
    obtain ⟨hbelow, hfind⟩ := exists_lookup_fieldsBelow below hfield
    exact ⟨_, hfind, rfl⟩
  · rw [keys_fieldsBelow, ← isSome_lookup_iff, hlookup, Option.isSome_map,
      isSome_lookup_iff] at hkey
    exact hkey

namespace Reads

variable {written : List (String × Json)} {x : Fields n α} {a : α} {name : String}

theorem structDecoder {x : Fields m α} {closed : Bool} {hm : n ≤ m + 1}
    (h : x.Reads order written a) (hnodup : x.names.Nodup) :
    Reads order (x.structDecoder closed name hm) (.obj written) a := by
  rintro mode ⟨v, below⟩ hv
  obtain ⟨fields, rfl, hfields⟩ := exists_inOrder_fieldsBelow (n := m) (h.names ▸ hnodup) hv
  obtain ⟨hfind, hkeys⟩ := hfields (Nat.lt_of_lt_of_le below hm)
  exact h.ofObject hfind hkeys

theorem closed (h : x.Reads order written a) (hnodup : x.names.Nodup) :
    Reads order (x.closed name) (.obj written) a := structDecoder h hnodup

theorem lenient (h : x.Reads order written a) (hnodup : x.names.Nodup) :
    Reads order (x.lenient name) (.obj written) a := structDecoder h hnodup

end Reads

end Decode

namespace Tagged

variable {t : Tagged n α} {variant : Variant n α}

theorem variantOf_tag (htags : t.tags.Nodup) (hmem : variant ∈ t.variants) (mode : Mode) :
    t.variantOf mode (.str variant.tag) = .ok variant := by
  have hfind (variants : List (Variant n α)) (htags : (variants.map (·.tag)).Nodup)
      (hmem : variant ∈ variants) : variants.find? (·.tag = variant.tag) = some variant := by
    induction variants with
    | nil => cases hmem
    | cons first rest ih =>
      obtain ⟨hfirst, hrest⟩ := List.nodup_cons.1 htags
      rw [List.find?_cons]
      rcases List.mem_cons.1 hmem with rfl | hmem
      · rw [decide_eq_true rfl]
      · have hne : first.tag ≠ variant.tag :=
          fun heq ↦ hfirst (List.mem_map.2 ⟨variant, hmem, heq.symm⟩)
        rw [decide_eq_false hne]
        exact ih hrest hmem
  rw [variantOf, hfind t.variants htags hmem]

end Tagged

theorem Decode.Reads.tagged {t : Tagged m α} {hm : n ≤ m + 1} {variant : Variant m α} {a : α}
    {written : List (String × Json)} (hmem : variant ∈ t.variants)
    (h : variant.fields.Reads order written a) (htags : t.tags.Nodup)
    (hnodup : (t.key :: variant.fields.names).Nodup) :
    Reads order (t.decoder hm) (encodeVariant t.key variant.tag written) a := by
  rintro mode ⟨v, below⟩ hv
  rw [h.names] at hnodup
  have hkeys : (((t.key, Json.str variant.tag) :: written).map (·.1)).Nodup := hnodup
  obtain ⟨fields, rfl, hfields⟩ := exists_inOrder_fieldsBelow (n := m) hkeys hv
  obtain ⟨hfind, hknown⟩ := hfields (Nat.lt_of_lt_of_le below hm)
  obtain ⟨htag, hbeside⟩ := List.forall_mem_cons.1 hfind
  obtain ⟨tag, hlookup, htag⟩ := htag
  replace htag : tag.1 = .str variant.tag := htag.trans (Json.inOrder_atom rfl rfl)
  change t.keyed mode _ = _
  unfold Tagged.keyed
  rw [hlookup]
  refine bind_eq_ok.2 ⟨variant, mapError_eq_ok.2 (htag ▸ Tagged.variantOf_tag htags hmem mode),
    mapError_eq_ok.2 (h.ofObject (fun f hf ↦ ?_) fun key hkey ↦ ?_)⟩
  · have hne : f.1 ≠ t.key := fun heq ↦ (List.nodup_cons.1 hnodup).1 (heq ▸ List.mem_map_of_mem hf)
    rw [lookup_filter (· ≠ t.key), if_pos (decide_eq_true hne)]
    exact hbeside f hf
  · rw [keys_filter (· ≠ t.key), List.mem_filter] at hkey
    exact (List.mem_cons.1 (hknown key hkey.1)).resolve_left (of_decide_eq_true hkey.2)

end GamePack
