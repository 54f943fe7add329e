import GamePack.Proofs.Decode.Reads
import GamePack.Proofs.Decode.Structure
import GamePack.Proofs.Parse

namespace GamePack

variable {n n' m m' : Nat} {α β : Type} {order : FieldOrder}

namespace Fields

def Yields (x : Fields n α) (a : α) : Prop :=
  (∃ mode find, x.keyed mode find = .ok a) ∨
    ∃ mode wanted i items left, x.placed mode wanted i items = .ok (a, left)

namespace Yields

variable {a : α}

theorem exists_of_map {f : β → α} {x : Fields n β} (h : (f <$> x).Yields a) :
    ∃ b, x.Yields b ∧ f b = a := by
  rcases h with ⟨mode, find, h⟩ | ⟨mode, wanted, i, items, left, h⟩
  · obtain ⟨b, hb, rfl⟩ := keyed_map.1 h
    exact ⟨b, .inl ⟨mode, find, hb⟩, rfl⟩
  · obtain ⟨b, hb, rfl⟩ := placed_map.1 h
    exact ⟨b, .inr ⟨mode, wanted, i, items, left, hb⟩, rfl⟩

theorem exists_of_seq {f : Fields n (β → α)} {x : Fields n β} (h : (f <*> x).Yields a) :
    ∃ g b, f.Yields g ∧ x.Yields b ∧ g b = a := by
  rcases h with ⟨mode, find, h⟩ | ⟨mode, wanted, i, items, left, h⟩
  · obtain ⟨g, hg, b, hb, rfl⟩ := keyed_seq.1 h
    exact ⟨g, b, .inl ⟨mode, find, hg⟩, .inl ⟨mode, find, hb⟩, rfl⟩
  · obtain ⟨g, mid, hg, b, hb, rfl⟩ := placed_seq.1 h
    exact ⟨g, b, .inr ⟨mode, wanted, i, items, mid, hg⟩, .inr ⟨mode, wanted, _, mid, left, hb⟩, rfl⟩

theorem of_field {name : String} {absentKey absentPlace : Option α} {d : Decoder n α}
    (h : (Fields.field name absentKey absentPlace d).Yields a) :
    (∃ mode v, d mode v = .ok a) ∨ absentKey = some a ∨ absentPlace = some a := by
  rcases h with ⟨mode, find, h⟩ | ⟨mode, wanted, i, items, left, h⟩
  · rcases keyed_field.1 h with ⟨v, -, ha⟩ | ⟨-, ha⟩
    · exact .inl ⟨mode, v, ha⟩
    · exact .inr (.inl ha)
  · rcases placed_field.1 h with ⟨v, -, ha⟩ | ⟨-, -, ha⟩
    · exact .inl ⟨mode, v, ha⟩
    · exact .inr (.inr ha)

theorem eq_of_const {b : α} (h : (Fields.const (n := n) b).Yields a) : a = b := by
  rcases h with ⟨mode, find, h⟩ | ⟨mode, wanted, i, items, left, h⟩
  · exact (Except.ok.inj h).symm
  · exact (Prod.mk.inj (Except.ok.inj h)).1.symm

theorem of_ofObject {x : Fields n α} {closed : Bool} {mode : Mode}
    {fields : List (String × Below n)} (h : x.ofObject closed mode fields = .ok a) : x.Yields a :=
  .inl ⟨mode, _, (ofObject_eq_ok.1 h).1⟩

theorem of_ofArray {x : Fields n α} {wanted : String} {mode : Mode} {items : List (Below n)}
    (h : x.ofArray wanted mode items = .ok a) : x.Yields a :=
  .inr ⟨mode, _, _, items, [], ofArray_eq_ok.1 h⟩

theorem of_structDecoder {x : Fields m α} {closed : Bool} {name : String} {hm : n ≤ m + 1}
    {mode : Mode} {v : Below n} (h : x.structDecoder closed name hm mode v = .ok a) :
    x.Yields a := by
  obtain ⟨v, below⟩ := v
  cases v with
  | obj fields => exact of_ofObject h
  | arr items => exact of_ofArray h
  | _ => cases h

end Yields

end Fields

theorem Tagged.exists_yields {t : Tagged m α} {hm : n ≤ m + 1} {mode : Mode} {v : Below n} {a : α}
    (h : t.decoder hm mode v = .ok a) : ∃ variant ∈ t.variants, variant.fields.Yields a := by
  have hmem {mode : Mode} {tag : Json} {variant : Variant m α}
      (h : t.variantOf mode tag = .ok variant) : variant ∈ t.variants := by
    unfold variantOf at h
    split at h
    · split at h
      · rename_i hfind
        exact Except.ok.inj h ▸ List.mem_of_find?_eq_some hfind
      · cases h
    · split at h
      · rename_i hitem
        exact Except.ok.inj h ▸ List.mem_of_getElem? hitem
      · cases h
    · cases h
  obtain ⟨v, below⟩ := v
  cases v with
  | obj fields =>
    change t.keyed mode _ = _ at h
    unfold Tagged.keyed at h
    split at h
    · cases h
    · obtain ⟨variant, hvariant, hobject⟩ := Decode.bind_eq_ok.1 h
      exact ⟨variant, hmem (Decode.mapError_eq_ok.1 hvariant),
        .of_ofObject (Decode.mapError_eq_ok.1 hobject)⟩
  | arr items =>
    change t.placed mode _ = _ at h
    unfold Tagged.placed at h
    split at h
    · cases h
    · obtain ⟨variant, hvariant, harray⟩ := Decode.bind_eq_ok.1 h
      exact ⟨variant, hmem (Decode.mapError_eq_ok.1 hvariant),
        .of_ofArray (Decode.mapError_eq_ok.1 harray)⟩
  | _ => cases h

namespace Decode

/-- What the first decoder reads is written as something, not `null`, that the second
reads as the same. -/
def Restores (order : FieldOrder) (d : Decoder n α) (d' : Decoder n' α) (encode : α → Json) :
    Prop :=
  ∀ mode v a, d mode v = .ok a → Reads order d' (encode a) a ∧ encode a ≠ .null

namespace Restores

variable {d : Decoder n α} {d' : Decoder n' α} {encode : α → Json}

theorem reads {d : ∀ n, Decoder n α} (w : Json) (h : Restores order (d (w.depth + 1)) d' encode)
    {a : α} (hrun : run d w = .ok a) : Reads order d' (encode a) a := (h _ _ a hrun).1

theorem string : Restores order (Decode.string (n := n)) (Decode.string (n := n')) .str :=
  fun _ _ _ _ ↦ ⟨.string, nofun⟩

theorem bool : Restores order (Decode.bool (n := n)) (Decode.bool (n := n')) .bool :=
  fun _ _ _ _ ↦ ⟨.bool, nofun⟩

theorem double : Restores order (Decode.double (n := n)) (Decode.double (n := n')) .ofDouble :=
  fun _ _ _ _ ↦ ⟨.double, nofun⟩

theorem nat32 : Restores order (Decode.nat32 (n := n)) (Decode.nat32 (n := n')) .ofNat :=
  fun _ _ _ h ↦ ⟨.nat32 (natBelow_eq_ok.1 h).2, nofun⟩

theorem choice [DecidableEq α] {values : List (String × α)} (hnodup : (values.map (·.1)).Nodup) :
    Restores order (Decode.choice (n := n) values) (Decode.choice (n := n') values)
      (encodeName values) := by
  intro mode v a h
  have hnamed {name : String} (h : named values name = .ok a) : a ∈ values.map (·.2) := by
    unfold named at h
    split at h
    · rename_i b hlookup
      obtain rfl := Except.ok.inj h
      exact List.mem_map_of_mem (mem_of_lookup hlookup)
    · cases h
  refine ⟨.choice hnodup ?_, nofun⟩
  obtain ⟨v, below⟩ := v
  cases v with
  | str s => exact hnamed h
  | obj fields =>
    unfold Decode.choice at h
    dsimp only at h
    split at h
    · obtain ⟨b, hb, hrest⟩ := bind_eq_ok.1 h
      obtain ⟨-, -, heq⟩ := bind_eq_ok.1 hrest
      exact hnamed (Except.ok.inj heq ▸ hb)
    · cases h
  | _ => cases h

theorem list_items (h : Restores order d d' encode) {mode : Mode} {v : Below n} {as : List α}
    (hrun : Decode.list d mode v = .ok as) : ∀ a ∈ as, Reads order d' (encode a) a := by
  obtain ⟨items, -, hread⟩ := Decode.exists_of_list hrun
  intro a ha
  obtain ⟨w, -, hw⟩ := exists_of_mem_of_forall₂ hread.flip ha
  exact (h mode w a hw).1

theorem list (h : Restores order d d' encode) :
    Restores order (Decode.list d) (Decode.list d') fun as ↦ .arr (as.map encode) :=
  fun _ _ _ hrun ↦ ⟨.list (h.list_items hrun), nofun⟩

theorem nonEmpty (h : Restores order d d' encode) :
    Restores order (Decode.nonEmpty d) (Decode.nonEmpty d') fun as ↦ .arr (as.map encode) := by
  intro mode v as hrun
  obtain ⟨items, hitems, hsome⟩ := bind_eq_ok.1 hrun
  cases items with
  | nil => cases hsome
  | cons a rest =>
    obtain rfl := Except.ok.inj hsome
    exact ⟨.nonEmpty (h.list_items hitems) (List.cons_ne_nil a rest), nofun⟩

theorem exists_of_mem_eachField {mode : Mode} {fields : List (String × Below n)}
    {entries : List (String × α)} (h : Decode.eachField (d mode) fields = .ok entries) :
    ∀ e ∈ entries, ∃ v, d mode v = .ok e.2 := by
  induction fields generalizing entries with
  | nil =>
    obtain rfl := Except.ok.inj h
    nofun
  | cons f rest ih =>
    obtain ⟨a, ha, hrest⟩ := bind_eq_ok.1 h
    obtain ⟨others, hothers, heq⟩ := bind_eq_ok.1 hrest
    obtain rfl := Except.ok.inj heq
    exact List.forall_mem_cons.2 ⟨⟨f.2, mapError_eq_ok.1 ha⟩, ih hothers⟩

theorem dict (h : Restores order d d' encode) :
    Restores order (Decode.dict d) (Decode.dict d') (Dict.encode encode) := by
  rintro mode ⟨v, below⟩ entries hrun
  cases v with
  | obj fields =>
    obtain ⟨read, hread, rfl⟩ := map_eq_ok.1 hrun
    refine ⟨.dict fun e he ↦ ?_, nofun⟩
    have hmem : e ∈ read := by
      have hlookup := Dict.get?_ofList read e.1
      rw [Dict.get?, lookup_of_mem (nodup_of_ascending (Dict.ofList read).ascending) he] at hlookup
      exact List.mem_reverse.1 (mem_of_lookup hlookup.symm)
    obtain ⟨w, hw⟩ := exists_of_mem_eachField hread e hmem
    exact (h mode w e.2 hw).1
  | _ => cases hrun

end Restores

end Decode

namespace Fields

/-- The values that the first fields yield are those of a family; each is written as the family
says, and the second fields read it back. -/
def Restores {σ : Type} (order : FieldOrder) (x : Fields n α) (x' : Fields n' α) (value : σ → α)
    (written : σ → List (String × Json)) : Prop :=
  ∀ a, x.Yields a → ∃ s, value s = a ∧ x'.Reads order (written s) a

namespace Restores

variable {σ τ : Type} {name : String} {d : Decoder n α} {d' : Decoder n' α} {encode : α → Json}

theorem map {f : β → α} {x : Fields n β} {x' : Fields n' β} {value : σ → β}
    {written : σ → List (String × Json)} (hx : Restores order x x' value written) :
    Restores order (f <$> x) (f <$> x') (fun s ↦ f (value s)) written := by
  intro a h
  obtain ⟨b, hb, rfl⟩ := h.exists_of_map
  obtain ⟨s, rfl, hs⟩ := hx b hb
  exact ⟨s, rfl, hs.map⟩

theorem seq {f : Fields n (β → α)} {f' : Fields n' (β → α)} {x : Fields n β} {x' : Fields n' β}
    {values : σ → β → α} {value : τ → β} {written : σ → List (String × Json)}
    {written' : τ → List (String × Json)} (hf : Restores order f f' values written)
    (hx : Restores order x x' value written') :
    Restores order (f <*> x) (f' <*> x') (fun s : σ × τ ↦ values s.1 (value s.2))
      (fun s ↦ written s.1 ++ written' s.2) := by
  intro a h
  obtain ⟨g, b, hg, hb, rfl⟩ := h.exists_of_seq
  obtain ⟨s, rfl, hs⟩ := hf g hg
  obtain ⟨t, rfl, ht⟩ := hx b hb
  exact ⟨(s, t), rfl, hs.seq ht⟩

theorem field {absentKey absentPlace : Option α}
    (h : ∀ mode v a, d mode v = .ok a → Decode.Reads order d' (encode a) a)
    (hkey : ∀ a, absentKey = some a → Decode.Reads order d' (encode a) a)
    (hplace : ∀ a, absentPlace = some a → Decode.Reads order d' (encode a) a) :
    Restores order (Fields.field name absentKey absentPlace d)
      (Fields.field name absentKey absentPlace d') id
      fun a ↦ [(name, encode a)] := by
  intro a ha
  refine ⟨a, rfl, .field ?_⟩
  rcases ha.of_field with ⟨mode, v, ha⟩ | ha | ha
  · exact h mode v a ha
  · exact hkey a ha
  · exact hplace a ha

theorem required (h : Decode.Restores order d d' encode) :
    Restores order (.required name d) (.required name d') id fun a ↦ [(name, encode a)] :=
  field (fun mode v a ha ↦ (h mode v a ha).1) nofun nofun

theorem defaulted {a : α} (h : Decode.Restores order d d' encode)
    (ha : Decode.Reads order d' (encode a) a) :
    Restores order (.defaulted name a d) (.defaulted name a d') id fun a ↦ [(name, encode a)] := by
  have hdefault : ∀ b, some a = some b → Decode.Reads order d' (encode b) b := by
    rintro b ⟨⟩
    exact ha
  exact field (fun mode v a ha ↦ (h mode v a ha).1) hdefault hdefault

theorem optional (h : Decode.Restores order d d' encode) :
    Restores order (.optional name d) (.optional name d') id fun a ↦
      [(name, .ofOption encode a)] := by
  have hdefault : ∀ b, some none = some b →
      Decode.Reads order (Decode.option d') (.ofOption encode b) b := by
    rintro b ⟨⟩
    exact .absent
  refine field (fun mode v a ha ↦ ?_) hdefault hdefault
  by_cases hnull : v.1 = .null
  · rw [Decode.option_of_null hnull] at ha
    obtain rfl := Except.ok.inj ha
    exact .absent
  · rw [Decode.option_of_ne_null hnull] at ha
    obtain ⟨b, hb, rfl⟩ := Decode.map_eq_ok.1 ha
    obtain ⟨hreads, hpresent⟩ := h mode v b hb
    exact .present hreads hpresent

theorem listed (h : Decode.Restores order d d' encode) :
    Restores order (.listed name d) (.listed name d') id fun as ↦ [(name, .arr (as.map encode))] :=
  defaulted h.list (.list nofun)

end Restores

end Fields

def Variant.Restores (order : FieldOrder) (key : String) (encode : α → Json) (x : Variant n α)
    (x' : Variant n' α) : Prop :=
  ∀ a, x.fields.Yields a →
    ∃ written, encode a = encodeVariant key x'.tag written ∧ x'.fields.Reads order written a

namespace Variant.Restores

variable {key tag : String} {encode : α → Json}

theorem plain {a : α} (hencode : encode a = encodeVariant key tag []) :
    Variant.Restores order key encode (.plain (n := n) tag a) (.plain (n := n') tag a) := by
  intro b h
  obtain rfl := h.eq_of_const
  exact ⟨[], hencode, .const⟩

theorem withFields {σ : Type} {x : Fields n α} {x' : Fields n' α} {value : σ → α}
    {written : σ → List (String × Json)} (h : x.Restores order x' value written)
    (hencode : ∀ s, encode (value s) = encodeVariant key tag (written s)) :
    Variant.Restores order key encode (.withFields tag x) (.withFields tag x') := by
  intro a ha
  obtain ⟨s, rfl, hs⟩ := h a ha
  exact ⟨written s, hencode s, hs⟩

end Variant.Restores

theorem Union.nodup_tags (u : Union) : (u.branches.map (·.tag)).Nodup := by
  cases u <;> decide

namespace Decode.Restores

variable {encode : α → Json}

theorem closed {σ : Type} {value : σ → α} {written : σ → List (String × Json)} {name : String}
    {x : Fields n α} {x' : Fields n' α} (h : x.Restores order x' value written)
    (hencode : ∀ s, encode (value s) = .obj (written s)) (hnodup : x'.names.Nodup) :
    Restores order (x.closed name) (x'.closed name) encode := by
  intro mode v a hrun
  obtain ⟨s, rfl, hs⟩ := h a (.of_structDecoder hrun)
  rw [hencode]
  exact ⟨.closed hs hnodup, nofun⟩

theorem tagged (u : Union) {t : Tagged m α} {t' : Tagged m' α} {hm : n ≤ m + 1} {hm' : n' ≤ m' + 1}
    (h : List.Forall₂ (Variant.Restores order t'.key encode) t.variants t'.variants)
    (hkey : t'.key = u.key) (htags : t'.tags = u.branches.map (·.tag))
    (hnames : t'.variants.map (·.fields.names) = u.branches.map fun b ↦ b.fields.map (·.1)) :
    Restores order (t.decoder hm) (t'.decoder hm') encode := by
  intro mode v a hrun
  obtain ⟨x, hx, ha⟩ := Tagged.exists_yields hrun
  obtain ⟨x', hx', hrestores⟩ := exists_of_mem_of_forall₂ h hx
  obtain ⟨written, hencode, hreads⟩ := hrestores a ha
  have hnodup : (t'.key :: x'.fields.names).Nodup := by
    obtain ⟨b, hb, heq⟩ := List.mem_map.1 (hnames ▸ List.mem_map_of_mem hx')
    rw [hkey, ← heq]
    exact u.nodup_fields b hb
  rw [hencode]
  exact ⟨.tagged hx' hreads (htags ▸ u.nodup_tags) hnodup, nofun⟩

end Decode.Restores

end GamePack
