import GamePack.Decode.Fields
import GamePack.Proofs.Sorted
import Mathlib.Data.List.Forall2

namespace GamePack

theorem exists_of_mem_of_forall₂ {α β : Type} {R : α → β → Prop} {as : List α} {bs : List β}
    (h : List.Forall₂ R as bs) {a : α} (ha : a ∈ as) : ∃ b ∈ bs, R a b := by
  induction h with
  | nil => cases ha
  | cons hhead _ ih =>
    rcases List.mem_cons.1 ha with rfl | ha
    · exact ⟨_, List.mem_cons_self, hhead⟩
    · obtain ⟨b, hb, hrest⟩ := ih ha
      exact ⟨b, List.mem_cons_of_mem _ hb, hrest⟩

namespace Decode

variable {n : Nat}

theorem map_fieldsBelow (fields : List (String × Json)) (h : (Json.obj fields).depth < n + 1) :
    (fieldsBelow fields h).map (fun e ↦ (e.1, e.2.1)) = fields := by
  rw [fieldsBelow, List.map_map]
  exact List.attach_map_subtype_val fields

theorem map_itemsBelow (items : List Json) (h : (Json.arr items).depth < n + 1) :
    (itemsBelow items h).map (·.1) = items := by
  rw [itemsBelow, List.map_map]
  exact List.attach_map_subtype_val items

theorem map_fieldsBelow_val {β : Type} (t : Json → β) (fields : List (String × Json))
    (h : (Json.obj fields).depth < n + 1) :
    ((fieldsBelow fields h).map fun e ↦ (e.1, t e.2.1)) = fields.map fun e ↦ (e.1, t e.2) := by
  have hfields := congrArg (List.map fun e ↦ (e.1, t e.2)) (map_fieldsBelow fields h)
  rwa [List.map_map] at hfields

theorem map_itemsBelow_val {β : Type} (t : Json → β) (items : List Json)
    (h : (Json.arr items).depth < n + 1) :
    (itemsBelow items h).map (fun v ↦ t v.1) = items.map t := by
  have hitems := congrArg (List.map t) (map_itemsBelow items h)
  rwa [List.map_map] at hitems

theorem mem_itemsBelow {items : List Json} (h : (Json.arr items).depth < n + 1) {v : Json}
    (hv : v ∈ items) :
    ∃ below, ⟨v, below⟩ ∈ itemsBelow items h := by
  rw [← map_itemsBelow items h] at hv
  obtain ⟨w, hw, rfl⟩ := List.mem_map.1 hv
  exact ⟨w.2, hw⟩

theorem mem_fieldsBelow {fields : List (String × Json)} (h : (Json.obj fields).depth < n + 1)
    {e : String × Json} (he : e ∈ fields) :
    ∃ below, (e.1, ⟨e.2, below⟩) ∈ fieldsBelow fields h := by
  rw [← map_fieldsBelow fields h] at he
  obtain ⟨f, hf, rfl⟩ := List.mem_map.1 he
  exact ⟨f.2.2, hf⟩

theorem lookup_fieldsBelow (fields : List (String × Json)) (h : (Json.obj fields).depth < n + 1)
    (key : String) : ((fieldsBelow fields h).lookup key).map (·.1) = fields.lookup key := by
  have hlookup := lookup_map (fun _ v ↦ v.1) key (fieldsBelow fields h)
  rwa [map_fieldsBelow, eq_comm] at hlookup

theorem map_lookup_fieldsBelow {β : Type} (t : Json → β) (fields : List (String × Json))
    (h : (Json.obj fields).depth < n + 1) (key : String) :
    ((fieldsBelow fields h).lookup key).map (fun v ↦ t v.1) = (fields.lookup key).map t := by
  rw [← lookup_fieldsBelow fields h, Option.map_map]
  rfl

theorem exists_lookup_fieldsBelow {fields : List (String × Json)}
    (h : (Json.obj fields).depth < n + 1) {key : String} {v : Json}
    (hv : fields.lookup key = some v) :
    ∃ below, (fieldsBelow fields h).lookup key = some ⟨v, below⟩ := by
  rw [← lookup_fieldsBelow fields h] at hv
  obtain ⟨w, hw, rfl⟩ := Option.map_eq_some_iff.1 hv
  exact ⟨w.2, hw⟩

theorem keys_fieldsBelow (fields : List (String × Json)) (h : (Json.obj fields).depth < n + 1) :
    (fieldsBelow fields h).map (·.1) = fields.map (·.1) := by
  have hkeys := congrArg (List.map (·.1)) (map_fieldsBelow fields h)
  rwa [List.map_map] at hkeys

theorem map_getElem?_itemsBelow {β : Type} (t : Json → β) (items : List Json)
    (h : (Json.arr items).depth < n + 1) (i : Nat) :
    ((itemsBelow items h)[i]?).map (fun v ↦ t v.1) = items[i]?.map t := by
  rw [← List.getElem?_map, map_itemsBelow_val, List.getElem?_map]

theorem exists_getElem?_itemsBelow {items : List Json} (h : (Json.arr items).depth < n + 1)
    {i : Nat} {v : Json} (hv : items[i]? = some v) :
    ∃ below, (itemsBelow items h)[i]? = some ⟨v, below⟩ := by
  rw [← map_itemsBelow items h, List.getElem?_map] at hv
  obtain ⟨w, hw, rfl⟩ := Option.map_eq_some_iff.1 hv
  exact ⟨w.2, hw⟩

theorem exists_itemsBelow_cons {v : Json} {items : List Json}
    (h : (Json.arr (v :: items)).depth < n + 1) :
    ∃ below others, itemsBelow (v :: items) h = ⟨v, below⟩ :: others ∧
      others.map (·.1) = items := by
  obtain ⟨w, others, hitems, rfl, hothers⟩ := List.map_eq_cons_iff.1 (map_itemsBelow (v :: items) h)
  exact ⟨w.2, others, hitems, hothers⟩

theorem length_itemsBelow (items : List Json) (h : (Json.arr items).depth < n + 1) :
    (itemsBelow items h).length = items.length := by
  rw [itemsBelow, List.length_map, List.length_attach]

theorem sorted_of_mem_itemsBelow {items : List Json} {h : (Json.arr items).depth < n + 1}
    (hsorted : (Json.arr items).sorted = .arr items) {v : Below n} (hv : v ∈ itemsBelow items h) :
    v.1.sorted = v.1 :=
  Json.sorted_of_mem_arr hsorted (map_itemsBelow items h ▸ List.mem_map_of_mem hv)

theorem sorted_of_mem_fieldsBelow {fields : List (String × Json)}
    {h : (Json.obj fields).depth < n + 1} (hsorted : (Json.obj fields).sorted = .obj fields)
    {f : String × Below n} (hf : f ∈ fieldsBelow fields h) : f.2.1.sorted = f.2.1 := by
  have hmem : (f.1, f.2.1) ∈ fields := by
    rw [← map_fieldsBelow fields h]
    exact List.mem_map_of_mem hf
  exact Json.sorted_of_mem_obj hsorted hmem

theorem mapError_eq_ok {ε ε' α : Type} {r : Except ε α} {f : ε → ε'} {a : α} :
    r.mapError f = .ok a ↔ r = .ok a := by
  cases r with
  | error e => constructor <;> intro h <;> cases h
  | ok b => constructor <;> intro h <;> cases h <;> rfl

theorem map_eq_ok {ε α β : Type} {r : Except ε α} {f : α → β} {b : β} :
    r.map f = .ok b ↔ ∃ a, r = .ok a ∧ f a = b := by
  cases r <;> simp [Except.map]

theorem bind_eq_ok {ε α β : Type} {r : Except ε α} {k : α → Except ε β} {b : β} :
    (r >>= k) = .ok b ↔ ∃ a, r = .ok a ∧ k a = .ok b := by
  cases r <;> simp [bind, Except.bind]

theorem mapM_eq_ok {ε α β : Type} {f : α → Except ε β} {items : List α} {results : List β} :
    items.mapM f = .ok results ↔ List.Forall₂ (fun a b ↦ f a = .ok b) items results := by
  induction items generalizing results with
  | nil => cases results <;> simp [pure, Except.pure]
  | cons a rest ih =>
    simp only [List.mapM_cons, bind_eq_ok, ih, pure, Except.pure, Except.ok.injEq]
    cases results <;> simp

theorem eachItem_eq_ok {α : Type} {d : Below n → Except Error α} {items : List (Below n)} {i : Nat}
    {as : List α} :
    eachItem d i items = .ok as ↔ List.Forall₂ (fun v a ↦ d v = .ok a) items as := by
  induction items generalizing i as with
  | nil => cases as <;> simp [eachItem]
  | cons v rest ih =>
    rw [eachItem, bind_eq_ok]
    simp only [bind_eq_ok, inside, mapError_eq_ok, ih]
    cases as with
    | nil => simp [pure, Except.pure]
    | cons a as => simp [pure, Except.pure, List.forall₂_cons]

theorem exists_of_list {α : Type} {d : Decoder n α} {mode : Mode} {v : Below n} {as : List α}
    (h : list d mode v = .ok as) : ∃ items : List (Below n), v.1 = .arr (items.map (·.1)) ∧
      List.Forall₂ (fun v a ↦ d mode v = .ok a) items as := by
  obtain ⟨v, hdepth⟩ := v
  cases v with
  | arr items =>
    refine ⟨_, ?_, eachItem_eq_ok.1 h⟩
    rw [map_itemsBelow]
  | _ => cases h

end Decode

namespace Fields

variable {n : Nat} {α β : Type} {find : String → Option (Below n)} {mode : Mode} {name : String}

theorem keyed_map {f : β → α} {x : Fields n β} {a : α} :
    (f <$> x).keyed mode find = .ok a ↔ ∃ b, x.keyed mode find = .ok b ∧ f b = a := Decode.map_eq_ok

theorem keyed_seq {f : Fields n (β → α)} {x : Fields n β} {a : α} :
    (f <*> x).keyed mode find = .ok a ↔
      ∃ g, f.keyed mode find = .ok g ∧ ∃ b, x.keyed mode find = .ok b ∧ g b = a := by
  change (Fields.seq f x).keyed mode find = .ok a ↔ _
  unfold Fields.seq
  dsimp only
  cases f.keyed mode find <;> cases x.keyed mode find <;> simp

theorem keyed_field {absentKey absentPlace : Option α} {d : Decoder n α} {a : α} :
    (field name absentKey absentPlace d).keyed mode find = .ok a ↔
      (∃ v, find name = some v ∧ d mode v = .ok a) ∨ (find name = none ∧ absentKey = some a) := by
  unfold field
  dsimp only
  cases find name with
  | none => cases absentKey <;> simp
  | some v => simp [Decode.mapError_eq_ok]

variable {wanted : String} {i : Nat} {items left : List (Below n)}

theorem placed_map {f : β → α} {x : Fields n β} {a : α} :
    (f <$> x).placed mode wanted i items = .ok (a, left) ↔
      ∃ b, x.placed mode wanted i items = .ok (b, left) ∧ f b = a := by
  refine Decode.map_eq_ok.trans ?_
  constructor
  · rintro ⟨⟨b, left'⟩, hb, heq⟩
    obtain ⟨rfl, rfl⟩ := Prod.mk.inj heq
    exact ⟨b, hb, rfl⟩
  · rintro ⟨b, hb, rfl⟩
    exact ⟨(b, left), hb, rfl⟩

theorem placed_seq {f : Fields n (β → α)} {x : Fields n β} {a : α} :
    (f <*> x).placed mode wanted i items = .ok (a, left) ↔
      ∃ g mid, f.placed mode wanted i items = .ok (g, mid) ∧
        ∃ b, x.placed mode wanted (i + f.names.length) mid = .ok (b, left) ∧ g b = a := by
  change (Fields.seq f x).placed mode wanted i items = .ok (a, left) ↔ _
  unfold Fields.seq
  rw [Decode.bind_eq_ok]
  constructor
  · rintro ⟨⟨g, mid⟩, hg, hrest⟩
    obtain ⟨⟨b, left'⟩, hb, heq⟩ := Decode.bind_eq_ok.1 hrest
    obtain ⟨rfl, rfl⟩ := Prod.mk.inj (Except.ok.inj heq)
    exact ⟨g, mid, hg, b, hb, rfl⟩
  · rintro ⟨g, mid, hg, b, hb, rfl⟩
    exact ⟨(g, mid), hg, Decode.bind_eq_ok.2 ⟨(b, left), hb, rfl⟩⟩

theorem placed_field {absentKey absentPlace : Option α} {d : Decoder n α} {a : α} :
    (field name absentKey absentPlace d).placed mode wanted i items = .ok (a, left) ↔
      (∃ v, items = v :: left ∧ d mode v = .ok a) ∨
        (items = [] ∧ left = [] ∧ absentPlace = some a) := by
  unfold field
  dsimp only
  cases items with
  | nil => cases absentPlace <;> simp [Decode.fail, eq_comm, and_comm]
  | cons v items =>
    rw [Decode.map_eq_ok]
    simp only [Decode.inside, Decode.mapError_eq_ok, Prod.mk.injEq, List.cons.injEq,
      reduceCtorEq, false_and, or_false]
    constructor
    · rintro ⟨b, hb, rfl, rfl⟩
      exact ⟨v, ⟨rfl, rfl⟩, hb⟩
    · rintro ⟨w, ⟨rfl, rfl⟩, hb⟩
      exact ⟨a, hb, rfl, rfl⟩

theorem ofArray_eq_ok {x : Fields n α} {a : α} : x.ofArray wanted mode items = .ok a ↔
    x.placed mode (wanted ++ " with " ++ Decode.elements x.names.length) 0 items = .ok (a, []) := by
  unfold ofArray
  rw [Decode.bind_eq_ok]
  constructor
  · rintro ⟨⟨b, left⟩, hb, hrest⟩
    cases left with
    | nil =>
      obtain rfl : b = a := Except.ok.inj hrest
      exact hb
    | cons v left => cases mode <;> cases hrest
  · intro ha
    exact ⟨(a, []), ha, rfl⟩

theorem ofObject_eq_ok {x : Fields n α} {closed : Bool} {fields : List (String × Below n)} {a : α} :
    x.ofObject closed mode fields = .ok a ↔ x.keyed mode (fun key ↦ fields.lookup key) = .ok a ∧
      (closed = true → ∀ key ∈ fields.map (·.1), key ∈ x.names) := by
  have hfault (keys : List String) :
      firstFault x.names closed ⟨[], []⟩ keys = none ↔
        (closed = true → ∀ key ∈ keys, key ∈ x.names) := by
    induction keys with
    | nil => simp [firstFault]
    | cons key rest ih =>
      rw [firstFault]
      by_cases hkey : key ∈ x.names
      · simp [hkey, ih]
      · cases closed <;> simp [hkey, ih]
  unfold ofObject
  dsimp only
  cases x.keyed mode (fun key ↦ fields.lookup key) with
  | ok b =>
    dsimp only
    rw [← hfault]
    cases firstFault x.names closed ⟨[], []⟩ (fields.map (·.1)) <;> simp
  | error faults =>
    dsimp only
    cases firstFault x.names closed faults (fields.map (·.1)) <;> simp [Decode.fail]

/-- What is left of a list is what follows the declared fields. -/
def Leaves (x : Fields n α) : Prop :=
  ∀ ⦃mode wanted i items a left⦄, x.placed mode wanted i items = .ok (a, left) →
    left = items.drop x.names.length

namespace Leaves

theorem map {f : β → α} {x : Fields n β} (hx : x.Leaves) : (f <$> x).Leaves := by
  intro mode wanted i items a left h
  obtain ⟨b, hb, -⟩ := placed_map.1 h
  exact hx hb

theorem seq {f : Fields n (β → α)} {x : Fields n β} (hf : f.Leaves) (hx : x.Leaves) :
    (f <*> x).Leaves := by
  intro mode wanted i items a left h
  obtain ⟨g, mid, hg, b, hb, -⟩ := placed_seq.1 h
  have hnames : (f <*> x).names.length = f.names.length + x.names.length := List.length_append
  rw [hnames, ← List.drop_drop, ← hf hg]
  exact hx hb

theorem field {name : String} {absentKey absentPlace : Option α} {d : Decoder n α} :
    (Fields.field name absentKey absentPlace d).Leaves := by
  intro mode wanted i items a left h
  rcases placed_field.1 h with ⟨v, rfl, -⟩ | ⟨rfl, rfl, -⟩ <;> rfl

end Leaves

def Ensures (x : Fields n α) (find : String → Option (Below n)) (P : α → Prop) : Prop :=
  ∀ mode a, x.keyed mode find = .ok a → P a

namespace Ensures

variable {P : α → Prop}

theorem map {f : β → α} {x : Fields n β} (hx : Ensures x find fun b ↦ P (f b)) :
    Ensures (f <$> x) find P := by
  intro mode a h
  obtain ⟨b, hb, rfl⟩ := keyed_map.1 h
  exact hx mode b hb

theorem seq {f : Fields n (β → α)} {x : Fields n β} {R : β → Prop}
    (hf : Ensures f find fun g ↦ ∀ b, R b → P (g b)) (hx : Ensures x find R) :
    Ensures (f <*> x) find P := by
  intro mode a h
  obtain ⟨g, hg, b, hb, rfl⟩ := keyed_seq.1 h
  exact hf mode g hg b (hx mode b hb)

theorem rest {f : Fields n (β → α)} {x : Fields n β} (hf : Ensures f find fun g ↦ ∀ b, P (g b)) :
    Ensures (f <*> x) find P :=
  seq (fun mode g hg b _ ↦ hf mode g hg b) fun _ _ _ ↦ trivial

theorem field {absentKey absentPlace : Option α} {d : Decoder n α}
    (hread : ∀ mode v a, find name = some v → d mode v = .ok a → P a)
    (habsent : ∀ a, find name = none → absentKey = some a → P a) :
    Ensures (Fields.field name absentKey absentPlace d) find P := by
  intro mode a h
  rcases keyed_field.1 h with ⟨v, hv, ha⟩ | ⟨hv, ha⟩
  · exact hread mode v a hv ha
  · exact habsent a hv ha

theorem defaulted {b : α} {d : Decoder n α}
    (hread : ∀ mode v a, find name = some v → d mode v = .ok a → P a)
    (habsent : find name = none → P b) : Ensures (Fields.defaulted name b d) find P :=
  field hread fun _ hnone hb ↦ Option.some.inj hb ▸ habsent hnone

theorem string {P : String → Prop} (h : ∀ s, (find name).map (·.1) = some (.str s) → P s) :
    Ensures (required name Decode.string) find P := by
  refine field (fun mode ⟨v, hv⟩ s hfind hread ↦ h s ?_) (fun _ _ habsent ↦ by cases habsent)
  rw [hfind]
  cases v with
  | str t =>
    cases hread
    rfl
  | _ => cases hread

end Ensures

theorem closed_object {x : Fields n α} {P : α → Prop} {fields : List (String × Json)}
    (hx : ∀ find : String → Option (Below n),
      (∀ key, (find key).map (·.1) = fields.lookup key) → Ensures x find P)
    {v : Below n} {a : α} (hv : v.1 = .obj fields) (h : x.closed name mode v = .ok a) : P a := by
  obtain ⟨v, hdepth⟩ := v
  cases hv
  have hobject := (ofObject_eq_ok (x := x)).1 h
  exact hx _ (Decode.lookup_fieldsBelow fields _) mode a hobject.1

end Fields

end GamePack
