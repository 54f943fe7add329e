import GamePack.Proofs.Dict
import GamePack.Proofs.Schema.Walk

namespace GamePack

theorem Json.map_filter_modifyField {key : String} {h : Json → Json} {P : String → Bool}
    {t : String → Json → Json} {fields : List (String × Json)}
    (ht : ∀ w, fields.lookup key = some w → t key (h w) = t key w) :
    ((modifyField key h fields).filter fun e ↦ P e.1).map (fun e ↦ (e.1, t e.1 e.2)) =
      (fields.filter fun e ↦ P e.1).map fun e ↦ (e.1, t e.1 e.2) := by
  induction fields with
  | nil => rfl
  | cons e rest ih =>
    rw [modifyField]
    split
    · rename_i heq
      have hvalue : t e.1 (h e.2) = t e.1 e.2 :=
        heq ▸ ht e.2 (by rw [List.lookup_cons, heq, beq_self_eq_true])
      rw [List.filter_cons, List.filter_cons]
      cases P e.1 with
      | true => exact congrArg (List.cons · _) (congrArg (Prod.mk e.1) hvalue)
      | false => rfl
    · rename_i hne
      have hrest := ih fun w hw ↦ ht w (by rwa [List.lookup_cons, beq_false_of_ne hne])
      rw [List.filter_cons, List.filter_cons]
      cases P e.1 with
      | true => exact congrArg (List.cons (e.1, t e.1 e.2)) hrest
      | false => exact hrest

namespace Form

def keeps (f : Form) (v : Json) (key : String) : Bool :=
  !f.isBare v || ((f.keys? v).getD []).contains key

mutual

/-- The value with nothing beside the tags of bare variants. -/
def trim (f : Form) : Json → Json
  | .arr items => .arr (f.trimItems items 0 items)
  | .obj fields => .obj (f.trimFields fields fields)
  | v => v

def trimItems (f : Form) (whole : List Json) (i : Nat) : List Json → List Json
  | [] => []
  | v :: rest =>
    (match f.within (.arr whole) (.index i) with
      | some g => g.trim v
      | none => v) :: f.trimItems whole (i + 1) rest

def trimFields (f : Form) (whole : List (String × Json)) :
    List (String × Json) → List (String × Json)
  | [] => []
  | (key, v) :: rest =>
    let trimmed :=
      match f.within (.obj whole) (.key key) with
      | some g => g.trim v
      | none => v
    if f.keeps (.obj whole) key then (key, trimmed) :: f.trimFields whole rest
    else f.trimFields whole rest

end

def trimPart (f : Form) (v : Json) (s : Step) (w : Json) : Json :=
  match f.within v s with
  | some g => g.trim w
  | none => w

variable {f g : Form} {v v' w : Json} {fields fields' : List (String × Json)}
  {items items' : List Json}

theorem trimPart_of_within {s : Step} (h : f.within v s = some g) : f.trimPart v s = g.trim := by
  funext w
  rw [trimPart, h]

theorem trimPart_of_none {s : Step} (h : f.within v s = none) : f.trimPart v s = id := by
  funext w
  rw [trimPart, h]
  rfl

theorem SameHead.trimPart (h : f.SameHead v v') : f.trimPart v = f.trimPart v' := by
  funext s w
  rw [Form.trimPart, h.within, Form.trimPart]

theorem SameHead.keeps (h : f.SameHead v v') : f.keeps v = f.keeps v' := by
  funext key
  rw [Form.keeps, h.bare, h.keys, Form.keeps]

theorem trim_atom (hitems : v.items? = none) (hfields : v.fields? = none) : f.trim v = v := by
  cases v with
  | arr items => cases hitems
  | obj fields => cases hfields
  | _ => simp only [trim]

theorem trim_arr (f : Form) (items : List Json) :
    f.trim (.arr items) = .arr (items.mapIdx fun i v ↦ f.trimPart (.arr items) (.index i) v) := by
  have hitems (whole rest : List Json) (i : Nat) :
      f.trimItems whole i rest = rest.mapIdx fun j v ↦
        f.trimPart (.arr whole) (.index (i + j)) v := by
    induction rest generalizing i with
    | nil => rw [trimItems, List.mapIdx_nil]
    | cons v rest ih =>
      rw [trimItems, ih, List.mapIdx_cons]
      refine congrArg (List.cons _) (congrArg (rest.mapIdx ·) ?_)
      funext j
      rw [Nat.add_assoc, Nat.add_comm 1 j]
  rw [trim, hitems]
  simp only [Nat.zero_add]

theorem trim_obj (f : Form) (fields : List (String × Json)) :
    f.trim (.obj fields) = .obj ((fields.filter fun e ↦ f.keeps (.obj fields) e.1).map fun e ↦
      (e.1, f.trimPart (.obj fields) (.key e.1) e.2)) := by
  have hfields (whole rest : List (String × Json)) :
      f.trimFields whole rest = (rest.filter fun e ↦ f.keeps (.obj whole) e.1).map fun e ↦
        (e.1, f.trimPart (.obj whole) (.key e.1) e.2) := by
    induction rest with
    | nil => rfl
    | cons e rest ih =>
      rw [trimFields, ih, List.filter_cons]
      cases f.keeps (.obj whole) e.1 <;> rfl
  rw [trim, hfields]

theorem keeps_of_within {key : String} (h : f.within (.obj fields) (.key key) = some g) :
    f.keeps (.obj fields) key = true := by
  have hbare : f.isBare (.obj fields) = false := by
    induction f with
    | shorthand role full ih => exact ih h
    | onMission form ih => exact ih h
    | union u =>
      rw [Form.within] at h
      split at h
      · cases h
      · obtain ⟨b, hb, hlookup⟩ := Option.bind_eq_some_iff.1 h
        rw [isBare, hb]
        cases hfields : b.fields with
        | nil => rw [hfields] at hlookup; cases hlookup
        | cons field rest => rw [Option.any_some, hfields, List.isEmpty_cons]
    | _ => rfl
  rw [keeps, hbare]
  rfl

theorem keeps_key {u : Union} (hu : f.core = union u) : f.keeps (.obj fields) u.key = true := by
  rw [keeps]
  cases hbare : f.isBare (.obj fields) with
  | false => rfl
  | true =>
    have hkeys : (f.keys? (.obj fields)).isSome := by
      induction f with
      | shorthand role full ih => exact ih hu hbare
      | onMission form ih => exact ih hu hbare
      | union u' =>
        rw [isBare] at hbare
        rw [keys?]
        cases hbranch : u'.branch? (.obj fields) with
        | none => rw [hbranch] at hbare; cases hbare
        | some b => rfl
      | _ => cases hu
    obtain ⟨keys, hkeys⟩ := Option.isSome_iff_exists.1 hkeys
    rw [hkeys, Option.getD_some, Bool.not_true, Bool.false_or, List.contains_eq_mem,
      decide_eq_true_iff]
    exact key_mem_of_keys hkeys hu

theorem lookup_trim (key : String) : (f.trim (.obj fields)).field? key =
    if f.keeps (.obj fields) key then (fields.lookup key).map (f.trimPart (.obj fields) (.key key))
      else none := by
  rw [trim_obj, Json.field?, lookup_map fun k ↦ f.trimPart (.obj fields) (.key k), lookup_filter]
  split <;> rfl

theorem trim_congr (hwithin : f.within v = g.within v) (hkeeps : f.keeps v = g.keeps v) :
    f.trim v = g.trim v := by
  have hpart : f.trimPart v = g.trimPart v := by
    funext s w
    rw [trimPart, hwithin, trimPart]
  cases v with
  | arr items => rw [trim_arr, hpart, trim_arr]
  | obj fields => rw [trim_obj, hpart, hkeeps, trim_obj]
  | _ => rw [trim_atom rfl rfl, trim_atom rfl rfl]

theorem trim_shorthand (role : Role) (full : Form) (v : Json) :
    (shorthand role full).trim v = full.trim v :=
  trim_congr rfl rfl

theorem trim_onMission (form : Form) (v : Json) : (onMission form).trim v = form.trim v :=
  trim_congr rfl rfl

theorem trim_text (role : Role) (v : Json) : (text role).trim v = v := by
  have hpart (v : Json) (s : Step) : (text role).trimPart v s = id := by
    refine trimPart_of_none ?_
    cases v <;> cases s <;> rfl
  cases v with
  | arr items =>
    rw [trim_arr]
    refine congrArg Json.arr (List.mapIdx_eq_iff.2 fun i ↦ ?_)
    rw [hpart]
    exact Option.map_id_apply.symm
  | obj fields =>
    have hkeeps (key : String) : (text role).keeps (.obj fields) key = true := rfl
    rw [trim_obj]
    simp [hpart, hkeeps]
  | _ => exact trim_atom rfl rfl

/-- Two values that differ only beside the tags of bare variants. -/
def Agree (f : Form) (v v' : Json) : Prop := f.trim v = f.trim v'

namespace Agree

theorem exists_obj (h : f.Agree (.obj fields) v') : ∃ fields', v' = .obj fields' := by
  rw [Agree, trim_obj] at h
  cases v' with
  | obj fields' => exact ⟨fields', rfl⟩
  | arr items => rw [trim_arr] at h; cases h
  | _ => rw [trim_atom rfl rfl] at h; cases h

theorem exists_arr (h : f.Agree (.arr items) v') : ∃ items', v' = .arr items' := by
  rw [Agree, trim_arr] at h
  cases v' with
  | arr items' => exact ⟨items', rfl⟩
  | obj fields => rw [trim_obj] at h; cases h
  | _ => rw [trim_atom rfl rfl] at h; cases h

theorem lookup_key (h : f.Agree (.obj fields) (.obj fields')) {u : Union} (hu : f.core = union u) :
    fields.lookup u.key = fields'.lookup u.key := by
  have hnone (fields : List (String × Json)) : f.within (.obj fields) (.key u.key) = none := by
    rw [Option.eq_none_iff_forall_ne_some]
    exact fun g hg ↦ ne_key_of_within hg hu rfl
  have htag := congrArg (Json.field? u.key) h
  rwa [lookup_trim, lookup_trim, if_pos (keeps_key hu), if_pos (keeps_key hu),
    trimPart_of_none (hnone fields), trimPart_of_none (hnone fields'), Option.map_id,
      id, id] at htag

theorem head_obj (h : f.Agree (.obj fields) (.obj fields')) :
    f.SameHead (.obj fields) (.obj fields') :=
  sameHead_obj fun _ hu ↦ h.lookup_key hu

theorem mapIdx_eq (h : f.Agree (.arr items) (.arr items')) :
    (items.mapIdx fun i v ↦ f.trimPart (.arr items) (.index i) v) =
      items'.mapIdx fun i v ↦ f.trimPart (.arr items') (.index i) v := by
  rw [Agree, trim_arr, trim_arr] at h
  exact Json.arr.inj h

theorem length_eq (h : f.Agree (.arr items) (.arr items')) : items.length = items'.length := by
  simpa using congrArg List.length h.mapIdx_eq

theorem head?_eq (h : f.Agree (.arr items) (.arr items')) {u : Union} (hu : f.core = union u) :
    items.head? = items'.head? := by
  have hnone (items : List Json) : f.within (.arr items) (.index 0) = none := by
    rw [Option.eq_none_iff_forall_ne_some]
    exact fun g hg ↦ ne_zero_of_within hg hu rfl
  have htag := congrArg (·[0]?) h.mapIdx_eq
  simp only [List.getElem?_mapIdx, trimPart_of_none (hnone _), id, Option.map_id_fun'] at htag
  rwa [List.head?_eq_getElem?, List.head?_eq_getElem?]

theorem head_arr (h : f.Agree (.arr items) (.arr items')) : f.SameHead (.arr items) (.arr items') :=
  sameHead_arr fun _ hu ↦ h.head?_eq hu

theorem lookup_eq (h : f.Agree (.obj fields) (.obj fields')) {key : String}
    (hg : f.within (.obj fields) (.key key) = some g) :
    (fields.lookup key).map g.trim = (fields'.lookup key).map g.trim := by
  have hg' : f.within (.obj fields') (.key key) = some g := h.head_obj.within ▸ hg
  have hpart := congrArg (Json.field? key) h
  rwa [lookup_trim, lookup_trim, if_pos (keeps_of_within hg), if_pos (keeps_of_within hg'),
    trimPart_of_within hg, trimPart_of_within hg'] at hpart

theorem getElem?_eq (h : f.Agree (.arr items) (.arr items')) {i : Nat}
    (hg : f.within (.arr items) (.index i) = some g) :
    items[i]?.map g.trim = items'[i]?.map g.trim := by
  have hg' : f.within (.arr items') (.index i) = some g := h.head_arr.within ▸ hg
  have hpart := congrArg (·[i]?) h.mapIdx_eq
  simp only [List.getElem?_mapIdx, trimPart_of_within hg, trimPart_of_within hg'] at hpart
  exact hpart

theorem keys_eq (h : f.Agree (.obj fields) (.obj fields'))
    (hbare : f.isBare (.obj fields) = false) :
    fields.map (·.1) = fields'.map (·.1) := by
  have hbare' : f.isBare (.obj fields') = false := h.head_obj.bare ▸ hbare
  have hall (fields : List (String × Json)) (hbare : f.isBare (.obj fields) = false)
      (key : String) :
      f.keeps (.obj fields) key = true := by
    rw [keeps, hbare]
    rfl
  rw [Agree, trim_obj, trim_obj] at h
  have hkeys := congrArg (List.map (·.1)) (Json.obj.inj h)
  simpa only [hall fields hbare, hall fields' hbare',
    List.filter_eq_self.2 fun _ _ ↦ rfl, List.map_map, Function.comp_def] using hkeys

end Agree

/-- A change at a place that trimming hides there is hidden from outside. -/
theorem agree_modifyAt {h : Json → Json} {path : Path} (hpath : f.follow path v = some (g, w))
    (hw : g.Agree (h w) w) : f.Agree (v.modifyAt h path) v := by
  -- On the way to the place every value keeps its head, so both sides are taken apart alike.
  induction path generalizing f v with
  | nil =>
    obtain ⟨rfl, rfl⟩ := Prod.mk.inj (Option.some.inj hpath)
    rw [Json.modifyAt]
    exact hw
  | cons s path ih =>
    obtain ⟨g', w', hg, hchild, hrest⟩ := follow_cons_eq_some_iff.1 hpath
    have hpart : g'.trim (w'.modifyAt h path) = g'.trim w' := ih hrest
    have hhead : f.SameHead (v.modifyAt h (s :: path)) v := sameHead_modifyAt hg
    cases s with
    | key key =>
      cases v with
      | obj fields =>
        rw [Json.modifyAt] at hhead ⊢
        rw [Agree, trim_obj, trim_obj, hhead.keeps, hhead.trimPart]
        refine congrArg Json.obj
          (Json.map_filter_modifyField (t := fun k ↦ f.trimPart (.obj fields) (.key k)) ?_)
        intro w hw
        obtain rfl : w' = w := Option.some.inj (hchild.symm.trans hw)
        rw [trimPart_of_within hg]
        exact hpart
      | _ => cases hchild
    | index i =>
      cases v with
      | arr items =>
        rw [Json.modifyAt] at hhead ⊢
        rw [Agree, trim_arr, trim_arr, hhead.trimPart]
        refine congrArg Json.arr (List.mapIdx_eq_iff.2 fun j ↦ ?_)
        rw [List.getElem?_mapIdx, List.getElem?_modify]
        by_cases hj : i = j
        · subst hj
          have hitem : items[i]? = some w' := hchild
          simp [hitem, trimPart_of_within hg, hpart]
        · simp [hj]
      | _ => cases hchild

theorem agree_setField {keys : List String} (hkeys : f.keys? (.obj fields) = some keys)
    (hbare : f.isBare (.obj fields) = true) {key : String} (hkey : key ∉ keys) (value : Json) :
    f.Agree ((Json.obj fields).setField key value) (.obj fields) := by
  have hhead := sameHead_setField hkeys hkey value
  have hdropped : f.keeps (.obj fields) key = false := by
    rw [keeps, hbare, hkeys, Option.getD_some, Bool.not_true, Bool.false_or, List.contains_eq_mem,
      decide_eq_false_iff_not]
    exact hkey
  rw [Json.setField] at hhead ⊢
  rw [Agree, trim_obj, trim_obj, hhead.keeps, hhead.trimPart]
  exact congrArg Json.obj (congrArg _ (Json.filter_insertField value fields hdropped))

end Form

end GamePack
