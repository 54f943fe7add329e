import GamePack.Proofs.Schema.Occurrence
import GamePack.Sample.Pieces

namespace GamePack

namespace Json

def child? (v : Json) : Step → Option Json
  | .key k => v.field? k
  | .index i => v.item? i

def modifyField (key : String) (h : Json → Json) : List (String × Json) → List (String × Json)
  | [] => []
  | (k, v) :: rest => if key = k then (k, h v) :: rest else (k, v) :: modifyField key h rest

def modifyAt (h : Json → Json) : Path → Json → Json
  | [], v => h v
  | .key k :: rest, .obj fields => .obj (modifyField k (modifyAt h rest) fields)
  | .index i :: rest, .arr items => .arr (items.modify i (modifyAt h rest))
  | _, v => v

def setFieldAt (v : Json) (path : Path) (key : String) (value : Json) : Json :=
  v.modifyAt (·.setField key value) path

theorem lookup_modifyField (key k : String) (h : Json → Json) (fields : List (String × Json)) :
    (modifyField key h fields).lookup k = (fields.lookup k).map (if key = k then h else id) := by
  induction fields with
  | nil => rfl
  | cons e rest ih =>
    rw [modifyField]
    split
    · rename_i heq
      rw [List.lookup_cons, List.lookup_cons, heq]
      cases hk : k == e.1 with
      | true => simp [beq_iff_eq.1 hk]
      | false => simp [Ne.symm (beq_eq_false_iff_ne.1 hk)]
    · rename_i hne
      rw [List.lookup_cons, List.lookup_cons, ih]
      cases hk : k == e.1 with
      | true => simp [beq_iff_eq.1 hk, hne]
      | false => rfl

theorem lookup_insertField {key k : String} (value : Json) (fields : List (String × Json))
    (hne : k ≠ key) :
    (insertField key value fields).lookup k = fields.lookup k := by
  have hk : (k == key) = false := beq_false_of_ne hne
  induction fields with
  | nil => rw [insertField, List.lookup_cons, hk]
  | cons e rest ih =>
    rw [insertField]
    split
    · rw [List.lookup_cons, hk]
    · split
      · rename_i heq
        rw [List.lookup_cons, List.lookup_cons, ← heq, hk]
      · rw [List.lookup_cons, List.lookup_cons, ih]

theorem mem_insertField (key : String) (value : Json) (fields : List (String × Json)) :
    (key, value) ∈ insertField key value fields := by
  induction fields with
  | nil => exact List.mem_singleton_self _
  | cons e rest ih =>
    rw [insertField]
    split
    · exact List.mem_cons_self
    · split
      · exact List.mem_cons_self
      · exact List.mem_cons_of_mem _ ih

theorem filter_insertField {key : String} (value : Json) (fields : List (String × Json))
    {P : String → Bool} (hkey : P key = false) :
    (insertField key value fields).filter (fun e ↦ P e.1) = fields.filter fun e ↦ P e.1 := by
  induction fields with
  | nil => simp [insertField, hkey]
  | cons e rest ih =>
    rw [insertField]
    split
    · rw [List.filter_cons_of_neg (by simp [hkey])]
    · split
      · rename_i heq
        rw [List.filter_cons_of_neg (by simp [hkey]),
          List.filter_cons_of_neg (by simp [← heq, hkey])]
      · rw [List.filter_cons, List.filter_cons, ih]

end Json

namespace Form

/-- The part of a value at a place, and how it is to be read. -/
def follow (f : Form) : Path → Json → Option (Form × Json)
  | [], v => some (f, v)
  | s :: rest, v => (f.within v s).bind fun g ↦ (v.child? s).bind (g.follow rest)

def keys? : Form → Json → Option (List String)
  | shorthand _ full, v => full.keys? v
  | onMission form, v => form.keys? v
  | record r, .obj _ => some (r.fields.map (·.1))
  | union u, .obj fields => (u.branch? (.obj fields)).map fun b ↦ u.key :: b.fields.map (·.1)
  | _, _ => none

def isBare : Form → Json → Bool
  | shorthand _ full, v => full.isBare v
  | onMission form, v => form.isBare v
  | union u, .obj fields => (u.branch? (.obj fields)).any (·.fields.isEmpty)
  | _, _ => false

def Known (f : Form) (v : Json) : Prop :=
  ∀ fields keys, v = .obj fields → f.keys? v = some keys → f.isBare v = false →
    ∀ e ∈ fields, e.1 ∈ keys

/-- All that is read of a value has declared keys only, unless it is bare. -/
def Strict (f : Form) (v : Json) : Prop := ∀ path g w, f.follow path v = some (g, w) → g.Known w

variable {f g : Form} {v w : Json}

theorem follow_cons_eq_some_iff {s : Step} {path : Path} {part : Form × Json} :
    f.follow (s :: path) v = some part ↔
      ∃ g w, f.within v s = some g ∧ v.child? s = some w ∧ g.follow path w = some part := by
  simp only [follow, Option.bind_eq_some_iff, exists_and_left]

theorem strict_iff :
    f.Strict v ↔ f.Known v ∧ ∀ s g w, f.within v s = some g → v.child? s = some w → g.Strict w := by
  constructor
  · refine fun h ↦ ⟨h [] f v rfl, fun s g w hg hw path g' w' hpath ↦ ?_⟩
    exact h (s :: path) g' w' (follow_cons_eq_some_iff.2 ⟨g, w, hg, hw, hpath⟩)
  · rintro ⟨hknown, hparts⟩ path g w hpath
    cases path with
    | nil =>
      obtain ⟨rfl, rfl⟩ := Prod.mk.inj (Option.some.inj hpath)
      exact hknown
    | cons s path =>
      obtain ⟨g', w', hg, hw, hpath⟩ := follow_cons_eq_some_iff.1 hpath
      exact hparts s g' w' hg hw path g w hpath

structure SameHead (f : Form) (v v' : Json) : Prop where
  within : f.within v = f.within v'
  keys : f.keys? v = f.keys? v'
  bare : f.isBare v = f.isBare v'

theorem sameHead_obj {fields fields' : List (String × Json)}
    (h : ∀ u, f.core = union u → fields.lookup u.key = fields'.lookup u.key) :
    f.SameHead (.obj fields) (.obj fields') := by
  induction f with
  | shorthand role full ih =>
    obtain ⟨hwithin, hkeys, hbare⟩ := ih h
    exact ⟨hwithin, hkeys, hbare⟩
  | onMission form ih =>
    obtain ⟨hwithin, hkeys, hbare⟩ := ih h
    exact ⟨hwithin, hkeys, hbare⟩
  | union u =>
    have hbranch : u.branch? (.obj fields) = u.branch? (.obj fields') :=
      congrArg (·.bind u.branchOf) (h u rfl)
    refine ⟨funext fun s ↦ ?_, ?_, ?_⟩
    · cases s <;> simp only [Form.within, hbranch]
    · simp only [keys?, hbranch]
    · simp only [isBare, hbranch]
  | _ => exact ⟨funext fun s ↦ by cases s <;> rfl, rfl, rfl⟩

theorem sameHead_arr {items items' : List Json}
    (h : ∀ u, f.core = union u → items.head? = items'.head?) :
    f.SameHead (.arr items) (.arr items') := by
  induction f with
  | shorthand role full ih =>
    obtain ⟨hwithin, hkeys, hbare⟩ := ih h
    exact ⟨hwithin, hkeys, hbare⟩
  | onMission form ih =>
    obtain ⟨hwithin, hkeys, hbare⟩ := ih h
    exact ⟨hwithin, hkeys, hbare⟩
  | union u =>
    have hbranch : u.branch? (.arr items) = u.branch? (.arr items') :=
      congrArg (·.bind u.branchOf) (h u rfl)
    refine ⟨funext fun s ↦ ?_, rfl, rfl⟩
    rcases s with key | i
    · rfl
    · cases i <;> simp only [Form.within, hbranch]
  | _ => exact ⟨funext fun s ↦ by cases s <;> rfl, rfl, rfl⟩

theorem ne_key_of_within {fields : List (String × Json)} {k : String}
    (h : f.within (.obj fields) (.key k) = some g) {u : Union} (hu : f.core = union u) :
    k ≠ u.key := by
  induction f with
  | shorthand role full ih => exact ih h hu
  | onMission form ih => exact ih h hu
  | union u' =>
    obtain rfl : u' = u := union.inj hu
    rintro rfl
    simp [Form.within] at h
  | _ => cases hu

theorem ne_zero_of_within {items : List Json} {i : Nat}
    (h : f.within (.arr items) (.index i) = some g) {u : Union} (hu : f.core = union u) :
    i ≠ 0 := by
  induction f with
  | shorthand role full ih => exact ih h hu
  | onMission form ih => exact ih h hu
  | union u' =>
    rintro rfl
    cases h
  | _ => cases hu

theorem key_mem_of_keys {keys : List String} (h : f.keys? v = some keys) {u : Union}
    (hu : f.core = union u) :
    u.key ∈ keys := by
  induction f with
  | shorthand role full ih => exact ih h hu
  | onMission form ih => exact ih h hu
  | union u' =>
    obtain rfl : u' = u := union.inj hu
    cases v with
    | obj fields =>
      obtain ⟨b, -, rfl⟩ := Option.map_eq_some_iff.1 h
      exact List.mem_cons_self
    | _ => cases h
  | _ => cases hu

/-- A change at a place does not matter to how the parts around it are read. -/
theorem sameHead_modifyAt {h : Json → Json} {s : Step} {path : Path} (hg : f.within v s = some g) :
    f.SameHead (v.modifyAt h (s :: path)) v := by
  have hsame : f.SameHead v v := ⟨rfl, rfl, rfl⟩
  cases s with
  | key k =>
    cases v with
    | obj fields =>
      refine sameHead_obj fun u hu ↦ ?_
      rw [Json.lookup_modifyField, if_neg (ne_key_of_within hg hu), Option.map_id_fun, id]
    | _ => exact hsame
  | index i =>
    cases v with
    | arr items =>
      refine sameHead_arr fun u hu ↦ ?_
      rw [List.head?_eq_getElem?, List.head?_eq_getElem?]
      exact List.getElem?_modify_ne _ items (ne_zero_of_within hg hu)
    | _ => exact hsame

theorem child?_modifyAt {h : Json → Json} {s : Step} {path : Path} :
    (v.modifyAt h (s :: path)).child? s = (v.child? s).map (·.modifyAt h path) := by
  cases s with
  | key k =>
    cases v with
    | obj fields => exact (Json.lookup_modifyField k k _ fields).trans (by rw [if_pos rfl]; rfl)
    | _ => rfl
  | index i =>
    cases v with
    | arr items => exact List.getElem?_modify_eq ..
    | _ => rfl

theorem follow_modifyAt {h : Json → Json} {path : Path} (hpath : f.follow path v = some (g, w)) :
    f.follow path (v.modifyAt h path) = some (g, h w) := by
  induction path generalizing f v with
  | nil =>
    obtain ⟨rfl, rfl⟩ := Prod.mk.inj (Option.some.inj hpath)
    exact congrArg (fun w ↦ some (f, w)) (by rw [Json.modifyAt])
  | cons s path ih =>
    obtain ⟨g', w', hg, hw, hrest⟩ := follow_cons_eq_some_iff.1 hpath
    refine follow_cons_eq_some_iff.2 ⟨g', w'.modifyAt h path, ?_, ?_, ih hrest⟩
    · rw [(sameHead_modifyAt hg).within, hg]
    · rw [child?_modifyAt, hw, Option.map_some]

/-- A key that is not declared is no tag, so that setting it changes no tag. -/
theorem sameHead_setField {fields : List (String × Json)} {keys : List String}
    (hkeys : f.keys? (.obj fields) = some keys) {key : String} (hkey : key ∉ keys) (value : Json) :
    f.SameHead ((Json.obj fields).setField key value) (.obj fields) := by
  refine sameHead_obj fun u hu ↦ Json.lookup_insertField value fields ?_
  rintro rfl
  exact hkey (key_mem_of_keys hkeys hu)

end Form

end GamePack
