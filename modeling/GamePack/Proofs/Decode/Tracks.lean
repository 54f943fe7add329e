import GamePack.Decode.Tagged
import GamePack.Proofs.Decode.Fields
import GamePack.Proofs.Dict
import GamePack.Proofs.Schema.Trim

namespace GamePack

namespace Form

variable {g : Form} {v v' : Json}

theorem strict_atom {f : Form} (hitems : v.items? = none) (hfields : v.fields? = none) :
    f.Strict v := by
  refine strict_iff.2 ⟨fun fields keys hv ↦ ?_, fun s g w hg hw ↦ ?_⟩
  · rw [hv] at hfields
    cases hfields
  · cases v with
    | arr items => cases hitems
    | obj fields => cases hfields
    | _ => cases s <;> cases hw

theorem strict_text (role : Role) (v : Json) : (text role).Strict v := by
  refine strict_iff.2 ⟨fun fields keys hv hkeys ↦ ?_, fun s g w hg ↦ ?_⟩
  · rw [hv] at hkeys
    cases hkeys
  · cases v <;> cases s <;> cases hg

theorem strict_shorthand {role : Role} : (shorthand role g).Strict v ↔ g.Strict v :=
  strict_iff.trans (strict_iff (f := g)).symm

theorem strict_onMission : (onMission g).Strict v ↔ g.Strict v :=
  strict_iff.trans (strict_iff (f := g)).symm

theorem strict_list {items : List Json} (h : ∀ v ∈ items, g.Strict v) :
    (list g).Strict (.arr items) := by
  refine strict_iff.2 ⟨(fun fields keys hv ↦ by cases hv), fun s g' w hg hw ↦ ?_⟩
  cases s with
  | key key => cases hg
  | index i =>
    obtain rfl := Option.some.inj hg
    exact h w (List.mem_of_getElem? hw)

theorem strict_dict {keys : KeyRole} {fields : List (String × Json)}
    (h : ∀ e ∈ fields, g.Strict e.2) : (dict keys g).Strict (.obj fields) := by
  refine strict_iff.2 ⟨(fun fields keys _ hkeys ↦ by cases hkeys), fun s g' w hg hw ↦ ?_⟩
  cases s with
  | key key =>
    obtain rfl := Option.some.inj hg
    exact h (key, w) (mem_of_lookup hw)
  | index i => cases hg

theorem trim_list (g : Form) (items : List Json) :
    (list g).trim (.arr items) = .arr (items.map g.trim) := by
  rw [trim_arr]
  refine congrArg Json.arr (List.mapIdx_eq_iff.2 fun i ↦ ?_)
  rw [List.getElem?_map, trimPart_of_within (g := g) rfl]

theorem trim_dict (keys : KeyRole) (g : Form) (fields : List (String × Json)) :
    (dict keys g).trim (.obj fields) = .obj (fields.map fun e ↦ (e.1, g.trim e.2)) := by
  have hkeeps (key : String) : (dict keys g).keeps (.obj fields) key = true := rfl
  have hpart (key : String) : (dict keys g).trimPart (.obj fields) (.key key) = g.trim :=
    trimPart_of_within rfl
  rw [trim_obj]
  simp only [hkeeps, hpart]
  rw [List.filter_eq_self.2 fun _ _ ↦ rfl]

theorem Agree.eq_atom {f : Form} (h : f.Agree v v') (hitems : v.items? = none)
    (hfields : v.fields? = none) : v' = v := by
  rw [Agree, trim_atom hitems hfields] at h
  cases v' with
  | arr items => rw [trim_arr] at h; rw [h] at hitems; cases hitems
  | obj fields => rw [trim_obj] at h; rw [h] at hfields; cases hfields
  | _ => rw [h]; exact (trim_atom rfl rfl).symm

end Form

variable {n n' : Nat} {α β : Type}

namespace Decode

theorem string_eq_ok {mode : Mode} {v : Below n} {s : String} :
    string mode v = .ok s ↔ v.1 = .str s := by
  unfold string
  cases v.1 <;> simp [wrong, fail]

theorem orElse_eq_ok {d e : Decoder n α} {wanted : String} {mode : Mode} {v : Below n} {a : α} :
    orElse d e wanted mode v = .ok a ↔
      d .aside v = .ok a ∨ (∀ b, d .aside v ≠ .ok b) ∧ e .aside v = .ok a := by
  unfold orElse
  cases d .aside v with
  | ok b => simp
  | error _ => cases e .aside v <;> simp [fail]

theorem option_of_null {d : Decoder n α} {mode : Mode} {v : Below n} (h : v.1 = .null) :
    option d mode v = .ok none := by
  unfold option
  rw [h]

theorem option_of_ne_null {d : Decoder n α} {mode : Mode} {v : Below n} (h : v.1 ≠ .null) :
    option d mode v = (d mode v).map some := by
  unfold option
  split
  · contradiction
  · rfl

/-- What the first decoder reads is strict, and the second reads it too, also where values agree
only. There are two indices since what is trimmed away may nest more deeply than the rest. -/
def Tracks (f : Form) (d : Decoder n α) (d' : Decoder n' α) : Prop :=
  ∀ mode v v' a, d mode v = .ok a → f.Agree v.1 v'.1 → d' mode v' = .ok a ∧ f.Strict v.1

namespace Tracks

variable {f g : Form} {d : Decoder n α} {d' : Decoder n' α}

theorem text {role : Role}
    (h : ∀ mode (v : Below n) (v' : Below n'), v.1 = v'.1 → d mode v = d' mode v') :
    Tracks (.text role) d d' := by
  intro mode v v' a hrun hagree
  have heq : v.1 = v'.1 := by
    rwa [Form.Agree, Form.trim_text, Form.trim_text] at hagree
  exact ⟨h mode v v' heq ▸ hrun, Form.strict_text role v.1⟩

theorem string {role : Role} :
    Tracks (.text role) (Decode.string (n := n)) (Decode.string (n := n')) :=
  text fun mode v v' h ↦ by simp only [Decode.string, wrong, h]

theorem bool {role : Role} : Tracks (.text role) (Decode.bool (n := n)) (Decode.bool (n := n')) :=
  text fun mode v v' h ↦ by simp only [Decode.bool, wrong, h]

theorem double {role : Role} :
    Tracks (.text role) (Decode.double (n := n)) (Decode.double (n := n')) :=
  text fun mode v v' h ↦ by simp only [Decode.double, wrong, h]

theorem nat32 {role : Role} :
    Tracks (.text role) (Decode.nat32 (n := n)) (Decode.nat32 (n := n')) :=
  text fun mode v v' h ↦ by simp only [Decode.nat32, natBelow, wrong, h]

theorem choice {role : Role} (values : List (String × α)) :
    Tracks (.text role) (Decode.choice (n := n) values) (Decode.choice (n := n') values) := by
  refine text fun mode v v' h ↦ ?_
  obtain ⟨v, hv⟩ := v
  obtain ⟨v', hv'⟩ := v'
  obtain rfl : v = v' := h
  cases v with
  | obj fields =>
    match fields with
    | [] => rfl
    | [e] => rfl
    | e :: e' :: rest => rfl
  | _ => rfl

theorem shorthand {role : Role} {short : String → α} {wanted : String} (h : Tracks f d d') :
    Tracks (.shorthand role f) (orElse (fun mode v ↦ (Decode.string mode v).map short) d wanted)
      (orElse (fun mode v ↦ (Decode.string mode v).map short) d' wanted) := by
  intro mode v v' a hrun hagree
  rw [Form.Agree, Form.trim_shorthand, Form.trim_shorthand] at hagree
  have hshort {m : Nat} {w : Below m} {b : α} (hb : (Decode.string .aside w).map short = .ok b) :
      ∃ s, w.1 = .str s ∧ short s = b := by
    obtain ⟨s, hs, rfl⟩ := map_eq_ok.1 hb
    exact ⟨s, string_eq_ok.1 hs, rfl⟩
  rw [orElse_eq_ok] at hrun ⊢
  rcases hrun with hrun | ⟨hno, hrun⟩
  · obtain ⟨s, hv, rfl⟩ := hshort hrun
    have hv' : v'.1 = .str s :=
      (Form.Agree.eq_atom hagree (by rw [hv]; rfl) (by rw [hv]; rfl)).trans hv
    refine ⟨.inl (map_eq_ok.2 ⟨s, string_eq_ok.2 hv', rfl⟩), ?_⟩
    exact Form.strict_atom (by rw [hv]; rfl) (by rw [hv]; rfl)
  · obtain ⟨hrun', hstrict⟩ := h .aside v v' a hrun hagree
    refine ⟨.inr ⟨fun b hb ↦ ?_, hrun'⟩, Form.strict_shorthand.2 hstrict⟩
    obtain ⟨s, hv', rfl⟩ := hshort hb
    have hv : v.1 = .str s :=
      (Form.Agree.eq_atom hagree.symm (by rw [hv']; rfl) (by rw [hv']; rfl)).trans hv'
    exact hno (short s) (map_eq_ok.2 ⟨s, string_eq_ok.2 hv, rfl⟩)

theorem map {f' : α → β} (h : Tracks f d d') :
    Tracks f (fun mode v ↦ (d mode v).map f') (fun mode v ↦ (d' mode v).map f') := by
  intro mode v v' b hrun hagree
  obtain ⟨a, ha, rfl⟩ := map_eq_ok.1 hrun
  obtain ⟨ha', hstrict⟩ := h mode v v' a ha hagree
  exact ⟨map_eq_ok.2 ⟨a, ha', rfl⟩, hstrict⟩

theorem onMission (h : Tracks f d d') : Tracks (.onMission f) d d' := by
  intro mode v v' a hrun hagree
  rw [Form.Agree, Form.trim_onMission, Form.trim_onMission] at hagree
  obtain ⟨hrun', hstrict⟩ := h mode v v' a hrun hagree
  exact ⟨hrun', Form.strict_onMission.2 hstrict⟩

theorem option (h : Tracks f d d') : Tracks f (Decode.option d) (Decode.option d') := by
  intro mode v v' a hrun hagree
  by_cases hnull : v.1 = .null
  · have hnull' : v'.1 = .null :=
      (hagree.eq_atom (by rw [hnull]; rfl) (by rw [hnull]; rfl)).trans hnull
    refine ⟨?_, Form.strict_atom (by rw [hnull]; rfl) (by rw [hnull]; rfl)⟩
    rw [option_of_null hnull] at hrun
    rw [option_of_null hnull', hrun]
  · have hnull' : v'.1 ≠ .null := by
      intro hnull'
      have hagree' : f.Agree v'.1 v.1 := hagree.symm
      exact hnull ((hagree'.eq_atom (by rw [hnull']; rfl) (by rw [hnull']; rfl)).trans hnull')
    rw [option_of_ne_null hnull, map_eq_ok] at hrun
    obtain ⟨b, hb, rfl⟩ := hrun
    obtain ⟨hb', hstrict⟩ := h mode v v' b hb hagree
    exact ⟨by rw [option_of_ne_null hnull', hb']; rfl, hstrict⟩

theorem eachItem (h : Tracks f d d') {mode : Mode} {items : List (Below n)}
    {items' : List (Below n')} {i : Nat} {entries : List α}
    (hrun : Decode.eachItem (d mode) i items = .ok entries)
    (hagree : items.map (f.trim ·.1) = items'.map (f.trim ·.1)) :
    Decode.eachItem (d' mode) i items' = .ok entries ∧ ∀ v ∈ items, f.Strict v.1 := by
  induction items generalizing items' i entries with
  | nil =>
    obtain rfl := List.map_eq_nil_iff.1 hagree.symm
    exact ⟨hrun, fun v hv ↦ absurd hv List.not_mem_nil⟩
  | cons v rest ih =>
    obtain ⟨v', rest', rfl, hv, hrest⟩ := List.map_eq_cons_iff.1 hagree.symm
    rw [Decode.eachItem, bind_eq_ok] at hrun
    obtain ⟨a, ha, hrun⟩ := hrun
    obtain ⟨others, hothers, heq⟩ := bind_eq_ok.1 hrun
    obtain rfl := Except.ok.inj heq
    obtain ⟨ha', hstrict⟩ := h mode v v' a (mapError_eq_ok.1 ha) hv.symm
    obtain ⟨hothers', hall⟩ := ih hothers hrest.symm
    refine ⟨?_, List.forall_mem_cons.2 ⟨hstrict, hall⟩⟩
    rw [Decode.eachItem, bind_eq_ok]
    exact ⟨a, mapError_eq_ok.2 ha', bind_eq_ok.2 ⟨others, hothers', rfl⟩⟩

theorem eachField (h : Tracks f d d') {mode : Mode} {fields : List (String × Below n)}
    {fields' : List (String × Below n')} {entries : List (String × α)}
    (hrun : Decode.eachField (d mode) fields = .ok entries)
    (hagree : (fields.map fun e ↦ (e.1, f.trim e.2.1)) = fields'.map fun e ↦ (e.1, f.trim e.2.1)) :
    Decode.eachField (d' mode) fields' = .ok entries ∧ ∀ e ∈ fields, f.Strict e.2.1 := by
  induction fields generalizing fields' entries with
  | nil =>
    obtain rfl := List.map_eq_nil_iff.1 hagree.symm
    exact ⟨hrun, fun e he ↦ absurd he List.not_mem_nil⟩
  | cons e rest ih =>
    obtain ⟨key, v⟩ := e
    obtain ⟨⟨key', v'⟩, rest', rfl, he, hrest⟩ := List.map_eq_cons_iff.1 hagree.symm
    obtain ⟨rfl, hv⟩ := Prod.mk.inj he
    rw [Decode.eachField, bind_eq_ok] at hrun
    obtain ⟨a, ha, hrun⟩ := hrun
    obtain ⟨others, hothers, heq⟩ := bind_eq_ok.1 hrun
    obtain rfl := Except.ok.inj heq
    obtain ⟨ha', hstrict⟩ := h mode v v' a (mapError_eq_ok.1 ha) hv.symm
    obtain ⟨hothers', hall⟩ := ih hothers hrest.symm
    refine ⟨?_, List.forall_mem_cons.2 ⟨hstrict, hall⟩⟩
    rw [Decode.eachField, bind_eq_ok]
    exact ⟨a, mapError_eq_ok.2 ha', bind_eq_ok.2 ⟨others, hothers', rfl⟩⟩

theorem list (h : Tracks f d d') : Tracks (.list f) (Decode.list d) (Decode.list d') := by
  rintro mode ⟨v, hv⟩ ⟨v', hv'⟩ a hrun hagree
  cases v with
  | arr items =>
    obtain ⟨items', rfl⟩ := Form.Agree.exists_arr hagree
    rw [Form.Agree, Form.trim_list, Form.trim_list] at hagree
    have hbelow : (itemsBelow items (Nat.lt_succ_of_lt hv)).map (f.trim ·.1) =
        (itemsBelow items' (Nat.lt_succ_of_lt hv')).map (f.trim ·.1) := by
      rw [map_itemsBelow_val, map_itemsBelow_val]
      exact Json.arr.inj hagree
    obtain ⟨hrun', hall⟩ := h.eachItem hrun hbelow
    refine ⟨hrun', Form.strict_list fun w hw ↦ ?_⟩
    obtain ⟨below, hmem⟩ := mem_itemsBelow (Nat.lt_succ_of_lt hv) hw
    exact hall _ hmem
  | _ => cases hrun

theorem nonEmpty (h : Tracks f d d') :
    Tracks (.list f) (Decode.nonEmpty d) (Decode.nonEmpty d') := by
  intro mode v v' a hrun hagree
  obtain ⟨items, hitems, hsome⟩ := bind_eq_ok.1 hrun
  obtain ⟨hitems', hstrict⟩ := h.list mode v v' items hitems hagree
  exact ⟨bind_eq_ok.2 ⟨items, hitems', hsome⟩, hstrict⟩

theorem dict {keys : KeyRole} (h : Tracks f d d') :
    Tracks (.dict keys f) (Decode.dict d) (Decode.dict d') := by
  rintro mode ⟨v, hv⟩ ⟨v', hv'⟩ a hrun hagree
  cases v with
  | obj fields =>
    obtain ⟨fields', rfl⟩ := Form.Agree.exists_obj hagree
    rw [Form.Agree, Form.trim_dict, Form.trim_dict] at hagree
    have hbelow : ((fieldsBelow fields (Nat.lt_succ_of_lt hv)).map fun e ↦ (e.1, f.trim e.2.1)) =
        (fieldsBelow fields' (Nat.lt_succ_of_lt hv')).map fun e ↦ (e.1, f.trim e.2.1) := by
      rw [map_fieldsBelow_val, map_fieldsBelow_val]
      exact Json.obj.inj hagree
    obtain ⟨entries, hentries, heq⟩ := map_eq_ok.1 hrun
    obtain ⟨hentries', hall⟩ := h.eachField hentries hbelow
    refine ⟨map_eq_ok.2 ⟨entries, hentries', heq⟩, Form.strict_dict fun e he ↦ ?_⟩
    obtain ⟨below, hmem⟩ := mem_fieldsBelow (Nat.lt_succ_of_lt hv) he
    exact hall _ hmem
  | _ => cases hrun

end Tracks

end Decode

end GamePack
