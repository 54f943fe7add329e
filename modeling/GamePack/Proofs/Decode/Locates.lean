import GamePack.Decode.Tagged
import GamePack.Proofs.Decode.Tracks
import GamePack.Proofs.Path

namespace GamePack

variable {n m : Nat} {α β : Type}

namespace Decode

theorem mapError_eq_error {ε ε' α : Type} {r : Except ε α} {f : ε → ε'} {e : ε'} :
    r.mapError f = .error e ↔ ∃ e₀, r = .error e₀ ∧ f e₀ = e := by
  cases r with
  | error e₁ =>
    constructor
    · intro h
      exact ⟨e₁, rfl, Except.error.inj h⟩
    · rintro ⟨e₀, h, rfl⟩
      cases h
      rfl
  | ok a =>
    constructor
    · intro h
      cases h
    · rintro ⟨e₀, h, -⟩
      cases h

theorem map_eq_error {ε α β : Type} {r : Except ε α} {f : α → β} {e : ε} :
    r.map f = .error e ↔ r = .error e := by
  cases r <;> simp [Except.map]

theorem bind_eq_error {ε α β : Type} {r : Except ε α} {k : α → Except ε β} {e : ε} :
    (r >>= k) = .error e ↔ r = .error e ∨ ∃ a, r = .ok a ∧ k a = .error e := by
  cases r <;> simp [bind, Except.bind]

/-- What is blamed for a fault is in the document. Keys must not repeat, since look-up sees the
first value of a key only. -/
def Locates (d : Decoder n α) : Prop :=
  ∀ mode v e, v.1.sorted = v.1 → d mode v = .error e → (v.1.at? e.path).isSome

namespace Locates

variable {d : Decoder n α}

theorem whole (h : ∀ mode v e, d mode v = .error e → e.path = []) : Locates d := by
  intro mode v e _ he
  rw [h mode v e he]
  rfl

theorem string : Locates (Decode.string (n := n)) := by
  refine whole fun mode v e he ↦ ?_
  unfold Decode.string at he
  split at he <;> cases he
  rfl

theorem bool : Locates (Decode.bool (n := n)) := by
  refine whole fun mode v e he ↦ ?_
  unfold Decode.bool at he
  split at he <;> cases he
  rfl

theorem double : Locates (Decode.double (n := n)) := by
  refine whole fun mode v e he ↦ ?_
  unfold Decode.double at he
  split at he <;> cases he
  rfl

theorem nat32 : Locates (Decode.nat32 (n := n)) := by
  refine whole fun mode v e he ↦ ?_
  unfold Decode.nat32 natBelow at he
  split at he
  · split at he <;> cases he
    rfl
  all_goals cases he; rfl

theorem choice (values : List (String × α)) : Locates (Decode.choice (n := n) values) := by
  have hnamed {name : String} {e : Decode.Error} (he : named values name = .error e) :
      e.path = [] := by
    unfold named at he
    split at he <;> cases he
    rfl
  refine whole fun mode v e he ↦ ?_
  unfold Decode.choice at he
  split at he
  · exact hnamed he
  · split at he
    · rcases bind_eq_error.1 he with he | ⟨a, -, he⟩
      · exact hnamed he
      · rcases bind_eq_error.1 he with he | ⟨_, -, he⟩
        · unfold unit at he
          split at he <;> cases he
          rfl
        · cases he
    · cases he
      rfl
  · cases he
    rfl

theorem orElse {d d' : Decoder n α} {wanted : String} : Locates (Decode.orElse d d' wanted) := by
  refine whole fun mode v e he ↦ ?_
  unfold Decode.orElse at he
  split at he
  · cases he
  · split at he <;> cases he
    rfl

theorem option (h : Locates d) : Locates (Decode.option d) := by
  intro mode v e hv he
  unfold Decode.option at he
  split at he
  · cases he
  · exact h mode v e hv (map_eq_error.1 he)

theorem exists_of_eachItem (h : Locates d) {mode : Mode} {items : List (Below n)} {i : Nat}
    {e : Decode.Error} (hitems : ∀ v ∈ items, v.1.sorted = v.1)
    (he : Decode.eachItem (d mode) i items = .error e) :
    ∃ k v rest, items[k]? = some v ∧ e.path = .index (i + k) :: rest ∧ (v.1.at? rest).isSome := by
  induction items generalizing i with
  | nil => cases he
  | cons v rest ih =>
    obtain ⟨hv, hrest⟩ := List.forall_mem_cons.1 hitems
    rcases bind_eq_error.1 he with he | ⟨a, -, he⟩
    · obtain ⟨e₀, he₀, rfl⟩ := mapError_eq_error.1 he
      exact ⟨0, v, e₀.path, rfl, rfl, h mode v e₀ hv he₀⟩
    · rcases bind_eq_error.1 he with he | ⟨_, -, he⟩
      · obtain ⟨k, w, path, hw, hpath, hfound⟩ := ih hrest he
        exact ⟨k + 1, w, path, hw, by rw [hpath, Nat.add_right_comm, Nat.add_assoc], hfound⟩
      · cases he

theorem isSome_at?_index {items : List Json} {below : (Json.arr items).depth < n + 1} {k : Nat}
    {v : Below n} {rest : Path} (hv : (itemsBelow items below)[k]? = some v)
    (hfound : (v.1.at? rest).isSome) : ((Json.arr items).at? (.index k :: rest)).isSome := by
  have hitem : items[k]? = some v.1 := by
    have hitems := map_getElem?_itemsBelow id items below k
    rw [hv, Option.map_id] at hitems
    exact hitems.symm
  rw [Json.at?_index, hitem]
  exact hfound

theorem list (h : Locates d) : Locates (Decode.list d) := by
  rintro mode ⟨v, below⟩ e hv he
  cases v with
  | arr items =>
    obtain ⟨k, w, rest, hw, hpath, hfound⟩ :=
      h.exists_of_eachItem (fun w hw ↦ sorted_of_mem_itemsBelow hv hw) he
    rw [hpath, Nat.zero_add]
    exact isSome_at?_index hw hfound
  | _ =>
    cases he
    rfl

theorem exists_of_eachField (h : Locates d) {mode : Mode} {fields : List (String × Below n)}
    {e : Decode.Error} (hfields : ∀ f ∈ fields, f.2.1.sorted = f.2.1)
    (he : Decode.eachField (d mode) fields = .error e) :
    ∃ f ∈ fields, ∃ rest, e.path = .key f.1 :: rest ∧ (f.2.1.at? rest).isSome := by
  induction fields with
  | nil => cases he
  | cons f others ih =>
    obtain ⟨hf, hothers⟩ := List.forall_mem_cons.1 hfields
    rcases bind_eq_error.1 he with he | ⟨a, -, he⟩
    · obtain ⟨e₀, he₀, rfl⟩ := mapError_eq_error.1 he
      exact ⟨f, List.mem_cons_self, e₀.path, rfl, h mode f.2 e₀ hf he₀⟩
    · rcases bind_eq_error.1 he with he | ⟨_, -, he⟩
      · obtain ⟨g, hg, rest, hpath, hfound⟩ := ih hothers he
        exact ⟨g, List.mem_cons_of_mem _ hg, rest, hpath, hfound⟩
      · cases he

theorem isSome_at?_key {fields : List (String × Json)} {below : (Json.obj fields).depth < n + 1}
    {key : String} {v : Below n} {rest : Path} (hv : (fieldsBelow fields below).lookup key = some v)
    (hfound : (v.1.at? rest).isSome) : ((Json.obj fields).at? (.key key :: rest)).isSome := by
  have hfield : fields.lookup key = some v.1 := by
    rw [← lookup_fieldsBelow fields below, hv]
    rfl
  rw [Json.at?_key, hfield]
  exact hfound

theorem dict (h : Locates d) : Locates (Decode.dict d) := by
  rintro mode ⟨v, below⟩ e hv he
  cases v with
  | obj fields =>
    obtain ⟨f, hf, rest, hpath, hfound⟩ :=
      h.exists_of_eachField (fun f hf ↦ sorted_of_mem_fieldsBelow hv hf) (map_eq_error.1 he)
    have hnodup : ((fieldsBelow fields (Nat.lt_succ_of_lt below)).map (·.1)).Nodup := by
      rw [keys_fieldsBelow]
      exact nodup_of_ascending (Json.ascending_of_sorted hv)
    rw [hpath]
    exact isSome_at?_key (lookup_of_mem hnodup hf) hfound
  | _ =>
    cases he
    rfl

end Locates

end Decode

namespace Fields

variable {find : String → Option (Below n)} {mode : Mode} {faults : Faults}

theorem keyed_map_error {f : β → α} {x : Fields n β} :
    (f <$> x).keyed mode find = .error faults ↔ x.keyed mode find = .error faults :=
  Decode.map_eq_error

theorem mem_unreadable_of_seq {f : Fields n (β → α)} {x : Fields n β}
    (h : (f <*> x).keyed mode find = .error faults) {u : String × Decode.Error}
    (hu : u ∈ faults.unreadable) :
    (∃ faults', f.keyed mode find = .error faults' ∧ u ∈ faults'.unreadable) ∨
      ∃ faults', x.keyed mode find = .error faults' ∧ u ∈ faults'.unreadable := by
  change (Fields.seq f x).keyed mode find = .error faults at h
  unfold Fields.seq at h
  dsimp only at h
  cases hf : f.keyed mode find with
  | ok g =>
    cases hx : x.keyed mode find with
    | ok a => rw [hf, hx] at h; cases h
    | error e =>
      rw [hf, hx] at h
      cases h
      exact .inr ⟨_, rfl, hu⟩
  | error e =>
    cases hx : x.keyed mode find with
    | ok a =>
      rw [hf, hx] at h
      cases h
      exact .inl ⟨_, rfl, hu⟩
    | error e' =>
      rw [hf, hx] at h
      cases h
      rcases List.mem_append.1 hu with hu | hu
      · exact .inl ⟨e, rfl, hu⟩
      · exact .inr ⟨e', rfl, hu⟩

structure Locates (x : Fields n α) : Prop where
  leaves : x.Leaves
  keyed : ∀ {mode : Mode} {find : String → Option (Below n)} {faults : Faults},
    (∀ key v, find key = some v → v.1.sorted = v.1) → x.keyed mode find = .error faults →
    ∀ u ∈ faults.unreadable, ∃ v rest, find u.1 = some v ∧ u.2.path = .key u.1 :: rest ∧
      (v.1.at? rest).isSome
  placed : ∀ {mode : Mode} {wanted : String} {i : Nat} {items : List (Below n)} {e : Decode.Error},
    (∀ v ∈ items, v.1.sorted = v.1) → x.placed mode wanted i items = .error e →
    e.path = [] ∨ ∃ k v rest, items[k]? = some v ∧ e.path = .index (i + k) :: rest ∧
      (v.1.at? rest).isSome

namespace Locates

theorem map {f : β → α} {x : Fields n β} (hx : x.Locates) : (f <$> x).Locates where
  leaves := hx.leaves.map
  keyed hfind h := hx.keyed hfind (keyed_map_error.1 h)
  placed hitems h := hx.placed hitems (Decode.map_eq_error.1 h)

theorem seq {f : Fields n (β → α)} {x : Fields n β} (hf : f.Locates) (hx : x.Locates) :
    (f <*> x).Locates where
  leaves := hf.leaves.seq hx.leaves
  keyed hfind h u hu := by
    rcases mem_unreadable_of_seq h hu with ⟨faults, hfaults, hu⟩ | ⟨faults, hfaults, hu⟩
    · exact hf.keyed hfind hfaults u hu
    · exact hx.keyed hfind hfaults u hu
  placed {mode wanted i items e} hitems h := by
    rcases Decode.bind_eq_error.1 h with h | ⟨⟨g, mid⟩, hg, h⟩
    · exact hf.placed hitems h
    · rcases Decode.bind_eq_error.1 h with h | ⟨_, -, h⟩
      · obtain rfl := hf.leaves hg
        rcases hx.placed (fun v hv ↦ hitems v (List.mem_of_mem_drop hv)) h with
          h | ⟨k, v, rest, hv, hpath, hfound⟩
        · exact .inl h
        · refine .inr ⟨f.names.length + k, v, rest, ?_, by rw [hpath, Nat.add_assoc], hfound⟩
          rwa [List.getElem?_drop] at hv
      · cases h

theorem field {name : String} {absentKey absentPlace : Option α} {d : Decoder n α}
    (h : Decode.Locates d) : (Fields.field name absentKey absentPlace d).Locates where
  leaves := .field
  keyed {mode find faults} hfind hrun u hu := by
    unfold Fields.field at hrun
    dsimp only at hrun
    split at hrun
    · rename_i v hv
      obtain ⟨e, he, rfl⟩ := Decode.mapError_eq_error.1 hrun
      obtain rfl := List.mem_singleton.1 hu
      exact ⟨v, e.path, hv, rfl, h mode v e (hfind name v hv) he⟩
    · split at hrun <;> cases hrun
      cases hu
  placed {mode wanted i items e} hitems hrun := by
    unfold Fields.field at hrun
    dsimp only at hrun
    split at hrun
    · rename_i v rest
      obtain ⟨e₀, he₀, rfl⟩ := Decode.mapError_eq_error.1 (Decode.map_eq_error.1 hrun)
      exact .inr ⟨0, v, e₀.path, rfl, rfl, h mode v e₀ (hitems v List.mem_cons_self) he₀⟩
    · split at hrun <;> cases hrun
      exact .inl rfl

theorem required {name : String} {d : Decoder n α} (h : Decode.Locates d) :
    (Fields.required name d).Locates := field h

theorem defaulted {name : String} {a : α} {d : Decoder n α} (h : Decode.Locates d) :
    (Fields.defaulted name a d).Locates := field h

theorem optional {name : String} {d : Decoder n α} (h : Decode.Locates d) :
    (Fields.optional name d).Locates := defaulted h.option

theorem listed {name : String} {d : Decoder n α} (h : Decode.Locates d) :
    (Fields.listed name d).Locates := defaulted h.list

end Locates

theorem of_firstFault {names : List String} {closed : Bool} {keys : List String} {e : Decode.Error}
    (h : firstFault names closed faults keys = some e) :
    (∃ key ∈ keys, e.path = [.key key]) ∨ ∃ u ∈ faults.unreadable, u.2 = e := by
  induction keys with
  | nil => cases h
  | cons key rest ih =>
    have hlater (h : firstFault names closed faults rest = some e) :
        (∃ k ∈ key :: rest, e.path = [.key k]) ∨ ∃ u ∈ faults.unreadable, u.2 = e :=
      (ih h).imp_left fun ⟨k, hk, hpath⟩ ↦ ⟨k, List.mem_cons_of_mem _ hk, hpath⟩
    unfold firstFault at h
    split at h
    · split at h
      · rename_i e' hlookup
        obtain rfl := Option.some.inj h
        exact .inr ⟨_, mem_of_lookup hlookup, rfl⟩
      · exact hlater h
    · split at h
      · obtain rfl := Option.some.inj h
        exact .inl ⟨key, List.mem_cons_self, rfl⟩
      · exact hlater h

variable {x : Fields n α} {e : Decode.Error}

theorem Locates.ofObject (hx : x.Locates) {closed : Bool} {fields : List (String × Below n)}
    (hfields : ∀ f ∈ fields, f.2.1.sorted = f.2.1) (he : x.ofObject closed mode fields = .error e) :
    e.path = [] ∨ ∃ key v rest, fields.lookup key = some v ∧ e.path = .key key :: rest ∧
      (v.1.at? rest).isSome := by
  have hkey {key : String} (hmem : key ∈ fields.map (·.1)) (hpath : e.path = [.key key]) :
      ∃ key v rest, fields.lookup key = some v ∧ e.path = .key key :: rest ∧
        (v.1.at? rest).isSome := by
    obtain ⟨v, hv⟩ := Option.isSome_iff_exists.1 ((isSome_lookup_iff key fields).2 hmem)
    exact ⟨key, v, [], hv, hpath, rfl⟩
  unfold Fields.ofObject at he
  dsimp only at he
  split at he
  · split at he
    · cases he
    · rename_i hfault
      cases he
      rcases of_firstFault hfault with ⟨key, hmem, hpath⟩ | ⟨u, hu, -⟩
      · exact .inr (hkey hmem hpath)
      · cases hu
  · rename_i faults hfaults
    split at he
    · rename_i hfault
      cases he
      rcases of_firstFault hfault with ⟨key, hmem, hpath⟩ | ⟨u, hu, rfl⟩
      · exact .inr (hkey hmem hpath)
      · have hfound := hx.keyed (fun key v hv ↦ hfields (key, v) (mem_of_lookup hv)) hfaults u hu
        exact .inr ⟨u.1, hfound⟩
    · cases he
      exact .inl rfl

theorem Locates.ofArray (hx : x.Locates) {wanted : String} {items : List (Below n)}
    (hitems : ∀ v ∈ items, v.1.sorted = v.1) (he : x.ofArray wanted mode items = .error e) :
    e.path = [] ∨ ∃ k v rest, items[k]? = some v ∧ e.path = .index k :: rest ∧
    (v.1.at? rest).isSome := by
  rcases Decode.bind_eq_error.1 he with he | ⟨⟨a, left⟩, -, he⟩
  · have hfound := hx.placed hitems he
    simp only [Nat.zero_add] at hfound
    exact hfound
  · dsimp only at he
    split at he
    · cases he
    · cases mode <;> cases he <;> exact .inl rfl

end Fields

namespace Decode.Locates

theorem closed {x : Fields n α} {name : String} (hx : x.Locates) : Locates (x.closed name) := by
  rintro mode ⟨v, below⟩ e hv he
  cases v with
  | obj fields =>
    rcases hx.ofObject (fun f hf ↦ sorted_of_mem_fieldsBelow hv hf) he with
      hpath | ⟨key, w, rest, hw, hpath, hfound⟩
    · rw [hpath]
      rfl
    · rw [hpath]
      exact isSome_at?_key hw hfound
  | arr items =>
    rcases hx.ofArray (fun w hw ↦ sorted_of_mem_itemsBelow hv hw) he with
      hpath | ⟨k, w, rest, hw, hpath, hfound⟩
    · rw [hpath]
      rfl
    · rw [hpath]
      exact isSome_at?_index hw hfound
  | _ =>
    cases he
    rfl

theorem variantOf_error {t : Tagged m α} {mode : Mode} {tag : Json} {e : Decode.Error}
    (he : t.variantOf mode tag = .error e) : e.path = [] := by
  unfold Tagged.variantOf at he
  split at he
  · split at he <;> cases he
    rfl
  · split at he <;> cases he
    rfl
  · cases he
    rfl

theorem tagged {t : Tagged m α} {h : n ≤ m + 1} : Locates (t.decoder h) := by
  rintro mode ⟨v, below⟩ e hv he
  cases v with
  | obj fields =>
    have hbelow : (Json.obj fields).depth < m + 1 := Nat.lt_of_lt_of_le below h
    change t.keyed mode (fieldsBelow fields hbelow) = .error e at he
    unfold Tagged.keyed at he
    split at he
    · cases he
      rfl
    · rename_i tag htag
      rcases bind_eq_error.1 he with he | ⟨variant, -, he⟩
      · obtain ⟨e₀, he₀, rfl⟩ := mapError_eq_error.1 he
        change ((Json.obj fields).at? (.key t.key :: e₀.path)).isSome
        rw [variantOf_error he₀]
        exact isSome_at?_key htag rfl
      · obtain ⟨e₀, -, rfl⟩ := mapError_eq_error.1 he
        rfl
  | arr items =>
    have hbelow : (Json.arr items).depth < m + 1 := Nat.lt_of_lt_of_le below h
    change t.placed mode (itemsBelow items hbelow) = .error e at he
    unfold Tagged.placed at he
    split at he
    · cases he
      rfl
    · rename_i tag others hitems
      rcases bind_eq_error.1 he with he | ⟨variant, -, he⟩
      · obtain ⟨e₀, he₀, rfl⟩ := mapError_eq_error.1 he
        change ((Json.arr items).at? (.index 0 :: e₀.path)).isSome
        rw [variantOf_error he₀]
        have htag : (itemsBelow items hbelow)[0]? = some tag := by
          rw [hitems]
          rfl
        exact isSome_at?_index htag rfl
      · obtain ⟨e₀, -, rfl⟩ := mapError_eq_error.1 he
        rfl
  | _ =>
    cases he
    rfl

end Decode.Locates

end GamePack
