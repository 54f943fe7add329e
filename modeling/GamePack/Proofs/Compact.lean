import GamePack.Json.Writer

namespace GamePack

namespace Text

section

variable {α : Type} {f : α → List Char} {xs ys : List α} {close : Char} {r r' : List Char}

/-- Texts that end by themselves are told apart one after another, up to a character with which none
of them starts. -/
theorem flatMap_append_inj
    (hinj : ∀ a ∈ xs, ∀ b ∈ ys, ∀ r r', f a ++ r = f b ++ r' → a = b ∧ r = r')
    (hxs : ∀ a ∈ xs, ∀ r r', f a ++ r ≠ close :: r')
    (hys : ∀ a ∈ ys, ∀ r r', f a ++ r ≠ close :: r')
    (h : xs.flatMap f ++ close :: r = ys.flatMap f ++ close :: r') : xs = ys ∧ r = r' := by
  induction xs generalizing ys with
  | nil =>
    cases ys with
    | nil => exact ⟨rfl, (List.cons.inj h).2⟩
    | cons b ys =>
      rw [List.flatMap_cons, List.append_assoc] at h
      exact absurd h.symm (hys b List.mem_cons_self _ _)
  | cons a xs ih =>
    cases ys with
    | nil =>
      rw [List.flatMap_cons, List.append_assoc] at h
      exact absurd h (hxs a List.mem_cons_self _ _)
    | cons b ys =>
      rw [List.flatMap_cons, List.flatMap_cons, List.append_assoc, List.append_assoc] at h
      obtain ⟨hfirst, hrest⟩ := hinj a List.mem_cons_self b List.mem_cons_self _ _ h
      obtain ⟨hothers, hend⟩ :=
        ih (fun a ha b hb ↦ hinj a (List.mem_cons_of_mem _ ha) b (List.mem_cons_of_mem _ hb))
        (fun a ha ↦ hxs a (List.mem_cons_of_mem _ ha))
          (fun b hb ↦ hys b (List.mem_cons_of_mem _ hb)) hrest
      exact ⟨by rw [hfirst, hothers], hend⟩

def commaed (f : α → List Char) : List α → List Char
  | [] => []
  | a :: rest => f a ++ rest.flatMap fun b ↦ ',' :: f b

theorem commaed_append_inj (hcomma : close ≠ ',')
    (hinj : ∀ a ∈ xs, ∀ b ∈ ys, ∀ r r', f a ++ r = f b ++ r' → a = b ∧ r = r')
    (hxs : ∀ a ∈ xs, ∀ r r', f a ++ r ≠ close :: r')
    (hys : ∀ a ∈ ys, ∀ r r', f a ++ r ≠ close :: r')
    (h : commaed f xs ++ close :: r = commaed f ys ++ close :: r') : xs = ys ∧ r = r' := by
  have hstart (a : α) (r r' : List Char) : (',' :: f a) ++ r ≠ close :: r' := fun heq ↦
    hcomma (List.cons.inj heq).1.symm
  cases xs with
  | nil =>
    cases ys with
    | nil => exact ⟨rfl, (List.cons.inj h).2⟩
    | cons b ys =>
      rw [commaed, commaed, List.append_assoc] at h
      exact absurd h.symm (hys b List.mem_cons_self _ _)
  | cons a xs =>
    cases ys with
    | nil =>
      rw [commaed, commaed, List.append_assoc] at h
      exact absurd h (hxs a List.mem_cons_self _ _)
    | cons b ys =>
      rw [commaed, commaed, List.append_assoc, List.append_assoc] at h
      obtain ⟨hfirst, hrest⟩ := hinj a List.mem_cons_self b List.mem_cons_self _ _ h
      obtain ⟨hothers, hend⟩ := flatMap_append_inj
        (fun a ha b hb r r' heq ↦
          hinj a (List.mem_cons_of_mem _ ha) b (List.mem_cons_of_mem _ hb) r r'
            (List.cons.inj heq).2)
        (fun a _ ↦ hstart a) (fun b _ ↦ hstart b) hrest
      exact ⟨by rw [hfirst, hothers], hend⟩

end

theorem hex_append_inj {n m : Nat} {r r' : List Char} (hn : n < 32) (hm : m < 32)
    (h : hex 4 n ++ r = hex 4 m ++ r') : n = m ∧ r = r' := by
  have hlength : ∀ n < 32, (hex 4 n).length = 4 := by decide +kernel
  have hinj : ∀ n < 32, ∀ m < 32, hex 4 n = hex 4 m → n = m := by decide +kernel
  obtain ⟨hdigits, hrest⟩ := List.append_inj h ((hlength n hn).trans (hlength m hm).symm)
  exact ⟨hinj n hn m hm hdigits, hrest⟩

end Text

namespace Json

variable {r r' : List Char}

def lettered : List (Char × Char) :=
  [('"', '"'), ('\\', '\\'), ('\x08', 'b'), ('\t', 't'), ('\n', 'n'), ('\x0c', 'f'), ('\r', 'r')]

inductive Escaped (c : Char) : List Char → Prop
  | plain : c ≠ '"' → c ≠ '\\' → Escaped c [c]
  | lettered {letter : Char} : (c, letter) ∈ Json.lettered → Escaped c ['\\', letter]
  | numbered : c < ' ' → Escaped c ('\\' :: 'u' :: Text.hex 4 c.toNat)

theorem escaped_escape (c : Char) : Escaped c (escape c) := by
  unfold escape
  split
  case h_8 hquote hbackslash _ _ _ _ _ =>
    split
    · rename_i hcontrol
      exact .numbered hcontrol
    · exact .plain hquote hbackslash
  all_goals exact .lettered (by decide)

theorem Escaped.append_inj {c d : Char} {cs ds : List Char} (hc : Escaped c cs) (hd : Escaped d ds)
    (h : cs ++ r = ds ++ r') : c = d ∧ r = r' := by
  have hletters : ∀ e ∈ Json.lettered, ∀ e' ∈ Json.lettered, e.2 = e'.2 → e.1 = e'.1 := by decide
  have hletter : ∀ e ∈ Json.lettered, e.2 ≠ 'u' := by decide
  cases hc with
  | plain _ hc =>
    cases hd with
    | plain => exact List.cons.inj h
    | lettered => exact absurd (List.cons.inj h).1 hc
    | numbered => exact absurd (List.cons.inj h).1 hc
  | lettered hc =>
    cases hd with
    | plain _ hd => exact absurd (List.cons.inj h).1.symm hd
    | lettered hd =>
      obtain ⟨hsame, hrest⟩ := List.cons.inj (List.cons.inj h).2
      exact ⟨hletters _ hc _ hd hsame, hrest⟩
    | numbered => exact absurd (List.cons.inj (List.cons.inj h).2).1 (hletter _ hc)
  | numbered hc =>
    cases hd with
    | plain _ hd => exact absurd (List.cons.inj h).1.symm hd
    | lettered hd => exact absurd (List.cons.inj (List.cons.inj h).2).1.symm (hletter _ hd)
    | numbered hd =>
      obtain ⟨hnumber, hrest⟩ := Text.hex_append_inj hc hd (List.cons.inj (List.cons.inj h).2).2
      exact ⟨Char.toNat_inj.1 hnumber, hrest⟩

theorem Escaped.append_ne {c : Char} {cs : List Char} (hc : Escaped c cs) :
    cs ++ r ≠ '"' :: r' := by
  intro h
  cases hc with
  | plain hquote => exact hquote (List.cons.inj h).1
  | lettered => exact absurd (List.cons.inj h).1 (by decide)
  | numbered => exact absurd (List.cons.inj h).1 (by decide)

theorem quote_append (s : String) (r : List Char) :
    quote s ++ r = '"' :: (s.toList.flatMap escape ++ '"' :: r) := by
  simp [quote]

/-- A quoted text ends with the first quote in it that is not escaped. -/
theorem quote_append_inj {s t : String} (h : quote s ++ r = quote t ++ r') : s = t ∧ r = r' := by
  rw [quote_append, quote_append] at h
  obtain ⟨hchars, hrest⟩ := Text.flatMap_append_inj
    (fun c _ d _ _ _ ↦ (escaped_escape c).append_inj (escaped_escape d))
    (fun c _ _ _ ↦ (escaped_escape c).append_ne) (fun d _ _ _ ↦ (escaped_escape d).append_ne)
      (List.cons.inj h).2
  exact ⟨String.toList_inj.1 hchars, hrest⟩

theorem charsItems_eq (items : List Json) : charsItems items = Text.commaed chars items := by
  induction items with
  | nil => rfl
  | cons v rest ih =>
    cases rest with
    | nil => exact (List.append_nil _).symm
    | cons w rest =>
      rw [charsItems, ih]
      · rfl
      · exact List.cons_ne_nil _ _

def charsField (f : String × Json) : List Char := quote f.1 ++ ':' :: f.2.chars

theorem charsFields_eq (fields : List (String × Json)) :
    charsFields fields = Text.commaed charsField fields := by
  induction fields with
  | nil => rfl
  | cons f rest ih =>
    obtain ⟨k, v⟩ := f
    cases rest with
    | nil => exact (List.append_nil _).symm
    | cons g rest =>
      rw [charsFields, ih]
      · rfl
      · exact List.cons_ne_nil _ _

theorem chars_arr_append (items : List Json) (r : List Char) :
    (arr items).chars ++ r = '[' :: (Text.commaed chars items ++ ']' :: r) := by
  simp [chars, charsItems_eq]

theorem chars_obj_append (fields : List (String × Json)) (r : List Char) :
    (obj fields).chars ++ r = '\x7b' :: (Text.commaed charsField fields ++ '\x7d' :: r) := by
  simp [chars, charsFields_eq]

inductive Numberless : Json → Prop
  | null : Numberless .null
  | bool (b : Bool) : Numberless (.bool b)
  | str (s : String) : Numberless (.str s)
  | arr {items : List Json} : (∀ v ∈ items, Numberless v) → Numberless (.arr items)
  | obj {fields : List (String × Json)} : (∀ f ∈ fields, Numberless f.2) → Numberless (.obj fields)

def opening : Json → Char
  | .null | .num _ => 'n'
  | .bool true => 't'
  | .bool false => 'f'
  | .str _ => '"'
  | .arr _ => '['
  | .obj _ => '\x7b'

theorem Numberless.exists_chars_eq {v : Json} (h : v.Numberless) :
    ∃ cs, v.chars = v.opening :: cs := by
  cases h with
  | bool b => cases b <;> exact ⟨_, rfl⟩
  | _ => exact ⟨_, rfl⟩

theorem Numberless.opening_eq {v w : Json} (hv : v.Numberless) (hw : w.Numberless)
    (h : v.chars ++ r = w.chars ++ r') : v.opening = w.opening := by
  obtain ⟨cs, hcs⟩ := hv.exists_chars_eq
  obtain ⟨ds, hds⟩ := hw.exists_chars_eq
  rw [hcs, hds] at h
  exact (List.cons.inj h).1

theorem Numberless.chars_append_ne {v : Json} (h : v.Numberless) : v.chars ++ r ≠ ']' :: r' := by
  obtain ⟨cs, hcs⟩ := h.exists_chars_eq
  intro heq
  rw [hcs] at heq
  have hopening : v.opening = ']' := (List.cons.inj heq).1
  cases h with
  | bool b => cases b <;> exact absurd hopening (by decide)
  | _ => exact absurd hopening (by simp [opening])

theorem charsField_append_inj {f g : String × Json}
    (hinj : ∀ r r', f.2.chars ++ r = g.2.chars ++ r' → f.2 = g.2 ∧ r = r')
    (h : charsField f ++ r = charsField g ++ r') : f = g ∧ r = r' := by
  rw [charsField, charsField, List.append_assoc, List.append_assoc] at h
  obtain ⟨hkey, hvalue⟩ := quote_append_inj h
  obtain ⟨hvalue, hrest⟩ := hinj _ _ (List.cons.inj hvalue).2
  exact ⟨Prod.ext hkey hvalue, hrest⟩

theorem charsField_append_ne (f : String × Json) : charsField f ++ r ≠ '\x7d' :: r' := by
  rw [charsField, List.append_assoc, quote_append]
  exact fun h ↦ absurd (List.cons.inj h).1 (by decide)

/-- A document without numbers ends where its text does, whatever follows. -/
theorem Numberless.chars_append_inj {v w : Json} (hv : v.Numberless) (hw : w.Numberless)
    (h : v.chars ++ r = w.chars ++ r') : v = w ∧ r = r' := by
  have hopening := hv.opening_eq hw h
  induction hv generalizing w r r' with
  | null =>
    cases hw with
    | null => exact ⟨rfl, List.append_cancel_left h⟩
    | bool b => cases b <;> exact absurd hopening (by decide)
    | _ => exact absurd hopening (by simp [opening])
  | bool b =>
    cases hw with
    | bool b' =>
      obtain rfl : b = b' := by
        cases b <;> cases b' <;> first | rfl | exact absurd hopening (by decide)
      exact ⟨rfl, List.append_cancel_left h⟩
    | _ => cases b <;> exact absurd hopening (by simp [opening])
  | str s =>
    cases hw with
    | str t =>
      obtain ⟨rfl, hrest⟩ := quote_append_inj h
      exact ⟨rfl, hrest⟩
    | bool b => cases b <;> exact absurd hopening (by simp [opening])
    | _ => exact absurd hopening (by simp [opening])
  | arr hitems ih =>
    cases hw with
    | arr hitems' =>
      rw [chars_arr_append, chars_arr_append] at h
      obtain ⟨rfl, hrest⟩ := Text.commaed_append_inj (by decide)
        (fun v hv w hw r r' h ↦
          ih v hv (hitems' w hw) h ((hitems v hv).opening_eq (hitems' w hw) h))
        (fun v hv r r' ↦ (hitems v hv).chars_append_ne)
          (fun w hw r r' ↦ (hitems' w hw).chars_append_ne)
        (List.cons.inj h).2
      exact ⟨rfl, hrest⟩
    | bool b => cases b <;> exact absurd hopening (by simp [opening])
    | _ => exact absurd hopening (by simp [opening])
  | obj hfields ih =>
    cases hw with
    | obj hfields' =>
      rw [chars_obj_append, chars_obj_append] at h
      obtain ⟨rfl, hrest⟩ := Text.commaed_append_inj (by decide)
        (fun f hf g hg r r' h ↦ charsField_append_inj
          (fun r r' h ↦ ih f hf (hfields' g hg) h ((hfields f hf).opening_eq (hfields' g hg) h)) h)
        (fun f _ r r' ↦ charsField_append_ne f) (fun g _ r r' ↦ charsField_append_ne g)
          (List.cons.inj h).2
      exact ⟨rfl, hrest⟩
    | bool b => cases b <;> exact absurd hopening (by simp [opening])
    | _ => exact absurd hopening (by simp [opening])

theorem Numberless.compact_inj {v w : Json} (hv : v.Numberless) (hw : w.Numberless)
    (h : v.compact = w.compact) : v = w := by
  have hchars : v.chars ++ [] = w.chars ++ [] := congrArg (· ++ []) (String.ofList_inj.1 h)
  exact (hv.chars_append_inj hw hchars).1

end Json

end GamePack
