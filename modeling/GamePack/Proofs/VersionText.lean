import GamePack.Proofs.Text
import GamePack.Version

namespace GamePack

structure Numeral (cs : List Char) (n : Nat) : Prop where
  ne_nil : cs ≠ []
  isDigit : ∀ c ∈ cs, c.isDigit
  value : Nat.ofDigitChars 10 cs 0 = n
  lt : n < Nat.pow 2 64

namespace Numeral

variable {cs : List Char} {c : Char} {n : Nat}

theorem toDigits (h : n < Nat.pow 2 64) : Numeral (Nat.toDigits 10 n) n where
  ne_nil := Nat.toDigits_ne_nil
  isDigit _ hc := Nat.isDigit_of_mem_toDigits (by decide) (by decide) hc
  value := Nat.ofDigitChars_toDigits (by decide) (by decide)
  lt := h

theorem notMem (h : Numeral cs n) (hc : c.isDigit = false) : c ∉ cs := fun hmem ↦
  absurd (h.isDigit c hmem) (Bool.eq_false_iff.1 hc)

theorem isBlank_of_mem (h : Numeral cs n) (hc : c ∈ cs) : Text.isBlank c = false := by
  have hrange : 48 ≤ c.toNat ∧ c.toNat ≤ 57 := by
    simpa [Char.isDigit, UInt32.le_iff_toNat_le] using h.isDigit c hc
  simp only [Text.isBlank, Bool.or_eq_false_iff, Bool.and_eq_false_iff, decide_eq_false_iff_not]
  omega

end Numeral

namespace Version

/-- The written forms of a version. -/
inductive Written : List Char → Version → Prop
  | release {a b c : List Char} {major minor patch : Nat} :
      Numeral a major → Numeral b minor → Numeral c patch →
        Written (a ++ '.' :: b ++ '.' :: c) ⟨major, minor, patch, none⟩
  | tagged {a b c tag : List Char} {major minor patch : Nat} :
      Numeral a major → Numeral b minor → Numeral c patch → tag ≠ [] →
        Written (a ++ '.' :: b ++ '.' :: c ++ '-' :: tag)
          ⟨major, minor, patch, some (String.ofList tag)⟩

variable {cs numbers a b c : List Char} {n : Nat} {text : String} {tag : Option String}
  {v : Version}

def suffix : Option String → List Char
  | none => []
  | some tag => '-' :: tag.toList

theorem toList_ne_nil {tag : String} (h : some tag ≠ some "") : tag.toList ≠ [] := fun hnil ↦
  h (congrArg some (String.toList_eq_nil_iff.1 hnil))

theorem written_iff :
    Written cs v ↔ ∃ a b c, Numeral a v.major ∧ Numeral b v.minor ∧ Numeral c v.patch ∧
    v.tag ≠ some "" ∧ cs = a ++ '.' :: b ++ '.' :: c ++ suffix v.tag := by
  constructor
  · rintro (⟨ha, hb, hc⟩ | ⟨ha, hb, hc, htag⟩)
    · exact ⟨_, _, _, ha, hb, hc, nofun, (List.append_nil _).symm⟩
    · refine ⟨_, _, _, ha, hb, hc, fun hempty ↦ htag ?_, by simp [suffix]⟩
      simpa using hempty
  · rintro ⟨a, b, c, ha, hb, hc, htag, rfl⟩
    obtain ⟨major, minor, patch, tag⟩ := v
    cases tag with
    | none => exact List.append_nil _ ▸ .release ha hb hc
    | some tag => simpa [suffix] using Written.tagged ha hb hc (toList_ne_nil htag)

theorem number?_eq_some : number? cs = some n ↔ Numeral cs n := by
  rw [number?, Option.filter_eq_some_iff, Text.ofDigits?_eq_some, decide_eq_true_iff]
  exact ⟨fun ⟨⟨hne, hdigits, hvalue⟩, hlt⟩ ↦ ⟨hne, hdigits, hvalue, hlt⟩,
    fun h ↦ ⟨⟨h.ne_nil, h.isDigit, h.value⟩, h.lt⟩⟩

theorem takeWhile_append_suffix (h : '-' ∉ numbers) (tag : Option String) :
    (numbers ++ suffix tag).takeWhile (· ≠ '-') = numbers := by
  rw [List.takeWhile_append_of_pos fun d hd ↦ decide_eq_true (ne_of_mem_of_not_mem hd h)]
  cases tag <;> simp [suffix]

theorem dropWhile_append_suffix (h : '-' ∉ numbers) (tag : Option String) :
    (numbers ++ suffix tag).dropWhile (· ≠ '-') = suffix tag := by
  rw [List.dropWhile_append_of_pos fun d hd ↦ decide_eq_true (ne_of_mem_of_not_mem hd h)]
  cases tag <;> simp [suffix]

theorem cutTag?_eq_some :
    cutTag? cs = some (numbers, tag) ↔
      '-' ∉ numbers ∧ tag ≠ some "" ∧ cs = numbers ++ suffix tag := by
  have hbefore : '-' ∉ cs.takeWhile (· ≠ '-') :=
    fun hmem ↦ absurd (List.mem_takeWhile_imp hmem) (by decide)
  have hcut := List.takeWhile_append_dropWhile (p := (· ≠ '-')) (l := cs)
  constructor
  · intro h
    unfold cutTag? at h
    split at h
    · rename_i hdrop
      cases h
      rw [hdrop, List.append_nil] at hcut
      exact ⟨hcut ▸ hbefore, nofun, (List.append_nil _).symm⟩
    · cases h
    · rename_i d rest hmore hdrop
      have hd := List.head?_dropWhile_not (· ≠ '-') cs
      rw [hdrop] at hd hcut
      obtain rfl : d = '-' := by simpa using hd
      cases h
      exact ⟨hbefore, fun hempty ↦ hmore (by simpa using hempty), by simpa [suffix] using hcut.symm⟩
  · rintro ⟨hnumbers, htag, rfl⟩
    rw [cutTag?, dropWhile_append_suffix hnumbers, takeWhile_append_suffix hnumbers]
    cases tag with
    | none => simp [suffix]
    | some tag =>
      obtain ⟨d, rest, hrest⟩ := List.exists_cons_of_ne_nil (toList_ne_nil htag)
      simp only [suffix, hrest]
      rw [← hrest, String.ofList_toList]

theorem exists_cut_of_ofChars? (h : ofChars? cs = some v) :
    ∃ numbers, cutTag? cs = some (numbers, v.tag) := by
  rw [ofChars?, Option.bind_eq_bind, Option.bind_eq_some_iff] at h
  obtain ⟨⟨numbers, tag⟩, hcut, h⟩ := h
  refine ⟨numbers, hcut.trans ?_⟩
  dsimp only at h
  split at h
  all_goals simp only [Option.bind_eq_bind, Option.bind_eq_some_iff, Option.some_inj,
    reduceCtorEq] at h
  · obtain ⟨major, -, rfl⟩ := h
    rfl
  · obtain ⟨major, -, minor, -, rfl⟩ := h
    rfl
  · obtain ⟨major, -, minor, -, patch, -, rfl⟩ := h
    rfl

theorem ofChars?_of_cut (hcut : cutTag? cs = some (numbers, tag))
    (hsplit : Text.split (· = '.') numbers = [a, b, c]) : ofChars? cs = some v ↔
      Numeral a v.major ∧ Numeral b v.minor ∧ Numeral c v.patch ∧ v.tag = tag := by
  simp only [ofChars?, hcut, Option.bind_eq_bind, Option.bind_some, hsplit, Option.bind_eq_some_iff,
    number?_eq_some, Option.some_inj]
  constructor
  · rintro ⟨major, ha, minor, hb, patch, hc, rfl⟩
    exact ⟨ha, hb, hc, rfl⟩
  · rintro ⟨ha, hb, hc, rfl⟩
    exact ⟨_, ha, _, hb, _, hc, rfl⟩

theorem notMem_numbers {p m n : Nat} {d : Char} (ha : Numeral a m) (hb : Numeral b n)
    (hc : Numeral c p) (hd : d.isDigit = false) (hpoint : d ≠ '.') :
    d ∉ a ++ '.' :: b ++ '.' :: c := by
  simp [ha.notMem hd, hb.notMem hd, hc.notMem hd, hpoint]

theorem split_numbers {p m n : Nat} (ha : Numeral a m) (hb : Numeral b n) (hc : Numeral c p) :
    Text.split (· = '.') (a ++ '.' :: b ++ '.' :: c) = [a, b, c] := by
  refine (Text.split_eq_iff (List.cons_ne_nil _ _)).2 ⟨?_, by simp [List.intercalate]⟩
  simp [ha.notMem, hb.notMem, hc.notMem]

theorem ofChars?_of_written (h : Written cs v) : ofChars? cs = some v := by
  obtain ⟨a, b, c, ha, hb, hc, htag, rfl⟩ := written_iff.1 h
  have hcut := cutTag?_eq_some.2 ⟨notMem_numbers (d := '-') ha hb hc rfl (by decide), htag, rfl⟩
  exact (ofChars?_of_cut hcut (split_numbers ha hb hc)).2 ⟨ha, hb, hc, rfl⟩

theorem parse_eq_ok : parse text = .ok v ↔
    (Text.split (· = '.') ((Text.trim text.toList).takeWhile (· ≠ '-'))).length = 3 ∧
      ofChars? (Text.trim text.toList) = some v := by
  rw [parse]
  split_ifs with hlength
  · exact iff_of_false nofun fun h ↦ hlength h.1
  · cases ofChars? (Text.trim text.toList) <;> simp_all

theorem parse_eq_ok_iff : parse text = .ok v ↔ Written (Text.trim text.toList) v := by
  rw [parse_eq_ok]
  constructor
  · rintro ⟨hlength, hread⟩
    obtain ⟨numbers, hcut⟩ := exists_cut_of_ofChars? hread
    obtain ⟨hnumbers, htag, hcs⟩ := cutTag?_eq_some.1 hcut
    rw [hcs, takeWhile_append_suffix hnumbers] at hlength
    obtain ⟨a, b, c, hsplit⟩ := List.length_eq_three.1 hlength
    obtain ⟨ha, hb, hc, -⟩ := (ofChars?_of_cut hcut hsplit).1 hread
    obtain ⟨-, hjoin⟩ := (Text.split_eq_iff (List.cons_ne_nil _ _)).1 hsplit
    refine written_iff.2 ⟨a, b, c, ha, hb, hc, htag, hcs.trans ?_⟩
    rw [hjoin]
    simp [List.intercalate]
  · intro h
    obtain ⟨a, b, c, ha, hb, hc, -, hcs⟩ := written_iff.1 h
    refine ⟨?_, ofChars?_of_written h⟩
    rw [hcs, takeWhile_append_suffix (notMem_numbers ha hb hc rfl (by decide)),
      split_numbers ha hb hc]
    rfl

theorem toList_render (v : Version) : v.render.toList =
    Nat.toDigits 10 v.major ++ '.' :: Nat.toDigits 10 v.minor ++ '.' :: Nat.toDigits 10 v.patch ++
      suffix v.tag := by
  obtain ⟨major, minor, patch, tag⟩ := v
  cases tag <;> simp [render, suffix, toString, Nat.repr_eq_ofList_toDigits]

/-- What is written for a version that was read is one of its written forms. -/
theorem written_render (h : Written cs v) : Written v.render.toList v := by
  obtain ⟨a, b, c, ha, hb, hc, htag, -⟩ := written_iff.1 h
  exact written_iff.2 ⟨_, _, _, .toDigits ha.lt, .toDigits hb.lt, .toDigits hc.lt, htag,
    v.toList_render⟩

theorem head_of_written (h : Written cs v) : ∀ d ∈ cs.head?, Text.isBlank d = false := by
  obtain ⟨a, b, c, ha, -, -, -, rfl⟩ := written_iff.1 h
  obtain ⟨first, rest, rfl⟩ := List.exists_cons_of_ne_nil ha.ne_nil
  intro d hd
  obtain rfl : first = d := by simpa using hd
  exact ha.isBlank_of_mem List.mem_cons_self

theorem last_of_written (h : Written cs v) :
    (∀ d ∈ cs.getLast?, Text.isBlank d = false) ↔ ∀ tag, v.tag = some tag →
      ∀ d ∈ tag.toList.getLast?, Text.isBlank d = false := by
  obtain ⟨a, b, c, -, -, hc, htag, rfl⟩ := written_iff.1 h
  generalize v.tag = tag at htag
  cases tag with
  | none =>
    refine iff_of_true (fun d hd ↦ hc.isBlank_of_mem ?_) nofun
    rw [suffix, List.append_nil, List.getLast?_append_of_ne_nil _ (List.cons_ne_nil _ _),
      List.getLast?_cons_of_ne_nil hc.ne_nil] at hd
    exact List.mem_of_mem_getLast? hd
  | some tag =>
    rw [suffix, List.getLast?_append_of_ne_nil _ (List.cons_ne_nil _ _),
      List.getLast?_cons_of_ne_nil (toList_ne_nil htag)]
    simp

theorem trim_render (h : Written (Text.trim cs) v) :
    Text.trim v.render.toList = v.render.toList := by
  have hwritten := written_render h
  refine Text.trim_eq_self (head_of_written hwritten) ((last_of_written hwritten).2 ?_)
  exact (last_of_written h).1 (Text.ends_of_trim cs).2

/-- A text is read as a version exactly if, without the blanks around it, it is a written form of
that version. What is written for the version is read as the same version. -/
theorem parse_written (text : String) :
    (∀ v, parse text = .ok v ↔ Written (Text.trim text.toList) v) ∧
      ∀ v, parse text = .ok v → parse v.render = .ok v := by
  refine ⟨fun v ↦ parse_eq_ok_iff, fun v h ↦ ?_⟩
  rw [parse_eq_ok_iff] at h ⊢
  rw [trim_render h]
  exact written_render h

theorem parse_written_padded : Written "01.2.3-a-b".toList ⟨1, 2, 3, some "a-b"⟩ ∧
    parse (render ⟨1, 2, 3, some "a-b"⟩) = .ok ⟨1, 2, 3, some "a-b"⟩ := by
  obtain ⟨hwritten, hrender⟩ := parse_written " 01.2.3-a-b "
  have hparse : parse " 01.2.3-a-b " = .ok ⟨1, 2, 3, some "a-b"⟩ := by rfl
  have htrim : Text.trim " 01.2.3-a-b ".toList = "01.2.3-a-b".toList := by decide
  exact ⟨htrim ▸ (hwritten _).1 hparse, hrender _ hparse⟩

end Version

end GamePack
