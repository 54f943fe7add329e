import GamePack.Text.Hex
import GamePack.Text.Split
import Mathlib.Data.List.DropRight

namespace GamePack.Text

variable {c : Char} {cs xs ys piece : List Char}

theorem split_eq_splitOnP (p : Char → Bool) (cs : List Char) : split p cs = cs.splitOnP p := by
  induction cs with
  | nil => rfl
  | cons c rest ih =>
    obtain ⟨piece, pieces, hpieces⟩ := List.exists_cons_of_ne_nil (List.splitOnP_ne_nil p rest)
    rw [split, List.splitOnP_cons_eq_if_modifyHead, ih, hpieces]
    rfl

theorem split_ne_nil (p : Char → Bool) (cs : List Char) : split p cs ≠ [] := by
  rw [split_eq_splitOnP]
  exact List.splitOnP_ne_nil p cs

theorem pieces_of_split {p : Char → Bool} {pieces : List (List Char)}
    (h : split p cs = piece :: pieces) :
    piece <+: cs ∧ ∀ q ∈ piece :: pieces, q <:+: cs ∧ ∀ c ∈ q, p c = false := by
  induction cs generalizing piece pieces with
  | nil =>
    cases h
    simp
  | cons c rest ih =>
    obtain ⟨first, others, hrest⟩ := List.exists_cons_of_ne_nil (split_ne_nil p rest)
    obtain ⟨hfirst, hpieces⟩ := ih hrest
    rw [split, hrest] at h
    split at h
    · cases h
      refine ⟨List.nil_prefix, List.forall_mem_cons.2 ⟨⟨List.nil_infix, nofun⟩, fun q hq ↦ ?_⟩⟩
      exact ⟨List.infix_cons (hpieces q hq).1, (hpieces q hq).2⟩
    · rename_i hc
      cases h
      obtain ⟨⟨-, hplain⟩, hothers⟩ := List.forall_mem_cons.1 hpieces
      have hstart : c :: first <+: c :: rest := List.cons_prefix_cons.2 ⟨rfl, hfirst⟩
      refine ⟨hstart, List.forall_mem_cons.2 ⟨⟨hstart.isInfix, ?_⟩, fun q hq ↦ ?_⟩⟩
      · exact List.forall_mem_cons.2 ⟨Bool.eq_false_iff.2 hc, hplain⟩
      · exact ⟨List.infix_cons (hothers q hq).1, (hothers q hq).2⟩

theorem mem_split {p : Char → Bool} (h : c ∈ cs) (hc : p c = false) :
    ∃ piece ∈ split p cs, c ∈ piece := by
  induction cs with
  | nil => cases h
  | cons d rest ih =>
    obtain ⟨first, others, hrest⟩ := List.exists_cons_of_ne_nil (split_ne_nil p rest)
    rw [split, hrest]
    rw [hrest] at ih
    rcases List.mem_cons.1 h with rfl | h
    · rw [hc]
      exact ⟨c :: first, List.mem_cons_self, List.mem_cons_self⟩
    · obtain ⟨piece, hpiece, hmem⟩ := ih h
      split
      · exact ⟨piece, List.mem_cons_of_mem _ hpiece, hmem⟩
      · rcases List.mem_cons.1 hpiece with rfl | hpiece
        · exact ⟨d :: piece, List.mem_cons_self, List.mem_cons_of_mem _ hmem⟩
        · exact ⟨piece, List.mem_cons_of_mem _ hpiece, hmem⟩

/-- The pieces are those texts without the separator that give the text when it is
put between them. -/
theorem split_eq_iff {separator : Char} {pieces : List (List Char)} (hne : pieces ≠ []) :
    split (· = separator) cs = pieces ↔
      (∀ q ∈ pieces, separator ∉ q) ∧ cs = [separator].intercalate pieces := by
  have hsplit (cs : List Char) : split (· = separator) cs = cs.splitOn separator :=
    split_eq_splitOnP _ cs
  constructor
  · rintro rfl
    obtain ⟨first, others, hcs⟩ := List.exists_cons_of_ne_nil hne
    refine ⟨fun q hq hmem ↦ ?_, ?_⟩
    · have hplain := ((pieces_of_split hcs).2 q (hcs ▸ hq)).2 separator hmem
      exact absurd hplain (by simp)
    · rw [hsplit, List.intercalate_splitOn]
  · rintro ⟨hpieces, rfl⟩
    rw [hsplit, List.splitOn_intercalate separator hpieces hne]

theorem words_append_cons (xs ys : List Char) (hc : isBlank c) :
    words (xs ++ c :: ys) = words xs ++ words ys := by
  simp only [words, split_eq_splitOnP, List.splitOnP_append_cons xs ys hc, List.filter_append]

theorem words_cons (hc : isBlank c) (cs : List Char) : words (c :: cs) = words cs :=
  words_append_cons [] cs hc

theorem words_append_blanks (cs : List Char) (h : ∀ c ∈ ys, isBlank c) :
    words (cs ++ ys) = words cs := by
  induction ys generalizing cs with
  | nil => rw [List.append_nil]
  | cons c rest ih =>
    obtain ⟨hc, hrest⟩ := List.forall_mem_cons.1 h
    rw [words_append_cons cs rest hc, ← List.nil_append rest, ih [] hrest]
    exact List.append_nil _

theorem words_blanks_append (h : ∀ c ∈ xs, isBlank c) (cs : List Char) :
    words (xs ++ cs) = words cs := by
  induction xs with
  | nil => rfl
  | cons c rest ih =>
    obtain ⟨hc, hrest⟩ := List.forall_mem_cons.1 h
    rw [List.cons_append, words_cons hc, ih hrest]

theorem words_of_forall (hne : cs ≠ []) (h : ∀ c ∈ cs, isBlank c = false) : words cs = [cs] := by
  rw [words, split_eq_splitOnP, List.splitOnP_eq_singleton h]
  exact List.filter_cons_of_pos (decide_eq_true hne)

theorem of_mem_words (h : piece ∈ words cs) : piece <:+: cs ∧ ∀ c ∈ piece, isBlank c = false := by
  obtain ⟨first, others, hsplit⟩ := List.exists_cons_of_ne_nil (split_ne_nil isBlank cs)
  exact (pieces_of_split hsplit).2 piece (hsplit ▸ (List.mem_filter.1 h).1)

theorem splitBars_ne_nil (cs : List Char) : splitBars cs ≠ [] := by
  fun_cases splitBars cs <;> simp

/-- Texts are built from double bars and single characters. -/
@[elab_as_elim]
theorem bars_induction {motive : List Char → Prop} (nil : motive [])
    (bars : ∀ rest, motive rest → motive ('|' :: '|' :: rest))
    (single : ∀ c rest, (c = '|' → rest.head? ≠ some '|') → motive rest → motive (c :: rest))
    (cs : List Char) : motive cs := by
  have hhead {c : Char} {rest : List Char} (h : ∀ more, c = '|' → rest = '|' :: more → False)
      (hc : c = '|') : rest.head? ≠ some '|' := fun hrest ↦ by
    obtain ⟨more, rfl⟩ := List.head?_eq_some_iff.1 hrest
    exact h more hc rfl
  induction cs using splitBars.induct with
  | case1 rest ih => exact bars rest ih
  | case2 => exact nil
  | case3 c rest h _ ih => exact single c rest (hhead h) ih
  | case4 c rest h _ _ _ ih => exact single c rest (hhead h) ih

theorem splitBars_cons (h : c = '|' → cs.head? ≠ some '|') :
    splitBars (c :: cs) = (splitBars cs).modifyHead (c :: ·) := by
  obtain ⟨first, others, hcs⟩ := List.exists_cons_of_ne_nil (splitBars_ne_nil cs)
  rw [splitBars.eq_3, hcs]
  · rfl
  · rintro rest rfl rfl
    exact h rfl rfl

theorem splitBars_append_left (h : '|' ∉ xs) (cs : List Char) :
    splitBars (xs ++ cs) = (splitBars cs).modifyHead (xs ++ ·) := by
  induction xs with
  | nil => exact (List.modifyHead_id ▸ rfl)
  | cons c rest ih =>
    obtain ⟨hc, hrest⟩ := not_or.1 (List.mem_cons.not.1 h)
    rw [List.cons_append, splitBars_cons (fun heq ↦ absurd heq.symm hc), ih hrest,
      List.modifyHead_modifyHead]
    rfl

theorem splitBars_of_notMem (h : '|' ∉ cs) : splitBars cs = [cs] := by
  rw [← List.append_nil cs, splitBars_append_left h]
  rfl

theorem splitBars_append_bars (h : '|' ∉ xs) (cs : List Char) :
    splitBars (xs ++ '|' :: '|' :: cs) = xs :: splitBars cs := by
  rw [splitBars_append_left h, splitBars, List.modifyHead_cons, List.append_nil]

theorem splitBars_append_right (h : '|' ∉ ys) (cs : List Char) :
    ∃ pieces last, splitBars cs = pieces ++ [last] ∧
      splitBars (cs ++ ys) = pieces ++ [last ++ ys] := by
  induction cs using bars_induction with
  | nil => exact ⟨[], [], rfl, splitBars_of_notMem h⟩
  | bars rest ih =>
    obtain ⟨pieces, last, hpieces, happend⟩ := ih
    refine ⟨[] :: pieces, last, ?_, ?_⟩
    · rw [splitBars, hpieces, List.cons_append]
    · rw [List.cons_append, List.cons_append, splitBars, happend, List.cons_append]
  | single c rest hc ih =>
    obtain ⟨pieces, last, hpieces, happend⟩ := ih
    have hc' : c = '|' → (rest ++ ys).head? ≠ some '|' := fun heq hhead ↦ by
      rw [List.head?_append, Option.or_eq_some_iff] at hhead
      exact hhead.elim (hc heq) fun hys ↦ h (List.mem_of_mem_head? hys.2)
    rw [List.cons_append, splitBars_cons hc, splitBars_cons hc', hpieces, happend]
    cases pieces with
    | nil => exact ⟨[], c :: last, rfl, rfl⟩
    | cons first others => exact ⟨(c :: first) :: others, last, rfl, rfl⟩

theorem pieces_of_splitBars {pieces : List (List Char)} (h : splitBars cs = piece :: pieces) :
    piece <+: cs ∧ ∀ q ∈ piece :: pieces, ¬ ['|', '|'] <:+: q := by
  induction cs using bars_induction generalizing piece pieces with
  | nil =>
    cases h
    simp
  | bars rest ih =>
    obtain ⟨first, others, hrest⟩ := List.exists_cons_of_ne_nil (splitBars_ne_nil rest)
    rw [splitBars, hrest] at h
    cases h
    exact ⟨List.nil_prefix, List.forall_mem_cons.2 ⟨by simp, (ih hrest).2⟩⟩
  | single c rest hc ih =>
    obtain ⟨first, others, hrest⟩ := List.exists_cons_of_ne_nil (splitBars_ne_nil rest)
    rw [splitBars_cons hc, hrest] at h
    cases h
    obtain ⟨hstart, hpieces⟩ := ih hrest
    obtain ⟨hfirst, hothers⟩ := List.forall_mem_cons.1 hpieces
    refine ⟨List.cons_prefix_cons.2 ⟨rfl, hstart⟩, List.forall_mem_cons.2 ⟨fun hbars ↦ ?_, hothers⟩⟩
    rcases List.infix_cons_iff.1 hbars with hbars | hbars
    · obtain ⟨rfl, hbar⟩ := List.cons_prefix_cons.1 hbars
      obtain ⟨more, rfl⟩ := hbar.trans hstart
      exact hc rfl rfl
    · exact hfirst hbars

theorem splitBars_of_not_infix (h : ¬ ['|', '|'] <:+: cs) : splitBars cs = [cs] := by
  induction cs using bars_induction with
  | nil => rfl
  | bars rest _ => exact absurd (List.prefix_append ['|', '|'] rest).isInfix h
  | single c rest hc ih =>
    rw [splitBars_cons hc, ih fun hrest ↦ h (List.infix_cons hrest)]
    rfl

/-- Only blanks are lost around a text. -/
theorem exists_trim (cs : List Char) :
    ∃ before after, cs = before ++ trim cs ++ after ∧
      (∀ c ∈ before, isBlank c) ∧ ∀ c ∈ after, isBlank c := by
  refine ⟨cs.takeWhile isBlank, (cs.dropWhile isBlank).rtakeWhile isBlank, ?_, ?_, ?_⟩
  · rw [List.append_assoc]
    have hright : trim cs ++ (cs.dropWhile isBlank).rtakeWhile isBlank = cs.dropWhile isBlank :=
      List.rdropWhile_append_rtakeWhile
    rw [hright, List.takeWhile_append_dropWhile]
  · exact fun c hc ↦ List.mem_takeWhile_imp hc
  · exact fun c hc ↦ List.mem_rtakeWhile_imp hc

theorem ends_of_trim (cs : List Char) :
    (∀ c ∈ (trim cs).head?, isBlank c = false) ∧ ∀ c ∈ (trim cs).getLast?, isBlank c = false := by
  constructor
  · intro c hc
    obtain ⟨more, hmore⟩ := List.head?_eq_some_iff.1 hc
    obtain ⟨after, hafter⟩ : trim cs <+: cs.dropWhile isBlank := List.rdropWhile_prefix ..
    have hhead := List.head?_dropWhile_not isBlank cs
    rw [← hafter, hmore] at hhead
    exact hhead
  · intro c hc
    have hne : trim cs ≠ [] := List.getLast?_isSome.1 (Option.isSome_of_mem hc)
    rw [List.getLast?_eq_some_getLast hne, Option.mem_some_iff] at hc
    exact hc ▸ Bool.eq_false_iff.2 (List.rdropWhile_last_not isBlank (cs.dropWhile isBlank) hne)

theorem trim_eq_self (hhead : ∀ c ∈ cs.head?, isBlank c = false)
    (hlast : ∀ c ∈ cs.getLast?, isBlank c = false) : trim cs = cs := by
  have hdrop : cs.dropWhile isBlank = cs := List.dropWhile_eq_self_iff.2 fun hpos ↦
    Bool.not_eq_true _ ▸ hhead _ (List.head?_eq_getElem? ▸ List.getElem?_eq_getElem hpos)
  have hdropRight : cs.rdropWhile isBlank = cs := List.rdropWhile_eq_self_iff.2 fun hne ↦
    Bool.not_eq_true _ ▸ hlast _ (List.getLast?_eq_some_getLast hne)
  calc trim cs = (cs.dropWhile isBlank).rdropWhile isBlank := rfl
    _ = cs := by rw [hdrop, hdropRight]

theorem trim_trim (cs : List Char) : trim (trim cs) = trim cs :=
  trim_eq_self (ends_of_trim cs).1 (ends_of_trim cs).2

theorem map_words_splitBars_trim (cs : List Char) :
    (splitBars (trim cs)).map words = (splitBars cs).map words := by
  have hbars {blanks : List Char} (h : ∀ c ∈ blanks, isBlank c) : '|' ∉ blanks := fun hmem ↦
    absurd (h '|' hmem) (by decide)
  obtain ⟨before, after, hcs, hbefore, hafter⟩ := exists_trim cs
  obtain ⟨pieces, last, hpieces, happend⟩ :=
    splitBars_append_right (hbars hafter) (before ++ trim cs)
  obtain ⟨first, others, htrim⟩ := List.exists_cons_of_ne_nil (splitBars_ne_nil (trim cs))
  calc (splitBars (trim cs)).map words
      = (splitBars (before ++ trim cs)).map words := by
        rw [splitBars_append_left (hbars hbefore), htrim, List.modifyHead_cons, List.map_cons,
          List.map_cons, words_blanks_append hbefore]
    _ = (splitBars (before ++ trim cs ++ after)).map words := by
        rw [hpieces, happend, List.map_append, List.map_append, List.map_singleton,
          List.map_singleton, words_append_blanks last hafter]
    _ = (splitBars cs).map words := by rw [← hcs]

theorem digit?_eq_some {d : Nat} : digit? 10 c = some d ↔ c.isDigit ∧ c.toNat - 48 = d := by
  have hdigit : c.isDigit ↔ '0' ≤ c ∧ c ≤ '9' := by simp [Char.isDigit, Char.le_def]
  rw [digit?, hexDigit?, Option.filter_eq_some_iff, hdigit, decide_eq_true_iff]
  split_ifs with hten hlower hupper
  · have hnine : c.toNat ≤ 57 := hten.2
    simp only [hten, Option.some_inj, and_true, true_and]
    omega
  · have ha : 97 ≤ c.toNat := hlower.1
    simp only [hten, Option.some_inj, false_and, iff_false]
    omega
  · have hA : 65 ≤ c.toNat := hupper.1
    simp only [hten, Option.some_inj, false_and, iff_false]
    omega
  · simp [hten]

theorem ofDigits?_eq_some {n : Nat} :
    ofDigits? 10 cs = some n ↔ cs ≠ [] ∧ (∀ c ∈ cs, c.isDigit) ∧ Nat.ofDigitChars 10 cs 0 = n := by
  have hfold (m : Nat) : cs.foldlM (fun n c ↦ (digit? 10 c).map (n * 10 + ·)) m = some n ↔
      (∀ c ∈ cs, c.isDigit) ∧ Nat.ofDigitChars 10 cs m = n := by
    induction cs generalizing m with
    | nil => simp
    | cons c rest ih =>
      rw [List.foldlM_cons, Option.bind_eq_bind, Option.bind_eq_some_iff, List.forall_mem_cons,
        Nat.ofDigitChars_cons]
      constructor
      · rintro ⟨k, hk, hrest⟩
        obtain ⟨d, hd, rfl⟩ := Option.map_eq_some_iff.1 hk
        obtain ⟨hc, rfl⟩ := digit?_eq_some.1 hd
        obtain ⟨hdigits, hn⟩ := (ih _).1 hrest
        exact ⟨⟨hc, hdigits⟩, by rw [Nat.mul_comm]; exact hn⟩
      · rintro ⟨⟨hc, hdigits⟩, hn⟩
        refine ⟨m * 10 + (c.toNat - 48), ?_, (ih _).2 ⟨hdigits, by rw [Nat.mul_comm]; exact hn⟩⟩
        rw [digit?_eq_some.2 ⟨hc, rfl⟩, Option.map_some]
  cases cs with
  | nil => simp [ofDigits?]
  | cons c rest =>
    rw [ofDigits?, hfold]
    · simp
    · exact nofun

end GamePack.Text
