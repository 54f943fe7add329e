import GamePack.Proofs.Finding
import Mathlib.Data.Finset.Card
import Mathlib.Data.List.Perm.Basic

namespace GamePack

theorem Path.map_each_perm {α β γ : Type} {path : Path} {items : List α} {f : Path → α → List β}
    {k : β → γ} (hf : ∀ a ∈ items, ∀ path, ((f path a).map k).Perm ((f [] a).map k)) :
    ((path.each items f).map k).Perm (items.flatMap fun a ↦ (f [] a).map k) := by
  have hitems : items.flatMap (fun a ↦ (f [] a).map k) =
      items.zipIdx.flatMap fun x ↦ (f [] x.1).map k := by
    conv_lhs => rw [← List.zipIdx_map_fst 0 items, List.flatMap_map]
  rw [each, List.map_flatMap, hitems]
  exact List.Perm.flatMap_left _ fun x hx ↦ hf x.1 (List.fst_mem_of_mem_zipIdx hx) _

def Finding.isIssue (f : Finding) : Bool := f.issue?.isSome

/-- As many issues and as many warnings. -/
def Alike (fs gs : List Finding) : Prop := (fs.map Finding.isIssue).Perm (gs.map Finding.isIssue)

namespace Alike

variable {fs fs' gs gs' : List Finding}

theorem refl (fs : List Finding) : Alike fs fs := List.Perm.refl _

theorem of_eq (h : fs = gs) : Alike fs gs := h ▸ refl fs

theorem of_map_eq (h : fs.map Finding.isIssue = gs.map Finding.isIssue) : Alike fs gs :=
  List.Perm.of_eq h

theorem symm (h : Alike fs gs) : Alike gs fs := List.Perm.symm h

theorem trans {hs : List Finding} (h : Alike fs gs) (h' : Alike gs hs) : Alike fs hs :=
  List.Perm.trans h h'

theorem of_perm (h : fs.Perm gs) : Alike fs gs := h.map _

theorem append (h : Alike fs gs) (h' : Alike fs' gs') : Alike (fs ++ fs') (gs ++ gs') := by
  rw [Alike, List.map_append, List.map_append]
  exact List.Perm.append h h'

theorem length_issuesOf (h : Alike fs gs) : (issuesOf fs).length = (issuesOf gs).length := by
  have hcount (fs : List Finding) : (issuesOf fs).length = (fs.map Finding.isIssue).count true := by
    rw [issuesOf, List.length_filterMap_eq_countP, List.count, List.countP_map]
    exact List.countP_congr fun f _ ↦ by cases f <;> simp [Finding.isIssue, Finding.issue?]
  rw [hcount, hcount, h.count_eq]

theorem length_warningsOf (h : Alike fs gs) : (warningsOf fs).length = (warningsOf gs).length := by
  have hcount (fs : List Finding) :
      (warningsOf fs).length = (fs.map Finding.isIssue).count false := by
    rw [warningsOf, List.length_filterMap_eq_countP, List.count, List.countP_map]
    exact List.countP_congr fun f _ ↦ by
      cases f <;> simp [Finding.isIssue, Finding.issue?, Finding.warning?]
  rw [hcount, hcount, h.count_eq]

theorem hasIssues (h : Alike fs gs) : hasIssues fs = hasIssues gs := by
  have hmem (fs : List Finding) : GamePack.hasIssues fs = true ↔ true ∈ fs.map Finding.isIssue := by
    simp [GamePack.hasIssues, Finding.isIssue]
  rw [Bool.eq_iff_iff, hmem, hmem, h.mem_iff]

theorem flatMap {α : Type} {items items' : List α} {f g : α → List Finding} (h : items.Perm items')
    (hf : ∀ a ∈ items, Alike (f a) (g a)) : Alike (items.flatMap f) (items'.flatMap g) := by
  rw [Alike, List.map_flatMap, List.map_flatMap]
  exact (List.Perm.flatMap_left _ hf).trans (h.flatMap_right _)

theorem each {α : Type} {path path' : Path} {items items' : List α} {f : Path → α → List Finding}
    (h : items.Perm items') (hf : ∀ a path path', Alike (f path a) (f path' a)) :
    Alike (path.each items f) (path'.each items' f) := by
  have heach (path : Path) (items : List α) : ((path.each items f).map Finding.isIssue).Perm
      (items.flatMap fun a ↦ (f [] a).map Finding.isIssue) :=
    Path.map_each_perm fun a _ path ↦ hf a path []
  exact (heach path items).trans ((h.flatMap_right _).trans (heach path' items').symm)

theorem ensure (holds : Bool) (path path' : Path) (f g : Fault) :
    Alike (Finding.ensure holds path f) (Finding.ensure holds path' g) := by
  cases holds <;> exact refl _

theorem flatMap_ensure {α β : Type} {items : List α} {items' : List β} {holds : α → Bool}
    {holds' : β → Bool} {path : α → Path} {path' : β → Path} {fault : α → Fault}
    {fault' : β → Fault} (h : items.countP (fun a ↦ !holds a) = items'.countP fun b ↦ !holds' b) :
    Alike (items.flatMap fun a ↦ Finding.ensure (holds a) (path a) (fault a))
      (items'.flatMap fun b ↦ Finding.ensure (holds' b) (path' b) (fault' b)) := by
  have hcount {α : Type} (items : List α) (holds : α → Bool) (path : α → Path) (fault : α → Fault) :
      (items.flatMap fun a ↦ Finding.ensure (holds a) (path a) (fault a)).map Finding.isIssue =
        List.replicate (items.countP fun a ↦ !holds a) true := by
    induction items with
    | nil => rfl
    | cons a rest ih =>
      rw [List.flatMap_cons, List.map_append, ih, List.countP_cons]
      cases holds a <;> rfl
  exact .of_map_eq (by rw [hcount, hcount, h])

theorem map_fault {α β : Type} {items : List α} {items' : List β} {path : α → Path}
    {path' : β → Path} {fault : α → Fault} {fault' : β → Fault} (h : items.length = items'.length) :
    Alike (items.map fun a ↦ .fault (path a) (fault a))
      (items'.map fun b ↦ .fault (path' b) (fault' b)) := by
  refine of_map_eq ?_
  rw [List.map_map, List.map_map]
  calc items.map _ = List.replicate items.length true := List.map_const'
    _ = List.replicate items'.length true := by rw [h]
    _ = items'.map _ := List.map_const'.symm

end Alike

end GamePack
