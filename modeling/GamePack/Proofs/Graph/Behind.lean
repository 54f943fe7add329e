import GamePack.Proofs.Graph.Found

namespace GamePack

/-- Each item of a list is related to later ones only. -/
def Settled (R : String → String → Prop) : List String → Prop
  | [] => True
  | id :: rest => (∀ v, R id v → v ∈ rest) ∧ id ∉ rest ∧ Settled R rest

namespace Settled

variable {R S : String → String → Prop} {done : List String} {u v : String}

theorem mono (hRS : ∀ u v, S u v → R u v) (h : Settled R done) : Settled S done := by
  induction done with
  | nil => trivial
  | cons id rest ih => exact ⟨fun v hv ↦ h.1 v (hRS id v hv), h.2.1, ih h.2.2⟩

theorem mem_of_path (h : Settled R done) (hu : u ∈ done) (hp : Relation.ReflTransGen R u v) :
    v ∈ done := by
  have hstep : ∀ {u v}, u ∈ done → R u v → v ∈ done := by
    clear hp hu
    induction done with
    | nil => intro u v hu; cases hu
    | cons id rest ih =>
      intro u v hu he
      obtain ⟨hid, -, hrest⟩ := h
      rcases List.mem_cons.1 hu with rfl | hu
      · exact List.mem_cons_of_mem _ (hid v he)
      · exact List.mem_cons_of_mem _ (ih hrest hu he)
  induction hp with
  | refl => exact hu
  | tail _ he ih => exact hstep ih he

theorem acyclic (h : Settled R done) (hu : u ∈ done) : ¬ Relation.TransGen R u u := by
  induction done with
  | nil => cases hu
  | cons id rest ih =>
    obtain ⟨hid, hnot, hrest⟩ := h
    rcases List.mem_cons.1 hu with rfl | hu
    · intro hp
      obtain ⟨w, he, hw⟩ := Relation.TransGen.head'_iff.1 hp
      exact hnot (hrest.mem_of_path (hid w he) hw)
    · exact ih hrest hu

end Settled

namespace Search

variable {g : Graph} {roots done : List String} {s s' : Search} {extent : Extent}

/-- An edge that lies on no cycle that is written like one that was found. -/
def Open (g : Graph) (roots : List String) (s : Search) (u v : String) : Prop :=
  g.Edge u v ∧ ∀ cycle, g.CanonicalCycle roots cycle → [u, v] <:+: cycle →
    renderCycle cycle ∉ s.cycles.map renderCycle

theorem Open.mono {u v : String} (hgrow : s.cycles <+: s'.cycles) (h : Open g roots s' u v) :
    Open g roots s u v := by
  refine ⟨h.1, fun cycle hcycle huv hmem ↦ h.2 cycle hcycle huv ?_⟩
  exact (hgrow.map renderCycle).subset hmem

theorem render_record (next : String) (s : Search) :
    renderCycle (s.closing next) ∈ (s.record next).cycles.map renderCycle := by
  rw [record]
  split
  · assumption
  · rw [List.map_append]
    exact List.mem_append_right _ (List.mem_singleton_self _)

/-- Along the stack, from the end of the path on: the successors of an id are pending or among the
ids met, which are those behind the search and those further along the path. -/
def Looked (R : String → String → Prop) (met : List String) : List Frame → Prop
  | [] => True
  | f :: rest => (∀ v, R f.node v → v ∈ f.pending ∨ v ∈ met) ∧ Looked R (f.node :: met) rest

namespace Looked

variable {R S : String → String → Prop} {met met' : List String} {stack rest : List Frame}

theorem mono (hRS : ∀ u v, S u v → R u v) (hmet : met ⊆ met') (h : Looked R met stack) :
    Looked S met' stack := by
  induction stack generalizing met met' with
  | nil => trivial
  | cons f rest ih =>
    exact ⟨fun v hv ↦ (h.1 v (hRS _ v hv)).imp_right (@hmet v),
      ih (List.cons_subset_cons _ hmet) h.2⟩

theorem look {node next : String} {pending : List String}
    (h : Looked R met (⟨node, next :: pending⟩ :: rest)) (hnext : R node next → next ∈ met) :
    Looked R met (⟨node, pending⟩ :: rest) := by
  refine ⟨fun v hv ↦ ?_, h.2⟩
  rcases h.1 v hv with hmem | hmem
  · rcases List.mem_cons.1 hmem with rfl | hmem
    · exact .inr (hnext hv)
    · exact .inl hmem
  · exact .inr hmem

end Looked

def Explored (g : Graph) (roots : List String) (s : Search) : Prop :=
  ∀ u ∈ scope g roots, u ∉ s.fresh → ∀ v, g.Edge u v →
    v ∉ s.fresh ∨ ∃ f ∈ s.stack, f.node = u ∧ v ∈ f.pending

theorem Explored.next (h : Explored g roots s) (hfresh : s'.fresh ⊆ s.fresh)
    (hmet : ∀ u ∈ s.fresh, u ∉ s'.fresh → ∃ f ∈ s'.stack, f.node = u ∧ ∀ v, g.Edge u v →
        v ∈ f.pending)
    (hpending : ∀ f ∈ s.stack, ∀ v ∈ f.pending,
      v ∉ s'.fresh ∨ ∃ f' ∈ s'.stack, f'.node = f.node ∧ v ∈ f'.pending) : Explored g roots s' := by
  intro u hu hnew v he
  by_cases hold : u ∈ s.fresh
  · obtain ⟨f, hf, hnode, hall⟩ := hmet u hold hnew
    exact .inr ⟨f, hf, hnode, hall v he⟩
  · rcases h u hu hold v he with hv | ⟨f, hf, rfl, hv⟩
    · exact .inl fun hmem ↦ hv (hfresh hmem)
    · exact hpending f hf v hv

structure Clear (g : Graph) (roots done : List String) (s : Search) : Prop where
  partition : (s.path ++ (done ++ s.fresh)).Perm (scope g roots)
  looked : Looked (Open g roots s) done s.stack
  settled : Settled (Open g roots s) done
  explored : Explored g roots s

theorem Clear.nodup (h : Clear g roots done s) : (s.path ++ (done ++ s.fresh)).Nodup :=
  h.partition.nodup_iff.2 (nodup_eraseDups _)

theorem Clear.not_fresh_of_path (h : Clear g roots done s) {id : String} (hid : id ∈ s.path) :
    id ∉ s.fresh :=
  fun hfresh ↦ (List.nodup_append.1 h.nodup).2.2 id hid id (List.mem_append_right _ hfresh) rfl

theorem Clear.push {id : String} (hid : id ∈ s.fresh)
    (partition : (s.path ++ (done ++ s.fresh)).Perm (scope g roots))
    (looked : Looked (Open g roots s) (id :: done) s.stack)
    (settled : Settled (Open g roots s) done) (explored : Explored g roots (s.push g id)) :
    Clear g roots done (s.push g id) where
  partition := by
    have hmove :
        (s.path ++ [id] ++ (done ++ s.fresh.erase id)).Perm (s.path ++ (done ++ s.fresh)) := by
      rw [List.append_assoc, List.singleton_append]
      refine List.Perm.append_left _ (List.perm_middle.symm.trans (.append_left _ ?_))
      exact (List.perm_cons_erase hid).symm
    rw [path_push]
    exact hmove.trans partition
  looked := ⟨fun _ hv ↦ .inl hv.1, looked⟩
  settled := settled
  explored := explored

theorem Explored.push {stack rest : List Frame} {fresh : List String}
    {cycles : List (List String)} {id : String}
    (h : Explored g roots ⟨stack, fresh, cycles⟩) (hnodup : fresh.Nodup)
    (hpending : ∀ f ∈ stack, ∀ v ∈ f.pending, v = id ∨ ∃ f' ∈ rest, f'.node = f.node ∧
        v ∈ f'.pending) :
    Explored g roots (push g id ⟨rest, fresh, cycles⟩) := by
  refine h.next List.erase_subset ?_ ?_
  · intro u hu hmet
    obtain rfl : u = id := by
      by_contra hne
      exact hmet ((List.mem_erase_of_ne hne).2 hu)
    exact ⟨⟨u, g.successors u⟩, List.mem_cons_self, rfl, fun v hv ↦ hv⟩
  · intro f hf v hv
    rcases hpending f hf v hv with rfl | ⟨f', hf', h'⟩
    · exact .inl hnodup.not_mem_erase
    · exact .inr ⟨f', List.mem_cons_of_mem _ hf', h'⟩

theorem Explored.look {node next : String} {pending fresh : List String} {rest : List Frame}
    {cycles : List (List String)}
    (h : Explored g roots ⟨⟨node, next :: pending⟩ :: rest, fresh, cycles⟩) (hnext : next ∉ fresh)
    (cycles' : List (List String)) :
    Explored g roots ⟨⟨node, pending⟩ :: rest, fresh, cycles'⟩ := by
  refine h.next (List.Subset.refl _) (fun u hu hnot ↦ absurd hu hnot) ?_
  intro f hf v hv
  rcases List.mem_cons.1 hf with rfl | hf
  · rcases List.mem_cons.1 hv with rfl | hv
    · exact .inl hnext
    · exact .inr ⟨_, List.mem_cons_self, rfl, hv⟩
  · exact .inr ⟨f, List.mem_cons_of_mem _ hf, rfl, hv⟩

/-- A move takes at most one id off the path, which joins those behind the search. -/
theorem Move.clear (hm : Move g roots s s') (htrail : Trail g roots s) (h : Clear g roots done s) :
    ∃ done', Clear g roots done' s' := by
  have hnodup := h.nodup
  cases hm with
  | @enter root fresh cycles hroot hfresh =>
    refine ⟨done, .push hfresh h.partition trivial h.settled (h.explored.push ?_ (by simp))⟩
    exact (List.nodup_append.1 (List.nodup_append.1 hnodup).2.1).2.1
  | drop node rest fresh cycles =>
    obtain ⟨partition, ⟨hnode, hrest⟩, settled, explored⟩ := h
    rw [path_cons, List.append_assoc, List.singleton_append] at partition hnodup
    have hnot : node ∉ done := by
      have hmiddle := (List.nodup_cons.1 (List.nodup_append.1 hnodup).2.1).1
      exact fun hmem ↦ hmiddle (List.mem_append_left _ hmem)
    -- Nothing is pending at the id that is dropped, so all it leads to is behind the search.
    refine ⟨node :: done, partition, hrest, ⟨fun v hv ↦ ?_, hnot, settled⟩, ?_⟩
    · exact (hnode v hv).resolve_left List.not_mem_nil
    · refine explored.next (List.Subset.refl _) (fun u hu hnot ↦ absurd hu hnot) ?_
      intro f hf v hv
      rcases List.mem_cons.1 hf with rfl | hf
      · cases hv
      · exact .inr ⟨f, hf, rfl, hv⟩
  | @close node next pending fresh rest cycles hpath =>
    obtain ⟨hcycle, hedge⟩ := htrail.look.closing htrail.edge hpath
    have hopen : ∀ u v, Open g roots (record next ⟨⟨node, pending⟩ :: rest, fresh, cycles⟩) u v →
        Open g roots ⟨⟨node, next :: pending⟩ :: rest, fresh, cycles⟩ u v := fun u v ↦
      Open.mono (cycles_grow_record next ⟨⟨node, pending⟩ :: rest, fresh, cycles⟩)
    -- The edge back lies on a cycle that is known now, so it does not have to lead forward.
    have hclosed :
        ¬ Open g roots (record next ⟨⟨node, pending⟩ :: rest, fresh, cycles⟩) node next :=
      fun hno ↦ hno.2 _ hcycle hedge (render_record next _)
    have hmet : next ∉ fresh := h.not_fresh_of_path (by simpa using hpath)
    have hlooked := (h.looked.mono hopen (List.Subset.refl _)).look fun hno ↦ absurd hno hclosed
    refine ⟨done, ?_, ?_, h.settled.mono hopen, ?_⟩
    · simpa using h.partition
    · rwa [stack_record]
    · have hexplored :=
        h.explored.look hmet (record next ⟨⟨node, pending⟩ :: rest, fresh, cycles⟩).cycles
      simpa [Explored] using hexplored
  | @meet node next pending fresh rest cycles hpath hfresh =>
    have hlooked := h.looked.mono (fun _ _ hv ↦ hv) (List.subset_cons_self next done)
    refine ⟨done, .push hfresh (by simpa using h.partition)
      (hlooked.look fun _ ↦ List.mem_cons_self) h.settled ?_⟩
    refine h.explored.push ?_ ?_
    · exact (List.nodup_append.1 (List.nodup_append.1 hnodup).2.1).2.1
    · intro f hf v hv
      rcases List.mem_cons.1 hf with rfl | hf
      · exact (List.mem_cons.1 hv).imp_right fun hv ↦ ⟨_, List.mem_cons_self, rfl, hv⟩
      · exact .inr ⟨f, List.mem_cons_of_mem _ hf, rfl, hv⟩
  | @skip node next pending fresh rest cycles hpath hfresh =>
    -- An id that is neither on the path nor fresh is behind the search.
    have hnext : next ∈ done := by
      have hmem := h.partition.mem_iff.2 (mem_scope.2 (.inr (Graph.mem_ids_of_edge htrail.edge)))
      simp only [path_cons] at hmem hpath
      grind
    exact ⟨done, by simpa using h.partition, h.looked.look fun _ ↦ hnext, h.settled,
      h.explored.look hfresh cycles⟩

theorem Reached.clear (h : Reached g roots s) : ∃ done, Clear g roots done s := by
  refine h.induct (P := fun s ↦ ∃ done, Clear g roots done s) ?_ fun hs hm ⟨done, hclear⟩ ↦
    hm.clear hs.trail hclear
  exact ⟨[], .refl _, trivial, trivial, fun u hu hnot ↦ absurd hu hnot⟩

/-- Of what a search that has come to its end has scanned, the edges on no cycle that is written
like one that was found form no closed walk. -/
theorem open_acyclic (hreached : Reached g roots s) (hstack : s.stack = [])
    (hroots : ∀ root ∈ roots, root ∉ s.fresh) {u v : String} (hu : u ∈ roots)
    (hway : Relation.ReflTransGen g.Edge u v) : ¬ Relation.TransGen (Open g roots s) v v := by
  obtain ⟨done, h⟩ := hreached.clear
  have hmet : v ∈ scope g roots ∧ v ∉ s.fresh := by
    induction hway with
    | refl => exact ⟨mem_scope.2 (.inl hu), hroots u hu⟩
    | tail _ he ih =>
      refine ⟨mem_scope.2 (.inr (Graph.mem_ids_of_edge he)), ?_⟩
      rcases h.explored _ ih.1 ih.2 _ he with hv | ⟨f, hf, -⟩
      · exact hv
      · rw [hstack] at hf
        cases hf
  have hdone : v ∈ done := by
    have hmem := h.partition.mem_iff.2 hmet.1
    rw [path, hstack] at hmem
    simpa [hmet.2] using hmem
  exact h.settled.acyclic hdone

end Search

namespace Graph

variable {g : Graph} {roots : List String} {extent : Extent}

theorem acyclic_of_cycles_eq_nil (h : g.cycles roots extent = []) {u v : String} (hu : u ∈ roots)
    (hp : Relation.ReflTransGen g.Edge u v) : ¬ Relation.TransGen g.Edge v v := by
  obtain ⟨hstack, hroots⟩ := Search.exhausted_final (Search.not_satisfied h)
  have hopen : ∀ a b, g.Edge a b → Search.Open g roots (Search.final g roots extent) a b := by
    intro a b hab
    refine ⟨hab, fun _ _ _ ↦ ?_⟩
    rw [Search.cycles_final, h]
    exact List.not_mem_nil
  intro hcycle
  exact Search.open_acyclic (Search.reached_final g roots extent) hstack hroots hu hp
    (Relation.TransGen.mono hopen _ _ hcycle)

theorem exists_shared_edge {cycle : List String} (h : g.CanonicalCycle roots cycle) :
    ∃ found, g.CanonicalCycle roots found ∧
      renderCycle found ∈ (g.cycles roots .all).map renderCycle ∧
      ∃ u v, [u, v] <:+: found ∧ [u, v] <:+: cycle := by
  have hend : ¬ (Search.final g roots .all).satisfied .all := Search.not_satisfied_all _
  obtain ⟨hstack, hroots⟩ := Search.exhausted_final hend
  obtain ⟨id, rest, rfl, hcircuit, -⟩ := id h
  by_contra hnone
  have hchain :
      List.IsChain (Search.Open g roots (Search.final g roots .all)) (id :: (rest ++ [id])) := by
    rw [List.isChain_iff_forall_rel_of_append_cons_cons]
    intro u v before after hsplit
    have huv : [u, v] <:+: id :: (rest ++ [id]) := ⟨before, after, by simp [hsplit]⟩
    exact ⟨h.edge huv,
      fun found hfound hshared hmem ↦ hnone ⟨found, hfound, hmem, u, v, hshared, huv⟩⟩
  have hcyclic : Cyclic (Search.Open g roots (Search.final g roots .all)) (id :: rest) := hchain
  obtain ⟨u, hu, v, hv, hway⟩ := hcircuit.reached
  exact Search.open_acyclic (Search.reached_final g roots .all) hstack hroots hu hway
    (hcyclic.transGen_of_mem hv)

end Graph

end GamePack
