import GamePack.Proofs.Graph.Bounded
import GamePack.Proofs.Graph.Found
import Mathlib.Data.Finset.Basic

namespace GamePack

/-- A search for cycles that keeps books: the path as a list, the ids on the stack and those it is
done with as sets, and the texts of the cycles it knows. It changes each of them on its own. -/
structure Ledger where
  waiting : List String
  stack : List Frame
  path : List String
  onStack : Finset String
  done : Finset String
  /-- The texts of the cycles that are known. -/
  seen : Finset String
  cycles : List (List String)

namespace Ledger

inductive Entry
  | pass (root : String)
  | enter (root : String)
  | close (source target : String)
  | skip (source target : String)
  | meet (source target : String)
  | leave (id : String)
deriving DecidableEq

namespace Entry

def pushed? : Entry → Option String
  | enter root => some root
  | meet _ target => some target
  | _ => none

def examined? : Entry → Option (String × String)
  | close source target | skip source target | meet source target => some (source, target)
  | _ => none

end Entry

def start (roots : List String) : Ledger := ⟨roots, [], [], ∅, ∅, ∅, []⟩

variable (g : Graph) (extent : Extent) (b : Ledger)

def push (id : String) : Ledger :=
  { b with
    stack := ⟨id, g.successors id⟩ :: b.stack
    path := b.path ++ [id]
    onStack := insert id b.onStack }

/-- Records the cycle that an edge back to an id closes. An id that is not on the
path closes none. -/
def record (id : String) : Ledger :=
  match b.path.findIdx? (· = id) with
  | none => b
  | some first =>
    let cycle := Cycle.canonical (b.path.drop first ++ [id])
    if renderCycle cycle ∈ b.seen then b
    else { b with seen := insert (renderCycle cycle) b.seen, cycles := b.cycles ++ [cycle] }

theorem exists_record_eq (id : String) : ∃ seen cycles, b.record id = { b with seen, cycles } := by
  rw [record]
  split
  · exact ⟨b.seen, b.cycles, rfl⟩
  · dsimp only
    split
    · exact ⟨b.seen, b.cycles, rfl⟩
    · exact ⟨_, _, rfl⟩

@[simp]
theorem waiting_record (id : String) : (b.record id).waiting = b.waiting := by
  obtain ⟨seen, cycles, h⟩ := b.exists_record_eq id
  rw [h]

@[simp]
theorem stack_record (id : String) : (b.record id).stack = b.stack := by
  obtain ⟨seen, cycles, h⟩ := b.exists_record_eq id
  rw [h]

@[simp]
theorem onStack_record (id : String) : (b.record id).onStack = b.onStack := by
  obtain ⟨seen, cycles, h⟩ := b.exists_record_eq id
  rw [h]

@[simp]
theorem done_record (id : String) : (b.record id).done = b.done := by
  obtain ⟨seen, cycles, h⟩ := b.exists_record_eq id
  rw [h]

def leave (id : String) (rest : List Frame) : Ledger :=
  { b with
    stack := rest
    path := b.path.dropLast
    onStack := b.onStack.erase id
    done := insert id b.done }

def look (source target : String) : Entry × Ledger :=
  if target ∈ b.onStack then (.close source target, b.record target)
  else if target ∈ b.done then (.skip source target, b)
  else (.meet source target, b.push g target)

def visit (root : String) : Entry × Ledger :=
  if root ∈ b.done then (.pass root, b) else (.enter root, b.push g root)

/-- One round, unless the search is over: the next successor of the end of the path is looked at,
the end is left when there is none, and when the path is empty the next root is visited. -/
def act : Option (Entry × Ledger) :=
  if extent = .first ∧ b.cycles ≠ [] then none
  else
    match b.stack, b.waiting with
    | ⟨node, next :: pending⟩ :: rest, _ =>
      some (look g { b with stack := ⟨node, pending⟩ :: rest } node next)
    | ⟨node, []⟩ :: rest, _ => some (.leave node, b.leave node rest)
    | [], root :: rest => some (visit g { b with waiting := rest } root)
    | [], [] => none

/-- The states that a search passes through, each with what happened before. -/
inductive History (g : Graph) (roots : List String) (extent : Extent) : List Entry → Ledger → Prop
  | start : History g roots extent [] (start roots)
  | next {entries : List Entry} {b b' : Ledger} {e : Entry} :
      History g roots extent entries b → b.act g extent = some (e, b') →
        History g roots extent (entries ++ [e]) b'

/-- The books say what a search without them holds in its stack and in the ids that were not met. -/
structure Agrees (g : Graph) (roots : List String) (b : Ledger) (s : Search) : Prop where
  stack : b.stack = s.stack
  cycles : b.cycles = s.cycles
  path : b.path = s.path
  onStack : b.onStack = b.path.toFinset
  seen : ∀ text, text ∈ b.seen ↔ text ∈ s.cycles.map renderCycle
  fresh : ∀ id, id ∈ s.fresh ↔ id ∈ Search.scope g roots ∧ id ∉ b.onStack ∧ id ∉ b.done
  apart : Disjoint b.onStack b.done

variable {g extent b} {roots waiting pending : List String} {rest : List Frame} {s : Search}
  {node next root id : String}

theorem drop_of_findIdx? {xs : List String} {first : Nat} (h : xs.findIdx? (· = id) = some first) :
    xs.drop first = xs.dropWhile (· ≠ id) := by
  obtain ⟨-, rfl⟩ := List.findIdx?_eq_some_iff_findIdx_eq.1 h
  rw [List.dropWhile_eq_drop_findIdx_not]
  simp

namespace Agrees

theorem mem_path (h : Agrees g roots b s) : id ∈ s.path ↔ id ∈ b.onStack := by
  rw [h.onStack, List.mem_toFinset, h.path]

theorem findIdx?_isSome (h : Agrees g roots b s) (hid : id ∈ b.onStack) :
    (b.path.findIdx? (· = id)).isSome := by
  rw [h.onStack, List.mem_toFinset] at hid
  simpa using hid

theorem wait (h : Agrees g roots b s) (waiting : List String) :
    Agrees g roots { b with waiting } s :=
  ⟨h.stack, h.cycles, h.path, h.onStack, h.seen, h.fresh, h.apart⟩

theorem push (h : Agrees g roots b s) (hnodup : s.fresh.Nodup) (hid : id ∈ s.fresh) :
    Agrees g roots (b.push g id) (s.push g id) where
  stack := by simp [Ledger.push, Search.push, h.stack]
  cycles := h.cycles
  path := by simp [Ledger.push, h.path]
  onStack := by
    ext x
    simp only [Ledger.push, h.onStack, Finset.mem_insert, List.mem_toFinset, List.mem_append,
      List.mem_singleton]
    exact or_comm
  seen := h.seen
  fresh := by
    intro x
    simp only [Search.push, Ledger.push, hnodup.mem_erase_iff, h.fresh, Finset.mem_insert]
    tauto
  apart := by
    simp only [Ledger.push, Finset.disjoint_insert_left]
    exact ⟨((h.fresh id).1 hid).2.2, h.apart⟩

theorem record (h : Agrees g roots b s) (hid : id ∈ b.onStack) :
    Agrees g roots (b.record id) (s.record id) := by
  obtain ⟨first, hfirst⟩ := Option.isSome_iff_exists.1 (h.findIdx?_isSome hid)
  have hway : b.path.drop first = s.path.dropWhile (· ≠ id) := by
    rw [drop_of_findIdx? hfirst, h.path]
  rw [Ledger.record, hfirst, Search.record]
  simp only [hway, h.seen]
  split
  · exact h
  · refine ⟨h.stack, by simp [h.cycles], h.path, h.onStack, ?_, h.fresh, h.apart⟩
    intro text
    simp [h.seen, or_comm]

theorem advance (h : Agrees g roots b s) (hstack : b.stack = ⟨node, next :: pending⟩ :: rest) :
    Agrees g roots { b with stack := ⟨node, pending⟩ :: rest }
      { s with stack := ⟨node, pending⟩ :: rest } := by
  refine ⟨rfl, h.cycles, ?_, h.onStack, h.seen, h.fresh, h.apart⟩
  have hpath : s.path = Search.path { s with stack := ⟨node, pending⟩ :: rest } := by
    simp [Search.path, ← h.stack, hstack]
  rw [← hpath]
  exact h.path

theorem leave (h : Agrees g roots b s) (hnodup : s.path.Nodup)
    (hstack : b.stack = ⟨node, []⟩ :: rest) :
    Agrees g roots (b.leave node rest) { s with stack := rest } := by
  have hpath : s.path = Search.path { s with stack := rest } ++ [node] := by
    simp [Search.path, ← h.stack, hstack]
  have hnode : node ∈ b.onStack := by
    rw [← h.mem_path, hpath]
    simp
  have hnot : node ∉ Search.path { s with stack := rest } := by
    rw [hpath, List.nodup_append] at hnodup
    intro hmem
    exact hnodup.2.2 node hmem node (List.mem_singleton_self node) rfl
  refine ⟨rfl, h.cycles, ?_, ?_, h.seen, ?_, ?_⟩
  · simp [Ledger.leave, h.path, hpath]
  · ext x
    simp only [Ledger.leave, h.onStack, h.path, hpath, List.dropLast_concat, Finset.mem_erase,
      List.mem_toFinset, List.mem_append, List.mem_singleton]
    grind
  · intro x
    simp only [Ledger.leave, h.fresh, Finset.mem_erase, Finset.mem_insert]
    grind
  · simp only [Ledger.leave, Finset.disjoint_insert_right, Finset.mem_erase, ne_eq,
      not_true_eq_false, false_and, not_false_eq_true, true_and]
    exact h.apart.mono_left (Finset.erase_subset _ _)

end Agrees

inductive Round (g : Graph) (b : Ledger) : Entry → Ledger → Prop
  | pass {root : String} {waiting : List String} :
      b.stack = [] → b.waiting = root :: waiting → root ∈ b.done →
        Round g b (.pass root) { b with waiting }
  | enter {root : String} {waiting : List String} :
      b.stack = [] → b.waiting = root :: waiting → root ∉ b.done →
      Round g b (.enter root) (push g { b with waiting } root)
  | leave {node : String} {rest : List Frame} :
      b.stack = ⟨node, []⟩ :: rest → Round g b (.leave node) (b.leave node rest)
  | close {node next : String} {pending : List String} {rest : List Frame} :
      b.stack = ⟨node, next :: pending⟩ :: rest → next ∈ b.onStack →
      Round g b (.close node next) (record { b with stack := ⟨node, pending⟩ :: rest } next)
  | skip {node next : String} {pending : List String} {rest : List Frame} :
      b.stack = ⟨node, next :: pending⟩ :: rest → next ∉ b.onStack → next ∈ b.done →
      Round g b (.skip node next) { b with stack := ⟨node, pending⟩ :: rest }
  | meet {node next : String} {pending : List String} {rest : List Frame} :
      b.stack = ⟨node, next :: pending⟩ :: rest → next ∉ b.onStack → next ∉ b.done →
      Round g b (.meet node next) (push g { b with stack := ⟨node, pending⟩ :: rest } next)

theorem round_of_act {e : Entry} {b' : Ledger} (h : b.act g extent = some (e, b')) :
    ¬ (extent = .first ∧ b.cycles ≠ []) ∧ Round g b e b' := by
  unfold act at h
  split at h
  · cases h
  · rename_i hgo
    refine ⟨hgo, ?_⟩
    split at h
    · rename_i node next pending rest _ hstack
      rw [look, Option.some_inj] at h
      split at h
      · rename_i hpath
        cases h
        exact .close hstack hpath
      · rename_i hpath
        split at h
        · rename_i hdone
          cases h
          exact .skip hstack hpath hdone
        · rename_i hdone
          cases h
          exact .meet hstack hpath hdone
    · rename_i node rest _ hstack
      cases h
      exact .leave hstack
    · rename_i root waiting hstack hwaiting
      rw [visit, Option.some_inj] at h
      split at h
      · rename_i hdone
        cases h
        exact .pass hstack hwaiting hdone
      · rename_i hdone
        cases h
        exact .enter hstack hwaiting hdone
    · cases h

theorem act_eq_none (h : b.act g extent = none) :
    (extent = .first ∧ b.cycles ≠ []) ∨ (b.stack = [] ∧ b.waiting = []) := by
  unfold act at h
  split at h
  · rename_i hover
    exact .inl hover
  · split at h
    · cases h
    · cases h
    · cases h
    · rename_i hstack hwaiting
      exact .inr ⟨hstack, hwaiting⟩

/-- A search without books that passes through the same states: after some rounds, it can still come
to the same cycles, and the work that is left and the work that was done add up. -/
structure Follows (g : Graph) (roots : List String) (extent : Extent) (rounds : Nat) (b : Ledger)
    (s : Search) : Prop where
  agrees : Agrees g roots b s
  reached : Search.Reached g roots s
  waiting : b.waiting ⊆ roots
  finish : b.waiting.foldl (Search.scan g extent) (Search.drain g extent s) =
    Search.final g roots extent
  work : rounds + b.waiting.length + s.work g = roots.length + g.size roots

namespace Follows

variable {rounds : Nat} {b' : Ledger} {e : Entry}

theorem start (g : Graph) (roots : List String) (extent : Extent) :
    Follows g roots extent 0 (.start roots) (.start (Search.scope g roots)) where
  agrees := by
    refine ⟨rfl, rfl, rfl, rfl, ?_, ?_, ?_⟩
    · simp [Ledger.start, Search.start]
    · simp [Ledger.start, Search.start]
    · simp [Ledger.start]
  reached := .refl
  waiting := List.Subset.refl roots
  finish := by
    rw [Search.drain_over (.inl rfl)]
    rfl
  work := by
    simp only [Search.work, Search.load, Search.start, Ledger.start, List.foldr_nil, Graph.size]
    omega

theorem satisfied_iff (h : Follows g roots extent rounds b s) :
    s.satisfied extent ↔ extent = .first ∧ b.cycles ≠ [] := by
  simp [Search.satisfied, h.agrees.cycles]

theorem step (h : Follows g roots extent rounds b s) (hgo : ¬ s.satisfied extent)
    (hstack : b.stack ≠ []) (hwaiting : b'.waiting = b.waiting)
    (hagrees : Agrees g roots b' (s.step g)) :
    Follows g roots extent (rounds + 1) b' (s.step g) := by
  rw [h.agrees.stack] at hstack
  refine ⟨hagrees, h.reached.tail (Search.move_step hstack), hwaiting ▸ h.waiting, ?_, ?_⟩
  · rw [hwaiting, ← Search.drain_step (not_or.2 ⟨hstack, hgo⟩)]
    exact h.finish
  · have hwork := Search.work_step (g := g) hstack
    have htotal := h.work
    rw [hwaiting]
    omega

theorem mem_fresh (h : Follows g roots extent rounds b s) (hid : id ∈ Search.scope g roots)
    (hpath : id ∉ b.onStack) (hdone : id ∉ b.done) :
    id ∈ s.fresh := (h.agrees.fresh id).2 ⟨hid, hpath, hdone⟩

theorem edge (h : Follows g roots extent rounds b s)
    (hstack : b.stack = ⟨node, next :: pending⟩ :: rest) : g.Edge node next := by
  have hframe : (⟨node, next :: pending⟩ : Frame) ∈ s.stack := by
    rw [← h.agrees.stack, hstack]
    exact List.mem_cons_self
  exact h.reached.trail.pending _ hframe next List.mem_cons_self

theorem wait (h : Follows g roots extent rounds b s) (hempty : b.stack = [])
    (hwaiting : b.waiting = root :: waiting) :
    waiting ⊆ roots ∧ waiting.foldl (Search.scan g extent) (Search.scan g extent s root) =
      Search.final g roots extent ∧ rounds + 1 + waiting.length + s.work g =
        roots.length + g.size roots := by
  have hstack : s.stack = [] := h.agrees.stack ▸ hempty
  have hfinish := h.finish
  have htotal := h.work
  rw [hwaiting, List.foldl_cons, Search.drain_over (.inl hstack)] at hfinish
  rw [hwaiting, List.length_cons] at htotal
  refine ⟨?_, hfinish, by omega⟩
  exact List.Subset.trans (hwaiting ▸ List.subset_cons_self root waiting) h.waiting

theorem pass (h : Follows g roots extent rounds b s) (hempty : b.stack = [])
    (hwaiting : b.waiting = root :: waiting) (hdone : root ∈ b.done) :
    Follows g roots extent (rounds + 1) { b with waiting } s := by
  obtain ⟨hroots, hfinish, hwork⟩ := h.wait hempty hwaiting
  have hstack : s.stack = [] := h.agrees.stack ▸ hempty
  have hmet : root ∉ s.fresh := fun hmem ↦ ((h.agrees.fresh root).1 hmem).2.2 hdone
  refine ⟨h.agrees.wait waiting, h.reached, hroots, ?_, hwork⟩
  rw [Search.drain_over (.inl hstack)]
  rwa [Search.scan_eq_self (.inr hmet)] at hfinish

theorem enter (h : Follows g roots extent rounds b s) (hgo : ¬ s.satisfied extent)
    (hempty : b.stack = []) (hwaiting : b.waiting = root :: waiting) (hdone : root ∉ b.done) :
    Follows g roots extent (rounds + 1) (Ledger.push g { b with waiting } root)
      (s.push g root) := by
  obtain ⟨hroots, hfinish, hwork⟩ := h.wait hempty hwaiting
  have hroot : root ∈ roots := h.waiting (hwaiting ▸ List.mem_cons_self)
  have hstack : s.stack = [] := h.agrees.stack ▸ hempty
  have hnot : root ∉ b.onStack := by
    rw [← h.agrees.mem_path]
    simp [Search.path, hstack]
  have hfresh : root ∈ s.fresh := h.mem_fresh (Search.mem_scope.2 (.inl hroot)) hnot hdone
  refine ⟨(h.agrees.wait waiting).push h.reached.nodup_fresh hfresh, ?_, hroots, ?_, ?_⟩
  · obtain ⟨_, fresh, cycles⟩ := s
    obtain rfl := hstack
    exact h.reached.tail (.enter hroot hfresh)
  · rwa [Search.scan_eq_drain hgo hfresh] at hfinish
  · rw [Search.work_push hfresh]
    exact hwork

theorem leave (h : Follows g roots extent rounds b s) (hgo : ¬ s.satisfied extent)
    (hframe : b.stack = ⟨node, []⟩ :: rest) :
    Follows g roots extent (rounds + 1) (b.leave node rest) (s.step g) := by
  have hstep : s.step g = { s with stack := rest } := by rw [Search.step, ← h.agrees.stack, hframe]
  refine h.step hgo (by simp [hframe]) rfl ?_
  rw [hstep]
  exact h.agrees.leave h.reached.trail.distinct hframe

theorem step_eq (h : Follows g roots extent rounds b s)
    (hframe : b.stack = ⟨node, next :: pending⟩ :: rest) :
    s.step g =
      if next ∈ b.onStack then Search.record next { s with stack := ⟨node, pending⟩ :: rest }
      else if next ∈ s.fresh then Search.push g next { s with stack := ⟨node, pending⟩ :: rest }
      else { s with stack := ⟨node, pending⟩ :: rest } := by
  have hpath : next ∈ Search.path { s with stack := ⟨node, pending⟩ :: rest } ↔ next ∈ b.onStack :=
    (h.agrees.advance hframe).mem_path
  rw [Search.step, ← h.agrees.stack, hframe]
  simp only [hpath]

theorem close (h : Follows g roots extent rounds b s) (hgo : ¬ s.satisfied extent)
    (hframe : b.stack = ⟨node, next :: pending⟩ :: rest) (hmem : next ∈ b.onStack) :
    Follows g roots extent (rounds + 1)
      (Ledger.record { b with stack := ⟨node, pending⟩ :: rest } next)
      (s.step g) := by
  refine h.step hgo (by simp [hframe]) (waiting_record _ next) ?_
  rw [h.step_eq hframe, if_pos hmem]
  exact (h.agrees.advance hframe).record hmem

theorem skip (h : Follows g roots extent rounds b s) (hgo : ¬ s.satisfied extent)
    (hframe : b.stack = ⟨node, next :: pending⟩ :: rest) (hmem : next ∉ b.onStack)
    (hdone : next ∈ b.done) :
    Follows g roots extent (rounds + 1) { b with stack := ⟨node, pending⟩ :: rest } (s.step g) := by
  have hmet : next ∉ s.fresh := fun hfresh ↦ ((h.agrees.fresh next).1 hfresh).2.2 hdone
  refine h.step hgo (by simp [hframe]) rfl ?_
  rw [h.step_eq hframe, if_neg hmem, if_neg hmet]
  exact h.agrees.advance hframe

theorem meet (h : Follows g roots extent rounds b s) (hgo : ¬ s.satisfied extent)
    (hframe : b.stack = ⟨node, next :: pending⟩ :: rest) (hmem : next ∉ b.onStack)
    (hdone : next ∉ b.done) :
    Follows g roots extent (rounds + 1)
      (Ledger.push g { b with stack := ⟨node, pending⟩ :: rest } next)
      (s.step g) := by
  have hscope : next ∈ Search.scope g roots :=
    Search.mem_scope.2 (.inr (Graph.mem_ids_of_edge (h.edge hframe)))
  have hfresh : next ∈ s.fresh := h.mem_fresh hscope hmem hdone
  refine h.step hgo (by simp [hframe]) rfl ?_
  rw [h.step_eq hframe, if_neg hmem, if_pos hfresh]
  exact (h.agrees.advance hframe).push h.reached.nodup_fresh hfresh

theorem round (h : Follows g roots extent rounds b s) (hgo : ¬ s.satisfied extent)
    (hr : Round g b e b') : ∃ s', Follows g roots extent (rounds + 1) b' s' := by
  cases hr with
  | pass hempty hwaiting hdone => exact ⟨_, h.pass hempty hwaiting hdone⟩
  | enter hempty hwaiting hdone => exact ⟨_, h.enter hgo hempty hwaiting hdone⟩
  | leave hframe => exact ⟨_, h.leave hgo hframe⟩
  | close hframe hmem => exact ⟨_, h.close hgo hframe hmem⟩
  | skip hframe hmem hdone => exact ⟨_, h.skip hgo hframe hmem hdone⟩
  | meet hframe hmem hdone => exact ⟨_, h.meet hgo hframe hmem hdone⟩

end Follows

namespace History

variable {entries : List Entry} {e : Entry}

theorem follows (h : History g roots extent entries b) :
    ∃ s, Follows g roots extent entries.length b s := by
  induction h with
  | start => exact ⟨_, .start g roots extent⟩
  | next _ hact ih =>
    obtain ⟨s, hs⟩ := ih
    obtain ⟨hgo, hround⟩ := round_of_act hact
    rw [List.length_append, List.length_singleton]
    exact hs.round (mt hs.satisfied_iff.1 hgo) hround

theorem length_le (h : History g roots extent entries b) :
    entries.length ≤ roots.length + g.size roots := by
  obtain ⟨s, hs⟩ := h.follows
  have htotal := hs.work
  omega

theorem cycles_of_end (h : History g roots extent entries b) (hend : b.act g extent = none) :
    b.cycles = g.cycles roots extent := by
  obtain ⟨s, hs⟩ := h.follows
  rw [hs.agrees.cycles, ← Search.cycles_final, ← hs.finish]
  rcases act_eq_none hend with hover | ⟨hstack, hwaiting⟩
  · have hsatisfied : s.satisfied extent := hs.satisfied_iff.2 hover
    rw [Search.drain_over (.inr hsatisfied), Search.scans_of_satisfied hsatisfied]
  · have hempty : s.stack = [] := hs.agrees.stack ▸ hstack
    rw [hwaiting, Search.drain_over (.inl hempty)]
    rfl

/-- A history can be told to its end, since no round adds to the work. -/
theorem exists_end (h : History g roots extent entries b) :
    ∃ entries' b', History g roots extent entries' b' ∧ b'.act g extent = none := by
  induction hleft : roots.length + g.size roots - entries.length
    using Nat.strongRecOn generalizing entries b with
  | ind left ih =>
    cases hact : b.act g extent with
    | none => exact ⟨entries, b, h, hact⟩
    | some round =>
      obtain ⟨e, b'⟩ := round
      have hnext := h.next hact
      have hlength := hnext.length_le
      refine ih _ ?_ hnext rfl
      rw [List.length_append, List.length_singleton] at hlength ⊢
      omega

theorem exists_round (h : History g roots extent entries b) (he : e ∈ entries) : ∃ before b₁ b₂,
    before ++ [e] <+: entries ∧ History g roots extent before b₁ ∧
    b₁.act g extent = some (e, b₂) := by
  induction h with
  | start => cases he
  | @next entries b b' last hprevious hact ih =>
    rcases List.mem_append.1 he with he | he
    · obtain ⟨before, b₁, b₂, hbefore, hround⟩ := ih he
      exact ⟨before, b₁, b₂, hbefore.trans (List.prefix_append ..), hround⟩
    · obtain rfl := List.mem_singleton.1 he
      exact ⟨entries, b, b', List.prefix_rfl, hprevious, hact⟩

end History

end Ledger

end GamePack
