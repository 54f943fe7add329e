import GamePack.Finding
import GamePack.Graph.Basic

namespace GamePack

namespace Cycle

/-- The ids of a cycle, each once: a repetition of the first at the end is dropped. -/
def opened (cycle : List String) : List String :=
  if 2 ≤ cycle.length ∧ cycle.head? = cycle.getLast? then cycle.dropLast else cycle

def least : List String → Option String
  | [] => none
  | id :: rest => some (rest.foldl (fun m x ↦ if x < m then x else m) id)

/-- The rotation that starts at the first occurrence of the smallest id, closed by that id. -/
def canonical (cycle : List String) : List String :=
  let ids := opened cycle
  match least ids with
  | none => []
  | some m => ids.dropWhile (· ≠ m) ++ ids.takeWhile (· ≠ m) ++ [m]

end Cycle

inductive Extent
  | first
  | all
deriving DecidableEq, Repr

/-- An id on the path and those of its successors that were not looked at yet. -/
structure Frame where
  node : String
  pending : List String
deriving DecidableEq, Repr

structure Search where
  /-- The path, its end first. -/
  stack : List Frame
  /-- The ids that were not met yet. -/
  fresh : List String
  cycles : List (List String)
deriving DecidableEq, Repr

namespace Search

def start (fresh : List String) : Search := ⟨[], fresh, []⟩

def path (s : Search) : List String := (s.stack.map (·.node)).reverse

def push (g : Graph) (id : String) (s : Search) : Search :=
  ⟨⟨id, g.successors id⟩ :: s.stack, s.fresh.erase id, s.cycles⟩

/-- Records the cycle that an edge back to an id of the path closes, unless it is known. -/
def record (id : String) (s : Search) : Search :=
  let cycle := Cycle.canonical (s.path.dropWhile (· ≠ id) ++ [id])
  if renderCycle cycle ∈ s.cycles.map renderCycle then s
  else { s with cycles := s.cycles ++ [cycle] }

/-- Looks at the next successor of the end of the path, or drops the end when there is none left. -/
def step (g : Graph) (s : Search) : Search :=
  match s.stack with
  | [] => s
  | ⟨_, []⟩ :: rest => { s with stack := rest }
  | ⟨node, next :: pending⟩ :: rest =>
    let s := { s with stack := ⟨node, pending⟩ :: rest }
    if next ∈ s.path then s.record next
    else if next ∈ s.fresh then s.push g next
    else s

def load (s : Search) : Nat := s.stack.foldr (fun f n ↦ f.pending.length + 1 + n) 0

@[simp]
theorem stack_record (id : String) (s : Search) : (s.record id).stack = s.stack := by
  rw [record]
  split <;> rfl

@[simp]
theorem fresh_record (id : String) (s : Search) : (s.record id).fresh = s.fresh := by
  rw [record]
  split <;> rfl

theorem step_decreases (g : Graph) {s : Search} (h : s.stack ≠ []) :
    (s.step g).fresh.length < s.fresh.length ∨
      (s.step g).fresh.length = s.fresh.length ∧ (s.step g).load < s.load := by
  obtain ⟨stack, fresh, cycles⟩ := s
  match stack with
  | [] => exact absurd rfl h
  | ⟨_, []⟩ :: rest => right; simp [step, load]
  | ⟨node, next :: pending⟩ :: rest =>
    simp only [step]
    split
    · right; simp [load]
    · split
      · rename_i hfresh
        left
        have := List.length_pos_of_mem hfresh
        simp only [push, List.length_erase_of_mem hfresh]
        omega
      · right; simp [load]

def satisfied (extent : Extent) (s : Search) : Bool := extent = .first && !s.cycles.isEmpty

def drain (g : Graph) (extent : Extent) (s : Search) : Search :=
  if s.stack = [] ∨ s.satisfied extent then s else drain g extent (s.step g)
termination_by (s.fresh.length, s.load)
decreasing_by
  rename_i h
  rcases step_decreases g (fun hs ↦ h (.inl hs)) with hlt | ⟨heq, hlt⟩
  · exact Prod.Lex.left _ _ hlt
  · rw [heq]
    exact Prod.Lex.right _ hlt

def scan (g : Graph) (extent : Extent) (s : Search) (root : String) : Search :=
  if s.satisfied extent || !s.fresh.contains root then s else drain g extent (s.push g root)

end Search

namespace Graph

/-- The cycles that a depth-first search along ascending successors closes by an edge back to the
path that it walks. The way in which they are written hides where they were entered. -/
def cycles (g : Graph) (roots : List String) (extent : Extent) : List (List String) :=
  (roots.foldl (Search.scan g extent) (.start (roots ++ g.ids).eraseDups)).cycles

end Graph

end GamePack
