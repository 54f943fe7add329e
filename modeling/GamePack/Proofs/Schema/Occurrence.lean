import GamePack.Id
import GamePack.Proofs.Schema.Form

namespace GamePack

inductive Reference
  | entry (kind : Kind) (id : String)
  | outside (category : Category) (id : String)
  | event (id : String)
  | statOf (entity stat : String)
  /-- A stat of an entity that has these stats. -/
  | ownStat (entity : String) (stats : List String) (stat : String)
  | companion (layer : String)
  | declaration (event : String)
deriving DecidableEq, Repr

structure Occurrence where
  place : Path
  reference : Reference
deriving DecidableEq, Repr

structure Spot where
  place : Path
  /-- Whether the place is that of a formula, which is one place with everything in it. -/
  sealed : Bool
  /-- The fields of the objects around it, the innermost first. -/
  around : List (List (String × Json))

namespace Spot

def text? (spot : Spot) (key : String) : Option String :=
  (spot.around.head?.bind (·.lookup key)).bind Json.str?

def outerText? (spot : Spot) (key : String) : Option String :=
  (spot.around[1]?.bind (·.lookup key)).bind Json.str?

def outerIds (spot : Spot) (key : String) : List String :=
  (((spot.around[1]?.bind (·.lookup key)).bind Json.items?).getD []).filterMap fun v ↦
    (v.field? "id").bind Json.str?

def into (spot : Spot) (inFormula : Bool) (step : Step) (object : Option (List (String × Json))) :
    Spot where
  place := if spot.sealed || inFormula then spot.place else spot.place ++ [step]
  sealed := spot.sealed || inFormula
  around := object.toList ++ spot.around

theorem prefix_into (spot : Spot) (inFormula : Bool) (step : Step)
    (object : Option (List (String × Json))) :
    spot.place <+: (spot.into inFormula step object).place := by
  rw [into]
  split
  · exact List.prefix_refl _
  · exact List.prefix_append _ _

end Spot

def targetKind? : String → Option Kind
  | "generator" | "purchaseGenerator" => some .generator
  | "upgrade" => some .upgrade
  | "collectResource" => some .resource
  | _ => none

def Role.references (spot : Spot) (s : String) : Role → List Reference
  | nothing => []
  | entry kind => [.entry kind s]
  | outside category => [.outside category s]
  | event => [.event s]
  | layer => [.companion s]
  | declaration => [.declaration s]
  | target => (((spot.text? "targetType").bind targetKind?).map fun kind ↦ .entry kind s).toList
  | systemTarget =>
    if spot.text? "targetType" = some "system" then [.outside .systemTargets s] else []

def KeyRole.references (spot : Spot) (key : String) : KeyRole → List Reference
  | nothing => []
  | requiredStat => [.statOf ((spot.text? "entityId").getD "") key]
  | ownStat => [.ownStat ((spot.outerText? "id").getD "") (spot.outerIds "stats") key]

namespace Form

def core : Form → Form
  | shorthand _ full => full.core
  | onMission form => form.core
  | form => form

def role : Form → Role
  | text role | shorthand role _ => role
  | onMission form => form.role
  | _ => .nothing

def keyRole : Form → KeyRole
  | dict keys _ => keys
  | _ => .nothing

def counts (spot : Spot) : Form → Bool
  | onMission _ => spot.text? "mode" = some "mission"
  | _ => true

mutual

/-- What occurs in a value, in the order of its text. -/
def occurrences (f : Form) (spot : Spot) : Json → List Occurrence
  | .str s => if f.counts spot then (f.role.references spot s).map (⟨spot.place, ·⟩) else []
  | .arr items => if f.counts spot then f.core.itemOccurrences spot items 0 items else []
  | .obj fields => if f.counts spot then f.core.fieldOccurrences spot fields fields else []
  | _ => []

def itemOccurrences (f : Form) (spot : Spot) (whole : List Json) (i : Nat) :
    List Json → List Occurrence
  | [] => []
  | v :: rest =>
    (match f.within (.arr whole) (.index i) with
      | some part => part.occurrences (spot.into (f = formula) (.index i) none) v
      | none => []) ++ f.itemOccurrences spot whole (i + 1) rest

def fieldOccurrences (f : Form) (spot : Spot) (whole : List (String × Json)) :
    List (String × Json) → List Occurrence
  | [] => []
  | (key, v) :: rest =>
    let inner := spot.into (f = formula) (.key key) (some whole)
    (match f.within (.obj whole) (.key key) with
      | some part =>
        (f.keyRole.references spot key).map (⟨inner.place, ·⟩) ++ part.occurrences inner v
      | none => []) ++ f.fieldOccurrences spot whole rest

end

mutual

theorem prefix_of_mem_occurrences (f : Form) (spot : Spot) (v : Json) :
    ∀ o ∈ f.occurrences spot v, spot.place <+: o.place := by
  intro o ho
  cases v with
  | str s =>
    rw [occurrences] at ho
    split at ho
    · obtain ⟨r, -, rfl⟩ := List.mem_map.1 ho
      exact List.prefix_refl _
    · cases ho
  | arr items =>
    rw [occurrences] at ho
    split at ho
    · exact prefix_of_mem_itemOccurrences _ _ _ _ items o ho
    · cases ho
  | obj fields =>
    rw [occurrences] at ho
    split at ho
    · exact prefix_of_mem_fieldOccurrences _ _ _ fields o ho
    · cases ho
  | _ => cases ho

theorem prefix_of_mem_itemOccurrences (f : Form) (spot : Spot) (whole : List Json) (i : Nat)
    (items : List Json) : ∀ o ∈ f.itemOccurrences spot whole i items, spot.place <+: o.place := by
  intro o ho
  cases items with
  | nil => cases ho
  | cons v rest =>
    rw [itemOccurrences, List.mem_append] at ho
    rcases ho with ho | ho
    · split at ho
      · exact (spot.prefix_into _ _ _).trans (prefix_of_mem_occurrences _ _ v o ho)
      · cases ho
    · exact prefix_of_mem_itemOccurrences f spot whole (i + 1) rest o ho

theorem prefix_of_mem_fieldOccurrences (f : Form) (spot : Spot)
    (whole fields : List (String × Json)) :
    ∀ o ∈ f.fieldOccurrences spot whole fields, spot.place <+: o.place := by
  intro o ho
  cases fields with
  | nil => cases ho
  | cons e rest =>
    obtain ⟨key, v⟩ := e
    have hinto := spot.prefix_into (f = formula) (.key key) (some whole)
    rw [fieldOccurrences, List.mem_append] at ho
    rcases ho with ho | ho
    · split at ho
      · rcases List.mem_append.1 ho with ho | ho
        · obtain ⟨r, -, rfl⟩ := List.mem_map.1 ho
          exact hinto
        · exact hinto.trans (prefix_of_mem_occurrences _ _ v o ho)
      · cases ho
    · exact prefix_of_mem_fieldOccurrences f spot whole rest o ho

end

end Form

def Json.occurrences (doc : Json) : List Occurrence :=
  (Form.record .pack).occurrences ⟨[], false, []⟩ doc

end GamePack
