import GamePack.Proofs.Companion
import Mathlib.Data.Nat.Digits.Defs

namespace GamePack

namespace Sample

variable {i size : Nat}

namespace Link

variable {family : String}

def id (family : String) (i : Nat) : String := qualify chainId (member family i)

theorem toList_member (family : String) (i : Nat) :
    (member family i).toList = family.toList ++ '-' :: Nat.toDigits 10 i := by
  simp [member, toString, Nat.repr_eq_ofList_toDigits]

theorem toList_id (family : String) (i : Nat) :
    (id family i).toList = chainId.toList ++ '.' :: (member family i).toList := by
  simp [id, qualify]

theorem id_injective (family : String) : Function.Injective (id family) := by
  intro i j h
  have hlists : (id family i).toList = (id family j).toList := congrArg String.toList h
  have hdigits : Nat.toDigits 10 i = Nat.toDigits 10 j := by
    simpa [toList_id, toList_member] using hlists
  calc
    i = Nat.ofDigitChars 10 (Nat.toDigits 10 i) 0 := Nat.ofDigitChars_ten_toDigits.symm
    _ = Nat.ofDigitChars 10 (Nat.toDigits 10 j) 0 := by rw [hdigits]
    _ = j := Nat.ofDigitChars_ten_toDigits

theorem length_id_le (hfamily : family.length ≤ 3) (hi : i < 10 ^ 113) :
    (id family i).length ≤ 128 := by
  have hdigits : (Nat.toDigits 10 i).length ≤ 113 := Nat.toDigits_length 10 i 113 (by decide) hi
  have hpack : chainId.toList.length = 10 := rfl
  rw [← String.length_toList, toList_id, toList_member]
  rw [← String.length_toList] at hfamily
  simp only [List.length_append, List.length_cons]
  omega

theorem isSegment_member (hfamily : Id.isSegment family.toList) (i : Nat) :
    Id.isSegment (member family i).toList := by
  rw [toList_member]
  refine Id.isSegment_append hfamily ?_
  intro c hc
  rcases List.mem_cons.1 hc with rfl | hc
  · rfl
  · have hdigit : c.isDigit := Nat.isDigit_of_mem_toDigits (by decide) (by decide) hc
    simp [Id.isInner, Id.isLead, hdigit]

theorem shaped_id (hfamily : Id.isSegment family.toList) (hlength : family.length ≤ 3)
    (hi : i < 10 ^ 113) : Id.Shaped (id family i) := by
  refine ⟨length_id_le hlength hi, [chainId.toList, (member family i).toList], by simp, ?_, ?_⟩
  · rw [toList_id]
    simp [List.intercalate]
  · intro segment hsegment
    rw [← Id.isSegment_iff]
    rcases List.mem_pair.1 hsegment with rfl | rfl
    · decide
    · exact isSegment_member hfamily i

def resource (i : Nat) : Resource :=
  { Resource.named (id "res" i) with name := .plain (member "res" i) }

def generator (i : Nat) : Generator where
  id := id "gen" i
  name := .plain (member "gen" i)
  produces := [⟨id "res" i, .constant .one⟩]
  consumes := []
  purchase := ⟨id "res" (i - 1), .one, .exponential (decimal 10 0) (decimal 115 2) .zero, none⟩
  maxLevel := none
  initialLevel := 0
  baseUnlock := none
  visibilityCondition := none
  order := none
  tags := []

def prerequisites : Nat → List Prerequisite
  | 0 => []
  | i + 1 => [.upgrade (id "upg" i)]

def upgrade (i : Nat) : Upgrade where
  id := id "upg" i
  name := .plain (member "upg" i)
  category := none
  targets := []
  cost := ⟨id "res" i, .one, .constant (decimal 10 0)⟩
  repeatable := none
  effects := [.resourceRate (id "res" i) .multiply (.constant (decimal 11 1))]
  prerequisites := prerequisites i
  unlockCondition := none
  visibilityCondition := none
  tags := []

def transform (i : Nat) : Transform where
  id := id "tx" i
  name := .plain (member "tx" i)
  description := none
  mode := .instant
  inputs := [⟨id "res" i, .constant .one⟩]
  outputs := [⟨id "res" (i + 1), .constant .one⟩]
  duration := none
  cooldown := none
  trigger := .manual
  entityRequirements := []
  unlockCondition := none
  visibilityCondition := none
  tags := []

theorem run_resource (i : Nat) :
    Decode.run (fun _ ↦ Resource.decoder) (Sample.resource chainId (member "res" i)) =
    .ok (resource i) := by
  rfl

theorem run_generator (i : Nat) : Decode.run (fun _ ↦ Generator.decoder)
    (Sample.generator chainId (member "gen" i) (member "res" i) (member "res" (i - 1))) =
      .ok (generator i) := by
  rfl

theorem run_upgrade (i : Nat) :
    Decode.run (fun _ ↦ Upgrade.decoder) (chainUpgrade i) = .ok (upgrade i) := by
  cases i <;> rfl

theorem run_transform (i : Nat) : Decode.run (fun _ ↦ Transform.decoder)
    (Sample.transform chainId (member "tx" i) [member "res" i] [member "res" (i + 1)]) =
      .ok (transform i) := by
  rfl

end Link

def chainMetadata : Metadata where
  id := chainId
  title := .plain chainId
  summary := none
  version := "1.0.0"
  engine := "*"
  authors := []
  tags := []
  defaultLocale := "en-US"
  supportedLocales := []
  dependencies := .none

/-- The pack that a chain is read as. -/
def chainPack (size : Nat) : Pack :=
  { Pack.empty chainMetadata with
    resources := (List.range (max size 1)).map Link.resource
    generators := (List.range (max size 1)).map Link.generator
    upgrades := (List.range (max size 1)).map Link.upgrade
    transforms := (List.range (size - 1)).map Link.transform }

theorem readCollection_range {kind : Kind} {fields : List (String × Json)} {n : Nat}
    {f : Nat → Json} {g : Nat → kind.Entry}
    (hlookup : fields.lookup kind.key = some (.arr ((List.range n).map f)))
    (hrun : ∀ i, Decode.run (fun _ ↦ kind.entryDecoder) (f i) = .ok (g i)) :
    Pack.readCollection fields kind = ((List.range n).map g).map .ok := by
  rw [Pack.readCollection_eq_ok]
  refine .inr ⟨_, hlookup, ?_⟩
  rw [List.forall₂_map_left_iff, List.forall₂_map_right_iff, List.forall₂_same]
  intro i _
  exact hrun i

theorem parse_chain (size : Nat) : (Pack.parse (chain size)).1 = some (chainPack size) := by
  rw [Pack.parse_eq_some_iff]
  refine ⟨_, rfl, ?_⟩
  split
  · rename_i hempty
    have hsize : size - 1 = 0 := by simpa using hempty
    refine ⟨rfl, rfl, ?_⟩
    intro kind
    cases kind with
    | resource => exact readCollection_range rfl Link.run_resource
    | generator => exact readCollection_range rfl Link.run_generator
    | upgrade => exact readCollection_range rfl Link.run_upgrade
    | transform =>
      have hnone : (chainPack size).collection .transform = [] := by
        simp [chainPack, Pack.collection, hsize]
      rw [hnone]
      rfl
    | achievement | automation | prestigeLayer | entity | metric | runtimeEvent => rfl
  · refine ⟨rfl, rfl, ?_⟩
    intro kind
    cases kind with
    | resource => exact readCollection_range rfl Link.run_resource
    | generator => exact readCollection_range rfl Link.run_generator
    | upgrade => exact readCollection_range rfl Link.run_upgrade
    | transform => exact readCollection_range rfl Link.run_transform
    | achievement | automation | prestigeLayer | entity | metric | runtimeEvent => rfl

inductive Linked (size : Nat) : (kind : Kind) → kind.Entry → Prop
  | resource {i : Nat} : i < max size 1 → Linked size .resource (Link.resource i)
  | generator {i : Nat} : i < max size 1 → Linked size .generator (Link.generator i)
  | upgrade {i : Nat} : i < max size 1 → Linked size .upgrade (Link.upgrade i)
  | transform {i : Nat} : i < size - 1 → Linked size .transform (Link.transform i)

theorem linked_of_mem {kind : Kind} {e : kind.Entry} (he : e ∈ (chainPack size).collection kind) :
    Linked size kind e := by
  cases kind with
  | resource =>
    obtain ⟨i, hi, rfl⟩ := List.mem_map.1 he
    exact .resource (List.mem_range.1 hi)
  | generator =>
    obtain ⟨i, hi, rfl⟩ := List.mem_map.1 he
    exact .generator (List.mem_range.1 hi)
  | upgrade =>
    obtain ⟨i, hi, rfl⟩ := List.mem_map.1 he
    exact .upgrade (List.mem_range.1 hi)
  | transform =>
    obtain ⟨i, hi, rfl⟩ := List.mem_map.1 he
    exact .transform (List.mem_range.1 hi)
  | achievement | automation | prestigeLayer | entity | metric | runtimeEvent => cases he

def Link.count (size : Nat) : Kind → Nat
  | .resource | .generator | .upgrade => max size 1
  | .transform => size - 1
  | _ => 0

def Link.family : Kind → String
  | .resource => "res"
  | .generator => "gen"
  | .upgrade => "upg"
  | .transform => "tx"
  | kind => kind.label

theorem ids_chainPack (size : Nat) (kind : Kind) :
    (chainPack size).ids kind =
      (List.range (Link.count size kind)).map (Link.id (Link.family kind)) := by
  cases kind with
  | resource | generator | upgrade | transform => exact List.map_map
  | achievement | automation | prestigeLayer | entity | metric | runtimeEvent => rfl

theorem mem_ids_resource (hi : i < max size 1) :
    Link.id "res" i ∈ (chainPack size).ids .resource := by
  rw [ids_chainPack]
  exact List.mem_map_of_mem (List.mem_range.2 hi)

theorem mem_ids_upgrade (hi : i < max size 1) :
    Link.id "upg" i ∈ (chainPack size).ids .upgrade := by
  rw [ids_chainPack]
  exact List.mem_map_of_mem (List.mem_range.2 hi)

end Sample

end GamePack
