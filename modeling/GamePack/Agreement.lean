import GamePack.Validation

namespace GamePack

def Outcome.digest? : Outcome → Option Digest
  | .ok v => some v.pack.digest
  | .error _ => none

structure Agreement where
  digests : List (Option Digest)
deriving DecidableEq, Repr

namespace Agreement

def ofDocuments (c : Config) (docs : List Json) : Agreement :=
  ⟨docs.map fun doc ↦ (validate none c doc).outcome.digest?⟩

def Holds (a : Agreement) : Prop :=
  match a.digests with
  | [] => True
  | first :: rest => first.isSome ∧ ∀ d ∈ rest, d = first

instance (a : Agreement) : Decidable a.Holds := by
  unfold Holds
  split <;> infer_instance

def le (a b : Option Digest) : Bool :=
  match a, b with
  | none, _ => true
  | some _, none => false
  | some a, some b => a.value ≤ b.value

def distinct (a : Agreement) : List (Option Digest) := (a.digests.mergeSort le).eraseDups

def showDigest : Option Digest → String
  | none => "None"
  | some d => s!"Some(PackDigest({d.value.toNat}))"

def complaint? (a : Agreement) : Option String :=
  if a.Holds then none
  else
    some ("Validation is non-deterministic!\n" ++
      s!"Runs: {a.digests.length}\n" ++
      s!"Unique outcomes: {a.distinct.length} (expected 1)\n" ++
      "All digests: [" ++ Text.join ", " (a.digests.map showDigest) ++ "]")

end Agreement

end GamePack
