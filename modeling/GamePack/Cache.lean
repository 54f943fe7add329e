import GamePack.Validation

namespace GamePack

/-- What stands for a document and settings: the digest of the pack, and hashes of both texts. -/
structure CacheKey where
  digest : Digest
  input : UInt32
  config : UInt32
deriving DecidableEq, Repr

def CacheKey.of (c : Config) (doc : Json) : CacheKey where
  digest := .ofShape (.ofDocument doc)
  input := Fnv.hash doc.compact
  config := Fnv.hash c.encode.compact

/-- Outcomes by key, the latest first. -/
structure Cache where
  outcomes : List (CacheKey × Outcome)

namespace Cache

def empty : Cache := ⟨[]⟩

def size (cache : Cache) : Nat := cache.outcomes.length

def isEmpty (cache : Cache) : Bool := cache.outcomes.isEmpty

def get? (cache : Cache) (key : CacheKey) : Option Outcome := cache.outcomes.lookup key

def insert (cache : Cache) (key : CacheKey) (outcome : Outcome) : Cache :=
  ⟨(key, outcome) :: cache.outcomes⟩

def clear (_ : Cache) : Cache := empty

/-- The run that a key stands for, and whether its outcome was remembered. Only if it was not, the
computation is made; what it comes to is remembered, a failure too. Of a remembered run the outcome
alone is left. -/
def getOrRun {m : Type → Type} [Monad m] (cache : Cache) (key : CacheKey) (compute : m Run) :
    m (Cache × Run × Bool) :=
  match cache.get? key with
  | some outcome => return (cache, ⟨[], outcome⟩, true)
  | none => do
    let run ← compute
    return (cache.insert key run.outcome, run, false)

/-- What happens when an outcome is recalled: only an accepted pack has its warnings with it. -/
def replay (key : CacheKey) (outcome : Outcome) : List Event :=
  let warnings :=
    match outcome with
    | .ok v => v.warnings
    | .error _ => []
  .recalled key.digest :: warnings.map Event.replayed

def validate (check : Option BalanceCheck) (c : Config) (doc : Json) (cache : Cache) :
    Cache × Run :=
  let key := CacheKey.of c doc
  let (cache, run, hit) := Id.run (cache.getOrRun key (pure (GamePack.validate check c doc)))
  (cache, if hit then run.after (replay key run.outcome) else run)

end Cache

end GamePack
