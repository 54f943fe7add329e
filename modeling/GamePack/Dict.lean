import GamePack.Json.Basic

namespace GamePack

/-- Lists of key and value with ascending keys. -/
structure Dict (α : Type) where
  entries : List (String × α)
  ascending : (entries.map (·.1)).Pairwise (· < ·) := by simp

namespace Dict

variable {α β : Type}

def empty : Dict α := ⟨[], by simp⟩

instance : Inhabited (Dict α) := ⟨empty⟩

def keys (d : Dict α) : List String := d.entries.map (·.1)

def get? (d : Dict α) (key : String) : Option α := d.entries.lookup key

def insertEntry (key : String) (a : α) : List (String × α) → List (String × α)
  | [] => [(key, a)]
  | (k, b) :: rest =>
    if key < k then (key, a) :: (k, b) :: rest
    else if key = k then (key, a) :: rest
    else (k, b) :: insertEntry key a rest

theorem mem_keys_insertEntry {key k : String} {a : α} {entries : List (String × α)}
    (h : k ∈ (insertEntry key a entries).map (·.1)) : k = key ∨ k ∈ entries.map (·.1) := by
  induction entries with
  | nil => simpa [insertEntry] using h
  | cons e rest ih =>
    rw [insertEntry] at h
    split at h
    · simpa using h
    · split at h
      · rename_i heq
        simp only [List.map_cons, List.mem_cons] at h ⊢
        rcases h with h | h
        · exact .inl h
        · exact .inr (.inr h)
      · simp only [List.map_cons, List.mem_cons] at h ⊢
        rcases h with h | h
        · exact .inr (.inl h)
        · rcases ih h with h | h
          · exact .inl h
          · exact .inr (.inr h)

theorem ascending_insertEntry (key : String) (a : α) {entries : List (String × α)}
    (h : (entries.map (·.1)).Pairwise (· < ·)) :
    ((insertEntry key a entries).map (·.1)).Pairwise (· < ·) := by
  induction entries with
  | nil => simp [insertEntry]
  | cons e rest ih =>
    obtain ⟨k, b⟩ := e
    simp only [List.map_cons, List.pairwise_cons] at h
    rw [insertEntry]
    split
    · rename_i hlt
      simp only [List.map_cons, List.pairwise_cons, List.mem_cons]
      refine ⟨?_, h⟩
      rintro x (rfl | hx)
      · exact hlt
      · exact String.lt_trans hlt (h.1 x hx)
    · rename_i hlt
      split
      · rename_i heq
        simp only [List.map_cons, List.pairwise_cons]
        exact ⟨fun x hx ↦ heq ▸ h.1 x hx, h.2⟩
      · rename_i hne
        simp only [List.map_cons, List.pairwise_cons]
        refine ⟨fun x hx ↦ ?_, ih h.2⟩
        rcases mem_keys_insertEntry hx with rfl | hx
        · exact (Std.lt_trichotomy k x).resolve_right (by grind)
        · exact h.1 x hx

def insert (d : Dict α) (key : String) (a : α) : Dict α :=
  ⟨insertEntry key a d.entries, ascending_insertEntry key a d.ascending⟩

/-- The last value of each key. -/
def ofList (entries : List (String × α)) : Dict α :=
  entries.foldl (fun d e ↦ d.insert e.1 e.2) empty

def encode (f : α → Json) (d : Dict α) : Json := .obj (d.entries.map fun e ↦ (e.1, f e.2))

end Dict

end GamePack
