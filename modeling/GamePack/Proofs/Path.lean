import GamePack.Path

namespace GamePack.Json

variable {path : Path}

theorem at?_key (key : String) (fields : List (String × Json)) :
    at? (.key key :: path) (.obj fields) = (fields.lookup key).bind (at? path) := rfl

theorem at?_index (i : Nat) (items : List Json) :
    at? (.index i :: path) (.arr items) = items[i]?.bind (at? path) := rfl

theorem at?_field (key : String) (v : Json) : v.at? [.key key] = v.field? key := by
  cases h : v.field? key <;> simp [at?, h]

theorem at?_append (path path' : Path) (v : Json) :
    v.at? (path ++ path') = (v.at? path).bind (at? path') := by
  induction path generalizing v with
  | nil => rfl
  | cons s rest ih =>
    have hrest : at? (rest ++ path') = fun w ↦ (w.at? rest).bind (at? path') := funext ih
    cases s <;> simp only [List.cons_append, at?, Option.bind_assoc, hrest]

theorem at?_concat_key {doc v w : Json} {key : String} (h : doc.at? path = some v)
    (hw : v.field? key = some w) : doc.at? (path.key key) = some w := by
  rw [Path.key, at?_append, h, Option.bind_some, at?_field, hw]

theorem at?_concat_index {doc : Json} {items : List Json} {w : Json} {i : Nat}
    (h : doc.at? path = some (.arr items)) (hw : items[i]? = some w) :
    doc.at? (path.index i) = some w := by
  rw [Path.index, at?_append, h, Option.bind_some, at?_index, hw]
  rfl

end GamePack.Json
