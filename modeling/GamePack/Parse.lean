import GamePack.Structure

namespace GamePack

namespace Pack

def readAt {α : Type} (d : ∀ n, Decoder n α) (path : Path) (v : Json) : Except Issue α :=
  (Decode.run d v).mapError fun e ↦ ⟨path ++ e.path, .unreadable e.cause⟩

def error? {α : Type} : Except Issue α → Option Finding
  | .ok _ => none
  | .error i => some (.issue i)

def unknownKeys (fields : List (String × Json)) : List Finding :=
  (fields.filter fun f ↦ f.1 ≠ "metadata" && (Kind.ofKey? f.1).isNone).map fun f ↦
    .fault [.key f.1] (.unknownProperty f.1)

def readMetadata (fields : List (String × Json)) : Except Issue Metadata :=
  match fields.lookup "metadata" with
  | none => .error ⟨[], .missingMetadata⟩
  | some v => readAt (fun _ ↦ Metadata.decoder) [.key "metadata"] v

/-- What became of each entry of a collection. An absent collection has no entries, and what is no
array counts as one entry that cannot be read. -/
def readCollection (fields : List (String × Json)) (kind : Kind) :
    List (Except Issue kind.Entry) :=
  match fields.lookup kind.key with
  | none => []
  | some (.arr items) =>
    items.zipIdx.map fun (v, i) ↦ readAt (fun _ ↦ kind.entryDecoder) [.key kind.key, .index i] v
  | some _ => [.error ⟨[.key kind.key], .notAnArray kind⟩]

/-- The pack that a document holds and the findings about it. There is a pack when everything could
be read; it may still break rules of structure. -/
def parse (doc : Json) : Option Pack × List Finding :=
  match doc with
  | .obj fields =>
    let metadata := readMetadata fields
    let unread := unknownKeys fields ++ (error? metadata).toList ++
      Kind.all.flatMap fun kind ↦ (readCollection fields kind).filterMap error?
    match metadata, unread with
    | .ok metadata, [] =>
      let p :=
        ofCollections metadata fun kind ↦ (readCollection fields kind).filterMap Except.toOption
      (some p, Structure.check p)
    | _, _ => (none, unread)
  | _ => (none, [.fault [] .notAnObject])

end Pack

end GamePack
