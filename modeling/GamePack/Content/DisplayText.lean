import GamePack.Decode.Fields

namespace GamePack

structure DisplayText where
  default : String
  variants : Dict String
deriving Inhabited

namespace DisplayText

variable {n : Nat}

def plain (text : String) : DisplayText := ⟨text, .empty⟩

def fields : Fields n DisplayText :=
  mk <$> .required "default" Decode.string <*>
    .defaulted "variants" .empty (Decode.dict Decode.string)

def full : Decoder n DisplayText := fun mode v ↦
  match v.1 with
  | .arr _ => Decode.wrong v "a map"
  | _ => fields.closed "" mode v

def decoder : Decoder n DisplayText :=
  Decode.orElse (fun mode v ↦ (Decode.string mode v).map plain) full "LocalizedTextRepr"

def encode (t : DisplayText) : Json :=
  .obj (("default", .str t.default) ::
    if t.variants.entries.isEmpty then [] else [("variants", t.variants.encode .str)])

end DisplayText

end GamePack
