import GamePack.Content.Kind
import GamePack.Decode.Tagged
import GamePack.Encode

namespace GamePack

inductive Variable
  | level
  | time
  | deltaTime
deriving DecidableEq, Repr

inductive BinaryOperator
  | add
  | sub
  | mul
  | div
  | pow
  | min
  | max
deriving DecidableEq, Repr

inductive UnaryOperator
  | abs
  | ceil
  | floor
  | round
  | sqrt
  | log10
  | ln
  | neg
deriving DecidableEq, Repr

inductive Target
  | quantity (name : Variable)
  | resource (id : String)
  | generator (id : String)
  | upgrade (id : String)
  | automation (id : String)
  | prestigeLayer (id : String)
deriving DecidableEq, Repr

inductive Expression
  | literal (value : Double)
  | ref (target : Target)
  | binary (op : BinaryOperator) (left right : Expression)
  | unary (op : UnaryOperator) (operand : Expression)
  | call (name : String) (args : List Expression)
deriving Inhabited, Repr

/-- A formula, which is read, written and searched for what it refers to, and never evaluated. The
pieces of a piecewise one carry the level up to which they hold. -/
inductive Formula
  | constant (value : Double)
  | linear (base slope : Double)
  | exponential (base growth offset : Double)
  | polynomial (coefficients : List Double)
  | piecewise (pieces : List (Option Double × Formula))
  | expression (expression : Expression)
deriving Repr

instance : Inhabited Formula := ⟨.constant .zero⟩

def Variable.names : List (String × Variable) :=
  [("level", .level), ("time", .time), ("deltaTime", .deltaTime)]

def BinaryOperator.names : List (String × BinaryOperator) :=
  [("add", .add), ("sub", .sub), ("mul", .mul), ("div", .div), ("pow", .pow), ("min", .min),
    ("max", .max)]

def UnaryOperator.names : List (String × UnaryOperator) :=
  [("abs", .abs), ("ceil", .ceil), ("floor", .floor), ("round", .round), ("sqrt", .sqrt),
    ("log10", .log10), ("ln", .ln), ("neg", .neg)]

variable {n : Nat}

namespace Target

def referent? : Target → Option (Kind × String)
  | quantity _ => none
  | resource id => some (.resource, id)
  | generator id => some (.generator, id)
  | upgrade id => some (.upgrade, id)
  | automation id => some (.automation, id)
  | prestigeLayer id => some (.prestigeLayer, id)

def tagged : Tagged n Target where
  name := "RefTarget"
  key := "type"
  variants :=
    let id := Fields.required "id" Decode.string
    [.withFields "variable" (quantity <$> .required "name" (Decode.choice Variable.names)),
      .withFields "resource" (resource <$> id),
      .withFields "generator" (generator <$> id),
      .withFields "upgrade" (upgrade <$> id),
      .withFields "automation" (automation <$> id),
      .withFields "prestigeLayer" (prestigeLayer <$> id)]

def decoder : Decoder n Target := tagged.decoder (Nat.le_succ n)

def encode : Target → Json
  | quantity name => encodeVariant "type" "variable" [("name", encodeName Variable.names name)]
  | resource id => encodeVariant "type" "resource" [("id", .str id)]
  | generator id => encodeVariant "type" "generator" [("id", .str id)]
  | upgrade id => encodeVariant "type" "upgrade" [("id", .str id)]
  | automation id => encodeVariant "type" "automation" [("id", .str id)]
  | prestigeLayer id => encodeVariant "type" "prestigeLayer" [("id", .str id)]

end Target

namespace Expression

def tagged (inner : Decoder n Expression) : Tagged n Expression where
  name := "ExpressionNode"
  key := "kind"
  variants :=
    [.withFields "literal" (literal <$> .required "value" Decode.double),
      .withFields "ref" (ref <$> .required "target" Target.decoder),
      .withFields "binary" (binary <$> .required "op" (Decode.choice BinaryOperator.names) <*>
        .required "left" inner <*> .required "right" inner),
      .withFields "unary" (unary <$> .required "op" (Decode.choice UnaryOperator.names) <*>
        .required "operand" inner),
      .withFields "call" (call <$> .required "name" Decode.string <*>
        .defaulted "args" [] (Decode.list inner))]

def decoder : (n : Nat) → Decoder n Expression
  | 0 => fun _ v ↦ absurd v.2 (Nat.not_lt_zero _)
  | n + 1 => (tagged (decoder n)).decoder (Nat.le_refl _)

mutual

def encode : Expression → Json
  | literal value => encodeVariant "kind" "literal" [("value", .ofDouble value)]
  | ref target => encodeVariant "kind" "ref" [("target", target.encode)]
  | binary op left right => encodeVariant "kind" "binary"
      [("op", encodeName BinaryOperator.names op), ("left", left.encode), ("right", right.encode)]
  | unary op operand => encodeVariant "kind" "unary"
      [("op", encodeName UnaryOperator.names op), ("operand", operand.encode)]
  | call name args => encodeVariant "kind" "call"
      [("name", .str name), ("args", .arr (encodeAll args))]

def encodeAll : List Expression → List Json
  | [] => []
  | e :: rest => e.encode :: encodeAll rest

end

mutual

def entries : Expression → List (Kind × String)
  | literal _ => []
  | ref target => target.referent?.toList
  | binary _ left right => left.entries ++ right.entries
  | unary _ operand => operand.entries
  | call _ args => entriesAll args

def entriesAll : List Expression → List (Kind × String)
  | [] => []
  | e :: rest => e.entries ++ entriesAll rest

end

end Expression

namespace Formula

def piece (inner : Decoder n Formula) : Decoder n (Option Double × Formula) :=
  Fields.closed "PiecewiseSegment" <|
    Prod.mk <$> .optional "untilLevel" Decode.double <*> .required "formula" inner

def tagged (inner : Decoder n Formula) : Tagged n Formula where
  name := "NumericFormula"
  key := "kind"
  variants :=
    [.withFields "constant" (constant <$> .required "value" Decode.double),
      .withFields "linear" (linear <$> .required "base" Decode.double <*>
        .required "slope" Decode.double),
      .withFields "exponential" (exponential <$> .required "base" Decode.double <*>
        .required "growth" Decode.double <*> .defaulted "offset" .zero Decode.double),
      .withFields "polynomial" (polynomial <$>
        .required "coefficients" (Decode.nonEmpty Decode.double)),
      .withFields "piecewise" (piecewise <$> .required "pieces" (Decode.nonEmpty (piece inner))),
      .withFields "expression" (expression <$> .required "expression" (Expression.decoder n))]

def decoder : (n : Nat) → Decoder n Formula
  | 0 => fun _ v ↦ absurd v.2 (Nat.not_lt_zero _)
  | n + 1 => (tagged (decoder n)).decoder (Nat.le_refl _)

mutual

def encode : Formula → Json
  | constant value => encodeVariant "kind" "constant" [("value", .ofDouble value)]
  | linear base slope =>
    encodeVariant "kind" "linear" [("base", .ofDouble base), ("slope", .ofDouble slope)]
  | exponential base growth offset => encodeVariant "kind" "exponential"
      [("base", .ofDouble base), ("growth", .ofDouble growth), ("offset", .ofDouble offset)]
  | polynomial coefficients => encodeVariant "kind" "polynomial"
      [("coefficients", .arr (coefficients.map .ofDouble))]
  | piecewise pieces =>
    encodeVariant "kind" "piecewise" [("pieces", .arr (encodePieces pieces))]
  | expression e => encodeVariant "kind" "expression" [("expression", e.encode)]

def encodePieces : List (Option Double × Formula) → List Json
  | [] => []
  | (untilLevel, formula) :: rest =>
    .obj [("untilLevel", .ofOption .ofDouble untilLevel), ("formula", formula.encode)] ::
      encodePieces rest

end

mutual

def entries : Formula → List (Kind × String)
  | piecewise pieces => entriesPieces pieces
  | expression e => e.entries
  | _ => []

def entriesPieces : List (Option Double × Formula) → List (Kind × String)
  | [] => []
  | (_, formula) :: rest => formula.entries ++ entriesPieces rest

end

end Formula

end GamePack
