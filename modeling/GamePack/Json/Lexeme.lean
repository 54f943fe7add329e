import GamePack.Json.Basic
import GamePack.Text.Hex

namespace GamePack

namespace Number

def fraction? : List Char → Option (List Char × List Char)
  | '.' :: rest =>
    match rest.takeWhile Char.isDigit with
    | [] => none
    | digits => some (digits, rest.dropWhile Char.isDigit)
  | rest => some ([], rest)

def power? : List Char → Option Int
  | [] => some 0
  | c :: rest =>
    if c = 'e' ∨ c = 'E' then
      match rest with
      | '-' :: digits => (Text.ofDigits? 10 digits).map fun n ↦ -n
      | '+' :: digits => (Text.ofDigits? 10 digits).map Int.ofNat
      | digits => (Text.ofDigits? 10 digits).map Int.ofNat
    else none

def ofInteger? (negative : Bool) (n : Nat) : Option Number :=
  if negative then
    if 0 < n ∧ n ≤ Number.signedBound then some (.negative n)
    else (Double.ofDecimal? true n 0).map .double
  else if n < Number.unsignedBound then some (.unsigned n)
  else (Double.ofDecimal? false n 0).map .double

/-- The number that a run of characters after an optional minus sign writes. A leading
zero stands alone. -/
def ofUnsigned? (negative : Bool) (cs : List Char) : Option Number := do
  let whole := cs.takeWhile Char.isDigit
  let n ← Text.ofDigits? 10 whole
  if whole.head? = some '0' ∧ whole.length ≠ 1 then none
  else
    match cs.dropWhile Char.isDigit with
    | [] => ofInteger? negative n
    | rest =>
      let (digits, rest) ← fraction? rest
      let power ← power? rest
      let n := digits.foldl (fun n c ↦ n * 10 + (c.toNat - 48)) n
      (Double.ofDecimal? negative n (power - digits.length)).map .double

def ofChars? : List Char → Option Number
  | '-' :: cs => ofUnsigned? true cs
  | cs => ofUnsigned? false cs

end Number

namespace Json

inductive Token
  | openArr
  | closeArr
  | openObj
  | closeObj
  | comma
  | colon
  | scalar (v : Json)

/-- Where the scan stands inside a token. Collected characters are held last first. -/
inductive Scan
  | between
  | text (done : List Char)
  | escape (done : List Char)
  /-- Inside a four-digit escape, possibly the second of a pair. -/
  | code (done : List Char) (high : Option Nat) (count value : Nat)
  /-- After the first escape of a pair: the second one's backslash and letter are due. -/
  | pair (done : List Char) (high : Nat) (backslash : Bool)
  | run (done : List Char)

structure Lexer where
  tokens : List Token
  scan : Scan

namespace Lexer

def isBlank (c : Char) : Bool := c = ' ' || c = '\t' || c = '\n' || c = '\r'

def isRun (c : Char) : Bool := c.isAlphanum || c = '+' || c = '-' || c = '.'

def ofRun? (cs : List Char) : Option Json :=
  if cs = "null".toList then some .null
  else if cs = "true".toList then some (.bool true)
  else if cs = "false".toList then some (.bool false)
  else (Number.ofChars? cs).map .num

def start (tokens : List Token) (c : Char) : Option Lexer :=
  if isBlank c then some ⟨tokens, .between⟩
  else if isRun c then some ⟨tokens, .run [c]⟩
  else
    match c with
    | '[' => some ⟨.openArr :: tokens, .between⟩
    | ']' => some ⟨.closeArr :: tokens, .between⟩
    | '\x7b' => some ⟨.openObj :: tokens, .between⟩
    | '\x7d' => some ⟨.closeObj :: tokens, .between⟩
    | ',' => some ⟨.comma :: tokens, .between⟩
    | ':' => some ⟨.colon :: tokens, .between⟩
    | '"' => some ⟨tokens, .text []⟩
    | _ => none

def unescape? : Char → Option Char
  | '"' => some '"'
  | '\\' => some '\\'
  | '/' => some '/'
  | 'b' => some '\x08'
  | 'f' => some '\x0c'
  | 'n' => some '\n'
  | 'r' => some '\r'
  | 't' => some '\t'
  | _ => none

/-- What follows once the four digits of an escape are read: a code unit of a pair waits for, or
completes, its partner, and a lone one is refused. -/
def afterCode (done : List Char) (high : Option Nat) (unit : Nat) : Option Scan :=
  match high with
  | none =>
    if 0xD800 ≤ unit ∧ unit < 0xDC00 then some (.pair done unit false)
    else if 0xDC00 ≤ unit ∧ unit < 0xE000 then none
    else some (.text (Char.ofNat unit :: done))
  | some high =>
    if 0xDC00 ≤ unit ∧ unit < 0xE000 then
      some (.text (Char.ofNat (0x10000 + (high - 0xD800) * 0x400 + (unit - 0xDC00)) :: done))
    else none

def step (l : Lexer) (c : Char) : Option Lexer :=
  match l.scan with
  | .between => start l.tokens c
  | .run done =>
    if isRun c then some ⟨l.tokens, .run (c :: done)⟩
    else (ofRun? done.reverse).bind fun v ↦ start (.scalar v :: l.tokens) c
  | .text done =>
    if c = '"' then some ⟨.scalar (.str (String.ofList done.reverse)) :: l.tokens, .between⟩
    else if c = '\\' then some ⟨l.tokens, .escape done⟩
    else if c < ' ' then none
    else some ⟨l.tokens, .text (c :: done)⟩
  | .escape done =>
    if c = 'u' then some ⟨l.tokens, .code done none 0 0⟩
    else (unescape? c).map fun e ↦ ⟨l.tokens, .text (e :: done)⟩
  | .code done high count value => do
    let d ← Text.hexDigit? c
    let value := value * 16 + d
    if count = 3 then (afterCode done high value).map fun s ↦ ⟨l.tokens, s⟩
    else some ⟨l.tokens, .code done high (count + 1) value⟩
  | .pair done high false => if c = '\\' then some ⟨l.tokens, .pair done high true⟩ else none
  | .pair done high true => if c = 'u' then some ⟨l.tokens, .code done (some high) 0 0⟩ else none

def finish? (l : Lexer) : Option (List Token) :=
  match l.scan with
  | .between => some l.tokens.reverse
  | .run done => (ofRun? done.reverse).map fun v ↦ (.scalar v :: l.tokens).reverse
  | _ => none

end Lexer

def tokens? (text : String) : Option (List Token) :=
  (text.toList.foldlM Lexer.step ⟨[], .between⟩).bind Lexer.finish?

end Json

end GamePack
