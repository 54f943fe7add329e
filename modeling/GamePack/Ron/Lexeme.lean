import GamePack.Json.Lexeme

namespace GamePack.Ron

inductive Token
  | openParen
  | closeParen
  | unit
  | openArr
  | closeArr
  | openObj
  | closeObj
  | comma
  | colon
  | hash
  | bang
  | word (name : String)
  /-- A word after the letter and hash that keep it from being read as anything but a name. -/
  | rawWord (name : String)
  /-- A single character. It is a text as a value, but no key. -/
  | char (c : Char)
  | scalar (v : Json)

/-- Where the scan stands. Collected characters are held last first. -/
inductive Scan
  | between
  | text (close : Char) (done : List Char)
  | escape (close : Char) (done : List Char)
  | byte (close : Char) (done : List Char) (count value : Nat)
  | brace (close : Char) (done : List Char)
  | code (close : Char) (done : List Char) (count value : Nat)
  | word (done : List Char)
  | number (done : List Char)
  | rawStart (hashes : Nat)
  /-- Inside a raw text; the last number counts hashes since the last quote, if only
  hashes came since. -/
  | raw (hashes : Nat) (done : List Char) (closing : Option Nat)
  | rawWord (done : List Char)
  | slash
  | line
  | block (depth : Nat) (last : Char)
  | paren

structure Lexer where
  tokens : List Token
  scan : Scan

namespace Lexer

def isWordStart (c : Char) : Bool := c.isAlpha || c = '_'

def isWord (c : Char) : Bool := c.isAlphanum || c = '_'

def isRawWord (c : Char) : Bool := isWord c || c = '.' || c = '+' || c = '-'

def isNumberStart (c : Char) : Bool := c.isDigit || c = '+' || c = '-' || c = '.'

def isNumber (c : Char) : Bool := isRawWord c

/-- A whole number in base ten or, after a mark, in another base. Underscores may stand after the
first digit. -/
def ofInteger? (cs : List Char) : Option Nat :=
  let (base, digits) :=
    match cs with
    | '0' :: 'x' :: rest => (16, rest)
    | '0' :: 'b' :: rest => (2, rest)
    | '0' :: 'o' :: rest => (8, rest)
    | rest => (10, rest)
  if digits.head? = some '_' then none else Text.ofDigits? base (digits.filter (· ≠ '_'))

/-- A decimal with an optional point and an optional power. One that is too large has no value. -/
def ofDecimal? (negative : Bool) (cs : List Char) : Option Json := do
  let whole := cs.takeWhile Char.isDigit
  let rest := cs.dropWhile Char.isDigit
  let (fraction, rest) :=
    match rest with
    | '.' :: rest => (rest.takeWhile Char.isDigit, rest.dropWhile Char.isDigit)
    | rest => ([], rest)
  let digits ← Text.ofDigits? 10 (whole ++ fraction)
  let power ← Number.power? rest
  match Double.ofDecimal? negative digits (power - fraction.length) with
  | some x => some (.ofDouble x)
  | none => some .null

def ofNumber? (cs : List Char) : Option Json :=
  let (signed, negative, cs) :=
    match cs with
    | '-' :: rest => (true, true, rest)
    | '+' :: rest => (true, false, rest)
    | rest => (false, false, rest)
  if negative && (cs = "inf".toList) then some .null
  else
    match ofInteger? cs with
    | some n =>
      let bound := if signed then Number.signedBound else Number.unsignedBound
      if negative && n ≤ bound then some (.num (if n = 0 then .unsigned 0 else .negative n))
      else if !negative && n < bound then some (.ofNat n)
      else ofDecimal? negative cs
    | none => ofDecimal? negative cs

def start (tokens : List Token) (c : Char) : Option Lexer :=
  if Json.Lexer.isBlank c then some ⟨tokens, .between⟩
  else if c = 'r' then some ⟨tokens, .rawStart 0⟩
  else if isWordStart c then some ⟨tokens, .word [c]⟩
  else if isNumberStart c then some ⟨tokens, .number [c]⟩
  else
    match c with
    | '(' => some ⟨tokens, .paren⟩
    | ')' => some ⟨.closeParen :: tokens, .between⟩
    | '[' => some ⟨.openArr :: tokens, .between⟩
    | ']' => some ⟨.closeArr :: tokens, .between⟩
    | '\x7b' => some ⟨.openObj :: tokens, .between⟩
    | '\x7d' => some ⟨.closeObj :: tokens, .between⟩
    | ',' => some ⟨.comma :: tokens, .between⟩
    | ':' => some ⟨.colon :: tokens, .between⟩
    | '"' | '\'' => some ⟨tokens, .text c []⟩
    | '/' => some ⟨tokens, .slash⟩
    | '#' => some ⟨.hash :: tokens, .between⟩
    | '!' => some ⟨.bang :: tokens, .between⟩
    | _ => none

def unescape? : Char → Option Char
  | '"' => some '"'
  | '\'' => some '\''
  | '\\' => some '\\'
  | 'n' => some '\n'
  | 'r' => some '\r'
  | 't' => some '\t'
  | '0' => some '\x00'
  | _ => none

def close (tokens : List Token) (quote : Char) (done : List Char) : Option Lexer :=
  if quote = '\'' then
    match done with
    | [c] => some ⟨.char c :: tokens, .between⟩
    | _ => none
  else some ⟨.scalar (.str (String.ofList done.reverse)) :: tokens, .between⟩

def codeDigits : Nat := 6

def codeChar? (value : Nat) : Option Char :=
  if value < 0xD800 ∨ (0xDFFF < value ∧ value < 0x110000) then some (Char.ofNat value) else none

def step (l : Lexer) (c : Char) : Option Lexer :=
  match l.scan with
  | .between => start l.tokens c
  | .word done =>
    if isWord c then some ⟨l.tokens, .word (c :: done)⟩
    else start (.word (String.ofList done.reverse) :: l.tokens) c
  | .number done =>
    if isNumber c then some ⟨l.tokens, .number (c :: done)⟩
    else (ofNumber? done.reverse).bind fun v ↦ start (.scalar v :: l.tokens) c
  | .text quote done =>
    if c = quote then close l.tokens quote done
    else if c = '\\' then some ⟨l.tokens, .escape quote done⟩
    else some ⟨l.tokens, .text quote (c :: done)⟩
  | .escape quote done =>
    if c = 'x' then some ⟨l.tokens, .byte quote done 0 0⟩
    else if c = 'u' then some ⟨l.tokens, .brace quote done⟩
    else (unescape? c).map fun e ↦ ⟨l.tokens, .text quote (e :: done)⟩
  | .byte quote done count value => do
    let d ← Text.hexDigit? c
    let value := value * 16 + d
    if count = 1 then some ⟨l.tokens, .text quote (Char.ofNat value :: done)⟩
    else some ⟨l.tokens, .byte quote done (count + 1) value⟩
  | .brace quote done =>
    if c = '\x7b' then some ⟨l.tokens, .code quote done 0 0⟩ else none
  | .code quote done count value =>
    if c = '\x7d' then
      if count = 0 then none else (codeChar? value).map fun e ↦ ⟨l.tokens, .text quote (e :: done)⟩
    else if count = codeDigits then none
    else (Text.hexDigit? c).map fun d ↦ ⟨l.tokens, .code quote done (count + 1) (value * 16 + d)⟩
  | .rawStart hashes =>
    if c = '"' then some ⟨l.tokens, .raw hashes [] none⟩
    else if c = '#' then some ⟨l.tokens, .rawStart (hashes + 1)⟩
    else if hashes = 0 then
      if isWord c then some ⟨l.tokens, .word [c, 'r']⟩
      else start (.word "r" :: l.tokens) c
    else if hashes = 1 && isRawWord c then some ⟨l.tokens, .rawWord [c]⟩
    else none
  | .raw hashes done closing =>
    match closing with
    | some n =>
      if c = '#' && n + 1 = hashes then
        some ⟨.scalar (.str (String.ofList (done.drop (n + 1)).reverse)) :: l.tokens, .between⟩
      else if c = '#' then some ⟨l.tokens, .raw hashes (c :: done) (some (n + 1))⟩
      else some ⟨l.tokens, .raw hashes (c :: done) (if c = '"' then some 0 else none)⟩
    | none =>
      if c = '"' && hashes = 0 then
        some ⟨.scalar (.str (String.ofList done.reverse)) :: l.tokens, .between⟩
      else some ⟨l.tokens, .raw hashes (c :: done) (if c = '"' then some 0 else none)⟩
  | .rawWord done =>
    if isRawWord c then some ⟨l.tokens, .rawWord (c :: done)⟩
    else start (.rawWord (String.ofList done.reverse) :: l.tokens) c
  | .slash =>
    if c = '/' then some ⟨l.tokens, .line⟩
    else if c = '*' then some ⟨l.tokens, .block 1 ' '⟩
    else none
  | .line => some ⟨l.tokens, if c = '\n' then .between else .line⟩
  | .block depth last =>
    if last = '*' && c = '/' then
      some ⟨l.tokens, if depth = 1 then .between else .block (depth - 1) ' '⟩
    else if last = '/' && c = '*' then some ⟨l.tokens, .block (depth + 1) ' '⟩
    else some ⟨l.tokens, .block depth c⟩
  | .paren =>
    if c = ')' then some ⟨.unit :: l.tokens, .between⟩ else start (.openParen :: l.tokens) c

def finish? (l : Lexer) : Option (List Token) :=
  match l.scan with
  | .between | .line => some l.tokens.reverse
  | .word done => some (.word (String.ofList done.reverse) :: l.tokens).reverse
  | .number done => (ofNumber? done.reverse).map fun v ↦ (.scalar v :: l.tokens).reverse
  | .rawWord done => some (.rawWord (String.ofList done.reverse) :: l.tokens).reverse
  | _ => none

end Lexer

def tokens? (text : String) : Option (List Token) :=
  (text.toList.foldlM Lexer.step ⟨[], .between⟩).bind Lexer.finish?

end GamePack.Ron
