import JsxGen.Json.Document
import JsxGen.Number.Text

/-! The lexemes of JSON text. -/

namespace JsxGen

/-- A string is `none` if it holds half of a surrogate pair. A flawed lexeme is the last one. -/
inductive JsonToken where
  | openArray | closeArray | openObject | closeObject | comma | colon
  | string (text : Option String)
  | scalar (leaf : Document)
  | flawedString (flaw : Flaw)
  | flawedScalar (flaw : Flaw)

namespace JsonToken

def isHighSurrogate (unit : Nat) : Bool := 0xD800 ≤ unit && unit ≤ 0xDBFF

def isLowSurrogate (unit : Nat) : Bool := 0xDC00 ≤ unit && unit ≤ 0xDFFF

/-- Joins surrogate pairs; `none` if one half stands alone. -/
def joinSurrogates : List Nat → Option (List Char)
  | [] => some []
  | unit :: units =>
    if isHighSurrogate unit then
      match units with
      | [] => none
      | second :: units =>
        if isLowSurrogate second then
          let code := 0x10000 + (unit - 0xD800) * 0x400 + (second - 0xDC00)
          (joinSurrogates units).map (Char.ofNat code :: ·)
        else none
    else if isLowSurrogate unit then none
    else (joinSurrogates units).map (Char.ofNat unit :: ·)

def hexDigit? (c : Char) : Option Nat :=
  if c.isDigit then some (c.toNat - '0'.toNat)
  else if 'a' ≤ c && c ≤ 'f' then some (c.toNat - 'a'.toNat + 10)
  else if 'A' ≤ c && c ≤ 'F' then some (c.toNat - 'A'.toNat + 10)
  else none

def hexUnit? (a b c d : Char) : Option Nat := do
  let digits ← [a, b, c, d].mapM hexDigit?
  return digits.foldl (fun unit digit => 16 * unit + digit) 0

def escaped? : Char → Option Char
  | '"' => some '"'
  | '\\' => some '\\'
  | '/' => some '/'
  | 'b' => some '\x08'
  | 'f' => some '\x0C'
  | 'n' => some '\n'
  | 'r' => some '\r'
  | 't' => some '\t'
  | _ => none

/-- The characters and numbered units of a quoted text up to its closing quote or its fault, and
the number of characters read. -/
structure QuotedScan where
  units : List Nat
  fault : Option TextFault
  size : Nat

def QuotedScan.stop (fault : TextFault) : QuotedScan := ⟨[], some fault, 0⟩

def QuotedScan.add (unit size : Nat) (scan : QuotedScan) : QuotedScan :=
  { scan with units := unit :: scan.units, size := size + scan.size }

/-- A numbered unit has four digits; the text ends early if fewer than four bytes are left. -/
def scanQuoted : List Char → QuotedScan
  | [] => .stop .cutShort
  | '"' :: _ => ⟨[], none, 1⟩
  | ['\\'] => .stop .cutShort
  | '\\' :: 'u' :: a :: b :: c :: d :: cs =>
    match hexUnit? a b c d with
    | some unit => (scanQuoted cs).add unit 6
    | none => .stop .malformed
  | '\\' :: 'u' :: cs =>
    .stop (if (cs.map Char.utf8Size).sum < 4 then .cutShort else .malformed)
  | '\\' :: e :: cs =>
    match escaped? e with
    | some c => (scanQuoted cs).add c.toNat 2
    | none => .stop .malformed
  | c :: cs => if c.toNat < 0x20 then .stop .malformed else (scanQuoted cs).add c.toNat 1

/-- A half pair ahead of the fault is met first, unless the fault comes right behind it. -/
def faultRead (units : List Nat) (fault : TextFault) : TextFault :=
  let settled :=
    match units.getLast? with
    | some unit => if isHighSurrogate unit then units.dropLast else units
    | none => []
  if (joinSurrogates settled).isNone then .malformed else fault

def ofQuoted (cs : List Char) : JsonToken × Nat :=
  let scan := scanQuoted cs
  match scan.fault with
  | none => (.string ((joinSurrogates scan.units).map String.ofList), scan.size)
  | some fault => (.flawedString ⟨faultRead scan.units fault, some fault⟩, scan.size)

/-- The fault where `cs` does not go on with the letters of a word. -/
def wordFault? : List Char → List Char → Option TextFault
  | [], _ => none
  | _ :: _, [] => some .cutShort
  | e :: es, c :: cs => if e = c then wordFault? es cs else some .malformed

def ofWord (letters : String) (value : Document) (cs : List Char) : JsonToken × Nat :=
  match wordFault? letters.toList cs with
  | none => (.scalar value, letters.length)
  | some fault => (.flawedScalar (.of fault), 0)

/-- Digits are missing; where the number is skipped, even the end of the text is malformed. -/
def digitsMissing (rest : List Char) : Flaw :=
  if rest.isEmpty then ⟨.cutShort, some .malformed⟩ else .of .malformed

/-- Integers of 64 bits stay exact, and minus zero is no integer; a number past every binary64
number can be skipped but not read. -/
def numberValue (negative : Bool) (whole : List Char) (rest : Option (List Char × Int)) :
    Document :=
  let size := Number.readNat whole
  match rest with
  | none =>
    if !negative && size < Nat.pow 2 64 then .num (.int size)
    else if negative && size ≠ 0 && size ≤ Nat.pow 2 63 then .num (.int (-size))
    else float (.ofDigits whole [] 0)
  | some (fraction, exponent) => float (.ofDigits whole fraction exponent)
where
  float (decimal : Number.Decimal) : Document :=
    let value := decimal.toBinary64 negative
    if value.isFinite then .num (.float value) else .broken ⟨.malformed, none⟩

/-- Digits behind the point, if there is one, and the text behind them. -/
def scanFraction : List Char → Except Flaw (Option (List Char) × List Char)
  | '.' :: cs =>
    let digits := cs.takeWhile Char.isDigit
    if digits.isEmpty then .error (digitsMissing cs)
    else .ok (some digits, cs.dropWhile Char.isDigit)
  | cs => .ok (none, cs)

def scanExponent : List Char → Except Flaw (Option Int × List Char)
  | c :: cs =>
    if c = 'e' || c = 'E' then
      let (negative, cs) := Number.splitSign cs
      let digits := cs.takeWhile Char.isDigit
      if digits.isEmpty then .error (digitsMissing cs)
      else
        let size : Int := Number.readNat digits
        .ok (some (if negative then -size else size), cs.dropWhile Char.isDigit)
    else .ok (none, c :: cs)
  | [] => .ok (none, [])

/-- A number, and the text behind it. -/
def scanNumber (cs : List Char) : Except Flaw (Document × List Char) := do
  let negative := cs.head? = some '-'
  let start := if negative then cs.tail else cs
  let whole := start.takeWhile Char.isDigit
  if whole.isEmpty then .error (digitsMissing start)
  if whole.head? = some '0' && 1 < whole.length then .error (.of .malformed)
  let (fraction, rest) ← scanFraction (start.dropWhile Char.isDigit)
  let (exponent, rest) ← scanExponent rest
  let tail :=
    if fraction.isNone && exponent.isNone then none
    else some (fraction.getD [], exponent.getD 0)
  .ok (numberValue negative whole tail, rest)

def ofNumber (c : Char) (cs : List Char) : JsonToken × Nat :=
  match scanNumber (c :: cs) with
  | .ok (value, rest) => (.scalar value, cs.length - rest.length)
  | .error flaw => (.flawedScalar flaw, 0)

def isSpace (c : Char) : Bool :=
  c = ' ' || c = '\t' || c = '\n' || c = '\r'

/-- The lexeme that starts with `c`, and how many characters of `cs` belong to it. -/
def scan (c : Char) (cs : List Char) : JsonToken × Nat :=
  match c with
  | '[' => (.openArray, 0)
  | ']' => (.closeArray, 0)
  | '\x7b' => (.openObject, 0)
  | '\x7d' => (.closeObject, 0)
  | ',' => (.comma, 0)
  | ':' => (.colon, 0)
  | '"' => ofQuoted cs
  | 't' => ofWord "rue" (.bool true) cs
  | 'f' => ofWord "alse" (.bool false) cs
  | 'n' => ofWord "ull" .null cs
  | c =>
    if c = '-' || c.isDigit then ofNumber c cs
    else (.flawedScalar (.of .malformed), 0)

/-- The lexemes of a text, up to the first flawed one. -/
def ofChars : List Char → List JsonToken
  | [] => []
  | c :: cs =>
    if isSpace c then ofChars cs
    else
      match scan c cs with
      | (.flawedString flaw, _) => [.flawedString flaw]
      | (.flawedScalar flaw, _) => [.flawedScalar flaw]
      | (token, size) => token :: ofChars (cs.drop size)
termination_by cs => cs.length

end JsonToken

end JsxGen
