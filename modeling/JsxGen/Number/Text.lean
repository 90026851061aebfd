import JsxGen.Number.Binary64

/-! Numbers written as text: a decimal with optional point and exponent, or a word. -/

namespace JsxGen.Number

/-- The decimal `digits * 10 ^ exponent`. -/
structure Decimal where
  digits : Nat
  exponent : Int

def readNat (digits : List Char) : Nat :=
  digits.foldl (fun n c => 10 * n + (c.toNat - '0'.toNat)) 0

/-- The decimal of digits before and behind a point, moved by a written exponent. -/
def Decimal.ofDigits (whole fraction : List Char) (exponent : Int) : Decimal :=
  ⟨readNat (whole ++ fraction), exponent - fraction.length⟩

def Decimal.toBinary64 (d : Decimal) (negative : Bool) : Binary64 :=
  Binary64.ofDecimal negative d.digits d.exponent

/-- A sign, `+` or `-`, is optional. -/
def splitSign : List Char → Bool × List Char
  | '-' :: cs => (true, cs)
  | '+' :: cs => (false, cs)
  | cs => (false, cs)

def readInt? (cs : List Char) : Option Int :=
  let (negative, digits) := splitSign cs
  if digits.isEmpty || !digits.all Char.isDigit then none
  else some (if negative then -(readNat digits) else readNat digits)

def readDecimal? (cs : List Char) : Option Decimal :=
  let whole := cs.takeWhile Char.isDigit
  let rest := cs.dropWhile Char.isDigit
  let (fraction, rest) :=
    match rest with
    | '.' :: rest => (rest.takeWhile Char.isDigit, rest.dropWhile Char.isDigit)
    | _ => ([], rest)
  if whole.isEmpty && fraction.isEmpty then none
  else
    match rest with
    | [] => some (.ofDigits whole fraction 0)
    | c :: exponent =>
      if c = 'e' || c = 'E' then (readInt? exponent).map (.ofDigits whole fraction)
      else none

/-- Reads the whole text as a number: a decimal, or `inf`, `infinity` or `nan` in any case. -/
def read? (text : String) : Option Binary64 :=
  let (negative, cs) := splitSign text.toList
  let word := String.ofList (cs.map Char.toLower)
  if word = "inf" || word = "infinity" then some (.infinite negative)
  else if word = "nan" then some .nan
  else (readDecimal? cs).map (·.toBinary64 negative)

end JsxGen.Number
