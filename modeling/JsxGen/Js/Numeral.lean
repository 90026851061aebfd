import JsxGen.Number.Shortest

/-! Number literals. -/

namespace JsxGen.Js

def signed (negative : Bool) (text : List Char) : List Char :=
  if negative then '-' :: text else text

/-- Integers below 10^15 are written exactly, without the sign of a zero; other numbers by their
shortest decimal, never with an exponent. -/
def numeral (value : Binary64) : List Char :=
  match value.toInt? with
  | some n =>
    if n.natAbs < Nat.pow 10 15 then signed (n < 0) (Nat.toDigits 10 n.natAbs) else shortest value
  | none => shortest value
where
  shortest : Binary64 → List Char
    | .finite negative mantissa exponent _ =>
      let (digits, power) := Binary64.shortest mantissa exponent
      signed negative (Binary64.positional digits power)
    | .infinite negative => signed negative ['i', 'n', 'f']
    | .nan => ['N', 'a', 'N']

end JsxGen.Js
