import JsxGen.Json.Basic
import JsxGen.Number.Shortest

/-! JSON values as text without spaces. -/

namespace JsxGen.Json

def hex (n : Nat) : List Char :=
  let digits := Nat.toDigits 16 n
  List.replicate (4 - digits.length) '0' ++ digits

def quotedChar (c : Char) : List Char :=
  if c = '"' then ['\\', '"']
  else if c = '\\' then ['\\', '\\']
  else if c.toNat < 0x20 then '\\' :: 'u' :: hex c.toNat
  else [c]

def quoted (s : String) : String :=
  "\"" ++ String.ofList (s.toList.flatMap quotedChar) ++ "\""

/-- The shortest decimal of a number, always with an exponent. -/
def floatText : Binary64 → String
  | .finite negative mantissa exponent _ =>
    let (digits, power) := Binary64.shortest mantissa exponent
    (if negative then "-" else "") ++ toString digits ++ "e" ++ toString power
  | .infinite _ | .nan => "null"

mutual

def text : Json → String
  | .null => "null"
  | .bool value => if value then "true" else "false"
  | .num (.int value) => toString value
  | .num (.float value) => floatText value
  | .str value => quoted value
  | .arr items => "[" ++ ",".intercalate (itemTexts items) ++ "]"
  | .obj fields => "\x7b" ++ ",".intercalate (fieldTexts fields) ++ "\x7d"

def itemTexts : List Json → List String
  | [] => []
  | item :: items => item.text :: itemTexts items

def fieldTexts : List (String × Json) → List String
  | [] => []
  | (key, value) :: fields => (quoted key ++ ":" ++ value.text) :: fieldTexts fields

end

end JsxGen.Json
