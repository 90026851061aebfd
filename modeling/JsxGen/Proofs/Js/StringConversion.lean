import JsxGen.Js.Numeral
import JsxGen.Proofs.Js.Runtime

/-!
The text that a value is converted to where a string is called for. `TemplatePart.joined_eq` says of a
template that it strings together the texts of its parts.
-/

namespace JsxGen.Js

/-- The decimal `digits * 10 ^ power` with a point behind its first digit and an exponent. -/
def exponential (digits : Nat) (power : Int) : List Char :=
  let text := Nat.toDigits 10 digits
  let exponent := power + text.length - 1
  let fraction := if text.length = 1 then [] else '.' :: text.drop 1
  let sign := if exponent < 0 then '-' else '+'
  text.take 1 ++ fraction ++ 'e' :: sign :: Nat.toDigits 10 exponent.natAbs

/-- A number is converted to its shortest decimal, with an exponent if its point stands far from the
digits. -/
def numberText : Binary64 → List Char
  | .nan => "NaN".toList
  | .infinite negative => signed negative "Infinity".toList
  | .finite negative mantissa exponent _ =>
    if mantissa = 0 then ['0'] else
      let (digits, power) := Binary64.shortest mantissa exponent
      let point := power + (Nat.toDigits 10 digits).length
      signed negative
        (if -6 < point ∧ point ≤ 21 then Binary64.positional digits power
         else exponential digits power)

namespace Value

mutual

/-- The text that the value is converted to. A record is asked for its `toString`, which may be its
own or that of a prototype it names; what comes of this, and of values not known here, `other` says. -/
def spelling (other : Value → Option String) : Value → Option String
  | .undefined => some "undefined"
  | .null => some "null"
  | .bool flag => some (if flag then "true" else "false")
  | .num number => some (String.ofList (numberText number))
  | .str text => some text
  | .array items => (itemSpellings other items).map ",".intercalate
  | .record fields =>
    if (fields "toString").isNone ∧ (fields "__proto__").isNone then some "[object Object]"
    else other (.record fields)
  | .foreign token => other (.foreign token)

/-- A missing item leaves nothing between its commas. -/
def itemSpellings (other : Value → Option String) : List Value → Option (List String)
  | [] => some []
  | v :: vs => do
    let first ← if v.isMissing then some "" else v.spelling other
    let others ← itemSpellings other vs
    return first :: others

end

end Value

namespace Runtime

/-- What stands for a value in a template is what it is converted to. -/
def Spells (runtime : Runtime) (other : Value → Option String) : Prop :=
  ∀ v : Value, v.toText runtime = v.spelling other

/-- Nothing but the conversion of values is known. -/
def bare : Runtime where
  own _ _ := none
  eval _ _ := none
  compare _ _ _ := none
  method _ _ _ := none
  text := Value.spelling fun _ => none
  holds _ := false

theorem spells_bare : bare.Spells fun _ => none := by
  intro v
  cases v with
  | str text => rw [Value.toText, Value.spelling]
  | _ => rfl

end Runtime

namespace TemplatePart

variable (runtime : Runtime) (scope : Scope)

/-- The text that the part contributes to its template. -/
def shown : TemplatePart → Option String
  | .text literal => some literal
  | .expr e => (e.value runtime scope).bind (Value.toText runtime)

theorem joined_cons (part : TemplatePart) (parts : List TemplatePart) :
    joined runtime scope (part :: parts) =
      (part.shown runtime scope).bind fun first =>
        (joined runtime scope parts).map (first ++ ·) := by
  cases part with
  | text literal => rw [joined, shown, Option.bind_some, Option.map_eq_bind]; rfl
  | expr e =>
    rw [joined, shown, Option.bind_assoc]
    simp only [Option.map_eq_bind]
    rfl

theorem joined_eq (parts : List TemplatePart) :
    joined runtime scope parts = (parts.mapM (shown runtime scope)).map String.join := by
  induction parts with
  | nil => rw [joined]; rfl
  | cons part parts ih =>
    rw [joined_cons, ih, List.mapM_cons]
    cases part.shown runtime scope with
    | none => rfl
    | some first =>
      cases parts.mapM (shown runtime scope) with
      | none => rfl
      | some others => exact congrArg some String.join_cons.symm

end TemplatePart

end JsxGen.Js
