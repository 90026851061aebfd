import JsxGen.Proofs.Js.Runtime
import JsxGen.Proofs.PropertyExpr

/-!
What a property stands for when the component runs, said without the expression that is written for
it. `toExpr_keeps_value` says that the expression comes to the same.
-/

namespace JsxGen

open Js

namespace Json

mutual

/-- The value that is written as the JSON literal. -/
def value : Json → Value
  | .null => .null
  | .bool flag => .bool flag
  | .num number => .num number.toBinary64
  | .str text => .str text
  | .arr items => .array (itemValues items)
  | .obj fields => .record (fieldValues fields)

def itemValues : List Json → List Value
  | [] => []
  | item :: items => item.value :: itemValues items

def fieldValues : List (String × Json) → Record
  | [] => fun _ => none
  | (key, json) :: fields => fun name => if name = key then some json.value else fieldValues fields name

end

/-- A text beside a type is what it spells as one of the type, if it spells one. -/
def typedValue (spelled : String → String → Option Value) (type : Option String) : Json → Value
  | .str text => ((type.bind fun type => spelled type text).getD (.str text))
  | json => json.value

end Json

namespace Value

def spelledFlag : String → Option Value
  | "true" => some (.bool true)
  | "false" => some (.bool false)
  | _ => none

/-- What a text spells as a literal of a type. -/
def spelled (type text : String) : Option Value :=
  match type with
  | "Number" => (Number.read? text).map .num
  | "Boolean" => spelledFlag text
  | "Object" | "Array" => (Json.ofString text).toOption.map Json.value
  | _ => none

/-- What a text spells as the operand of a comparison. -/
def spelledOperand (type text : String) : Option Value :=
  match type with
  | "Int" | "Float" | "Number" => (Number.read? text).map .num
  | "Boolean" => spelledFlag text
  | _ => none

end Value

section denotation

variable (runtime : Runtime) (scope : Scope) (types : ElementTypes)

/-- The value or, if a field of it is meant, what it holds there; a missing value has no fields. -/
def fieldOf (field : Option String) (v : Value) : Value :=
  match field with
  | none => v
  | some name => if v.isMissing then .undefined else v.fieldOrUndefined runtime.toHost name

def orDefault (fallback : Option String) (v : Value) : Value :=
  match fallback with
  | some text => if v.isMissing then .str text else v
  | none => v

/-- Whether the comparison holds of the subject; nothing is contained in a missing one. -/
def Comparison.holds (test : Comparison) : Option Bool := do
  let base ← scope test.subject.property
  let subject := fieldOf runtime test.subject.field base
  let operand := test.operand.json.typedValue Value.spelledOperand test.operandType
  match test.operator with
  | "eq" => runtime.compare .strictEq subject operand
  | "ne" => runtime.compare .strictNe subject operand
  | "lt" => runtime.compare .lt subject operand
  | "gt" => runtime.compare .gt subject operand
  | "le" => runtime.compare .le subject operand
  | "ge" => runtime.compare .ge subject operand
  | "contains" =>
    if subject.isMissing then some false
    else (runtime.method "includes" subject [operand]).map (Value.isTruthy runtime)
  | _ => none

namespace Property

mutual

/-- The value that the property denotes where the variables hold what the scope says. -/
def value : Property → Option Value
  | .fixed literal type => some (literal.json.typedValue Value.spelled type)
  | .bound ref fallback =>
    (scope ref.property).map fun base => orDefault fallback (fieldOf runtime ref.field base)
  | .collectionBound ref fallback =>
    (scope itemVariable).map fun item => orDefault fallback (fieldOf runtime ref.field item)
  | .concat parts => (joinedText parts).map .str
  | .conditional test yes no => do
    if ← test.holds runtime scope then yes.value else no.value
  | .auth name => (scope authVariable).bind (Value.read runtime.toHost name)
  | .state ref => scope (types.resolve ref).getter

/-- The texts of the parts, one behind the other. -/
def joinedText : List Property → Option String
  | [] => some ""
  | part :: parts => do
    let v ← part.value
    let first ← v.toText runtime
    let others ← joinedText parts
    return first ++ others

end

end Property

end denotation

theorem Json.distinct_of_ofString {text : String} {json : Json} (read : Json.ofString text = .ok json) :
    json.Distinct := by
  obtain ⟨value, root, read⟩ := bind_eq_ok.1 read
  split at read
  · cases read
  · cases read
    exact Document.distinct_of_toJson _ root

theorem Json.fieldValues_eq_none {key : String} {fields : List (String × Json)}
    (absent : key ∉ Entries.keys fields) : fieldValues fields key = none := by
  induction fields with
  | nil => rfl
  | cons field fields ih =>
    rw [Entries.keys, List.map_cons, List.mem_cons, not_or] at absent
    rw [fieldValues]
    exact (if_neg absent.1).trans (ih absent.2)

section literals

variable {runtime : Runtime} {scope : Scope}

mutual

theorem value_ofJson : (json : Json) → json.Distinct →
    (Expr.ofJson json).value runtime scope = some json.value
  | .null, _ => by rw [Expr.ofJson, value_null, Json.value]
  | .bool flag, _ => by rw [Expr.ofJson, value_bool, Json.value]
  | .num number, _ => by rw [Expr.ofJson, value_num, Json.value]
  | .str text, _ => by rw [Expr.ofJson, value_str, Json.value]
  | .arr items, distinct => by
    rw [Expr.ofJson, value_array, values_ofItems items distinct, Json.value]
    rfl
  | .obj fields, distinct => by
    rw [Expr.ofJson, Expr.inline, value_object, fields_ofFields _ fields distinct.1 distinct.2,
      Json.value]
    simp

theorem values_ofItems : (items : List Json) → Json.AllDistinct items →
    Expr.values runtime scope (Expr.ofItems items) = some (Json.itemValues items)
  | [], _ => by rw [Expr.ofItems, Expr.values, Json.itemValues]
  | item :: items, distinct => by
    rw [Expr.ofItems, values_cons, value_ofJson item distinct.1, values_ofItems items distinct.2,
      Json.itemValues]
    rfl

/-- Since no key comes twice, it is all the same that a later member overrides. -/
theorem fields_ofFields (before : Record) : (fields : List (String × Json)) →
    (Entries.keys fields).Nodup → Json.FieldsDistinct fields →
    Member.fields runtime scope before (Expr.ofFields fields) =
      some fun name => (Json.fieldValues fields name).or (before name)
  | [], _, _ => by
    rw [Expr.ofFields, Member.fields]
    rfl
  | (key, json) :: fields, once, distinct => by
    have absent := Json.fieldValues_eq_none (List.nodup_cons.1 once).1
    rw [Expr.ofFields, Member.ofString, fields_property, value_ofJson json distinct.1,
      Option.bind_some, fields_ofFields _ fields (List.nodup_cons.1 once).2 distinct.2,
      Key.text_ofString]
    refine congrArg some (funext fun name => ?_)
    rw [Json.fieldValues]
    by_cases same : name = key
    · subst same
      simp [absent]
    · simp [same]

end

theorem value_orText {text : String} {e : Option Expr} {spelled : Option Value}
    (same : e.map (Expr.value runtime scope) = spelled.map some) :
    (orText text e).value runtime scope = some (spelled.getD (.str text)) := by
  cases e with
  | none =>
    cases spelled with
    | none => exact value_str runtime scope text
    | some v => cases same
  | some e =>
    cases spelled with
    | none => cases same
    | some v => exact Option.some.inj same

theorem numberExpr?_value (text : String) :
    (numberExpr? text).map (Expr.value runtime scope) =
      ((Number.read? text).map Value.num).map some := by
  simp [numberExpr?, Function.comp_def]

theorem booleanExpr?_value (text : String) :
    (booleanExpr? text).map (Expr.value runtime scope) = (Value.spelledFlag text).map some := by
  by_cases yes : text = "true"
  · simp [booleanExpr?, Value.spelledFlag, yes]
  by_cases no : text = "false"
  · simp [booleanExpr?, Value.spelledFlag, no]
  · simp [booleanExpr?, Value.spelledFlag, yes, no]

theorem jsonExpr?_value (text : String) :
    (jsonExpr? text).map (Expr.value runtime scope) =
      ((Json.ofString text).toOption.map Json.value).map some := by
  unfold jsonExpr?
  cases read : Json.ofString text with
  | error fault => rfl
  | ok json =>
    exact congrArg some (value_ofJson json (Json.distinct_of_ofString read))

theorem value_fixedExpr {json : Json} (distinct : json.Distinct) (type : Option String) :
    (fixedExpr json type).value runtime scope = some (json.typedValue Value.spelled type) := by
  cases json with
  | str text =>
    cases type with
    | none => exact value_ofJson _ trivial
    | some type =>
      by_cases number : type = "Number"
      · subst number
        exact value_orText (numberExpr?_value text)
      by_cases boolean : type = "Boolean"
      · subst boolean
        exact value_orText (booleanExpr?_value text)
      by_cases object : type = "Object"
      · subst object
        exact value_orText (jsonExpr?_value text)
      by_cases array : type = "Array"
      · subst array
        exact value_orText (jsonExpr?_value text)
      · simp [fixedExpr, Json.typedValue, Value.spelled, Expr.ofJson, *]
  | _ => exact value_ofJson _ distinct

theorem value_operandExpr {json : Json} (distinct : json.Distinct) (type : Option String) :
    (operandExpr json type).value runtime scope =
      some (json.typedValue Value.spelledOperand type) := by
  cases json with
  | str text =>
    cases type with
    | none => exact value_ofJson _ trivial
    | some type =>
      by_cases int : type = "Int"
      · subst int
        exact value_orText (numberExpr?_value text)
      by_cases float : type = "Float"
      · subst float
        exact value_orText (numberExpr?_value text)
      by_cases number : type = "Number"
      · subst number
        exact value_orText (numberExpr?_value text)
      by_cases boolean : type = "Boolean"
      · subst boolean
        exact value_orText (booleanExpr?_value text)
      · simp [operandExpr, Json.typedValue, Value.spelledOperand, Expr.ofJson, *]
  | _ => exact value_ofJson _ distinct

end literals

section accesses

variable {runtime : Runtime} {scope : Scope}

/-- What is read from the access goes on with the rest of its chain, which is skipped if the variable
holds nothing to read a field of. -/
theorem andThen_access (base : String) (field : Option String) (rest : Value → Option Value) :
    (PropRef.access base field).andThen runtime scope rest = (scope base).bind fun v =>
      if field.isSome ∧ v.isMissing then some .undefined else rest (fieldOf runtime field v) := by
  cases field with
  | none =>
    rw [PropRef.access, andThen_ident]
    simp [fieldOf]
  | some name =>
    rw [PropRef.access, andThen_optionalField, andThen_ident]
    refine congrArg _ (funext fun v => ?_)
    by_cases missing : v.isMissing <;> simp [fieldOf, missing]

theorem value_access (base : String) (field : Option String) :
    (PropRef.access base field).value runtime scope =
      (scope base).map (fieldOf runtime field) := by
  rw [Expr.value, andThen_access, Option.map_eq_bind]
  refine congrArg _ (funext fun v => ?_)
  cases field with
  | none => simp
  | some name => by_cases missing : v.isMissing <;> simp [fieldOf, missing]

theorem value_withFallback (e : Expr) (fallback : Option String) :
    (withFallback e fallback).value runtime scope =
      (e.value runtime scope).map (orDefault fallback) := by
  cases fallback with
  | none => exact Option.map_id'.symm
  | some text =>
    rw [withFallback, value_nullish, Option.map_eq_bind]
    refine congrArg _ (funext fun v => ?_)
    by_cases missing : v.isMissing <;> simp [orDefault, missing]

theorem value_includes (test : Comparison) (operand : Expr) {v : Value}
    (known : operand.value runtime scope = some v) :
    (Expr.call (.member (PropRef.access test.subject.property test.subject.field) "includes" true)
      [operand]).value runtime scope = (scope test.subject.property).bind fun base =>
        if (fieldOf runtime test.subject.field base).isMissing then some .undefined
        else runtime.method "includes" (fieldOf runtime test.subject.field base) [v] := by
  rw [value_optionalCall, andThen_access]
  refine congrArg _ (funext fun base => ?_)
  have args : Expr.values runtime scope [operand] = some [v] := by
    rw [values_cons, known]
    simp [Expr.values]
  rw [args, Option.bind_some]
  split
  · rename_i skipped
    obtain ⟨name, same⟩ := Option.isSome_iff_exists.1 skipped.1
    have undefined : fieldOf runtime test.subject.field base = .undefined := by
      rw [same, fieldOf, if_pos skipped.2]
    rw [undefined, if_pos (by rfl)]
  · rfl

theorem comparisonOp?_isComparison {operator : String} {op : BinaryOp}
    (spelled : comparisonOp? operator = some op) : op ≠ .nullish ∧ op ≠ .or := by
  unfold comparisonOp? at spelled
  split at spelled <;> cases spelled <;> decide

theorem Comparison.holds_of_spelled {test : Comparison} {op : BinaryOp}
    (spelled : comparisonOp? test.operator = some op) :
    test.holds runtime scope = (scope test.subject.property).bind fun base =>
      runtime.compare op (fieldOf runtime test.subject.field base)
        (test.operand.json.typedValue Value.spelledOperand test.operandType) := by
  unfold comparisonOp? at spelled
  split at spelled
  all_goals cases spelled
  all_goals
    rename_i operator
    rw [holds, operator]
    rfl

/-- The condition is passed if the comparison holds, and fails to have a value if it cannot be made. -/
theorem Comparison.value_toExpr {test : Comparison} {e : Expr} (made : test.toExpr = .ok e) :
    (e.value runtime scope).map (Value.isTruthy runtime) = test.holds runtime scope := by
  have known : (operandExpr test.operand.json test.operandType).value runtime scope =
      some (test.operand.json.typedValue Value.spelledOperand test.operandType) :=
    value_operandExpr test.operand.distinct test.operandType
  unfold toExpr at made
  dsimp only at made
  split at made
  · rename_i contains
    cases made
    rw [value_includes test _ known, holds, contains]
    cases scope test.subject.property with
    | none => rfl
    | some base =>
      simp only [Option.bind_some, Option.bind_eq_bind]
      split <;> rfl
  · split at made
    · rename_i op spelled
      cases made
      have comparison := comparisonOp?_isComparison spelled
      rw [holds_of_spelled spelled, value_comparison _ _ _ _ comparison.1 comparison.2, known,
        value_access]
      cases scope test.subject.property with
      | none => rfl
      | some base => simp [Function.comp_def, Value.isTruthy]
    · cases made

end accesses

namespace Property

/-- Beside no fixed string that is a part of a concatenation stands a type. -/
def Untyped (property : Property) : Prop :=
  ∀ parts, (concat parts).Within property → ∀ text distinct type,
    fixed ⟨.str text, distinct⟩ type ∈ parts → type = none

theorem Untyped.part {parts : List Property} {part : Property} (untyped : (concat parts).Untyped)
    (member : part ∈ parts) : part.Untyped :=
  fun inner within => untyped inner (.part member within)

theorem Untyped.yes {test : Comparison} {yes no : Property}
    (untyped : (conditional test yes no).Untyped) : yes.Untyped :=
  fun inner within => untyped inner (.yes within)

theorem Untyped.no {test : Comparison} {yes no : Property}
    (untyped : (conditional test yes no).Untyped) : no.Untyped :=
  fun inner within => untyped inner (.no within)

variable {runtime : Runtime} {scope : Scope} {types : ElementTypes}

mutual

theorem value_of_made : (property : Property) → {e : Expr} → property.toExpr types = .ok e →
    property.Untyped → e.value runtime scope = property.value runtime scope types
  | .fixed literal type, e, made, _ => by
    cases made
    exact value_fixedExpr literal.distinct type
  | .bound ref fallback, e, made, _ => by
    cases made
    rw [value_withFallback, value_access, Option.map_map]
    rfl
  | .collectionBound ref fallback, e, made, _ => by
    cases made
    rw [value_withFallback, value_access, Option.map_map]
    rfl
  | .concat parts, e, made, untyped => by
    rw [toExpr] at made
    obtain ⟨parts', each, made⟩ := bind_eq_ok.1 made
    cases made
    rw [value_template, value, joined_of_made parts each (fun _ => untyped.part) fun text distinct
      type => untyped parts .self text distinct type]
  | .conditional test yes no, e, made, untyped => by
    rw [toExpr] at made
    obtain ⟨test', tested, made⟩ := bind_eq_ok.1 made
    obtain ⟨yes', first, made⟩ := bind_eq_ok.1 made
    obtain ⟨no', second, made⟩ := bind_eq_ok.1 made
    cases made
    rw [value_conditional, value, ← Comparison.value_toExpr tested,
      value_of_made yes first untyped.yes, value_of_made no second untyped.no, Option.bind_eq_bind,
      Option.bind_map]
    rfl
  | .auth name, e, made, _ => by
    cases made
    rw [value_index, andThen_ident, value]
  | .state ref, e, made, _ => by
    cases made
    rw [value_ident, value]

theorem joined_of_made : (parts : List Property) → {parts' : List TemplatePart} →
    toParts types parts = .ok parts' → (∀ part ∈ parts, part.Untyped) →
    (∀ text distinct type, fixed ⟨.str text, distinct⟩ type ∈ parts → type = none) →
    TemplatePart.joined runtime scope parts' = joinedText runtime scope types parts
  | [], parts', made, _, _ => by
    cases made
    rw [TemplatePart.joined, joinedText]
  | part :: parts, parts', made, untyped, plain => by
    obtain ⟨first, rest, start, others, rfl⟩ := toParts_cons_ok made
    have tail : TemplatePart.joined runtime scope rest = joinedText runtime scope types parts :=
      joined_of_made parts others (fun part member => untyped part (.tail _ member))
        fun text distinct type member => plain text distinct type (.tail _ member)
    rcases start with ⟨text, distinct, type, rfl, rfl⟩ | ⟨e, given, rfl⟩
    · have noType := plain text distinct type (.head _)
      subst noType
      rw [TemplatePart.joined, joinedText, tail, value]
      rfl
    · rw [TemplatePart.joined, joinedText, tail, ← value_of_made part given (untyped part (.head _))]
      rfl

end

/-- A property has an expression if its operators are known, and where the component runs the
expression comes to what the property denotes. -/
theorem toExpr_keeps_value (types : ElementTypes) (property : Property)
    (untyped : property.Untyped) :
    ((∃ e, property.toExpr types = .ok e) ↔ property.OperatorsKnown) ∧
    ∀ (runtime : Runtime) (scope : Scope) (e : Expr), property.toExpr types = .ok e →
      e.value runtime scope = property.value runtime scope types :=
  ⟨property.succeeds_toExpr, fun _ _ _ made => value_of_made property made untyped⟩

/-- A greeting of the visitor, followed by a mark for members or else by the label of the title. -/
def greeting : Property :=
  .concat [.fixed ⟨.str "Hi ", trivial⟩ none, .bound ⟨"user", some "name"⟩ (some "guest, "),
    .conditional ⟨⟨"user", some "groups"⟩, "contains", ⟨.str "members", trivial⟩, none⟩
      (.fixed ⟨.str "*", trivial⟩ none) (.state ⟨"Title", "label"⟩)]

/-- Nobody is signed in, and the title, whose label is its content, says what the day is. -/
theorem toExpr_keeps_value_greeting :
    greeting.Untyped ∧ ∃ e, greeting.toExpr (.ofList [("Title", "Heading")]) = .ok e ∧
      ∀ (runtime : Runtime) (scope : Scope), scope "user" = some .undefined →
        scope "titleChildren" = some (.str "it is Monday") →
        e.value runtime scope = some (.str "Hi guest, it is Monday") := by
  have untyped : greeting.Untyped := by
    intro parts within text distinct type member
    unfold greeting at within
    cases within with
    | self =>
      have first : Literal.mk (.str text) distinct = ⟨.str "Hi ", trivial⟩ ∧ type = none := by
        simpa using member
      exact first.2
    | part inner within =>
      simp only [List.mem_cons, List.not_mem_nil, or_false] at inner
      obtain rfl | rfl | rfl := inner
      · cases within
      · cases within
      · cases within with
        | yes within => cases within
        | no within => cases within
  have kept := toExpr_keeps_value (.ofList [("Title", "Heading")]) greeting untyped
  have state : (ElementTypes.resolve (.ofList [("Title", "Heading")]) ⟨"Title", "label"⟩).getter =
      "titleChildren" := by decide
  refine ⟨untyped, _, rfl, fun runtime scope nobody title => ?_⟩
  rw [kept.2 runtime scope _ rfl]
  simp [greeting, value, joinedText, Comparison.holds, fieldOf, orDefault, nobody, title, state,
    Value.isMissing, Value.toText, Json.typedValue]

end Property

end JsxGen
