import JsxGen.Proofs.Js.Variables
import JsxGen.Proofs.Outcome
import JsxGen.Proofs.Usage
import JsxGen.PropertyExpr

/-!
The variables that the expression of a property reads: `toExpr_free` says that they are those that
the property names, whatever is nested in it. Whether there is an expression is up to the operators
of comparisons alone: `succeeds_toExpr`.
-/

namespace JsxGen

open Js

namespace Property

mutual

/-- The variables that stand for what the property reads, in order. -/
def names (types : ElementTypes) : Property → List String
  | .fixed _ _ => []
  | .bound ref _ => [ref.property]
  | .collectionBound _ _ => [itemVariable]
  | .concat parts => allNames types parts
  | .conditional test yes no =>
    test.subject.property :: (yes.names types ++ no.names types)
  | .auth _ => [authVariable]
  | .state ref => [(types.resolve ref).getter]

def allNames (types : ElementTypes) : List Property → List String
  | [] => []
  | part :: parts => part.names types ++ allNames types parts

end

theorem allNames_eq (types : ElementTypes) (parts : List Property) :
    allNames types parts = parts.flatMap (names types) := by
  induction parts with
  | nil => rw [allNames, List.flatMap_nil]
  | cons part parts ih => rw [allNames, List.flatMap_cons, ih]

end Property

namespace Js

mutual

theorem Expr.free_ofJson : (json : Json) → (Expr.ofJson json).free = []
  | .null | .bool _ | .num _ | .str _ => by rw [ofJson, free]
  | .arr items => by rw [ofJson, free, freeAll_ofItems items]
  | .obj fields => by rw [ofJson, inline, free, freeAll_ofFields fields]

theorem Expr.freeAll_ofItems : (items : List Json) → Expr.freeAll (Expr.ofItems items) = []
  | [] => by rw [ofItems, freeAll]
  | item :: items => by
    rw [ofItems, freeAll, free_ofJson item, freeAll_ofItems items, List.append_nil]

theorem Expr.freeAll_ofFields : (fields : List (String × Json)) →
    Member.freeAll (Expr.ofFields fields) = []
  | [] => by rw [ofFields, Member.freeAll]
  | (key, value) :: fields => by
    rw [ofFields, Member.freeAll, Member.ofString, Member.free, free_ofJson value,
      freeAll_ofFields fields, List.append_nil]

end

end Js

/-- The literal of a JSON value, or of a number. -/
inductive IsLiteral : Expr → Prop where
  | json (value : Json) : IsLiteral (.ofJson value)
  | num (value : Binary64) : IsLiteral (.num value)

theorem isLiteral_str (text : String) : IsLiteral (.str text) := by
  have literal := IsLiteral.json (.str text)
  rwa [Expr.ofJson] at literal

theorem isLiteral_bool (value : Bool) : IsLiteral (.bool value) := by
  have literal := IsLiteral.json (.bool value)
  rwa [Expr.ofJson] at literal

theorem isLiteral_orText {text : String} {e : Option Expr} (literal : ∀ e' ∈ e, IsLiteral e') :
    IsLiteral (orText text e) := by
  cases e with
  | none => exact isLiteral_str text
  | some e => exact literal e rfl

theorem isLiteral_numberExpr? {text : String} : ∀ e ∈ numberExpr? text, IsLiteral e := by
  intro e read
  rcases Option.map_eq_some_iff.1 read with ⟨value, _, rfl⟩
  exact .num value

theorem isLiteral_booleanExpr? {text : String} : ∀ e ∈ booleanExpr? text, IsLiteral e := by
  intro e read
  rw [Option.mem_def, booleanExpr?] at read
  split at read
  · cases read
    exact isLiteral_bool true
  · split at read
    · cases read
      exact isLiteral_bool false
    · cases read

theorem isLiteral_jsonExpr? {text : String} : ∀ e ∈ jsonExpr? text, IsLiteral e := by
  intro e read
  rcases Option.map_eq_some_iff.1 read with ⟨json, _, rfl⟩
  exact .json json

theorem isLiteral_fixedExpr (value : Json) (type : Option String) :
    IsLiteral (fixedExpr value type) := by
  unfold fixedExpr
  split
  · exact isLiteral_orText isLiteral_numberExpr?
  · exact isLiteral_orText isLiteral_booleanExpr?
  · exact isLiteral_orText isLiteral_jsonExpr?
  · exact isLiteral_orText isLiteral_jsonExpr?
  · exact .json _

theorem isLiteral_operandExpr (operand : Json) (type : Option String) :
    IsLiteral (operandExpr operand type) := by
  unfold operandExpr
  split
  · exact isLiteral_orText isLiteral_numberExpr?
  · exact isLiteral_orText isLiteral_numberExpr?
  · exact isLiteral_orText isLiteral_numberExpr?
  · exact isLiteral_orText isLiteral_booleanExpr?
  · exact .json _

theorem IsLiteral.free {e : Expr} (literal : IsLiteral e) : e.free = [] := by
  cases literal with
  | json value => exact Expr.free_ofJson value
  | num value => rw [Expr.free]

theorem PropRef.access_free (base : String) (field : Option String) :
    (PropRef.access base field).free = [base] := by
  cases field with
  | none => rw [access, Expr.free]
  | some field => rw [access, Expr.free, Expr.free]

theorem withFallback_free (value : Expr) (fallback : Option String) :
    (withFallback value fallback).free = value.free := by
  cases fallback with
  | none => rw [withFallback]
  | some text => rw [withFallback, Expr.free, Expr.free, List.append_nil]

theorem Comparison.toExpr_free {test : Comparison} {e : Expr} (made : test.toExpr = .ok e) :
    e.free = [test.subject.property] := by
  unfold toExpr at made
  dsimp only at made
  split at made
  · cases made
    rw [Expr.free, Expr.free, Expr.freeAll, Expr.freeAll, PropRef.access_free,
      (isLiteral_operandExpr _ _).free]
    rfl
  · split at made
    · cases made
      rw [Expr.free, PropRef.access_free, (isLiteral_operandExpr _ _).free]
      rfl
    · cases made

namespace Property

variable {types : ElementTypes}

/-- The text of a fixed string is copied; any other part is computed. -/
theorem toParts_cons_ok {part : Property} {parts : List Property} {parts' : List TemplatePart}
    (made : toParts types (part :: parts) = .ok parts') :
    ∃ first rest, ((∃ text distinct type, part = .fixed ⟨.str text, distinct⟩ type ∧
        first = .text text) ∨ ∃ e, part.toExpr types = .ok e ∧ first = .expr e) ∧
      toParts types parts = .ok rest ∧ parts' = first :: rest := by
  unfold toParts at made
  split at made
  · obtain ⟨first, start, made⟩ := bind_eq_ok.1 made
    obtain ⟨rest, others, made⟩ := bind_eq_ok.1 made
    cases start
    cases made
    exact ⟨_, rest, .inl ⟨_, _, _, rfl, rfl⟩, others, rfl⟩
  · obtain ⟨e, given, made⟩ := bind_eq_ok.1 made
    obtain ⟨first, start, made⟩ := bind_eq_ok.1 made
    obtain ⟨rest, others, made⟩ := bind_eq_ok.1 made
    cases start
    cases made
    exact ⟨_, rest, .inr ⟨e, given, rfl⟩, others, rfl⟩

mutual

theorem toExpr_free : (property : Property) → {e : Expr} → property.toExpr types = .ok e →
    e.free = property.names types
  | .fixed value type, e, made => by
    cases made
    rw [(isLiteral_fixedExpr value.json type).free, names]
  | .bound ref fallback, e, made => by
    cases made
    rw [withFallback_free, PropRef.access_free, names]
  | .collectionBound ref fallback, e, made => by
    cases made
    rw [withFallback_free, PropRef.access_free, names]
  | .concat parts, e, made => by
    rw [toExpr] at made
    obtain ⟨parts', each, made⟩ := bind_eq_ok.1 made
    cases made
    rw [Expr.free, toParts_free parts each, names]
  | .conditional test yes no, e, made => by
    rw [toExpr] at made
    obtain ⟨test', tested, made⟩ := bind_eq_ok.1 made
    obtain ⟨yes', first, made⟩ := bind_eq_ok.1 made
    obtain ⟨no', second, made⟩ := bind_eq_ok.1 made
    cases made
    rw [Expr.free, Comparison.toExpr_free tested, toExpr_free yes first, toExpr_free no second,
      names, List.singleton_append]
  | .auth name, e, made => by
    cases made
    rw [Expr.free, Expr.free, Expr.free, names, List.append_nil]
  | .state ref, e, made => by
    cases made
    rw [Expr.free, names]

theorem toParts_free : (parts : List Property) → {parts' : List TemplatePart} →
    toParts types parts = .ok parts' → TemplatePart.freeAll parts' = allNames types parts
  | [], parts', made => by
    cases made
    rw [TemplatePart.freeAll, allNames]
  | part :: parts, parts', made => by
    rcases toParts_cons_ok made with ⟨first, rest, start, others, rfl⟩
    have same : first.free = part.names types := by
      rcases start with ⟨text, distinct, type, rfl, rfl⟩ | ⟨e, given, rfl⟩
      · rw [TemplatePart.free, names]
      · rw [TemplatePart.free, toExpr_free part given]
    rw [TemplatePart.freeAll, same, toParts_free parts others, allNames]

end

theorem Within.names_subset {inner outer : Property} (within : inner.Within outer) :
    inner.names types ⊆ outer.names types := by
  intro name named
  induction within with
  | self => exact named
  | part member _ ih =>
    rw [names, allNames_eq]
    exact List.mem_flatMap_of_mem member ih
  | yes _ ih =>
    rw [names]
    exact List.mem_cons_of_mem _ (List.mem_append_left _ ih)
  | no _ ih =>
    rw [names]
    exact List.mem_cons_of_mem _ (List.mem_append_right _ ih)

end Property

theorem comparisonOp?_isSome {operator : String} :
    (comparisonOp? operator).isSome ↔ operator ∈ ["eq", "ne", "lt", "gt", "le", "ge"] := by
  unfold comparisonOp?
  split <;> simp_all

namespace Comparison

/-- The operators that a comparison can be written with. -/
def operators : List String := ["eq", "ne", "lt", "gt", "le", "ge", "contains"]

theorem succeeds_toExpr (test : Comparison) : Succeeds test.toExpr ↔ test.operator ∈ operators := by
  have listed : test.operator ∈ operators ↔
      (comparisonOp? test.operator).isSome ∨ test.operator = "contains" := by
    simp [comparisonOp?_isSome, operators, or_assoc]
  rw [listed, toExpr]
  split
  · rename_i contains
    exact iff_of_true (succeeds_ok _) (.inr contains)
  · rename_i other
    rw [or_iff_left other]
    cases comparisonOp? test.operator with
    | none => exact iff_of_false (not_succeeds_error _) Bool.false_ne_true
    | some op => exact iff_of_true (succeeds_ok _) rfl

end Comparison

namespace Property

/-- Every comparison in the property, at whatever depth, is by an operator that is known. -/
def OperatorsKnown (property : Property) : Prop :=
  ∀ test yes no, (conditional test yes no).Within property → test.operator ∈ Comparison.operators

theorem operatorsKnown_concat {parts : List Property} :
    (concat parts).OperatorsKnown ↔ ∀ part ∈ parts, part.OperatorsKnown := by
  constructor
  · intro known part member test yes no within
    exact known test yes no (.part member within)
  · intro each test yes no within
    cases within with
    | part member within => exact each _ member test yes no within

theorem operatorsKnown_conditional {test : Comparison} {yes no : Property} :
    (conditional test yes no).OperatorsKnown ↔
      test.operator ∈ Comparison.operators ∧ yes.OperatorsKnown ∧ no.OperatorsKnown := by
  constructor
  · intro known
    exact ⟨known test yes no .self, fun _ _ _ within => known _ _ _ (.yes within),
      fun _ _ _ within => known _ _ _ (.no within)⟩
  · rintro ⟨own, first, second⟩ _ _ _ within
    cases within with
    | self => exact own
    | yes within => exact first _ _ _ within
    | no within => exact second _ _ _ within

variable {types : ElementTypes}

mutual

/-- A property has an expression exactly if its operators are known. -/
theorem succeeds_toExpr : (property : Property) →
    (Succeeds (property.toExpr types) ↔ property.OperatorsKnown)
  | .concat parts => by
    rw [toExpr, succeeds_bind_pure, succeeds_toParts parts, operatorsKnown_concat]
  | .conditional test yes no => by
    rw [toExpr, succeeds_bind_of fun _ => succeeds_bind_of fun _ => succeeds_bind_pure,
      test.succeeds_toExpr, succeeds_toExpr yes, succeeds_toExpr no, operatorsKnown_conditional]
  | .bound _ _ | .collectionBound _ _ | .auth _ | .state _ | .fixed _ _ => by
    rw [toExpr]
    refine iff_of_true (succeeds_ok _) fun _ _ _ within => ?_
    cases within

theorem succeeds_toParts : (parts : List Property) →
    (Succeeds (toParts types parts) ↔ ∀ part ∈ parts, part.OperatorsKnown)
  | [] => by
    rw [toParts]
    exact iff_of_true (succeeds_ok _) (by simp)
  | part :: parts => by
    rw [List.forall_mem_cons, ← succeeds_toExpr part, ← succeeds_toParts parts, toParts.eq_def]
    dsimp only
    split
    · rw [toExpr, succeeds_bind_of fun _ => succeeds_bind_pure]
      exact and_congr_left' (iff_of_true (succeeds_ok _) (succeeds_ok _))
    · refine succeeds_bind_of fun e => ?_
      rw [succeeds_bind_of fun _ => succeeds_bind_pure]
      exact and_iff_right (succeeds_ok _)

end

end Property

end JsxGen
