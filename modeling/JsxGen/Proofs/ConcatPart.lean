import JsxGen.Proofs.Js.StringConversion
import JsxGen.Proofs.PropertyValue

/-!
What a part of a concatenation contributes to the template, beside what the property comes to when it
stands alone. A fixed string is copied, and the type beside it is passed over:
`concat_contributes_iff` says when the two are the same.
-/

namespace JsxGen

open Js

namespace Property

variable {types : ElementTypes}

/-- The part of a template that is made of a property. -/
def toPart (types : ElementTypes) (property : Property) : Except InputError TemplatePart :=
  match property with
  | .fixed ⟨.str text, _⟩ _ => .ok (.text text)
  | property => do
    let e ← property.toExpr types
    .ok (.expr e)

theorem toParts_eq_mapM (parts : List Property) :
    toParts types parts = parts.mapM (toPart types) := by
  induction parts with
  | nil => rw [toParts]; rfl
  | cons part parts ih =>
    rw [toParts.eq_def, List.mapM_cons, ← ih]
    dsimp only
    split
    · rfl
    · rename_i noString
      rw [toPart, bind_assoc]
      exact noString

/-- What the string spells as a value of the type beside it, if it does, is converted back to the
string itself. -/
def KeepsSpelling (other : Value → Option String) : Property → Prop
  | .fixed ⟨.str text, _⟩ (some type) =>
    ∀ v ∈ Value.spelled type text, v.spelling other = some text
  | _ => True

theorem keepsSpelling_boolean (other : Value → Option String) (text : String) :
    (fixed ⟨.str text, trivial⟩ (some "Boolean")).KeepsSpelling other := by
  intro v spelled
  change v ∈ Value.spelledFlag text at spelled
  unfold Value.spelledFlag at spelled
  split at spelled
  all_goals cases spelled
  all_goals rw [Value.spelling]; rfl

theorem keepsSpelling_number_iff (other : Value → Option String) (text : String) :
    (fixed ⟨.str text, trivial⟩ (some "Number")).KeepsSpelling other ↔
      ∀ number ∈ Number.read? text, numberText number = text.toList := by
  have back (number : Binary64) : (Value.num number).spelling other = some text ↔
      numberText number = text.toList := by
    rw [Value.spelling, Option.some.injEq, ← String.toList_inj, String.toList_ofList]
  change (∀ v ∈ (Number.read? text).map Value.num, v.spelling other = some text) ↔ _
  cases Number.read? text with
  | none => simp
  | some number => simp [back]

/-- The copied text is that of the value if the string spells nothing, or if it is spelled back. -/
theorem spelling_typedValue_iff (other : Value → Option String) (text : String)
    (distinct : (Json.str text).Distinct) (type : Option String) :
    some text = ((Json.str text).typedValue Value.spelled type).spelling other ↔
      (fixed ⟨.str text, distinct⟩ type).KeepsSpelling other := by
  cases type with
  | none =>
    change some text = (Value.str text).spelling other ↔ True
    rw [Value.spelling, eq_self]
  | some type =>
    change some text = ((Value.spelled type text).getD (.str text)).spelling other ↔
      ∀ v ∈ Value.spelled type text, v.spelling other = some text
    cases Value.spelled type text with
    | none => simp [Value.spelling]
    | some v => simp [eq_comm]

theorem contributes_iff {part : Property} {first : TemplatePart}
    (made : part.toPart types = .ok first) {runtime : Runtime} {other : Value → Option String}
    (spells : runtime.Spells other) :
    ∃ own, part.toExpr types = .ok own ∧ ∀ scope,
      (first.shown runtime scope = (own.value runtime scope).bind (Value.spelling other) ↔
        part.KeepsSpelling other) := by
  unfold toPart at made
  split at made
  · rename_i text distinct type
    cases made
    refine ⟨_, rfl, fun scope => ?_⟩
    rw [value_fixedExpr distinct type, Option.bind_some, TemplatePart.shown]
    exact spelling_typedValue_iff other text distinct type
  · rename_i noString
    obtain ⟨own, given, made⟩ := bind_eq_ok.1 made
    cases made
    refine ⟨own, given, fun scope => iff_of_true ?_ ?_⟩
    · rw [TemplatePart.shown, funext spells]
    · unfold KeepsSpelling
      split
      · exact (noString _ _ _ rfl).elim
      · trivial

theorem concat_contributes_iff {parts : List Property} {e : Expr}
    (made : (concat parts).toExpr types = .ok e) {runtime : Runtime}
    {other : Value → Option String} (spells : runtime.Spells other) :
    ∃ parts', e = .template parts' ∧
      (∀ scope, e.value runtime scope =
        (parts'.mapM (TemplatePart.shown runtime scope)).map fun texts => .str (String.join texts)) ∧
      List.Forall₂ (fun part first => ∃ own, part.toExpr types = .ok own ∧ ∀ scope,
        (first.shown runtime scope = (own.value runtime scope).bind (Value.spelling other) ↔
          part.KeepsSpelling other)) parts parts' := by
  rw [toExpr] at made
  obtain ⟨parts', each, made⟩ := bind_eq_ok.1 made
  cases made
  refine ⟨parts', rfl, fun scope => ?_, ?_⟩
  · rw [value_template, TemplatePart.joined_eq, Option.map_map]
    rfl
  · rw [toParts_eq_mapM, mapM_eq_ok] at each
    exact each.imp fun part first given => contributes_iff given spells

theorem toExpr_number {text : String} {number : Binary64} (read : Number.read? text = some number) :
    (fixed ⟨.str text, trivial⟩ (some "Number")).toExpr types = .ok (.num number) := by
  rw [toExpr, fixedExpr, orText, numberExpr?, read]
  rfl

/-- A number that is spelled as it is converted is the same in a template as alone. -/
theorem concat_contributes_twelve :
    let twelve : Property := fixed ⟨.str "12", trivial⟩ (some "Number")
    let number : Expr := .num (.ofInt 12)
    Runtime.bare.Spells (fun _ => none) ∧ twelve.KeepsSpelling (fun _ => none) ∧
      (concat [twelve]).toExpr ∅ = .ok (.template [.text "12"]) ∧ twelve.toExpr ∅ = .ok number ∧
      ∀ scope, (TemplatePart.text "12").shown Runtime.bare scope =
        (number.value Runtime.bare scope).bind (Value.spelling fun _ => none) := by
  intro twelve number
  have keeps : twelve.KeepsSpelling fun _ => none :=
    (keepsSpelling_number_iff _ _).2 (by decide +kernel)
  have alone : twelve.toExpr ∅ = .ok number := toExpr_number (by decide +kernel)
  have made : (concat [twelve]).toExpr ∅ = .ok (.template [.text "12"]) := rfl
  refine ⟨Runtime.spells_bare, keeps, made, alone, fun scope => ?_⟩
  obtain ⟨parts, same, _, each⟩ := concat_contributes_iff made Runtime.spells_bare
  cases same
  obtain ⟨⟨own, given, contributes⟩, _⟩ := List.forall₂_cons.1 each
  cases alone.symm.trans given
  exact (contributes scope).2 keeps

/-- The zeros ahead of a number are copied, where the number itself is converted without them. -/
theorem leading_zeros_copied :
    let seven : Property := fixed ⟨.str "007", trivial⟩ (some "Number")
    let number : Expr := .num (.ofInt 7)
    (concat [seven]).toExpr ∅ = .ok (.template [.text "007"]) ∧ seven.toExpr ∅ = .ok number ∧
      ∀ scope, (TemplatePart.text "007").shown Runtime.bare scope = some "007" ∧
        (number.value Runtime.bare scope).bind (Value.toText Runtime.bare) = some "7" := by
  intro seven number
  have alone : seven.toExpr ∅ = .ok number := toExpr_number (by decide +kernel)
  refine ⟨rfl, alone, fun scope => ⟨rfl, ?_⟩⟩
  have spelled : numberText (.ofInt 7) = ['7'] := by decide +kernel
  rw [value_num, Option.bind_some, Runtime.spells_bare, Value.spelling, spelled]

end Property

end JsxGen
