import JsxGen.Proofs.ConcatPart
import JsxGen.Proofs.Js.JsonLiteral
import JsxGen.Proofs.Js.Numeral
import JsxGen.Proofs.Number.Overflow

/-!
The source that stands for a fixed text that is meant as a number. `fixed_number_source_iff` says for
which texts it is that of a number or of a string.
-/

namespace JsxGen

open Js

/-- Source of a number, or of the text as a string. -/
inductive NumberOrText (text : List Char) : List Char → Prop where
  | decimal (negative : Bool) {literal : List Char} (decimal : DecimalLiteral literal) :
    NumberOrText text (signed negative literal)
  | nan : NumberOrText text "NaN".toList
  | infinity (negative : Bool) : NumberOrText text (signed negative "Infinity".toList)
  | quoted {inner : List Char} (read : readEscaped inner = some (text, [])) :
    NumberOrText text ('"' :: inner)

namespace NumberOrText

variable {text : List Char}

theorem not_inf (negative : Bool) : ¬NumberOrText text (signed negative "inf".toList) := by
  intro source
  generalize word : signed negative "inf".toList = printed at source
  cases source with
  | decimal sign literal =>
    obtain ⟨c, rest, rfl, digit⟩ := literal.exists_head
    cases negative <;> cases sign <;> cases word <;> exact absurd digit (by decide)
  | nan => cases negative <;> cases word
  | infinity sign => cases negative <;> cases sign <;> cases word
  | quoted read => cases negative <;> cases word

theorem numeral_iff (value : Binary64) :
    NumberOrText text (numeral value) ↔ ¬value.IsInfinite := by
  cases value with
  | finite negative mantissa exponent canonical =>
    obtain ⟨sign, literal, written, form⟩ :=
      exists_decimalLiteral negative mantissa exponent canonical
    rw [written]
    exact iff_of_true (.decimal sign form) nofun
  | infinite negative =>
    exact iff_of_false (not_inf negative) (not_not.2 (Binary64.isInfinite_infinite negative))
  | nan => exact iff_of_true .nan Binary64.not_isInfinite_nan

theorem of_stringLiteral (text : List Char) : NumberOrText text (stringLiteral text) :=
  .quoted (readEscaped_quoted text [])

end NumberOrText

namespace Property

/-- A fixed text that is meant as a number stands in the source as a number or as a string, unless it
names an infinite number. -/
theorem fixed_number_source_iff (types : ElementTypes) (text : String) (width depth : Nat) :
    ∃ e, (fixed ⟨.str text, trivial⟩ (some "Number")).toExpr types = .ok e ∧
      (NumberOrText text.toList ((e.layout depth).chars width) ↔ ¬Number.NamesInfinity text) := by
  rw [← Number.read?_isInfinite_iff]
  cases read : Number.read? text with
  | none =>
    refine ⟨.str text, ?_, iff_of_true ?_ fun ⟨_, found, _⟩ => nomatch found⟩
    · rw [toExpr, fixedExpr, orText, numberExpr?, read]
      rfl
    · rw [Expr.layout, Layout.chars_plainChars]
      exact .of_stringLiteral text.toList
  | some value =>
    refine ⟨.num value, toExpr_number read, ?_⟩
    rw [Expr.layout, Layout.chars_plainChars, NumberOrText.numeral_iff]
    simp

/-- An infinite number is written as a word that reads as a variable. -/
theorem infinity_read_as_variable :
    ∃ e, (fixed ⟨.str "inf", trivial⟩ (some "Number")).toExpr ∅ = .ok e ∧
      (e.layout 0).text 2 = "inf" ∧ readExpr 9 "inf".toList = some (.ident "inf", []) ∧
      ¬NumberOrText "inf".toList ((e.layout 0).chars 2) := by
  refine ⟨.num (.infinite false), toExpr_number (by decide +kernel), rfl, ?_, ?_⟩
  · rfl
  · exact NumberOrText.not_inf false

end Property

end JsxGen
