import JsxGen.Names
import JsxGen.Proofs.Text.Words
import JsxGen.Validation

/-!
Which of the names that a source is made with are identifiers. A component is accepted if an
identifier can hold some character of its name; `isIdentifier_functionName_iff` says for which names
the function has an identifier for its own, `isIdentifier_join_iff` the same of variables.
-/

namespace JsxGen

open Text

/-- The function has a name, and one that does not start with a digit, if some character of the
words gives what is kept in it first, and this one is no digit. -/
theorem isIdentifier_functionName_iff (name : String) :
    isIdentifier (functionName name) ↔ ∃ c, pascalHead? name = some c ∧ c.isDigit = false := by
  rw [functionName, isIdentifier_pascal, Option.any_eq_true]
  simp only [Bool.not_eq_true']

/-- An ASCII name has to have a letter as the first of its letters and digits. -/
theorem isIdentifier_functionName_of_ascii {name : String}
    (ascii : ∀ c ∈ name.toList, c.toNat < 0x80) :
    isIdentifier (functionName name) ↔
      ∃ c, name.toList.find? Char.isAlphanum = some c ∧ c.isAlpha := by
  rw [isIdentifier_functionName_iff, pascalHead?_of_ascii ascii]
  refine exists_congr fun c => and_congr_right fun first => ?_
  have alphanumeric := List.find?_some first
  constructor
  · intro other
    rwa [Char.isAlphanum, other, Bool.or_false] at alphanumeric
  · exact isDigit_eq_false_of_isAlpha

/-- An underscore can stand in an identifier, but between words it is dropped: the function of a
component that is called so has no name. A digit ahead of the first word stays where it is. -/
theorem functionName_of_accepted :
    let component (name : String) : Component :=
      ⟨none, .ofName name "View", ∅, none, [], none⟩
    ((component "_").validate = .ok () ∧ functionName "_" = "" ∧
      isIdentifier (functionName "_") = false) ∧
    (component "1 card").validate = .ok () ∧ functionName "1 card" = "1Card" ∧
      isIdentifier (functionName "1 card") = false := by
  refine ⟨⟨rfl, ?_, ?_⟩, rfl, ?_, ?_⟩
  all_goals decide

theorem isIdentifier_variableStem (name : String) :
    isIdentifier (variableStem name) = beginsName name := by
  rw [variableStem, (isIdentifier_lowerFirst isIdentifierPart_of_mem_sanitize).1,
    isIdentifier_sanitize]

theorem variableStem_eq_empty {name : String} : variableStem name = "" ↔ sanitize name = "" := by
  rw [variableStem, (isIdentifier_lowerFirst isIdentifierPart_of_mem_sanitize).2]

theorem isIdentifier_relatedVariable {model : String} (begins : beginsName model) :
    isIdentifier (relatedVariable model) := by
  have ending : isIdentifier "Items" := by decide
  refine isIdentifier_append_iff.2 (.inl ⟨?_, isIdentifierPart_of_mem ending⟩)
  rwa [isIdentifier_variableStem]

/-- A variable is named by what is kept of the name of an element, followed by all of the name of
what it holds there. The first may be empty if the second can stand alone. -/
def Joins (element part : String) : Prop :=
  (beginsName element ∧ ∀ c ∈ (capitalize part).toList, isIdentifierPart c) ∨
    sanitize element = "" ∧ isIdentifier (capitalize part)

theorem isIdentifier_join_iff {element part : String} :
    isIdentifier (variableStem element ++ capitalize part) ↔ Joins element part := by
  rw [isIdentifier_append_iff, isIdentifier_variableStem, variableStem_eq_empty, Joins]

theorem isIdentifier_getter_iff {ref : StateRef} :
    isIdentifier ref.getter ↔ Joins ref.component ref.property :=
  isIdentifier_join_iff

theorem isIdentifier_setter {ref : StateRef} (getter : isIdentifier ref.getter) :
    isIdentifier ref.setter :=
  isIdentifier_append_iff.2 (.inl ⟨by decide,
    isIdentifierPart_of_mem_capitalize (isIdentifierPart_of_mem getter)⟩)

/-- Behind the word `set`, what is kept of a field's name can be anything, or nothing. -/
theorem isIdentifier_fieldSetter (field : String) : isIdentifier (fieldSetter field) :=
  isIdentifier_append_iff.2 (.inl ⟨by decide,
    isIdentifierPart_of_mem_capitalize isIdentifierPart_of_mem_sanitize⟩)

theorem isIdentifier_handlerName_iff {element event : String} :
    isIdentifier (handlerName element event) ↔ Joins element event :=
  isIdentifier_join_iff

end JsxGen
