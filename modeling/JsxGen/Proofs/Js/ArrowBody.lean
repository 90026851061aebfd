import JsxGen.Proofs.Js.Clear
import JsxGen.Proofs.Js.Readable

/-!
How the body of an arrow begins. A brace behind the arrow opens a block, so a body that is an object
literal gets brackets; a body whose text only starts with such a literal does not:
`Expr.arrow_opens_block_iff` says which bodies these are.
-/

namespace JsxGen.Js

variable {width depth : Nat}

/-- The parameters and the arrow. -/
def arrowHead (params : List String) : List Char :=
  '(' :: (separated (params.map String.toList) ++ [')', ' ', '=', '>', ' '])

theorem head?_bracketed_append_iff {rest : List Char} (other : rest.head? ≠ some '\x7b')
    (needed : Bool) (text : List Char) :
    (bracketed needed text ++ rest).head? = some '\x7b' ↔
      needed = false ∧ text.head? = some '\x7b' := by
  cases needed with
  | true => simp [bracketed]
  | false => cases text <;> simp [bracketed, other]

namespace Expr

/-- A name that is spelled with a brace, and the calls and accesses behind it. -/
inductive NameLed : Expr → Prop where
  | ident {name : String} (brace : name.toList.head? = some '\x7b') : NameLed (ident name)
  | call {callee : Expr} (led : callee.NameLed) (args : List Expr) : NameLed (call callee args)
  | member {object : Expr} (led : object.NameLed) (property : String) (optional : Bool) :
    NameLed (member object property optional)
  | index {object : Expr} (led : object.NameLed) (at_ : Expr) (optional : Bool) :
    NameLed (index object at_ optional)

/-- The text starts with a brace and has no operator on its level. -/
inductive OpensOperand : Expr → Prop where
  | object (members : List Member) (multiline : Bool) : OpensOperand (object members multiline)
  | name {e : Expr} (led : e.NameLed) : OpensOperand e

/-- The text starts with a brace: an operand that does so stands alone, is compared, or is tested by a
conditional, which may compare it first. -/
inductive OpensBrace : Expr → Prop where
  | operand {e : Expr} (opens : e.OpensOperand) : OpensBrace e
  | binary {left : Expr} (opens : left.OpensOperand) (op : BinaryOp) (right : Expr) :
    OpensBrace (binary left op right)
  | test {test : Expr} (opens : test.OpensOperand) (yes no : Expr) :
    OpensBrace (conditional test yes no)
  | testedBinary {left : Expr} (opens : left.OpensOperand) (op : BinaryOp) (right yes no : Expr) :
    OpensBrace (conditional (binary left op right) yes no)

theorem NameLed.not_apart {e : Expr} (led : e.NameLed) : e.apartAsObject = false := by
  cases led <;> rfl

theorem OpensOperand.not_apart {e : Expr} (opens : e.OpensOperand) : e.apartAsOperand = false := by
  cases opens with
  | object members multiline => rfl
  | name led => exact apartAsOperand_of_object led.not_apart

theorem OpensBrace.nameLed {e : Expr} (opens : e.OpensBrace) (bare : e.apartAsObject = false) :
    e.NameLed := by
  cases opens with
  | operand opens =>
    cases opens with
    | object => contradiction
    | name led => exact led
  | binary | test | testedBinary => contradiction

theorem OpensBrace.opensOperand {e : Expr} (opens : e.OpensBrace)
    (bare : e.apartAsOperand = false) : e.OpensOperand := by
  cases opens with
  | operand opens => exact opens
  | binary | test | testedBinary => contradiction

theorem OpensBrace.conditional {test : Expr} (opens : test.OpensBrace)
    (bare : test.apartAsBranch = false) (yes no : Expr) :
    (conditional test yes no).OpensBrace := by
  cases opens with
  | operand opens => exact .test opens yes no
  | binary opens op right => exact .testedBinary opens op right yes no
  | test | testedBinary => contradiction

theorem head?_chars_num (value : Binary64) :
    ((num value).chars width depth).head? ≠ some '\x7b' := by
  intro brace
  have text : (num value).chars width depth = numeral value := by simp [chars, layout]
  rw [text] at brace
  have numeralBrace : isNumeralChar '\x7b' :=
    isNumeralChar_of_mem_numeral value _ (List.mem_of_mem_head? brace)
  exact absurd numeralBrace (by decide)

theorem head?_chars_jsx (element : JsxElement) :
    ((jsx element).chars width depth).head? = some '<' := by
  obtain ⟨tag, attributes, children⟩ := element
  cases children with
  | nil => simp [chars, layout, JsxElement.layout]
  | cons child children => simp [chars, layout, JsxElement.layout]

theorem head?_chars_arrowBlock (params : List String) (body : List Stmt) :
    ((arrowBlock params body).chars width depth).head? = some '(' := by
  simp [chars, layout, paramsLayout]

theorem head?_chars_object (members : List Member) (multiline : Bool) :
    ((object members multiline).chars width depth).head? = some '\x7b' := by
  have opened : ∃ more, (Expr.object members multiline).chars width depth = '\x7b' :: more :=
    chars_object_cons members multiline
  rcases opened with ⟨more, text⟩
  rw [text, List.head?_cons]

section leftEnd

variable (width depth)

/-- The left end of a text is that of what stands first, if it stands there without brackets. -/
theorem head?_chars_call {callee : Expr} (args : List Expr) :
    ((call callee args).chars width depth).head? = some '\x7b' ↔
      callee.apartAsObject = false ∧ (callee.chars width depth).head? = some '\x7b' := by
  rw [chars_call, head?_bracketed_append_iff (by simp)]

theorem head?_chars_member {inner : Expr} (property : String) (optional : Bool) :
    ((member inner property optional).chars width depth).head? = some '\x7b' ↔
      inner.apartAsObject = false ∧ (inner.chars width depth).head? = some '\x7b' := by
  rw [chars_member, head?_bracketed_append_iff]
  cases optional <;> simp

theorem head?_chars_index {inner : Expr} (at_ : Expr) (optional : Bool) :
    ((index inner at_ optional).chars width depth).head? = some '\x7b' ↔
      inner.apartAsObject = false ∧ (inner.chars width depth).head? = some '\x7b' := by
  rw [chars_index, head?_bracketed_append_iff]
  cases optional <;> simp

theorem head?_chars_binary {left : Expr} (op : BinaryOp) (right : Expr) :
    ((binary left op right).chars width depth).head? = some '\x7b' ↔
      left.apartAsOperand = false ∧ (left.chars width depth).head? = some '\x7b' := by
  rw [chars_binary, head?_bracketed_append_iff (by simp)]

theorem head?_chars_conditional {test : Expr} (yes no : Expr) :
    ((conditional test yes no).chars width depth).head? = some '\x7b' ↔
      test.apartAsBranch = false ∧ (test.chars width depth).head? = some '\x7b' := by
  rw [chars_conditional, head?_bracketed_append_iff (by simp)]

end leftEnd

theorem NameLed.head? {e : Expr} (led : e.NameLed) :
    (e.chars width depth).head? = some '\x7b' := by
  induction led with
  | ident brace => rwa [chars_ident]
  | call led args ih => exact (head?_chars_call width depth args).2 ⟨led.not_apart, ih⟩
  | member led property optional ih =>
    exact (head?_chars_member width depth property optional).2 ⟨led.not_apart, ih⟩
  | index led at_ optional ih =>
    exact (head?_chars_index width depth at_ optional).2 ⟨led.not_apart, ih⟩

theorem OpensOperand.head? {e : Expr} (opens : e.OpensOperand) :
    (e.chars width depth).head? = some '\x7b' := by
  cases opens with
  | object members multiline => exact head?_chars_object members multiline
  | name led => exact led.head?

theorem OpensBrace.head? {e : Expr} (opens : e.OpensBrace) :
    (e.chars width depth).head? = some '\x7b' := by
  cases opens with
  | operand opens => exact opens.head?
  | binary opens op right =>
    exact (head?_chars_binary width depth op right).2 ⟨opens.not_apart, opens.head?⟩
  | test opens yes no =>
    exact (head?_chars_conditional width depth yes no).2
      ⟨apartAsBranch_of_operand opens.not_apart, opens.head?⟩
  | testedBinary opens op right yes no =>
    exact (head?_chars_conditional width depth yes no).2
      ⟨rfl, (head?_chars_binary width depth op right).2 ⟨opens.not_apart, opens.head?⟩⟩

/-- Brackets shut off all other ways down to a brace. -/
theorem opensBrace_of_head? (e : Expr) (brace : (e.chars width depth).head? = some '\x7b') :
    e.OpensBrace := by
  match e with
  | ident name =>
    rw [chars_ident] at brace
    exact .operand (.name (.ident brace))
  | str value => simp [chars_str] at brace
  | num value => exact absurd brace (head?_chars_num value)
  | bool value => cases value <;> simp [chars_bool] at brace
  | null => simp [chars_null] at brace
  | object members multiline => exact .operand (.object members multiline)
  | array items => simp [chars_array] at brace
  | call callee args =>
    obtain ⟨bare, inner⟩ := (head?_chars_call width depth args).1 brace
    have led := (opensBrace_of_head? callee inner).nameLed bare
    exact .operand (.name (.call led args))
  | member source property optional =>
    obtain ⟨bare, inner⟩ := (head?_chars_member width depth property optional).1 brace
    have led := (opensBrace_of_head? source inner).nameLed bare
    exact .operand (.name (.member led property optional))
  | index source at_ optional =>
    obtain ⟨bare, inner⟩ := (head?_chars_index width depth at_ optional).1 brace
    have led := (opensBrace_of_head? source inner).nameLed bare
    exact .operand (.name (.index led at_ optional))
  | arrow params body => simp [chars_arrow] at brace
  | arrowBlock params body => simp [head?_chars_arrowBlock] at brace
  | binary left op right =>
    obtain ⟨bare, inner⟩ := (head?_chars_binary width depth op right).1 brace
    exact .binary ((opensBrace_of_head? left inner).opensOperand bare) op right
  | conditional test yes no =>
    obtain ⟨bare, inner⟩ := (head?_chars_conditional width depth yes no).1 brace
    exact (opensBrace_of_head? test inner).conditional bare yes no
  | template parts => simp [chars_template] at brace
  | jsx element => simp [head?_chars_jsx] at brace

theorem head?_chars_iff {e : Expr} :
    (e.chars width depth).head? = some '\x7b' ↔ e.OpensBrace :=
  ⟨opensBrace_of_head? e, OpensBrace.head?⟩

theorem arrow_opens_block_iff (width depth : Nat) (params : List String) (body : Expr) :
    ∃ shown, ((arrow params body).layout depth).chars width = arrowHead params ++ shown ∧
      (shown.head? = some '\x7b' ↔ body.isObject = false ∧ body.OpensBrace) := by
  refine ⟨bracketed body.isObject (body.chars width depth), ?_, ?_⟩
  · rw [← chars, chars_arrow]
    simp [arrowHead]
  · rw [← List.append_nil (bracketed _ _), head?_bracketed_append_iff (by simp), head?_chars_iff]

/-- Brackets are set around an object that is the whole body, not around one that is compared. -/
theorem object_compared_opens_block :
    (arrow [] (inline [])).text 2 = "() => (\x7b\x7d)" ∧
      (arrow [] (binary (inline []) .strictEq (ident "x"))).text 2 = "() => \x7b\x7d === x" ∧
      ¬∀ shown, ((arrow [] (binary (inline []) .strictEq (ident "x"))).layout 0).chars 2 =
        arrowHead [] ++ shown → shown.head? ≠ some '\x7b' := by
  refine ⟨by decide, by decide, fun never => ?_⟩
  exact never "\x7b\x7d === x".toList (by decide) (by decide)

end Expr

end JsxGen.Js
