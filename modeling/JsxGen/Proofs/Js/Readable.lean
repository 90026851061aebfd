import JsxGen.Proofs.Js.Layout
import JsxGen.Proofs.Js.Reader
import JsxGen.Proofs.Text.Identifier
import Mathlib.Data.List.Chain

/-!
Expressions that can be read back from their text, and how their text starts. An arrow is told from
an expression in brackets by its parameters alone: `arrowHead?_chars`.
-/

namespace JsxGen

open Text (isIdentifier isIdentifierStart isIdentifierPart)

namespace Js

/-- The expression of a member. -/
def Member.value : Member → Expr
  | .spread source => source
  | .property _ value => value

def Key.Named : Key → Prop
  | .bare name => isIdentifier name
  | .quoted _ => True

def Member.Named : Member → Prop
  | .spread _ => True
  | .property key _ => key.Named

def TemplatePart.isText : TemplatePart → Bool
  | .text _ => true
  | .expr _ => false

/-- Expressions without numbers, markup and statements in which names are identifiers and nothing
is kept that has no text. -/
inductive Expr.Readable : Expr → Prop where
  | ident {name : String} (identifier : isIdentifier name)
    (free : name ∉ ["null", "true", "false"]) : Readable (.ident name)
  | str (value : String) : Readable (.str value)
  | bool (value : Bool) : Readable (.bool value)
  | null : Readable .null
  | object {members : List Member} {multiline : Bool} (named : ∀ m ∈ members, m.Named)
    (values : ∀ m ∈ members, Readable m.value) (lines : members = [] → multiline = false) :
    Readable (.object members multiline)
  | array {items : List Expr} (values : ∀ e ∈ items, Readable e) : Readable (.array items)
  | call {callee : Expr} {args : List Expr} (called : Readable callee)
    (values : ∀ e ∈ args, Readable e) : Readable (.call callee args)
  | member {object : Expr} {property : String} (optional : Bool) (accessed : Readable object)
    (identifier : isIdentifier property) : Readable (.member object property optional)
  | index {object at_ : Expr} (optional : Bool) (accessed : Readable object)
    (position : Readable at_) : Readable (.index object at_ optional)
  | arrow {params : List String} {body : Expr} (identifiers : ∀ name ∈ params, isIdentifier name)
    (result : Readable body) : Readable (.arrow params body)
  | binary {left right : Expr} (op : BinaryOp) (first : Readable left) (second : Readable right) :
    Readable (.binary left op right)
  | conditional {test yes no : Expr} (tested : Readable test) (first : Readable yes)
    (second : Readable no) : Readable (.conditional test yes no)
  | template {parts : List TemplatePart} (filled : .text "" ∉ parts)
    (apart : parts.IsChain fun first second => ¬(first.isText ∧ second.isText))
    (values : ∀ e, .expr e ∈ parts → Readable e) : Readable (.template parts)

namespace Expr

variable {width depth : Nat}

/-- How the text of an expression starts: with a name, with a mark of its own, as an arrow, or with
the text of an expression in it. -/
inductive Leads (width depth : Nat) : Expr → Prop where
  | name {e : Expr} {name : String} (identifier : isIdentifier name)
    (apart : e.apartAsObject = false) (text : e.chars width depth = name.toList) :
    Leads width depth e
  | mark {e : Expr} {c : Char} {more : List Char} (mark : c ∈ ['"', '\x7b', '[', '\x60'])
    (text : e.chars width depth = c :: more) : Leads width depth e
  | arrow (params : List String) (body : Expr) : Leads width depth (.arrow params body)
  | part {e inner : Expr} {needed : Bool} {c : Char} {more : List Char}
    (inside : Leads width depth inner) (mark : c ∈ [' ', '(', '[', '.', '?'])
    (brackets : needed = true → inner.apartAsObject = true)
    (bare : needed = false → inner.isArrow = false)
    (text : e.chars width depth = bracketed needed (inner.chars width depth) ++ c :: more) :
    Leads width depth e

/-! What is set apart at one place is set apart at the places that take less. -/

theorem apartAsOperand_of_branch {e : Expr} (apart : e.apartAsBranch = true) :
    e.apartAsOperand = true := by
  cases e <;> first | rfl | contradiction

theorem apartAsObject_of_operand {e : Expr} (apart : e.apartAsOperand = true) :
    e.apartAsObject = true := by
  cases e <;> first | rfl | contradiction

theorem apartAsObject_of_branch {e : Expr} (apart : e.apartAsBranch = true) :
    e.apartAsObject = true :=
  apartAsObject_of_operand (apartAsOperand_of_branch apart)

theorem apartAsObject_of_isObject {e : Expr} (object : e.isObject = true) :
    e.apartAsObject = true := by
  cases e <;> first | rfl | contradiction

theorem apartAsOperand_of_object {e : Expr} (bare : e.apartAsObject = false) :
    e.apartAsOperand = false := by
  cases e <;> first | rfl | contradiction

theorem apartAsBranch_of_operand {e : Expr} (bare : e.apartAsOperand = false) :
    e.apartAsBranch = false := by
  cases e <;> first | rfl | contradiction

theorem isArrow_of_apartAsBranch {e : Expr} (bare : e.apartAsBranch = false) :
    e.isArrow = false := by
  cases e <;> first | rfl | contradiction

theorem isArrow_of_apartAsOperand {e : Expr} (bare : e.apartAsOperand = false) :
    e.isArrow = false :=
  isArrow_of_apartAsBranch (apartAsBranch_of_operand bare)

theorem isArrow_of_apartAsObject {e : Expr} (bare : e.apartAsObject = false) :
    e.isArrow = false :=
  isArrow_of_apartAsOperand (apartAsOperand_of_object bare)

theorem chars_object_cons (members : List Member) (multiline : Bool) :
    ∃ more, (object members multiline).chars width depth = '\x7b' :: more := by
  cases members with
  | nil => exact ⟨_, chars_object_empty multiline⟩
  | cons m members =>
    cases multiline with
    | false => exact ⟨_, chars_object_inline (List.cons_ne_nil m members)⟩
    | true => exact ⟨_, chars_object_lines (List.cons_ne_nil m members)⟩

theorem Readable.leads {e : Expr} (readable : e.Readable) : Leads width depth e := by
  induction readable with
  | ident identifier _ => exact .name identifier rfl (chars_ident _)
  | str value => exact .mark (by decide) (chars_str value)
  | bool value =>
    cases value with
    | false => exact .name (by decide) rfl (chars_bool false)
    | true => exact .name (by decide) rfl (chars_bool true)
  | null => exact .name (by decide) rfl chars_null
  | object _ _ _ _ =>
    rcases chars_object_cons _ _ with ⟨more, text⟩
    exact .mark (by decide) text
  | array _ _ => exact .mark (by decide) (chars_array _)
  | call _ _ called _ =>
    exact .part called (by decide) id isArrow_of_apartAsObject (chars_call _ _)
  | member optional _ _ accessed =>
    cases optional with
    | false =>
      exact .part accessed (by decide) id isArrow_of_apartAsObject
        (chars_member _ _ false)
    | true =>
      exact .part accessed (by decide) id isArrow_of_apartAsObject
        (chars_member _ _ true)
  | index optional _ _ accessed _ =>
    cases optional with
    | false =>
      exact .part accessed (by decide) id isArrow_of_apartAsObject
        (chars_index _ _ false)
    | true =>
      exact .part accessed (by decide) id isArrow_of_apartAsObject
        (chars_index _ _ true)
  | arrow _ _ _ => exact .arrow _ _
  | binary op _ _ first _ =>
    exact .part first (by decide) apartAsObject_of_operand isArrow_of_apartAsOperand
      (chars_binary _ _ op)
  | conditional _ _ _ tested _ _ =>
    exact .part tested (by decide) apartAsObject_of_branch isArrow_of_apartAsBranch
      (chars_conditional _ _ _)
  | template _ _ _ _ => exact .mark (by decide) (chars_template _)

end Expr

/-- What follows the name at the start of the text, if anything, does not end a parameter. -/
def Opens (input : List Char) : Prop :=
  ∀ c ∈ (input.dropWhile isIdentifierPart).head?, c ≠ ',' ∧ c ≠ ')'

theorem opens_cons {c : Char} (rest : List Char)
    (mark : c ∈ ['"', '\x7b', '[', '\x60', ' ', '(', '.', '?']) : Opens (c :: rest) := by
  have marks : ['"', '\x7b', '[', '\x60', ' ', '(', '.', '?'].any isIdentifierPart = false := by
    decide
  intro d first
  rw [List.dropWhile_cons_of_neg (List.any_eq_false.1 marks c mark), List.head?_cons,
    Option.mem_some_iff] at first
  subst first
  exact ⟨ne_of_mem_of_not_mem mark (by decide), ne_of_mem_of_not_mem mark (by decide)⟩

theorem opens_name {name : String} {rest : List Char} (identifier : isIdentifier name)
    (opens : Opens rest) : Opens (name.toList ++ rest) := by
  rw [Opens, List.dropWhile_append_of_pos (Text.isIdentifierPart_of_mem identifier)]
  exact opens

theorem readParams_eq_none {input : List Char} (opens : Opens input) (fuel : Nat) :
    readParams fuel input = none := by
  cases fuel with
  | zero => rfl
  | succ fuel =>
    rw [readParams]
    split
    · rename_i name rest read
      have after : input.dropWhile isIdentifierPart = ',' :: ' ' :: rest := (Prod.mk.inj read).2
      have apart := opens ',' (by simp [after])
      exact absurd rfl apart.1
    · rename_i name rest read
      have after : input.dropWhile isIdentifierPart = ')' :: _ := (Prod.mk.inj read).2
      have apart := opens ')' (by simp [after])
      exact absurd rfl apart.2
    · rfl

theorem arrowHead?_bracket {rest : List Char} (opens : Opens rest) (fuel : Nat) :
    arrowHead? fuel ('(' :: rest) = none := by
  rw [arrowHead?]
  · exact readParams_eq_none opens fuel
  · intro more close
    subst close
    have first : ')' ∈ ((')' :: ' ' :: '=' :: '>' :: ' ' :: more).dropWhile
        isIdentifierPart).head? := by
      rw [List.dropWhile_cons_of_neg (by decide)]
      rfl
    exact absurd rfl (opens ')' first).2

theorem arrowHead?_other {c : Char} (rest : List Char) (other : c ≠ '(') (fuel : Nat) :
    arrowHead? fuel (c :: rest) = none := by
  rw [arrowHead?]
  · intro more same
    exact other (List.cons.inj same).1
  · intro more same
    exact other (List.cons.inj same).1

namespace Expr

variable {width depth : Nat}

/-- A name alone is the one form whose end is left to what follows. -/
theorem Leads.opens {e : Expr} (leads : Leads width depth e) {rest : List Char}
    (follows : e.apartAsObject = false → Opens rest) : Opens (e.chars width depth ++ rest) := by
  induction leads generalizing rest with
  | name identifier apart text =>
    rw [text]
    exact opens_name identifier (follows apart)
  | @mark e c more mark text =>
    have known : ['"', '\x7b', '[', '\x60'] ⊆
        ['"', '\x7b', '[', '\x60', ' ', '(', '.', '?'] := by decide
    rw [text]
    exact opens_cons _ (known mark)
  | arrow params body =>
    rw [chars_arrow]
    exact opens_cons _ (by decide)
  | @part e inner needed c more inside mark brackets bare text ih =>
    have next : Opens (c :: more ++ rest) := by
      have known : [' ', '(', '[', '.', '?'] ⊆
          ['"', '\x7b', '[', '\x60', ' ', '(', '.', '?'] := by decide
      exact opens_cons _ (known mark)
    rw [text, List.append_assoc]
    cases needed with
    | true => exact opens_cons _ (by decide)
    | false => exact ih fun _ => next

theorem Leads.arrowHead?_chars {e : Expr} (leads : Leads width depth e) (other : e.isArrow = false)
    (fuel : Nat) (rest : List Char) : arrowHead? fuel (e.chars width depth ++ rest) = none := by
  induction leads generalizing rest with
  | name identifier apart text =>
    rcases Text.exists_of_isIdentifier identifier with ⟨c, cs, same, start, _⟩
    have mark : c ≠ '(' := by
      intro bracket
      subst bracket
      contradiction
    rw [text, same]
    exact arrowHead?_other _ mark fuel
  | @mark e c more mark text =>
    have other : c ≠ '(' := ne_of_mem_of_not_mem mark (by decide)
    rw [text]
    exact arrowHead?_other _ other fuel
  | arrow params body => contradiction
  | @part e inner needed c more inside mark brackets bare text ih =>
    rw [text, List.append_assoc]
    cases needed with
    | true =>
      have within : bracketed true (inner.chars width depth) ++ (c :: more ++ rest) =
          '(' :: (inner.chars width depth ++ ')' :: (c :: more ++ rest)) := by
        simp [bracketed]
      rw [within]
      refine arrowHead?_bracket (inside.opens fun bare => ?_) fuel
      rw [brackets rfl] at bare
      contradiction
    | false => exact ih (bare rfl) _

theorem Leads.exists_head {e : Expr} (leads : Leads width depth e) :
    ∃ c more, e.chars width depth = c :: more ∧ c ≠ ')' ∧ c ≠ ']' := by
  induction leads with
  | name identifier apart text =>
    rcases Text.exists_of_isIdentifier identifier with ⟨c, cs, same, start, _⟩
    refine ⟨c, cs, text.trans same, ?_, ?_⟩
    · intro bracket
      subst bracket
      contradiction
    · intro square
      subst square
      contradiction
  | @mark e c more mark text =>
    exact ⟨c, more, text, ne_of_mem_of_not_mem mark (by decide),
      ne_of_mem_of_not_mem mark (by decide)⟩
  | arrow params body => exact ⟨_, _, chars_arrow params body, by decide, by decide⟩
  | @part e inner needed c more inside mark brackets bare text ih =>
    cases needed with
    | true => exact ⟨_, _, text, by decide, by decide⟩
    | false =>
      rcases ih with ⟨first, others, same, known⟩
      refine ⟨first, others ++ c :: more, ?_, known⟩
      rw [text, bracketed, same]
      rfl

theorem Readable.arrowHead?_chars {e : Expr} (readable : e.Readable) (other : e.isArrow = false)
    (fuel : Nat) (rest : List Char) : arrowHead? fuel (e.chars width depth ++ rest) = none :=
  readable.leads.arrowHead?_chars other fuel rest

theorem Readable.closesItems_chars {e : Expr} (readable : e.Readable) (rest : List Char) :
    closesItems (e.chars width depth ++ rest) = false := by
  have leads : Leads width depth e := readable.leads
  rcases leads.exists_head with ⟨c, more, text, bracket, square⟩
  rw [text]
  simp [closesItems, bracket, square]

end Expr

end Js

end JsxGen
