import JsxGen.Proofs.Js.Reader
import JsxGen.Proofs.Text.Identifier
import Mathlib.Order.Filter.AtTopBot.Basic

/-! What may follow an expression, and where the reader stops because of it. -/

namespace JsxGen.Js

open Text (isIdentifier isIdentifierPart)

/-- With enough fuel the reader gives the result. -/
def Reads {α : Type} (read : Nat → Option α) (result : α) : Prop :=
  ∀ᶠ fuel in Filter.atTop, read fuel = some result

theorem Reads.succ {α : Type} {read : Nat → Option α} {result : α}
    (h : Reads (fun fuel => read (fuel + 1)) result) : Reads read result := by
  rcases Filter.eventually_atTop.1 h with ⟨bound, enough⟩
  refine Filter.eventually_atTop.2 ⟨bound + 1, fun fuel more => ?_⟩
  rcases Nat.exists_eq_add_of_le' more with ⟨rest, rfl⟩
  exact enough (rest + bound) (Nat.le_add_left bound rest)

theorem Reads.always {α : Type} {read : Nat → Option α} {result : α}
    (h : ∀ fuel, read (fuel + 1) = some result) : Reads read result :=
  Reads.succ (Filter.Eventually.of_forall h)

theorem Reads.unique {α : Type} {read : Nat → Option α} {first second : α}
    (one : Reads read first) (other : Reads read second) : first = second := by
  rcases (one.and other).exists with ⟨fuel, same, different⟩
  exact Option.some.inj (same.symm.trans different)

inductive EndsExpr : List Char → Prop where
  | nothing : EndsExpr []
  | closer {c : Char} (rest : List Char) (closes : c ∈ [',', ')', ']', '\x7d']) :
    EndsExpr (c :: rest)
  | brace (rest : List Char) : EndsExpr (' ' :: '\x7d' :: rest)

inductive EndsBranch : List Char → Prop where
  | expr {rest : List Char} (ends : EndsExpr rest) : EndsBranch rest
  | yes (rest : List Char) : EndsBranch (' ' :: '?' :: ' ' :: rest)
  | no (rest : List Char) : EndsBranch (' ' :: ':' :: ' ' :: rest)

inductive EndsOperand : List Char → Prop where
  | branch {rest : List Char} (ends : EndsBranch rest) : EndsOperand rest
  | sign (op : BinaryOp) (rest : List Char) : EndsOperand (' ' :: (op.sign.toList ++ ' ' :: rest))

def EndsName (rest : List Char) : Prop := ∀ c ∈ rest.head?, isIdentifierPart c = false

theorem EndsOperand.head {rest : List Char} (ends : EndsOperand rest) :
    ∀ c ∈ rest.head?, c ∈ [',', ')', ']', '\x7d', ' '] := by
  have closer : [',', ')', ']', '\x7d'] ⊆ [',', ')', ']', '\x7d', ' '] := by decide
  cases ends with
  | branch ends =>
    cases ends with
    | expr ends =>
      cases ends with
      | nothing => simp
      | closer rest closes => simpa using closer closes
      | brace rest => simp
    | yes rest => simp
    | no rest => simp
  | sign op rest => simp

theorem EndsOperand.name {rest : List Char} (ends : EndsOperand rest) : EndsName rest := by
  have marks : [',', ')', ']', '\x7d', ' '].any isIdentifierPart = false := by decide
  intro c first
  exact Bool.eq_false_of_not_eq_true (List.any_eq_false.1 marks c (ends.head c first))

theorem endsName_cons {c : Char} (rest : List Char)
    (mark : c ∈ ['.', '?', '[', '(', ',', ')', ':', ' ']) : EndsName (c :: rest) := by
  have marks : ['.', '?', '[', '(', ',', ')', ':', ' '].any isIdentifierPart = false := by decide
  intro d first
  rw [← Option.mem_some_iff.1 first]
  exact Bool.eq_false_of_not_eq_true (List.any_eq_false.1 marks c mark)

theorem readName_append {name : String} {rest : List Char} (identifier : isIdentifier name)
    (ends : EndsName rest) : readName (name.toList ++ rest) = (name, rest) := by
  have parts := Text.isIdentifierPart_of_mem identifier
  rw [readName, List.takeWhile_append_of_pos parts, List.dropWhile_append_of_pos parts]
  cases rest with
  | nil => simp
  | cons c rest =>
    have stop : ¬isIdentifierPart c = true := by
      rw [ends c rfl]
      decide
    rw [List.takeWhile_cons_of_neg stop, List.dropWhile_cons_of_neg stop]
    simp

theorem readSuffixes_end {rest : List Char} (ends : EndsOperand rest) (e : Expr) (fuel : Nat) :
    readSuffixes (fuel + 1) e rest = some (e, rest) := by
  have first := ends.head
  cases rest with
  | nil => rfl
  | cons c rest =>
    have known := first c rfl
    simp only [List.mem_cons, List.not_mem_nil, or_false] at known
    rcases known with rfl | rfl | rfl | rfl | rfl <;> rfl

theorem operator?_sign (op : BinaryOp) (rest : List Char) :
    operator? (' ' :: (op.sign.toList ++ ' ' :: rest)) = some (op, rest) := by
  cases op <;> rfl

theorem operator?_end {rest : List Char} (ends : EndsBranch rest) : operator? rest = none := by
  cases ends with
  | expr ends =>
    cases ends with
    | nothing => rfl
    | @closer c rest closes =>
      simp only [List.mem_cons, List.not_mem_nil, or_false] at closes
      rcases closes with rfl | rfl | rfl | rfl <;> rfl
    | brace rest => rfl
  | yes rest => rfl
  | no rest => rfl

end JsxGen.Js
