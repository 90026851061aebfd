import JsxGen.Proofs.Js.Follow
import JsxGen.Proofs.Js.Readable

/-!
The places where an expression may stand, each with brackets and ends of its own. An expression that
is read back at one place is read back at the others.
-/

namespace JsxGen.Js

open Text (isIdentifierStart)

namespace Expr

def ReadsWhole (width : Nat) (e : Expr) : Prop :=
  ∀ depth rest, EndsExpr rest → Reads (readExpr · (e.chars width depth ++ rest)) (e, rest)

def ReadsBranch (width : Nat) (e : Expr) : Prop :=
  ∀ depth rest, EndsBranch rest →
    Reads (readBranch · (bracketed e.apartAsBranch (e.chars width depth) ++ rest)) (e, rest)

def ReadsOperand (width : Nat) (e : Expr) : Prop :=
  ∀ depth rest, EndsOperand rest →
    Reads (readOperand · (bracketed e.apartAsOperand (e.chars width depth) ++ rest)) (e, rest)

/-- Together with the calls of the expression and the accesses to it that follow. -/
def ReadsObject (width : Nat) (e : Expr) : Prop :=
  ∀ depth rest result, EndsName rest → Reads (readSuffixes · e rest) result →
    Reads (readOperand · (bracketed e.apartAsObject (e.chars width depth) ++ rest)) result

def ReadsPrimary (width : Nat) (e : Expr) : Prop :=
  ∀ depth rest, EndsName rest → Reads (readPrimary · (e.chars width depth ++ rest)) (e, rest)

/-- At each place where the expression may stand, its text is read back as far as it goes. -/
structure RoundTrip (width : Nat) (e : Expr) : Prop where
  whole : e.ReadsWhole width
  branch : e.ReadsBranch width
  operand : e.ReadsOperand width
  object : e.ReadsObject width

variable {width : Nat} {e : Expr}

theorem reads_operand {input rest : List Char} {result : Expr × List Char}
    (first : Reads (readPrimary · input) (e, rest))
    (after : Reads (readSuffixes · e rest) result) : Reads (readOperand · input) result := by
  apply Reads.succ
  filter_upwards [first, after] with fuel one two
  simp [readOperand, one, two]

theorem reads_bracketed {text rest : List Char}
    (inner : Reads (readExpr · (text ++ ')' :: rest)) (e, ')' :: rest)) :
    Reads (readPrimary · (bracketed true text ++ rest)) (e, rest) := by
  apply Reads.succ
  filter_upwards [inner] with fuel one
  have split : bracketed true text ++ rest = '(' :: (text ++ ')' :: rest) := by simp [bracketed]
  have noName : isIdentifierStart '(' = false := by decide
  simp [split, readPrimary, noName, one]

theorem reads_suffixes_end {rest : List Char} (ends : EndsOperand rest) :
    Reads (readSuffixes · e rest) (e, rest) :=
  Reads.always (readSuffixes_end ends e)

/-- Brackets around its text make any expression an operand. -/
theorem ReadsWhole.bracketed (whole : e.ReadsWhole width) (depth : Nat) {rest : List Char}
    {result : Expr × List Char} (after : Reads (readSuffixes · e rest) result) :
    Reads (readOperand · (bracketed true (e.chars width depth) ++ rest)) result :=
  reads_operand (reads_bracketed (whole depth _ (.closer rest (by decide)))) after

theorem ReadsWhole.object (whole : e.ReadsWhole width) (apart : e.apartAsObject = true) :
    e.ReadsObject width := by
  intro depth rest result _ after
  rw [apart]
  exact whole.bracketed depth after

theorem ReadsWhole.operand (whole : e.ReadsWhole width) (apart : e.apartAsOperand = true) :
    e.ReadsOperand width := by
  intro depth rest ends
  rw [apart]
  exact whole.bracketed depth (reads_suffixes_end ends)

theorem reads_branch_of_operand {input rest : List Char} (ends : EndsBranch rest)
    (operand : Reads (readOperand · input) (e, rest)) : Reads (readBranch · input) (e, rest) := by
  apply Reads.succ
  filter_upwards [operand] with fuel one
  simp [readBranch, one, operator?_end ends]

theorem ReadsWhole.branch (whole : e.ReadsWhole width) (apart : e.apartAsBranch = true) :
    e.ReadsBranch width := by
  intro depth rest ends
  rw [apart]
  exact reads_branch_of_operand ends (whole.bracketed depth (reads_suffixes_end (.branch ends)))

theorem ReadsPrimary.object (primary : e.ReadsPrimary width) (bare : e.apartAsObject = false) :
    e.ReadsObject width := by
  intro depth rest result ends after
  rw [bare]
  exact reads_operand (primary depth rest ends) after

theorem ReadsPrimary.operand (primary : e.ReadsPrimary width) (bare : e.apartAsOperand = false) :
    e.ReadsOperand width := by
  intro depth rest ends
  rw [bare]
  exact reads_operand (primary depth rest ends.name) (reads_suffixes_end ends)

theorem ReadsObject.operand (object : e.ReadsObject width) (bare : e.apartAsObject = false) :
    e.ReadsOperand width := by
  intro depth rest ends
  have read := object depth rest _ ends.name (reads_suffixes_end ends)
  rw [bare] at read
  rw [apartAsOperand_of_object bare]
  exact read

theorem ReadsOperand.branch (operand : e.ReadsOperand width) (bare : e.apartAsOperand = false) :
    e.ReadsBranch width := by
  intro depth rest ends
  have read := operand depth rest (.branch ends)
  rw [bare] at read
  rw [apartAsBranch_of_operand bare]
  exact reads_branch_of_operand ends read

theorem reads_whole_of_branch {input rest : List Char} (ends : EndsExpr rest)
    (noArrow : ∀ fuel, arrowHead? fuel input = none)
    (branch : Reads (readBranch · input) (e, rest)) : Reads (readExpr · input) (e, rest) := by
  apply Reads.succ
  filter_upwards [branch] with fuel one
  cases ends with
  | nothing => simp [readExpr, noArrow, one]
  | @closer c rest closes =>
    simp only [List.mem_cons, List.not_mem_nil, or_false] at closes
    rcases closes with rfl | rfl | rfl | rfl <;> simp [readExpr, noArrow, one]
  | brace rest => simp [readExpr, noArrow, one]

theorem ReadsBranch.whole (branch : e.ReadsBranch width) (readable : e.Readable)
    (bare : e.apartAsBranch = false) : e.ReadsWhole width := by
  intro depth rest ends
  have noArrow : ∀ fuel, arrowHead? fuel (e.chars width depth ++ rest) = none :=
    fun fuel => readable.arrowHead?_chars (isArrow_of_apartAsBranch bare) fuel rest
  have read := branch depth rest (.expr ends)
  rw [bare] at read
  exact reads_whole_of_branch ends noArrow read

/-- An arrow or a conditional. -/
theorem ReadsWhole.roundTrip (whole : e.ReadsWhole width) (apart : e.apartAsBranch = true) :
    e.RoundTrip width :=
  ⟨whole, whole.branch apart, whole.operand (apartAsOperand_of_branch apart),
    whole.object (apartAsObject_of_branch apart)⟩

theorem ReadsBranch.roundTrip (branch : e.ReadsBranch width) (readable : e.Readable)
    (bare : e.apartAsBranch = false) (apart : e.apartAsOperand = true) : e.RoundTrip width := by
  have whole := branch.whole readable bare
  exact ⟨whole, branch, whole.operand apart, whole.object (apartAsObject_of_operand apart)⟩

theorem ReadsOperand.roundTrip (operand : e.ReadsOperand width) (readable : e.Readable)
    (bare : e.apartAsOperand = false) (apart : e.apartAsObject = true) : e.RoundTrip width := by
  have branch := operand.branch bare
  have whole := branch.whole readable (apartAsBranch_of_operand bare)
  exact ⟨whole, branch, operand, whole.object apart⟩

theorem ReadsObject.roundTrip (object : e.ReadsObject width) (readable : e.Readable)
    (bare : e.apartAsObject = false) : e.RoundTrip width := by
  have operand := object.operand bare
  have branch := operand.branch (apartAsOperand_of_object bare)
  have whole := branch.whole readable (apartAsBranch_of_operand (apartAsOperand_of_object bare))
  exact ⟨whole, branch, operand, object⟩

end Expr

end JsxGen.Js
