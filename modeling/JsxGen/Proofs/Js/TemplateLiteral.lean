import JsxGen.Proofs.Js.Clear
import JsxGen.PropertyExpr

/-!
Template literals read by the rules for them: which texts and which substitutions they hold.
`readLiteral_template_iff` says which lists of parts are read back as they are.
-/

namespace JsxGen.Js

/-- A template literal as it is read: the text up to the first substitution, and the source of each
substitution with the text behind it. -/
structure Template where
  start : List Char
  substitutions : List (List Char × List Char)
  deriving DecidableEq

theorem readSource_length {inside : List Inside} {input source rest : List Char}
    (read : readSource inside input = some (source, rest)) : rest.length < input.length := by
  obtain ⟨close, split⟩ := readSource_split read
  rw [split, List.length_append, List.length_cons]
  omega

/-- The template from behind the quote that opens it to the quote that closes it. -/
def readPieces (input : List Char) : Option Template :=
  match _texts : readTemplate input with
  | (text, ['\x60']) => some ⟨text, []⟩
  | (text, '$' :: '\x7b' :: rest) =>
    match _sources : readSource [.code] rest with
    | some (source, more) =>
      (readPieces more).map fun next => ⟨text, (source, next.start) :: next.substitutions⟩
    | none => none
  | _ => none
termination_by input.length
decreasing_by
  have behind := readTemplate_length input
  have within := readSource_length _sources
  simp only [_texts, List.length_cons] at behind
  omega

def readLiteral : List Char → Option Template
  | '\x60' :: rest => readPieces rest
  | _ => none

theorem readPieces_end {input text : List Char} (texts : readTemplate input = (text, ['\x60'])) :
    readPieces input = some ⟨text, []⟩ := by
  rw [readPieces]
  split
  · rename_i same
    rw [texts] at same
    cases same
    rfl
  · rename_i same
    rw [texts] at same
    cases same
  · rename_i other _
    exact absurd texts (other text)

theorem readPieces_substitution {input text rest : List Char}
    (texts : readTemplate input = (text, '$' :: '\x7b' :: rest)) :
    readPieces input = (readSource [.code] rest).bind fun read =>
      (readPieces read.2).map fun next => ⟨text, (read.1, next.start) :: next.substitutions⟩ := by
  rw [readPieces]
  split
  · rename_i same
    rw [texts] at same
    cases same
  · rename_i same
    rw [texts] at same
    cases same
    split
    · rename_i read
      rw [read]
      rfl
    · rename_i read
      rw [read]
      rfl
  · rename_i other
    exact absurd texts (other text rest)

/-- Text ahead of what is read is part of the text up to the first substitution. -/
theorem readPieces_append {input text rest : List Char}
    (texts : readTemplate input = (text ++ (readTemplate rest).1, (readTemplate rest).2)) :
    readPieces input =
      (readPieces rest).map fun read => ⟨text ++ read.start, read.substitutions⟩ := by
  cases same : readTemplate rest with
  | mk start left =>
    rw [same] at texts
    by_cases finished : left = ['\x60']
    · subst finished
      rw [readPieces_end texts, readPieces_end same]
      rfl
    by_cases begun : ∃ more, left = '$' :: '\x7b' :: more
    · obtain ⟨more, rfl⟩ := begun
      rw [readPieces_substitution texts, readPieces_substitution same]
      cases readSource [.code] more with
      | none => rfl
      | some read =>
        simp only [Option.bind_some, Option.map_map]
        rfl
    · have neither {input text : List Char} (texts : readTemplate input = (text, left)) :
          readPieces input = none := by
        rw [readPieces]
        split
        · rename_i other
          rw [texts] at other
          exact absurd (Prod.mk.inj other).2 finished
        · rename_i other
          rw [texts] at other
          exact absurd ⟨_, (Prod.mk.inj other).2⟩ begun
        · rfl
      rw [neither texts, neither same]
      rfl

/-- The source of a substitution is read back if its text closes what it opens; what follows is of
no account. -/
theorem readSource_eq_iff (text rest : List Char) {source more : List Char}
    (read : readSource [.code] (text ++ '\x7d' :: rest) = some (source, more)) :
    source = text ∧ more = rest ↔ Closed text := by
  constructor
  · rintro ⟨rfl, rfl⟩
    exact readSource_of_prefix read []
  · intro closed
    have whole := readSource_of_prefix closed rest
    rw [whole, Option.some.injEq] at read
    exact ⟨(Prod.mk.inj read).1.symm, (Prod.mk.inj read).2.symm⟩

namespace TemplatePart

/-- The source of each expression with the texts behind it, up to the next. -/
def substitutions (width depth : Nat) : List TemplatePart → List (List Char × List Char)
  | [] => []
  | .text _ :: parts => substitutions width depth parts
  | .expr e :: parts => (e.chars width depth, leadingText parts) :: substitutions width depth parts

/-- The template as it is meant: the texts between two expressions side by side. -/
def template (width depth : Nat) (parts : List TemplatePart) : Template :=
  ⟨leadingText parts, substitutions width depth parts⟩

variable {width depth : Nat}

theorem readPieces_text_iff (literal : String) (parts : List TemplatePart) :
    readPieces (charsToEnd width depth (.text literal :: parts)) =
        some (template width depth (.text literal :: parts)) ↔
      ¬(literal.toList.getLast? = some '$' ∧ (leadingText parts).head? = some '\x7b') ∧
        readPieces (charsToEnd width depth parts) = some (template width depth parts) := by
  rw [charsToEnd_text]
  by_cases joined : literal.toList.getLast? = some '$' ∧ (leadingText parts).head? = some '\x7b'
  · -- The reader takes the two characters for the start of a substitution, so it loses them.
    obtain ⟨init, split⟩ := List.getLast?_eq_some_iff.1 joined.1
    obtain ⟨more, brace⟩ := List.head?_eq_some_iff.1
      ((head?_charsToEnd width depth parts).2 joined.2)
    have texts := readTemplate_joined init more
    refine iff_of_false ?_ fun both => both.1 joined
    rw [split, brace, readPieces_substitution texts]
    intro read
    obtain ⟨⟨source, left⟩, _, read⟩ := Option.bind_eq_some_iff.1 read
    obtain ⟨next, _, same⟩ := Option.map_eq_some_iff.1 read
    have start := congrArg (List.length ∘ Template.start) same
    simp only [Function.comp_apply, template, leadingText, split, List.length_append,
      List.length_singleton] at start
    omega
  · have apart : ¬(literal.toList.getLast? = some '$' ∧
        (charsToEnd width depth parts).head? = some '\x7b') := by
      rw [head?_charsToEnd]
      exact joined
    rw [readPieces_append (readTemplate_append literal.toList apart), and_iff_right joined,
      Option.map_eq_some_iff]
    constructor
    · rintro ⟨read, found, same⟩
      rw [found, Option.some.injEq]
      simp only [template, leadingText, substitutions, Template.mk.injEq,
        List.append_cancel_left_eq] at same
      exact congrArg₂ Template.mk same.1 same.2
    · intro read
      exact ⟨_, read, rfl⟩

theorem readPieces_expr_iff (e : Expr) (parts : List TemplatePart) :
    readPieces (charsToEnd width depth (.expr e :: parts)) =
        some (template width depth (.expr e :: parts)) ↔
      Closed (e.chars width depth) ∧
        readPieces (charsToEnd width depth parts) = some (template width depth parts) := by
  have texts : readTemplate (charsToEnd width depth (.expr e :: parts)) =
      ([], '$' :: '\x7b' :: (e.chars width depth ++ '\x7d' :: charsToEnd width depth parts)) := by
    rw [charsToEnd_expr]
    rfl
  rw [readPieces_substitution texts, Option.bind_eq_some_iff]
  constructor
  · rintro ⟨⟨source, more⟩, found, read⟩
    obtain ⟨next, others, same⟩ := Option.map_eq_some_iff.1 read
    simp only [template, leadingText, substitutions, Template.mk.injEq, List.cons.injEq,
      Prod.mk.injEq, true_and] at same
    obtain ⟨⟨rfl, start⟩, later⟩ := same
    -- The source ends ahead of one character, which is then the brace behind the expression.
    obtain ⟨close, split⟩ := readSource_split found
    obtain ⟨rfl, rfl⟩ := List.cons.inj (List.append_cancel_left split)
    refine ⟨(readSource_eq_iff _ _ found).1 ⟨rfl, rfl⟩, ?_⟩
    rw [others, Option.some.injEq]
    exact congrArg₂ Template.mk start later
  · rintro ⟨closed, read⟩
    refine ⟨_, readSource_of_prefix closed _, ?_⟩
    dsimp only
    rw [read]
    rfl

theorem readPieces_iff (parts : List TemplatePart) :
    readPieces (charsToEnd width depth parts) = some (template width depth parts) ↔
      Unjoined parts ∧ ∀ e, .expr e ∈ parts → Closed (e.chars width depth) := by
  induction parts with
  | nil =>
    have read : readPieces ['\x60'] = some ⟨[], []⟩ := readPieces_end rfl
    simp [read, template, leadingText, substitutions, Unjoined]
  | cons part parts ih =>
    cases part with
    | text literal =>
      rw [readPieces_text_iff, ih, unjoined_text]
      simp [and_assoc]
    | expr e =>
      rw [readPieces_expr_iff, ih, unjoined_expr]
      simp [or_imp, forall_and, and_left_comm]

end TemplatePart

/-- Which templates are read back with their texts and expressions as they are: those without a text
that ends in a dollar sign ahead of one that starts with a brace. -/
theorem readLiteral_template_iff (width depth : Nat) (parts : List TemplatePart) :
    (readLiteral ((Expr.template parts).chars width depth) =
        some (TemplatePart.template width depth parts) ↔
      TemplatePart.Unjoined parts ∧ ∀ e, .expr e ∈ parts → Closed (e.chars width depth)) ∧
    ∀ e : Expr, e.Clear → Closed (e.chars width depth) := by
  refine ⟨?_, fun e clear => (Expr.Clear.isLevel e clear depth).closed⟩
  rw [Expr.chars_template, readLiteral]
  exact TemplatePart.readPieces_iff parts

/-- A dollar sign ahead of a substitution and a brace behind it stay text. -/
theorem readLiteral_template_greeting :
    readLiteral "\x60Hi $$\x7bauthAttributes[\"email\"]\x7d\x7b\x7d\x60".toList =
      some ⟨"Hi $".toList, [("authAttributes[\"email\"]".toList, "\x7b\x7d".toList)]⟩ := by
  let email : Expr := .index (.ident "authAttributes") (.str "email") false
  have clear : email.Clear := ⟨(by decide : BareName "authAttributes"), trivial⟩
  have read := readLiteral_template_iff 2 0 [.text "Hi $", .expr email, .text "\x7b\x7d"]
  refine read.1.2 ⟨by decide, fun e member => ?_⟩
  have same : e = email := by simpa using member
  rw [same]
  exact read.2 email clear

/-- Two fixed strings that are copied side by side are read as a substitution. -/
theorem dollar_joins_brace :
    ∃ e, (Property.concat [.fixed ⟨.str "$", trivial⟩ none,
        .fixed ⟨.str "\x7bname\x7d", trivial⟩ none]).toExpr ∅ = .ok e ∧
      e = .template [.text "$", .text "\x7bname\x7d"] ∧
      readLiteral (e.chars 2 0) = some ⟨[], [("name".toList, [])]⟩ ∧
      TemplatePart.template 2 0 [.text "$", .text "\x7bname\x7d"] = ⟨"$\x7bname\x7d".toList, []⟩ := by
  refine ⟨_, rfl, rfl, ?_, rfl⟩
  have texts : readTemplate "$\x7bname\x7d\x60".toList = ([], '$' :: '\x7b' :: "name\x7d\x60".toList) :=
    rfl
  have source : readSource [.code] "name\x7d\x60".toList = some ("name".toList, ['\x60']) := rfl
  have ending : readPieces ['\x60'] = some ⟨[], []⟩ := readPieces_end rfl
  have read := readPieces_substitution texts
  rw [source, Option.bind_some, ending] at read
  exact read

end JsxGen.Js
