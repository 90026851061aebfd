import JsxGen.Proofs.Js.Nesting
import JsxGen.Proofs.Js.Quoted
import Mathlib.Data.List.Chain

/-!
The texts of a template side by side. Each is escaped by itself, so a text that ends in a dollar sign
and one that starts with a brace make the start of a substitution where they meet.
-/

namespace JsxGen.Js

namespace TemplatePart

def isEmpty : TemplatePart → Bool
  | .text literal => literal.toList.isEmpty
  | .expr _ => false

/-- Where the two meet, a substitution seems to start. -/
def Joins : TemplatePart → TemplatePart → Prop
  | .text first, .text second =>
    first.toList.getLast? = some '$' ∧ second.toList.head? = some '\x7b'
  | _, _ => False

instance decidableJoins : (first second : TemplatePart) → Decidable (first.Joins second)
  | .text _, .text _ => inferInstanceAs (Decidable (_ ∧ _))
  | .text _, .expr _ | .expr _, _ => inferInstanceAs (Decidable False)

/-- Empty texts aside, no two neighbours make the start of a substitution. -/
def Unjoined (parts : List TemplatePart) : Prop :=
  (parts.filter (!·.isEmpty)).IsChain fun first second => ¬first.Joins second

instance (parts : List TemplatePart) : Decidable (Unjoined parts) :=
  inferInstanceAs (Decidable (List.IsChain _ _))

/-- The texts ahead of the first substitution. -/
def leadingText : List TemplatePart → List Char
  | .text literal :: parts => literal.toList ++ leadingText parts
  | _ => []

theorem joins_next (literal : String) (parts : List TemplatePart) :
    (∃ next ∈ (parts.filter (!·.isEmpty)).head?, (text literal).Joins next) ↔
      literal.toList.getLast? = some '$' ∧ (leadingText parts).head? = some '\x7b' := by
  induction parts with
  | nil => simp [leadingText]
  | cons part parts ih =>
    cases part with
    | expr e => simp [isEmpty, leadingText, Joins]
    | text second =>
      cases same : second.toList with
      | nil => simpa [isEmpty, leadingText, same] using ih
      | cons c cs => simp [isEmpty, leadingText, Joins, same]

theorem unjoined_text (literal : String) (parts : List TemplatePart) :
    Unjoined (.text literal :: parts) ↔
      ¬(literal.toList.getLast? = some '$' ∧ (leadingText parts).head? = some '\x7b') ∧
        Unjoined parts := by
  cases same : literal.toList with
  | nil => simp [Unjoined, isEmpty, same]
  | cons c cs =>
    have kept : (text literal).isEmpty = false := by simp [isEmpty, same]
    rw [← same, ← joins_next, Unjoined, List.filter_cons_of_pos (by simp [kept]),
      List.isChain_cons, Unjoined]
    refine and_congr_left fun _ => ?_
    simp only [not_exists, not_and]

theorem unjoined_expr (e : Expr) (parts : List TemplatePart) :
    Unjoined (.expr e :: parts) ↔ Unjoined parts := by
  rw [Unjoined, List.filter_cons_of_pos rfl, List.isChain_cons, Unjoined]
  exact and_iff_right fun _ _ => id

variable {width depth : Nat}

/-- The characters of the parts up to the end of the literal. -/
def charsToEnd (width depth : Nat) (parts : List TemplatePart) : List Char :=
  parts.flatMap (TemplatePart.chars width depth) ++ ['\x60']

@[simp] theorem charsToEnd_nil : charsToEnd width depth [] = ['\x60'] := rfl

@[simp] theorem charsToEnd_text (literal : String) (parts : List TemplatePart) :
    charsToEnd width depth (.text literal :: parts) =
      templateText literal.toList ++ charsToEnd width depth parts := by
  simp [charsToEnd, TemplatePart.chars]

@[simp] theorem charsToEnd_expr (e : Expr) (parts : List TemplatePart) :
    charsToEnd width depth (.expr e :: parts) =
      '$' :: '\x7b' :: (e.chars width depth ++ '\x7d' :: charsToEnd width depth parts) := by
  simp [charsToEnd, TemplatePart.chars]

end TemplatePart

theorem TemplatePart.head?_charsToEnd (width depth : Nat) (parts : List TemplatePart) :
    (charsToEnd width depth parts).head? = some '\x7b' ↔
      (leadingText parts).head? = some '\x7b' := by
  induction parts with
  | nil => simp [leadingText]
  | cons part parts ih =>
    cases part with
    | expr e => simp [leadingText]
    | text literal =>
      cases same : literal.toList with
      | nil => simpa [same, leadingText, templateText] using ih
      | cons c cs =>
        have filled : templateText (c :: cs) ≠ [] := by simp [templateText_eq_nil]
        rw [charsToEnd_text, leadingText, same, List.head?_append_of_ne_nil _ filled,
          head?_templateText]
        simp

/-- What is open behind a text in a template. -/
def Inside.afterText (text : List Char) : Inside :=
  if text.getLast? = some '$' then .dollar else .template

theorem step_afterText {text : List Char} {c : Char}
    (apart : ¬(text.getLast? = some '$' ∧ c = '\x7b')) (outer : List Inside) :
    step (Inside.afterText text :: outer) c = stepTemplate outer c := by
  unfold Inside.afterText
  split
  · rename_i dollar
    rw [step, if_neg fun brace => apart ⟨dollar, brace⟩]
  · rw [step]

theorem run_escape {text : List Char} (c : Char) (outer : List Inside) (rest : List Char) :
    run (Inside.afterText text :: outer) ('\\' :: c :: rest) = run (.template :: outer) rest := by
  rw [run, step_afterText (by simp)]
  simp [stepTemplate, run, step]

theorem run_templateText (before text : List Char) (outer : List Inside)
    (apart : ¬(before.getLast? = some '$' ∧ text.head? = some '\x7b')) :
    run (Inside.afterText before :: outer) (templateText text) =
      some (Inside.afterText (before ++ text) :: outer) := by
  induction text using templateText.induct generalizing before with
  | case1 => simp [templateText, run]
  | case2 text ih =>
    have next := ih (before ++ ['\\']) (by simp)
    rw [templateText, run_escape]
    simpa [Inside.afterText] using next
  | case3 text ih =>
    have next := ih (before ++ ['\x60']) (by simp)
    rw [templateText, run_escape]
    simpa [Inside.afterText] using next
  | case4 text ih =>
    have next := ih (before ++ ['$', '\x7b']) (by simp)
    rw [templateText, run_escape]
    simpa [Inside.afterText, run, step, stepTemplate] using next
  | case5 c text noBackslash noQuote noSubstitution ih =>
    have written : templateText (c :: text) = c :: templateText text := by
      rw [templateText]
      · exact noBackslash
      · exact noQuote
      · exact noSubstitution
    have stepped : stepTemplate outer c = Inside.afterText (before ++ [c]) :: outer := by
      rw [stepTemplate, if_neg noBackslash, if_neg noQuote, Inside.afterText]
      by_cases dollar : c = '$' <;> simp [dollar]
    have next := ih (before ++ [c]) (by
      intro joined
      rcases List.head?_eq_some_iff.1 joined.2 with ⟨more, same⟩
      exact noSubstitution more (by simpa using joined.1) same)
    rw [written, run, step_afterText (by simpa using apart), stepped]
    simpa using next

end JsxGen.Js
