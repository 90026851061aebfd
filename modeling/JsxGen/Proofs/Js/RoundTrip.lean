import JsxGen.Proofs.Js.Forms
import JsxGen.Proofs.Js.Members

/-!
Expressions are read back from their text, whatever follows it: `Readable.roundTrip`. So no two of
them have the same text: `eq_of_text_eq`.
-/

namespace JsxGen.Js

open Text (isIdentifierStart)

namespace Expr

variable {width : Nat}

/-- The text ahead of a substitution may be empty, and is then no part of its own. -/
theorem reads_substitution {e : Expr} {parts : List TemplatePart} (value : e.RoundTrip width)
    (depth : Nat) (text : List Char) {input rest : List Char}
    (others : Reads (readParts · input) (parts, rest)) :
    Reads (readParts · (templateText text ++ '$' :: '\x7b' :: (e.chars width depth ++
      '\x7d' :: input)))
      ((if text = [] then [] else [.text (String.ofList text)]) ++ .expr e :: parts, rest) := by
  have read := readTemplate_templateText text
    (.substitution (e.chars width depth ++ '\x7d' :: input))
  have inner := value.whole depth _ (.closer input (by decide : '\x7d' ∈ [',', ')', ']', '\x7d']))
  apply Reads.succ
  filter_upwards [inner, others] with fuel one two
  simp [readParts, read, one, two]

theorem reads_parts (depth : Nat) (rest : List Char) :
    (parts : List TemplatePart) → .text "" ∉ parts →
      parts.IsChain (fun first second => ¬(first.isText ∧ second.isText)) →
      (∀ e, .expr e ∈ parts → e.RoundTrip width) →
      Reads (readParts · (parts.flatMap (TemplatePart.chars width depth) ++ '\x60' :: rest))
        (parts, rest)
  | [], _, _, _ => Reads.always fun fuel => rfl
  | .expr e :: parts, filled, apart, values => by
    have others := reads_parts depth rest parts
      (fun member => filled (List.mem_cons_of_mem _ member)) apart.tail
      (fun e member => values e (List.mem_cons_of_mem _ member))
    have read := reads_substitution (values e List.mem_cons_self) depth [] others
    simpa [templateText, TemplatePart.chars] using read
  | [.text text], filled, _, _ => by
    have read := readTemplate_templateText text.toList (.literal rest)
    have nonempty : text ≠ "" := by
      intro empty
      subst empty
      exact filled List.mem_cons_self
    apply Reads.always
    intro fuel
    simp [TemplatePart.chars, readParts, read, nonempty]
  | .text text :: .expr e :: parts, filled, apart, values => by
    have others := reads_parts depth rest parts
      (fun member => filled (List.mem_cons_of_mem _ (List.mem_cons_of_mem _ member)))
      apart.tail.tail
      (fun e member => values e (List.mem_cons_of_mem _ (List.mem_cons_of_mem _ member)))
    have nonempty : text ≠ "" := by
      intro empty
      subst empty
      exact filled List.mem_cons_self
    have read := reads_substitution (values e (List.mem_cons_of_mem _ List.mem_cons_self)) depth
      text.toList others
    simpa [TemplatePart.chars, nonempty] using read
  | .text _ :: .text _ :: _, _, apart, _ => absurd ⟨rfl, rfl⟩ apart.rel

theorem readsPrimary_template {parts : List TemplatePart} (filled : .text "" ∉ parts)
    (apart : parts.IsChain fun first second => ¬(first.isText ∧ second.isText))
    (values : ∀ e, .expr e ∈ parts → e.RoundTrip width) :
    (template parts).ReadsPrimary width := by
  intro depth rest _
  have noName : isIdentifierStart '\x60' = false := by decide
  apply Reads.succ
  filter_upwards [reads_parts depth rest parts filled apart values] with fuel one
  simp [chars_template, readPrimary, noName, one]

/-- Every readable expression is read back, at every place and depth. -/
theorem Readable.roundTrip {e : Expr} (readable : e.Readable) : e.RoundTrip width := by
  induction readable with
  | ident identifier free =>
    exact ((readsPrimary_ident identifier free).object rfl).roundTrip (.ident identifier free) rfl
  | str value => exact ((readsPrimary_str value).object rfl).roundTrip (.str value) rfl
  | bool value => exact ((readsPrimary_bool value).object rfl).roundTrip (.bool value) rfl
  | null => exact (readsPrimary_null.object rfl).roundTrip .null rfl
  | object named readable lines values =>
    exact ((readsPrimary_object named values lines).operand rfl).roundTrip
      (.object named readable lines) rfl rfl
  | array readable values =>
    exact ((readsPrimary_array readable values).object rfl).roundTrip (.array readable) rfl
  | call readable each called values =>
    exact (readsObject_call called each values).roundTrip (.call readable each) rfl
  | member optional readable identifier accessed =>
    exact (readsObject_member optional accessed identifier).roundTrip
      (.member optional readable identifier) rfl
  | index optional readable inner accessed position =>
    exact (readsObject_index optional accessed position).roundTrip
      (.index optional readable inner) rfl
  | arrow identifiers readable result =>
    exact (readsWhole_arrow identifiers readable result).roundTrip rfl
  | binary op readable other first second =>
    exact (readsBranch_binary op first second).roundTrip (.binary op readable other) rfl rfl
  | conditional readable yes no tested first second =>
    exact (readsWhole_conditional (.conditional readable yes no) tested first second).roundTrip rfl
  | template filled apart readable values =>
    exact ((readsPrimary_template filled apart values).object rfl).roundTrip
      (.template filled apart readable) rfl

/-- Expressions with the same text are the same, at every depth and width of indentation. -/
theorem eq_of_text_eq (width depth : Nat) {first second : Expr} (readable : first.Readable)
    (other : second.Readable)
    (same : (first.layout depth).text width = (second.layout depth).text width) :
    first = second := by
  have chars : first.chars width depth = second.chars width depth := String.ofList_injective same
  have one : first.RoundTrip width := readable.roundTrip
  have two : second.RoundTrip width := other.roundTrip
  have read := one.whole depth [] .nothing
  rw [chars] at read
  exact (Prod.mk.inj (read.unique (two.whole depth [] .nothing))).1

/-- An arrow to an object literal, each with brackets of its own around it. -/
theorem eq_of_text_eq_inline :
    let members : List Member := [.spread (.ident "item"), .property (.quoted "first name")
      (.template [.text "$", .expr (.member (.ident "item") "name" true)])]
    let first : Expr := .call (.arrow ["item"] (.object members false)) []
    let second : Expr := .call (.arrow ["item"] (.inline members)) []
    first.Readable ∧ second.Readable ∧ (first.layout 1).text 2 = (second.layout 1).text 2 ∧
      first = second := by
  intro members first second
  have item : (ident "item").Readable := .ident (by decide) (by decide)
  have name : (member (.ident "item") "name" true).Readable := .member true item (by decide)
  have template : (template [.text "$", .expr (.member (.ident "item") "name" true)]).Readable := by
    refine .template (by simp) (by simp [TemplatePart.isText]) fun e part => ?_
    simp only [List.mem_cons, reduceCtorEq, false_or, List.not_mem_nil, or_false,
      TemplatePart.expr.injEq] at part
    rw [part]
    exact name
  have object : (object members false).Readable := by
    refine .object ?_ ?_ fun _ => rfl
    · simp [members, Member.Named, Key.Named]
    · simp [members, Member.value, item, template]
  have readable : first.Readable :=
    .call (.arrow (by decide) object) (by simp)
  have same : (first.layout 1).text 2 = (second.layout 1).text 2 := rfl
  exact ⟨readable, readable, same, eq_of_text_eq 2 1 readable readable same⟩

end Expr

end JsxGen.Js
