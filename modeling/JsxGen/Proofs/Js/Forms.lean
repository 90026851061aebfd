import JsxGen.Proofs.Js.Places

/-! How each form of expression without members or parts is read back, from its operands. -/

namespace JsxGen.Js

open Text (isIdentifier isIdentifierStart)

namespace Expr

variable {width : Nat} {e : Expr}

theorem reads_word {name : String} {rest : List Char} (identifier : isIdentifier name)
    (ends : EndsName rest) : Reads (readPrimary · (name.toList ++ rest)) (word name, rest) := by
  apply Reads.always
  intro fuel
  rcases Text.exists_of_isIdentifier identifier with ⟨c, cs, same, start, _⟩
  have first : (name.toList ++ rest).head?.any isIdentifierStart = true := by
    rw [same]
    exact start
  unfold readPrimary
  rw [if_pos first, readName_append identifier ends]

theorem readsPrimary_ident {name : String} (identifier : isIdentifier name)
    (free : name ∉ ["null", "true", "false"]) : (ident name).ReadsPrimary width := by
  intro depth rest ends
  have named : word name = ident name := by
    simp only [List.mem_cons, List.not_mem_nil, or_false, not_or] at free
    rw [word, if_neg free.1, if_neg free.2.1, if_neg free.2.2]
  rw [chars_ident, ← named]
  exact reads_word identifier ends

theorem readsPrimary_bool (value : Bool) : (bool value).ReadsPrimary width := by
  intro depth rest ends
  rw [chars_bool]
  cases value with
  | false => exact reads_word (by decide) ends
  | true => exact reads_word (by decide) ends

theorem readsPrimary_null : null.ReadsPrimary width := by
  intro depth rest ends
  rw [chars_null]
  exact reads_word (by decide) ends

theorem readsPrimary_str (value : String) : (str value).ReadsPrimary width := by
  intro depth rest ends
  apply Reads.always
  intro fuel
  have noName : isIdentifierStart '"' = false := by decide
  simp [chars_str, readPrimary, noName, readString_quoted]

theorem reads_items {items : List Expr} (readable : ∀ e ∈ items, e.Readable)
    (values : ∀ e ∈ items, e.RoundTrip width) (depth : Nat) {c : Char} (rest : List Char)
    (closes : c ∈ [')', ']']) :
    Reads (readItems · (separated (items.map (chars width depth)) ++ c :: rest))
      (items, c :: rest) := by
  have final : EndsExpr (c :: rest) := by
    have closer : [')', ']'] ⊆ [',', ')', ']', '\x7d'] := by decide
    exact .closer rest (closer closes)
  simp only [List.mem_cons, List.not_mem_nil, or_false] at closes
  induction items with
  | nil =>
    apply Reads.always
    intro fuel
    rcases closes with rfl | rfl <;> rfl
  | cons e items ih =>
    rcases List.forall_mem_cons.1 readable with ⟨leading, readable⟩
    rcases List.forall_mem_cons.1 values with ⟨value, values⟩
    have opened : ∀ rest, closesItems (e.chars width depth ++ rest) = false :=
      leading.closesItems_chars
    have first := value.whole depth
    have others := ih readable values
    apply Reads.succ
    cases items with
    | nil =>
      filter_upwards [first _ final] with fuel one
      rw [List.map_cons, List.map_nil, separated_singleton, readItems, opened, one]
      rcases closes with rfl | rfl <;> rfl
    | cons second items =>
      have comma : EndsExpr (',' :: ' ' ::
          (separated ((second :: items).map (chars width depth)) ++ c :: rest)) :=
        .closer _ (by decide)
      filter_upwards [first _ comma, others] with fuel one two
      rw [List.map_cons] at one two
      rw [List.map_cons, List.map_cons, separated_cons_cons, List.append_assoc, readItems, opened,
        List.cons_append, List.cons_append, one]
      simp [two]

theorem readsPrimary_array {items : List Expr} (readable : ∀ e ∈ items, e.Readable)
    (values : ∀ e ∈ items, e.RoundTrip width) : (array items).ReadsPrimary width := by
  intro depth rest _
  have inner := reads_items readable values depth (c := ']') rest (by decide)
  apply Reads.succ
  filter_upwards [inner] with fuel one
  have noName : isIdentifierStart '[' = false := by decide
  simp [chars_array, readPrimary, noName, one]

theorem readsObject_call {callee : Expr} {args : List Expr} (called : callee.RoundTrip width)
    (readable : ∀ e ∈ args, e.Readable) (values : ∀ e ∈ args, e.RoundTrip width) :
    (call callee args).ReadsObject width := by
  intro depth rest result ends after
  have inner := reads_items readable values depth (c := ')') rest (by decide)
  have bare : (call callee args).apartAsObject = false := rfl
  rw [bare, bracketed_false, chars_call, List.append_assoc]
  apply called.object depth _ _ (endsName_cons _ (by decide))
  apply Reads.succ
  filter_upwards [inner, after] with fuel one two
  simp [readSuffixes, one, two]

theorem readsObject_member {object : Expr} {property : String} (optional : Bool)
    (accessed : object.RoundTrip width) (identifier : isIdentifier property) :
    (member object property optional).ReadsObject width := by
  intro depth rest result ends after
  have bare : (member object property optional).apartAsObject = false := rfl
  have name := readName_append identifier ends
  rw [bare, bracketed_false, chars_member, List.append_assoc]
  cases optional with
  | false =>
    apply accessed.object depth _ _ (endsName_cons _ (by decide))
    apply Reads.succ
    filter_upwards [after] with fuel one
    simp [readSuffixes, name, one]
  | true =>
    have noIndex := Text.identifier_append_ne identifier (c := '[') (by decide) rest
    apply accessed.object depth _ _ (endsName_cons _ (by decide))
    apply Reads.succ
    filter_upwards [after] with fuel one
    change readSuffixes (fuel + 1) object ('?' :: '.' :: (property.toList ++ rest)) = some result
    rw [readSuffixes]
    · rw [name]
      exact one
    · exact noIndex

theorem readsObject_index {object at_ : Expr} (optional : Bool)
    (accessed : object.RoundTrip width) (position : at_.RoundTrip width) :
    (index object at_ optional).ReadsObject width := by
  intro depth rest result ends after
  have inner := position.whole depth (']' :: rest) (.closer rest (by decide))
  have bare : (index object at_ optional).apartAsObject = false := rfl
  rw [bare, bracketed_false, chars_index, List.append_assoc]
  cases optional with
  | false =>
    apply accessed.object depth _ _ (endsName_cons _ (by decide))
    apply Reads.succ
    filter_upwards [inner, after] with fuel one two
    simp [readSuffixes, one, two]
  | true =>
    apply accessed.object depth _ _ (endsName_cons _ (by decide))
    apply Reads.succ
    filter_upwards [inner, after] with fuel one two
    simp [readSuffixes, one, two]

theorem reads_params {params : List String} (identifiers : ∀ name ∈ params, isIdentifier name)
    (nonempty : params ≠ []) (rest : List Char) :
    Reads (readParams · (separated (params.map String.toList) ++
      ')' :: ' ' :: '=' :: '>' :: ' ' :: rest)) (params, rest) := by
  induction params with
  | nil => exact absurd rfl nonempty
  | cons name params ih =>
    rcases List.forall_mem_cons.1 identifiers with ⟨identifier, identifiers⟩
    apply Reads.succ
    cases params with
    | nil =>
      have read := readName_append identifier
        (endsName_cons (c := ')') (' ' :: '=' :: '>' :: ' ' :: rest) (by decide))
      refine Filter.Eventually.of_forall fun fuel => ?_
      simp only [List.map_cons, List.map_nil, separated_singleton, readParams, read]
    | cons second params =>
      have others := ih identifiers (List.cons_ne_nil second params)
      filter_upwards [others] with fuel one
      rw [List.map_cons] at one
      have read := readName_append identifier (endsName_cons (c := ',') (' ' ::
        (separated (second.toList :: params.map String.toList) ++
          ')' :: ' ' :: '=' :: '>' :: ' ' :: rest)) (by decide))
      rw [List.map_cons, List.map_cons, separated_cons_cons, List.append_assoc]
      simp only [List.cons_append, readParams, read, one]
      rfl

theorem reads_arrowHead {params : List String} (identifiers : ∀ name ∈ params, isIdentifier name)
    (rest : List Char) :
    Reads (arrowHead? · ('(' :: (separated (params.map String.toList) ++
      ')' :: ' ' :: '=' :: '>' :: ' ' :: rest))) (params, rest) := by
  cases params with
  | nil => exact Filter.Eventually.of_forall fun fuel => rfl
  | cons name params =>
    have identifier := identifiers name List.mem_cons_self
    rcases exists_separated_cons name.toList (params.map String.toList) with ⟨more, text⟩
    have noClose : ∀ tail, separated ((name :: params).map String.toList) ++
        ')' :: ' ' :: '=' :: '>' :: ' ' :: rest ≠ ')' :: tail := by
      intro tail
      rw [List.map_cons, text, List.append_assoc]
      exact Text.identifier_append_ne identifier (by decide) _ _
    filter_upwards [reads_params identifiers (List.cons_ne_nil name params) rest] with fuel one
    rw [arrowHead?]
    · exact one
    · intro tail
      exact noClose _

/-- The body of an arrow, which stands between brackets if it is an object literal. -/
theorem RoundTrip.body (result : e.RoundTrip width) (readable : e.Readable) (depth : Nat)
    {rest : List Char} (ends : EndsExpr rest) :
    Reads (readExpr · (bracketed e.isObject (e.chars width depth) ++ rest)) (e, rest) := by
  cases object : e.isObject with
  | false => exact result.whole depth rest ends
  | true =>
    have operand : Reads (readOperand · (bracketed true (e.chars width depth) ++ rest)) (e, rest) :=
      result.whole.bracketed depth (reads_suffixes_end (.branch (.expr ends)))
    apply reads_whole_of_branch ends
    · intro fuel
      have opens : Opens (e.chars width depth ++ ([')'] ++ rest)) := by
        refine readable.leads.opens fun bare => ?_
        rw [apartAsObject_of_isObject object] at bare
        contradiction
      rw [bracketed, if_pos rfl, List.cons_append, List.cons_append, List.append_assoc]
      exact arrowHead?_bracket opens fuel
    · exact reads_branch_of_operand (.expr ends) operand

theorem readsWhole_arrow {params : List String} {body : Expr}
    (identifiers : ∀ name ∈ params, isIdentifier name) (readable : body.Readable)
    (result : body.RoundTrip width) : (arrow params body).ReadsWhole width := by
  intro depth rest ends
  have head :=
    reads_arrowHead identifiers (bracketed body.isObject (body.chars width depth) ++ rest)
  have inner := result.body readable depth ends
  apply Reads.succ
  filter_upwards [head, inner] with fuel one two
  simp [chars_arrow, readExpr, one, two]

theorem readsBranch_binary {left right : Expr} (op : BinaryOp) (first : left.RoundTrip width)
    (second : right.RoundTrip width) : (binary left op right).ReadsBranch width := by
  intro depth rest ends
  have one := first.operand depth _ (.sign op (bracketed right.apartAsOperand
    (right.chars width depth) ++ rest))
  have two := second.operand depth rest (.branch ends)
  have bare : (binary left op right).apartAsBranch = false := rfl
  rw [bare, bracketed_false, chars_binary]
  apply Reads.succ
  filter_upwards [one, two] with fuel one two
  simp [readBranch, one, operator?_sign, two]

theorem readsWhole_conditional {test yes no : Expr}
    (readable : (conditional test yes no).Readable)
    (tested : test.RoundTrip width) (first : yes.RoundTrip width) (second : no.RoundTrip width) :
    (conditional test yes no).ReadsWhole width := by
  intro depth rest ends
  have noArrow : ∀ fuel rest,
      arrowHead? fuel ((conditional test yes no).chars width depth ++ rest) = none :=
    readable.arrowHead?_chars rfl
  have three := second.branch depth rest (.expr ends)
  have two := first.branch depth _ (.no (bracketed no.apartAsBranch (no.chars width depth) ++ rest))
  have one := tested.branch depth _ (.yes (bracketed yes.apartAsBranch (yes.chars width depth) ++
    ' ' :: ':' :: ' ' :: (bracketed no.apartAsBranch (no.chars width depth) ++ rest)))
  apply Reads.succ
  filter_upwards [one, two, three] with fuel one two three
  rw [readExpr, noArrow]
  simp [chars_conditional, one, two, three]

end Expr

end JsxGen.Js
