import JsxGen.Proofs.Js.TemplateText

/-!
Sources whose names hold no bracket and no quote: their text closes all that it opens, whatever their
strings, keys and templates hold. `Expr.Clear.isLevel` says so of expressions.
-/

namespace JsxGen.Js

/-- The name holds no brace and no quote. -/
def BareName (name : String) : Prop :=
  ∀ c ∈ name.toList, isBare c

instance (name : String) : Decidable (BareName name) :=
  decidable_of_iff (name.toList.all isBare) List.all_eq_true

def Key.Clear : Key → Prop
  | .bare name => BareName name
  | .quoted _ => True

def Pattern.Clear : Pattern → Prop
  | .ident name => BareName name
  | .object bindings rest =>
    (∀ entry ∈ bindings, BareName entry.1 ∧ ∀ name ∈ entry.2, BareName name) ∧
      ∀ name ∈ rest, BareName name
  | .array names => ∀ name ∈ names, BareName name

mutual

/-- All names in the expression are bare, and the texts of its templates join nowhere. -/
def Expr.Clear : Expr → Prop
  | .ident name => BareName name
  | .str _ | .num _ | .bool _ | .null => True
  | .object members _ => Member.AllClear members
  | .array items => Expr.AllClear items
  | .call callee args => callee.Clear ∧ Expr.AllClear args
  | .member object property _ => object.Clear ∧ BareName property
  | .index object at_ _ => object.Clear ∧ at_.Clear
  | .arrow params body => (∀ name ∈ params, BareName name) ∧ body.Clear
  | .arrowBlock params body => (∀ name ∈ params, BareName name) ∧ Stmt.AllClear body
  | .binary left _ right => left.Clear ∧ right.Clear
  | .conditional test yes no => test.Clear ∧ yes.Clear ∧ no.Clear
  | .template parts => TemplatePart.Unjoined parts ∧ TemplatePart.AllClear parts
  | .jsx element => element.Clear

def Expr.AllClear : List Expr → Prop
  | [] => True
  | e :: es => e.Clear ∧ Expr.AllClear es

def Member.AllClear : List Member → Prop
  | [] => True
  | .spread source :: members => source.Clear ∧ Member.AllClear members
  | .property key value :: members => (key.Clear ∧ value.Clear) ∧ Member.AllClear members

def TemplatePart.AllClear : List TemplatePart → Prop
  | [] => True
  | .text _ :: parts => TemplatePart.AllClear parts
  | .expr e :: parts => e.Clear ∧ TemplatePart.AllClear parts

def Stmt.Clear : Stmt → Prop
  | .const pattern init => pattern.Clear ∧ init.Clear
  | .expr e => e.Clear
  | .ret value => value.Clear
  | .function name params body _ =>
    (BareName name ∧ ∀ param ∈ params, BareName param) ∧ Stmt.AllClear body

def Stmt.AllClear : List Stmt → Prop
  | [] => True
  | s :: ss => s.Clear ∧ Stmt.AllClear ss

def JsxElement.Clear : JsxElement → Prop
  | ⟨tag, attributes, children⟩ =>
    BareName tag ∧ JsxAttribute.AllClear attributes ∧ JsxChild.AllClear children

def JsxAttribute.AllClear : List JsxAttribute → Prop
  | [] => True
  | .named name value :: attributes =>
    (BareName name ∧ value.Clear) ∧ JsxAttribute.AllClear attributes
  | .spread source :: attributes => source.Clear ∧ JsxAttribute.AllClear attributes

def JsxChild.AllClear : List JsxChild → Prop
  | [] => True
  | .element element :: children => element.Clear ∧ JsxChild.AllClear children
  | .expr e :: children => e.Clear ∧ JsxChild.AllClear children

end

/-- The characters of number literals. -/
def isNumeralChar (c : Char) : Bool :=
  c.isDigit || c ∈ ['-', '.', 'i', 'n', 'f', 'N', 'a']

theorem isNumeralChar_of_mem_toDigits (n : Nat) : ∀ c ∈ Nat.toDigits 10 n, isNumeralChar c := by
  intro c member
  rw [isNumeralChar, Nat.isDigit_of_mem_toDigits (by decide) (by decide) member, Bool.true_or]

theorem isNumeralChar_of_mem_signed {text : List Char} (inner : ∀ c ∈ text, isNumeralChar c)
    (negative : Bool) : ∀ c ∈ signed negative text, isNumeralChar c := by
  cases negative with
  | false => exact inner
  | true => exact List.forall_mem_cons.2 ⟨by decide, inner⟩

theorem isNumeralChar_of_mem_positional (digits : Nat) (power : Int) :
    ∀ c ∈ Binary64.positional digits power, isNumeralChar c := by
  have zeros : ∀ n, ∀ c ∈ List.replicate n '0', isNumeralChar c := by
    intro n c member
    rw [List.eq_of_mem_replicate member]
    decide
  have padded : ∀ n, ∀ c ∈ List.replicate n '0' ++ Nat.toDigits 10 digits, isNumeralChar c :=
    fun n => List.forall_mem_append.2 ⟨zeros n, isNumeralChar_of_mem_toDigits digits⟩
  rw [Binary64.positional]
  split
  · exact List.forall_mem_append.2 ⟨isNumeralChar_of_mem_toDigits digits, zeros _⟩
  · refine List.forall_mem_append.2 ⟨?_, List.forall_mem_cons.2 ⟨by decide, ?_⟩⟩
    · exact fun c member => padded _ c (List.mem_of_mem_take member)
    · exact fun c member => padded _ c (List.mem_of_mem_drop member)

theorem isNumeralChar_of_mem_shortest (value : Binary64) :
    ∀ c ∈ numeral.shortest value, isNumeralChar c := by
  cases value with
  | finite negative mantissa exponent canonical =>
    exact isNumeralChar_of_mem_signed (isNumeralChar_of_mem_positional _ _) negative
  | infinite negative =>
    exact isNumeralChar_of_mem_signed (List.all_eq_true.1 (by decide)) negative
  | nan => exact List.all_eq_true.1 (by decide)

theorem isNumeralChar_of_mem_numeral (value : Binary64) :
    ∀ c ∈ numeral value, isNumeralChar c := by
  unfold numeral
  split
  · split
    · exact isNumeralChar_of_mem_signed (isNumeralChar_of_mem_toDigits _) _
    · exact isNumeralChar_of_mem_shortest value
  · exact isNumeralChar_of_mem_shortest value

namespace Level

theorem bracketed {text : List Char} (level : Level text) (needed : Bool) :
    Level (Js.bracketed needed text) := by
  cases needed with
  | false => exact level
  | true => exact cons (by decide) (level.append (of_literal (by decide)))

theorem flatMap {α : Type} {xs : List α} {f : α → List Char} (each : ∀ x ∈ xs, Level (f x)) :
    Level (xs.flatMap f) := by
  induction xs with
  | nil => exact nil
  | cons x xs ih =>
    rcases List.forall_mem_cons.1 each with ⟨first, others⟩
    exact first.append (ih others)

theorem separated {texts : List (List Char)} (each : ∀ text ∈ texts, Level text) :
    Level (Js.separated texts) := by
  induction texts with
  | nil => exact nil
  | cons first texts ih =>
    rcases List.forall_mem_cons.1 each with ⟨one, others⟩
    cases texts with
    | nil =>
      rw [separated_singleton]
      exact one
    | cons second texts =>
      rw [separated_cons_cons]
      exact one.append (cons (by decide) (cons (by decide) (ih others)))

theorem names {names : List String} (bare : ∀ name ∈ names, BareName name) :
    Level (Js.separated (names.map String.toList)) :=
  separated (List.forall_mem_map.2 fun name member => of_bare (bare name member))

theorem onLine {text : List Char} (level : Level text) (width depth : Nat) :
    Level (Js.onLine width depth text) := by
  have blanks : ∀ c ∈ List.replicate (depth * width) ' ', isBare c := by
    intro c member
    rw [List.eq_of_mem_replicate member]
    decide
  exact cons (by decide) ((of_bare blanks).append level)

theorem braced {width : Nat} {layouts : List Layout}
    (each : ∀ layout ∈ layouts, Level (layout.chars width)) (depth : Nat) :
    Level ((Layout.braced depth layouts).chars width) := by
  cases layouts with
  | nil => exact braces nil
  | cons layout layouts =>
    have inner : Level (((layout :: layouts).map (Layout.chars width)).flatMap
        (Js.onLine width (depth + 1)) ++ Js.onLine width depth []) := by
      refine (flatMap ?_).append (nil.onLine width depth)
      rw [List.forall_mem_map]
      exact fun layout member => (each layout member).onLine width (depth + 1)
    have whole : (Layout.braced depth (layout :: layouts)).chars width =
        '\x7b' :: (((layout :: layouts).map (Layout.chars width)).flatMap
          (Js.onLine width (depth + 1)) ++ Js.onLine width depth [] ++ ['\x7d']) := by
      simp [Layout.braced, Layout.chars_lines, Js.onLine]
    rw [whole]
    exact inner.braces

theorem stringLiteral (text : List Char) : Level (Js.stringLiteral text) := by
  refine quotes_of_run fun outer => ?_
  induction text with
  | nil => rfl
  | cons c text ih =>
    rw [List.flatMap_cons, run_append, run_quotedChar, Option.bind_some, ih]

theorem numeral (value : Binary64) : Level (Js.numeral value) := by
  refine of_bare fun c member => ?_
  have marks : ['"', '\'', '\x60', '\x7b', '\x7d'].any isNumeralChar = false := by decide
  exact decide_eq_true fun mark =>
    List.any_eq_false.1 marks c mark (isNumeralChar_of_mem_numeral value c member)

end Level

def JsxElement.chars (width depth : Nat) (element : JsxElement) : List Char :=
  (element.layout depth).chars width

def JsxAttribute.chars (width depth : Nat) (a : JsxAttribute) : List Char :=
  (a.layout depth).chars width

def JsxChild.chars (width depth : Nat) (child : JsxChild) : List Char :=
  (child.layout depth).chars width

def Stmt.chars (width depth : Nat) (stmt : Stmt) : List Char := (stmt.layout depth).chars width

section forms

variable {width : Nat}

theorem Key.Clear.level {key : Key} (clear : key.Clear) : Level key.chars := by
  cases key with
  | bare name => exact .of_bare clear
  | quoted text => exact .stringLiteral _

theorem Pattern.Clear.level {pattern : Pattern} (clear : pattern.Clear) :
    Level (pattern.layout.chars width) := by
  cases pattern with
  | ident name =>
    rw [layout, Layout.chars_plain]
    exact .of_bare clear
  | object bindings rest =>
    have bound : ∀ entry ∈ bindings, BareName (binding entry) := by
      intro entry member
      obtain ⟨key, name⟩ := entry
      have parts := clear.1 _ member
      cases name with
      | none => exact parts.1
      | some name =>
        simp only [BareName, binding, String.toList_append]
        exact List.forall_mem_append.2 ⟨List.forall_mem_append.2 ⟨parts.1, List.all_eq_true.1 (by decide)⟩,
          parts.2 name rfl⟩
    have others : ∀ name ∈ (rest.map ("..." ++ ·)).toList, BareName name := by
      intro name member
      obtain ⟨given, known, rfl⟩ := Option.map_eq_some_iff.1 (Option.mem_toList.1 member)
      simp only [BareName, String.toList_append]
      exact List.forall_mem_append.2 ⟨List.all_eq_true.1 (by decide), clear.2 given known⟩
    have inner : Level (' ' :: (separated ((bindings.map binding ++
        (rest.map ("..." ++ ·)).toList).map String.toList) ++ [' '])) := by
      refine .cons (by decide) ((Level.names ?_).append (.of_literal (by decide)))
      exact List.forall_mem_append.2 ⟨List.forall_mem_map.2 bound, others⟩
    simpa [layout, Layout.chars_commaSeparated, Function.comp_def] using inner.braces
  | array names =>
    simp only [layout, Layout.chars_char, Layout.chars_append, Layout.chars_commaSeparated,
      List.map_map, Function.comp_def, Layout.chars_plain, List.cons_append, Layout.chars_nil]
    exact .cons (by decide) ((Level.names clear).append (.of_literal (by decide)))

theorem level_params {params : List String} (bare : ∀ name ∈ params, BareName name) :
    Level ((paramsLayout params).chars width) := by
  simp only [paramsLayout, Layout.chars_char, Layout.chars_append, Layout.chars_commaSeparated,
    List.map_map, Function.comp_def, Layout.chars_plain, List.cons_append, Layout.chars_nil]
  exact .cons (by decide) ((Level.names bare).append (.of_literal (by decide)))

/-- The expression is level wherever it is written. -/
def Expr.IsLevel (width : Nat) (e : Expr) : Prop := ∀ depth, Level (e.chars width depth)

def Member.IsLevel (width : Nat) (m : Member) : Prop := ∀ depth, Level (m.chars width depth)

def Stmt.IsLevel (width : Nat) (s : Stmt) : Prop := ∀ depth, Level (s.chars width depth)

def JsxElement.IsLevel (width : Nat) (e : JsxElement) : Prop := ∀ depth, Level (e.chars width depth)

namespace Expr

theorem isLevel_object {members : List Member} (values : ∀ m ∈ members, m.IsLevel width)
    (multiline : Bool) : (object members multiline).IsLevel width := by
  intro depth
  by_cases empty : members = []
  · subst empty
    rw [chars_object_empty]
    exact .braces .nil
  cases multiline with
  | false =>
    have inner : Level (' ' :: (separated (members.map (Member.chars width depth)) ++ [' '])) :=
      .cons (by decide) ((Level.separated (List.forall_mem_map.2 fun m member =>
        values m member depth)).append (.of_literal (by decide)))
    rw [chars_object_inline empty]
    simpa using inner.braces
  | true =>
    have inner : Level (members.flatMap (fun m => onLine width (depth + 1)
        (m.chars width (depth + 1) ++ [','])) ++ onLine width depth []) := by
      refine (Level.flatMap fun m member => ?_).append (Level.nil.onLine width depth)
      exact ((values m member (depth + 1)).append (.of_literal (by decide))).onLine width (depth + 1)
    rw [chars_object_lines empty]
    simpa [onLine] using inner.braces

theorem isLevel_array {items : List Expr} (values : ∀ e ∈ items, e.IsLevel width) :
    (array items).IsLevel width := by
  intro depth
  rw [chars_array]
  exact .cons (by decide) ((Level.separated (List.forall_mem_map.2 fun e member =>
    values e member depth)).append (.of_literal (by decide)))

theorem isLevel_call {callee : Expr} {args : List Expr} (called : callee.IsLevel width)
    (values : ∀ e ∈ args, e.IsLevel width) : (call callee args).IsLevel width := by
  intro depth
  rw [chars_call]
  exact ((called depth).bracketed _).append (.cons (by decide) ((Level.separated
    (List.forall_mem_map.2 fun e member => values e member depth)).append (.of_literal (by decide))))

theorem isLevel_member {object : Expr} {property : String} (accessed : object.IsLevel width)
    (bare : BareName property) (optional : Bool) :
    (member object property optional).IsLevel width := by
  intro depth
  have mark : Level (if optional then ['?', '.'] else ['.']) := by
    cases optional <;> exact .of_literal (by decide)
  rw [chars_member]
  exact ((accessed depth).bracketed _).append (mark.append (.of_bare bare))

theorem isLevel_index {object at_ : Expr} (accessed : object.IsLevel width)
    (position : at_.IsLevel width) (optional : Bool) :
    (index object at_ optional).IsLevel width := by
  intro depth
  have mark : Level (if optional then ['?', '.', '['] else ['[']) := by
    cases optional <;> exact .of_literal (by decide)
  rw [chars_index]
  exact ((accessed depth).bracketed _).append
    (mark.append ((position depth).append (.of_literal (by decide))))

theorem isLevel_arrow {params : List String} {body : Expr}
    (bare : ∀ name ∈ params, BareName name) (result : body.IsLevel width) :
    (arrow params body).IsLevel width := by
  intro depth
  have arrow : Level [' ', '=', '>', ' '] := .of_literal (by decide)
  have written : (Expr.arrow params body).chars width depth =
      (paramsLayout params).chars width ++ ([' ', '=', '>', ' '] ++
        bracketed body.isObject (body.chars width depth)) := by
    simp [chars_arrow, paramsLayout, Layout.chars_commaSeparated, Function.comp_def]
  rw [written]
  exact (level_params bare).append (arrow.append ((result depth).bracketed _))

theorem isLevel_arrowBlock {params : List String} {body : List Stmt}
    (bare : ∀ name ∈ params, BareName name)
    (stmts : ∀ depth, ∀ layout ∈ Stmt.layouts depth body, Level (layout.chars width)) :
    (arrowBlock params body).IsLevel width := by
  intro depth
  have arrow : Level [' ', '=', '>', ' '] := .of_literal (by decide)
  have written : (Expr.arrowBlock params body).chars width depth =
      (paramsLayout params).chars width ++ ([' ', '=', '>', ' '] ++
        (Layout.braced depth (Stmt.layouts (depth + 1) body)).chars width) := by
    simp [chars, layout]
  rw [written]
  exact (level_params bare).append (arrow.append (.braced (stmts (depth + 1)) depth))

theorem isLevel_binary {left right : Expr} (first : left.IsLevel width)
    (second : right.IsLevel width) (op : BinaryOp) : (binary left op right).IsLevel width := by
  intro depth
  have sign : Level op.sign.toList := by
    cases op <;> exact .of_literal (by decide)
  rw [chars_binary]
  exact ((first depth).bracketed _).append (.cons (by decide)
    (sign.append (.cons (by decide) ((second depth).bracketed _))))

theorem isLevel_conditional {test yes no : Expr} (tested : test.IsLevel width)
    (first : yes.IsLevel width) (second : no.IsLevel width) :
    (conditional test yes no).IsLevel width := by
  intro depth
  have question : Level [' ', '?', ' '] := .of_literal (by decide)
  have colon : Level [' ', ':', ' '] := .of_literal (by decide)
  rw [chars_conditional]
  exact ((tested depth).bracketed _).append (question.append
    (((first depth).bracketed _).append (colon.append ((second depth).bracketed _))))

end Expr

theorem run_charsToEnd {depth : Nat} {parts : List TemplatePart}
    (unjoined : TemplatePart.Unjoined parts)
    (values : ∀ e, .expr e ∈ parts → Level (e.chars width depth)) (before : List Char)
    (apart : ¬(before.getLast? = some '$' ∧
      (TemplatePart.leadingText parts).head? = some '\x7b')) (outer : List Inside) :
    run (Inside.afterText before :: .code :: outer) (TemplatePart.charsToEnd width depth parts) =
      some (.code :: outer) := by
  induction parts generalizing before with
  | nil =>
    rw [TemplatePart.charsToEnd_nil, run, step_afterText (by simp)]
    simp [stepTemplate, run]
  | cons part parts ih =>
    have others := fun e member => values e (List.mem_cons_of_mem _ member)
    cases part with
    | expr e =>
      have level := values e List.mem_cons_self (.template :: .code :: outer)
      have next := ih ((TemplatePart.unjoined_expr e parts).1 unjoined) others [] (by simp)
      rw [TemplatePart.charsToEnd_expr, run, step_afterText (by simp)]
      simpa [stepTemplate, run, step, run_append, level, Inside.afterText] using next
    | text literal =>
      obtain ⟨apart', unjoined⟩ := (TemplatePart.unjoined_text literal parts).1 unjoined
      rw [TemplatePart.leadingText] at apart
      have start : ¬(before.getLast? = some '$' ∧ literal.toList.head? = some '\x7b') := by
        intro joined
        exact apart ⟨joined.1, by simp [joined.2]⟩
      have next := ih unjoined others (before ++ literal.toList) (by
        cases same : literal.toList with
        | nil => simpa [same] using apart
        | cons c cs => simpa [same] using apart')
      rw [TemplatePart.charsToEnd_text, run_append, run_templateText before _ _ start,
        Option.bind_some, next]

theorem Expr.isLevel_template {parts : List TemplatePart} (unjoined : TemplatePart.Unjoined parts)
    (values : ∀ e, .expr e ∈ parts → e.IsLevel width) : (template parts).IsLevel width := by
  intro depth outer
  have inner := run_charsToEnd unjoined (fun e member => values e member depth) [] (by simp) outer
  rw [chars_template, run]
  simpa [step, Inside.afterText, TemplatePart.charsToEnd] using inner

theorem Member.isLevel_spread {source : Expr} (level : source.IsLevel width) :
    (spread source).IsLevel width := by
  intro depth
  rw [chars_spread]
  exact .cons (by decide) (.cons (by decide) (.cons (by decide) ((level depth).bracketed _)))

theorem Member.isLevel_property {key : Key} {value : Expr} (clear : key.Clear)
    (level : value.IsLevel width) : (property key value).IsLevel width := by
  intro depth
  rw [chars_property]
  exact clear.level.append (.cons (by decide) (.cons (by decide) (level depth)))

theorem JsxAttribute.level_named {name : String} {value : Expr} (bare : BareName name)
    (level : value.IsLevel width) (depth : Nat) :
    Level ((JsxAttribute.named name value).chars width depth) := by
  have start : Level (name.toList ++ ['=']) := (Level.of_bare bare).append (.of_literal (by decide))
  by_cases given : ∃ text, value = .str text
  · obtain ⟨text, rfl⟩ := given
    rw [JsxAttribute.chars, JsxAttribute.layout]
    split
    · rename_i plain
      have unescaped : ∀ c ∈ text.toList, c ≠ '"' ∧ c ≠ '\\' := by
        simpa [isPlainText] using plain
      simpa using start.append (.quotes unescaped)
    · simpa using start.append (Level.stringLiteral text.toList).braces
  · rw [JsxAttribute.chars, JsxAttribute.layout_named fun text same => given ⟨text, same⟩]
    simpa [Expr.chars] using start.append (level depth).braces

theorem JsxAttribute.level_spread {source : Expr} (level : source.IsLevel width) (depth : Nat) :
    Level ((JsxAttribute.spread source).chars width depth) := by
  have dots : Level ['.', '.', '.'] := .of_literal (by decide)
  have inner := dots.append ((level depth).bracketed source.apartAsOperand)
  simpa [JsxAttribute.chars, JsxAttribute.layout, Layout.chars_parens, Expr.chars] using
    inner.braces

theorem Stmt.isLevel_const {pattern : Pattern} {init : Expr} (clear : pattern.Clear)
    (level : init.IsLevel width) : (Stmt.const pattern init).IsLevel width := by
  intro depth
  have keyword : Level "const ".toList := .of_literal (by decide)
  have equals : Level " = ".toList := .of_literal (by decide)
  have written : (Stmt.const pattern init).chars width depth = "const ".toList ++
      (pattern.layout.chars width ++ (" = ".toList ++ (init.chars width depth ++ [';']))) := by
    simp [chars, layout, Expr.chars]
  rw [written]
  exact keyword.append (clear.level.append (equals.append ((level depth).append
    (.of_literal (by decide)))))

theorem Stmt.isLevel_expr {e : Expr} (level : e.IsLevel width) :
    (Stmt.expr e).IsLevel width := by
  intro depth
  have written : (Stmt.expr e).chars width depth = e.chars width depth ++ [';'] := by
    simp [chars, layout, Expr.chars]
  rw [written]
  exact (level depth).append (.of_literal (by decide))

theorem Stmt.isLevel_ret {value : Expr} (level : value.IsLevel width) :
    (Stmt.ret value).IsLevel width := by
  intro depth
  by_cases markup : ∃ element, value = .jsx element
  · obtain ⟨element, rfl⟩ := markup
    have opening : Level "return (".toList := .of_literal (by decide)
    have closing : Level ");".toList := .of_literal (by decide)
    have inner : Level ((element.layout (depth + 1)).chars width) := by
      simpa [Expr.chars, Expr.layout] using level (depth + 1)
    have whole := opening.append ((inner.onLine width (depth + 1)).append
      (closing.onLine width depth))
    simpa [Stmt.chars, Stmt.layout, onLine] using whole
  · have keyword : Level "return ".toList := .of_literal (by decide)
    have ending : Level [';'] := .of_literal (by decide)
    rw [Stmt.chars, Stmt.layout_ret fun element same => markup ⟨element, same⟩]
    simpa [Expr.chars] using keyword.append ((level depth).append ending)

theorem Stmt.isLevel_function {name : String} {params : List String} {body : List Stmt}
    (named : BareName name) (bare : ∀ param ∈ params, BareName param)
    (stmts : ∀ depth, ∀ layout ∈ Stmt.layouts depth body, Level (layout.chars width))
    (exported : Bool) : (Stmt.function name params body exported).IsLevel width := by
  intro depth
  have start : Level ((if exported then "export default " else "").toList ++
      ("function ".toList ++ name.toList)) := by
    refine .append ?_ ((Level.of_literal (by decide)).append (.of_bare named))
    cases exported <;> exact .of_literal (by decide)
  have block := Level.cons (c := ' ') (by decide) (.braced (stmts (depth + 1)) depth)
  have given : Level ((paramsLayout params).chars width) := level_params bare
  have whole := start.append (given.append block)
  simpa [chars, layout] using whole

theorem JsxElement.isLevel {tag : String} {attributes : List JsxAttribute}
    {children : List JsxChild} (bare : BareName tag)
    (given : ∀ depth, Level ((JsxAttribute.layouts depth attributes).chars width))
    (inner : ∀ depth, ∀ layout ∈ JsxChild.layouts depth children, Level (layout.chars width)) :
    (JsxElement.mk tag attributes children).IsLevel width := by
  intro depth
  have start : Level ('<' :: (tag.toList ++ (JsxAttribute.layouts depth attributes).chars width)) :=
    .cons (by decide) ((Level.of_bare bare).append (given depth))
  cases children with
  | nil =>
    have ending : Level " />".toList := .of_literal (by decide)
    simpa [chars, layout] using start.append ending
  | cons child children =>
    have within : Level (['>'] ++ ((JsxChild.layouts (depth + 1) (child :: children)).map
        (Layout.chars width)).flatMap (onLine width (depth + 1))) := by
      refine (Level.of_literal (by decide)).append (.flatMap ?_)
      rw [List.forall_mem_map]
      exact fun layout member => (inner (depth + 1) layout member).onLine width (depth + 1)
    have ending : Level ("</".toList ++ (tag.toList ++ ['>'])) :=
      (Level.of_literal (by decide)).append ((Level.of_bare bare).append (.of_literal (by decide)))
    have whole := start.append (within.append (ending.onLine width depth))
    simpa [chars, layout, Layout.chars_lines, onLine, JsxChild.layouts] using whole

end forms

section trees

variable {width : Nat}

mutual

/-- The text of an expression closes all that it opens. -/
theorem Expr.Clear.isLevel : (e : Expr) → e.Clear → e.IsLevel width
  | .ident name, clear => by
    intro depth
    rw [Expr.chars_ident]
    exact .of_bare clear
  | .str value, _ => by
    intro depth
    rw [Expr.chars_str]
    exact .stringLiteral _
  | .num value, _ => by
    intro depth
    simpa [Expr.chars, Expr.layout] using Level.numeral value
  | .bool value, _ => by
    intro depth
    rw [Expr.chars_bool]
    cases value <;> exact .of_literal (by decide)
  | .null, _ => by
    intro depth
    rw [Expr.chars_null]
    exact .of_literal (by decide)
  | .object members multiline, clear =>
    Expr.isLevel_object (Member.AllClear.isLevel members clear) multiline
  | .array items, clear => Expr.isLevel_array (Expr.AllClear.isLevel items clear)
  | .call callee args, clear =>
    Expr.isLevel_call (Expr.Clear.isLevel callee clear.1) (Expr.AllClear.isLevel args clear.2)
  | .member object property optional, clear =>
    Expr.isLevel_member (Expr.Clear.isLevel object clear.1) clear.2 optional
  | .index object at_ optional, clear =>
    Expr.isLevel_index (Expr.Clear.isLevel object clear.1) (Expr.Clear.isLevel at_ clear.2)
      optional
  | .arrow params body, clear =>
    Expr.isLevel_arrow clear.1 (Expr.Clear.isLevel body clear.2)
  | .arrowBlock params body, clear =>
    Expr.isLevel_arrowBlock clear.1 (Stmt.AllClear.level body clear.2)
  | .binary left op right, clear =>
    Expr.isLevel_binary (Expr.Clear.isLevel left clear.1) (Expr.Clear.isLevel right clear.2) op
  | .conditional test yes no, clear =>
    Expr.isLevel_conditional (Expr.Clear.isLevel test clear.1) (Expr.Clear.isLevel yes clear.2.1)
      (Expr.Clear.isLevel no clear.2.2)
  | .template parts, clear =>
    Expr.isLevel_template clear.1 (TemplatePart.AllClear.isLevel parts clear.2)
  | .jsx element, clear => by
    intro depth
    have level : element.IsLevel width := JsxElement.Clear.isLevel element clear
    simpa [Expr.chars, Expr.layout, JsxElement.chars] using level depth

theorem Expr.AllClear.isLevel : (es : List Expr) → Expr.AllClear es → ∀ e ∈ es, e.IsLevel width
  | [], _ => by simp
  | e :: es, clear =>
    List.forall_mem_cons.2 ⟨Expr.Clear.isLevel e clear.1, Expr.AllClear.isLevel es clear.2⟩

theorem Member.AllClear.isLevel : (ms : List Member) → Member.AllClear ms →
    ∀ m ∈ ms, m.IsLevel width
  | [], _ => by simp
  | .spread source :: ms, clear =>
    List.forall_mem_cons.2 ⟨Member.isLevel_spread (Expr.Clear.isLevel source clear.1),
      Member.AllClear.isLevel ms clear.2⟩
  | .property _ value :: ms, clear =>
    List.forall_mem_cons.2 ⟨Member.isLevel_property clear.1.1 (Expr.Clear.isLevel value clear.1.2),
      Member.AllClear.isLevel ms clear.2⟩

theorem TemplatePart.AllClear.isLevel : (parts : List TemplatePart) →
    TemplatePart.AllClear parts → ∀ e, .expr e ∈ parts → e.IsLevel width
  | [], _ => by simp
  | .text _ :: parts, clear => by
    have others : ∀ e, .expr e ∈ parts → e.IsLevel width :=
      TemplatePart.AllClear.isLevel parts clear
    simpa using others
  | .expr e :: parts, clear => by
    have first : e.IsLevel width := Expr.Clear.isLevel e clear.1
    have others : ∀ e, .expr e ∈ parts → e.IsLevel width :=
      TemplatePart.AllClear.isLevel parts clear.2
    simpa [or_imp, forall_and] using ⟨first, others⟩

theorem Stmt.Clear.isLevel : (s : Stmt) → s.Clear → s.IsLevel width
  | .const _ init, clear => Stmt.isLevel_const clear.1 (Expr.Clear.isLevel init clear.2)
  | .expr e, clear => Stmt.isLevel_expr (Expr.Clear.isLevel e clear)
  | .ret value, clear => Stmt.isLevel_ret (Expr.Clear.isLevel value clear)
  | .function _ _ body exported, clear =>
    Stmt.isLevel_function clear.1.1 clear.1.2 (Stmt.AllClear.level body clear.2) exported

theorem Stmt.AllClear.level : (ss : List Stmt) → Stmt.AllClear ss →
    ∀ depth, ∀ layout ∈ Stmt.layouts depth ss, Level (layout.chars width)
  | [], _ => by simp [Stmt.layouts]
  | s :: ss, clear => by
    intro depth
    rw [Stmt.layouts]
    exact List.forall_mem_cons.2 ⟨Stmt.Clear.isLevel s clear.1 depth,
      Stmt.AllClear.level ss clear.2 depth⟩

theorem JsxElement.Clear.isLevel : (element : JsxElement) → element.Clear →
    element.IsLevel width
  | ⟨_, attributes, children⟩, clear =>
    JsxElement.isLevel clear.1 (JsxAttribute.AllClear.level attributes clear.2.1)
      (JsxChild.AllClear.level children clear.2.2)

theorem JsxAttribute.AllClear.level : (attributes : List JsxAttribute) →
    JsxAttribute.AllClear attributes →
    ∀ depth, Level ((JsxAttribute.layouts depth attributes).chars width)
  | [], _ => by
    intro depth
    exact .nil
  | .named name value :: attributes, clear => by
    intro depth
    have level : value.IsLevel width := Expr.Clear.isLevel value clear.1.2
    have first := (JsxAttribute.level_named clear.1.1 level depth).append
      (JsxAttribute.AllClear.level attributes clear.2 depth)
    simpa [JsxAttribute.layouts, JsxAttribute.chars] using first.cons (by decide : isBare ' ')
  | .spread source :: attributes, clear => by
    intro depth
    have level : source.IsLevel width := Expr.Clear.isLevel source clear.1
    have first := (JsxAttribute.level_spread level depth).append
      (JsxAttribute.AllClear.level attributes clear.2 depth)
    simpa [JsxAttribute.layouts, JsxAttribute.chars] using first.cons (by decide : isBare ' ')

theorem JsxChild.AllClear.level : (children : List JsxChild) → JsxChild.AllClear children →
    ∀ depth, ∀ layout ∈ JsxChild.layouts depth children, Level (layout.chars width)
  | [], _ => by simp [JsxChild.layouts]
  | .element element :: children, clear => by
    intro depth
    have level : element.IsLevel width := JsxElement.Clear.isLevel element clear.1
    rw [JsxChild.layouts]
    refine List.forall_mem_cons.2 ⟨?_, JsxChild.AllClear.level children clear.2 depth⟩
    simpa [JsxChild.layout, JsxElement.chars] using level depth
  | .expr e :: children, clear => by
    intro depth
    have level : e.IsLevel width := Expr.Clear.isLevel e clear.1
    rw [JsxChild.layouts]
    refine List.forall_mem_cons.2 ⟨?_, JsxChild.AllClear.level children clear.2 depth⟩
    simpa [JsxChild.layout, Expr.chars] using (level depth).braces

end

end trees

end JsxGen.Js
