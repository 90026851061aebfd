import JsxGen.Proofs.Js.Clear

/-!
What source holds as it stands: names, and the texts of templates and of plain attributes. The line
breaks in them are the only ones that no layout sets: `Expr.newlines_layout`.
-/

namespace JsxGen.Js

def Key.verbatim : Key → List Char
  | .bare name => name.toList
  | .quoted _ => []

def Pattern.verbatim : Pattern → List Char
  | .ident name => name.toList
  | .object bindings rest =>
    (bindings.map binding ++ rest.toList).flatMap String.toList
  | .array names => names.flatMap String.toList

mutual

/-- What is printed as it stands: all names, the texts of templates and plain attributes. -/
def Expr.verbatim : Expr → List Char
  | .ident name => name.toList
  | .str _ | .num _ | .bool _ | .null => []
  | .object members _ => Member.verbatims members
  | .array items => Expr.verbatims items
  | .call callee args => callee.verbatim ++ Expr.verbatims args
  | .member object property _ => object.verbatim ++ property.toList
  | .index object at_ _ => object.verbatim ++ at_.verbatim
  | .arrow params body => params.flatMap String.toList ++ body.verbatim
  | .arrowBlock params body => params.flatMap String.toList ++ Stmt.verbatims body
  | .binary left _ right => left.verbatim ++ right.verbatim
  | .conditional test yes no => test.verbatim ++ yes.verbatim ++ no.verbatim
  | .template parts => TemplatePart.verbatims parts
  | .jsx element => element.verbatim

def Expr.verbatims : List Expr → List Char
  | [] => []
  | e :: es => e.verbatim ++ Expr.verbatims es

def Member.verbatim : Member → List Char
  | .spread source => source.verbatim
  | .property key value => key.verbatim ++ value.verbatim

def Member.verbatims : List Member → List Char
  | [] => []
  | m :: ms => m.verbatim ++ Member.verbatims ms

def TemplatePart.verbatims : List TemplatePart → List Char
  | [] => []
  | .text text :: parts => text.toList ++ TemplatePart.verbatims parts
  | .expr e :: parts => e.verbatim ++ TemplatePart.verbatims parts

def Stmt.verbatim : Stmt → List Char
  | .const pattern init => pattern.verbatim ++ init.verbatim
  | .expr e => e.verbatim
  | .ret value => value.verbatim
  | .function name params body _ =>
    name.toList ++ params.flatMap String.toList ++ Stmt.verbatims body

def Stmt.verbatims : List Stmt → List Char
  | [] => []
  | s :: ss => s.verbatim ++ Stmt.verbatims ss

def JsxElement.verbatim : JsxElement → List Char
  | ⟨tag, attributes, []⟩ => tag.toList ++ JsxAttribute.verbatims attributes
  | ⟨tag, attributes, child :: children⟩ =>
    tag.toList ++ JsxAttribute.verbatims attributes ++ child.verbatim ++
      JsxChild.verbatims children ++ tag.toList

def JsxAttribute.verbatims : List JsxAttribute → List Char
  | [] => []
  | a :: as => a.verbatim ++ JsxAttribute.verbatims as

def JsxAttribute.verbatim : JsxAttribute → List Char
  | .named name (.str text) => name.toList ++ if isPlainText text then text.toList else []
  | .named name value => name.toList ++ value.verbatim
  | .spread source => source.verbatim

def JsxChild.verbatim : JsxChild → List Char
  | .element element => element.verbatim
  | .expr e => e.verbatim

def JsxChild.verbatims : List JsxChild → List Char
  | [] => []
  | c :: cs => c.verbatim ++ JsxChild.verbatims cs

end

namespace Layout

/-- How many line breaks the text itself has. -/
def newlines (layout : Layout) : Nat := layout.count (.char '\n')

@[simp] theorem newlines_nil : newlines [] = 0 := rfl

@[simp] theorem newlines_char (c : Char) (layout : Layout) :
    newlines (.char c :: layout) = [c].count '\n' + newlines layout := by
  by_cases newline : c = '\n' <;> simp [newlines, newline, Nat.add_comm]

@[simp] theorem newlines_line (depth : Nat) (layout : Layout) :
    newlines (.line depth :: layout) = newlines layout := by
  simp [newlines]

@[simp] theorem newlines_append (first second : Layout) :
    newlines (first ++ second) = newlines first + newlines second := List.count_append

@[simp] theorem newlines_plainChars (text : List Char) :
    newlines (plainChars text) = text.count '\n' := by
  induction text with
  | nil => rfl
  | cons c text ih =>
    rw [plainChars] at ih
    simp [plainChars, ih, List.count_cons, Nat.add_comm]

@[simp] theorem newlines_plain (text : String) : newlines (plain text) = text.toList.count '\n' :=
  newlines_plainChars text.toList

@[simp] theorem newlines_parens (needed : Bool) (layout : Layout) :
    newlines (parens needed layout) = newlines layout := by
  cases needed <;> simp [parens]

@[simp] theorem newlines_commaSeparated (layouts : List Layout) :
    newlines (commaSeparated layouts) = newlines layouts.flatten := by
  induction layouts with
  | nil => rfl
  | cons first layouts ih =>
    cases layouts with
    | nil => simp [commaSeparated]
    | cons second layouts =>
      rw [commaSeparated] at ih
      simp [commaSeparated, List.intercalate_cons_cons, ih]

@[simp] theorem newlines_lines (depth : Nat) (layouts : List Layout) :
    newlines (lines depth layouts) = newlines layouts.flatten := by
  induction layouts with
  | nil => rfl
  | cons layout layouts ih =>
    rw [lines] at ih
    simp [lines, ih]

@[simp] theorem newlines_braced (depth : Nat) (layouts : List Layout) :
    newlines (braced depth layouts) = newlines layouts.flatten := by
  cases layouts <;> simp [braced]

theorem newlines_flatten_concat {c : Char} (layouts : List Layout) (other : [c].count '\n' = 0) :
    newlines (layouts.map (· ++ [.char c])).flatten = newlines layouts.flatten := by
  induction layouts with
  | nil => rfl
  | cons layout layouts ih => simp [ih, other]

end Layout

theorem newlines_names (names : List String) :
    Layout.newlines (names.map Layout.plain).flatten =
      (names.flatMap String.toList).count '\n' := by
  induction names with
  | nil => rfl
  | cons name names ih => simp [ih]

theorem newlines_paramsLayout (params : List String) :
    (paramsLayout params).newlines = (params.flatMap String.toList).count '\n' := by
  simp only [paramsLayout, Layout.newlines_append, Layout.newlines_char,
    Layout.newlines_commaSeparated, newlines_names]
  simp

theorem count_stringLiteral (text : List Char) : (stringLiteral text).count '\n' = 0 := by
  have each : ∀ c, '\n' ∉ quotedChar c := by
    intro c
    unfold quotedChar
    split_ifs <;> simp_all [eq_comm]
  simpa [stringLiteral, List.count_eq_zero] using fun c _ => each c

theorem count_numeral (value : Binary64) : (numeral value).count '\n' = 0 :=
  List.count_eq_zero.2 fun member =>
    absurd (isNumeralChar_of_mem_numeral value _ member) (by decide)

theorem count_templateText (text : List Char) :
    (templateText text).count '\n' = text.count '\n' := by
  induction text using templateText.induct with
  | case1 => rfl
  | case2 cs ih => simpa [templateText] using ih
  | case3 cs ih => simpa [templateText] using ih
  | case4 cs ih => simpa [templateText] using ih
  | case5 c cs _ _ _ ih =>
    rw [templateText, List.count_cons, ih, List.count_cons] <;> assumption

theorem Key.newlines_layout (key : Key) : key.layout.newlines = key.verbatim.count '\n' := by
  cases key with
  | bare name => simp [layout, verbatim]
  | quoted text => simp [layout, verbatim, count_stringLiteral]

theorem Pattern.newlines_layout (pattern : Pattern) :
    pattern.layout.newlines = pattern.verbatim.count '\n' := by
  cases pattern with
  | ident name => simp [layout, verbatim]
  | object bindings rest =>
    have starred : ((rest.map ("..." ++ ·)).toList.flatMap String.toList).count '\n' =
        (rest.toList.flatMap String.toList).count '\n' := by
      cases rest <;> simp
    simp only [layout, verbatim, Layout.newlines_append, Layout.newlines_commaSeparated,
      newlines_names, List.flatMap_append, List.count_append, starred]
    simp
  | array names =>
    simp only [layout, verbatim, Layout.newlines_append, Layout.newlines_char,
      Layout.newlines_commaSeparated, newlines_names]
    simp

attribute [local simp] Expr.layout Expr.layouts Member.layout Member.layouts TemplatePart.layouts
  Stmt.layouts JsxAttribute.layouts JsxChild.layout JsxChild.layouts

mutual

/-- The layout of an expression breaks a line wherever a text that is printed as it stands does, and
nowhere else. -/
theorem Expr.newlines_layout : (e : Expr) → ∀ depth,
    (e.layout depth).newlines = e.verbatim.count '\n'
  | .ident _, _ => by simp [Expr.verbatim]
  | .str _, _ => by simp [Expr.verbatim, count_stringLiteral]
  | .num value, _ => by simp [Expr.verbatim, count_numeral]
  | .bool value, _ => by cases value <;> simp [Expr.verbatim]
  | .null, _ => by simp [Expr.verbatim]
  | .object [] _, _ => by simp [Expr.verbatim, Member.verbatims]
  | .object (m :: members) true, depth => by
    have inner := Member.newlines_layouts (m :: members) (depth + 1)
    rw [Expr.layout_object_lines (List.cons_ne_nil m members), Layout.newlines_braced,
      Layout.newlines_flatten_concat _ (by decide), inner, Expr.verbatim]
  | .object (m :: members) false, depth => by
    have inner := Member.newlines_layouts (m :: members) depth
    simpa [Expr.verbatim] using inner
  | .array items, depth => by simp [Expr.verbatim, Expr.newlines_layouts items]
  | .call callee args, depth => by
    simp [Expr.verbatim, Expr.newlines_layout callee, Expr.newlines_layouts args]
  | .member object _ optional, depth => by
    cases optional <;> simp [Expr.verbatim, Expr.newlines_layout object]
  | .index object at_ optional, depth => by
    cases optional <;>
      simp [Expr.verbatim, Expr.newlines_layout object, Expr.newlines_layout at_]
  | .arrow params body, depth => by
    simp [Expr.verbatim, newlines_paramsLayout, Expr.newlines_layout body]
  | .arrowBlock params body, depth => by
    simp [Expr.verbatim, newlines_paramsLayout, Stmt.newlines_layouts body]
  | .binary left op right, depth => by
    have sign : op.sign.toList.count '\n' = 0 := by cases op <;> simp [BinaryOp.sign]
    simp [Expr.verbatim, sign, Expr.newlines_layout left, Expr.newlines_layout right]
  | .conditional test yes no, depth => by
    simp [Expr.verbatim, Expr.newlines_layout test, Expr.newlines_layout yes,
      Expr.newlines_layout no]
  | .template parts, depth => by simp [Expr.verbatim, TemplatePart.newlines_layouts parts]
  | .jsx element, depth => by simp [Expr.verbatim, JsxElement.newlines_layout element]

theorem Expr.newlines_layouts : (es : List Expr) → ∀ depth,
    Layout.newlines (Expr.layouts depth es).flatten = (Expr.verbatims es).count '\n'
  | [], _ => rfl
  | e :: es, depth => by
    simp [Expr.verbatims, Expr.newlines_layout e, Expr.newlines_layouts es]

theorem Member.newlines_layout : (m : Member) → ∀ depth,
    (m.layout depth).newlines = m.verbatim.count '\n'
  | .spread source, depth => by simp [Member.verbatim, Expr.newlines_layout source]
  | .property key value, depth => by
    simp [Member.verbatim, Key.newlines_layout, Expr.newlines_layout value]

theorem Member.newlines_layouts : (ms : List Member) → ∀ depth,
    Layout.newlines (Member.layouts depth ms).flatten = (Member.verbatims ms).count '\n'
  | [], _ => rfl
  | m :: ms, depth => by
    simp [Member.verbatims, Member.newlines_layout m, Member.newlines_layouts ms]

theorem TemplatePart.newlines_layouts : (parts : List TemplatePart) → ∀ depth,
    (TemplatePart.layouts depth parts).newlines = (TemplatePart.verbatims parts).count '\n'
  | [], _ => rfl
  | .text _ :: parts, depth => by
    simp [TemplatePart.verbatims, count_templateText, TemplatePart.newlines_layouts parts]
  | .expr e :: parts, depth => by
    simp [TemplatePart.verbatims, Expr.newlines_layout e, TemplatePart.newlines_layouts parts]

theorem Stmt.newlines_layout : (s : Stmt) → ∀ depth,
    (s.layout depth).newlines = s.verbatim.count '\n'
  | .const pattern init, depth => by
    simp [Stmt.layout, Stmt.verbatim, Pattern.newlines_layout, Expr.newlines_layout init]
  | .expr e, depth => by simp [Stmt.layout, Stmt.verbatim, Expr.newlines_layout e]
  | .ret value, depth => by
    have inner := Expr.newlines_layout value
    by_cases markup : ∃ element, value = .jsx element
    · obtain ⟨element, rfl⟩ := markup
      have nested : (element.layout (depth + 1)).newlines = element.verbatim.count '\n' := by
        simpa [Expr.verbatim] using inner (depth + 1)
      simp [Stmt.layout, Stmt.verbatim, Expr.verbatim, nested]
    · have other : ∀ element, value ≠ .jsx element := fun element same => markup ⟨element, same⟩
      simp [Stmt.layout_ret other, Stmt.verbatim, inner]
  | .function name params body exported, depth => by
    cases exported <;>
      simp [Stmt.layout, Stmt.verbatim, newlines_paramsLayout, Stmt.newlines_layouts body]

theorem Stmt.newlines_layouts : (ss : List Stmt) → ∀ depth,
    Layout.newlines (Stmt.layouts depth ss).flatten = (Stmt.verbatims ss).count '\n'
  | [], _ => rfl
  | s :: ss, depth => by
    simp [Stmt.verbatims, Stmt.newlines_layout s, Stmt.newlines_layouts ss]

theorem JsxElement.newlines_layout : (element : JsxElement) → ∀ depth,
    (element.layout depth).newlines = element.verbatim.count '\n'
  | ⟨tag, attributes, []⟩, depth => by
    simp [JsxElement.layout, JsxElement.verbatim, JsxAttribute.newlines_layouts attributes]
  | ⟨tag, attributes, child :: children⟩, depth => by
    simp [JsxElement.layout, JsxElement.verbatim, JsxAttribute.newlines_layouts attributes,
      JsxChild.newlines_layout child, JsxChild.newlines_layouts children, Nat.add_assoc]

theorem JsxAttribute.newlines_layouts : (attributes : List JsxAttribute) → ∀ depth,
    (JsxAttribute.layouts depth attributes).newlines =
      (JsxAttribute.verbatims attributes).count '\n'
  | [], _ => rfl
  | a :: attributes, depth => by
    simp [JsxAttribute.verbatims, JsxAttribute.newlines_layout a,
      JsxAttribute.newlines_layouts attributes]

theorem JsxAttribute.newlines_layout : (a : JsxAttribute) → ∀ depth,
    (a.layout depth).newlines = a.verbatim.count '\n'
  | .named name value, depth => by
    have inner := Expr.newlines_layout value
    by_cases given : ∃ text, value = .str text
    · obtain ⟨text, rfl⟩ := given
      simp only [JsxAttribute.layout, JsxAttribute.verbatim]
      split <;> simp [count_stringLiteral]
    · have other : ∀ text, value ≠ .str text := fun text same => given ⟨text, same⟩
      have printed : (JsxAttribute.named name value).verbatim = name.toList ++ value.verbatim := by
        rw [JsxAttribute.verbatim]
        exact other
      simp [JsxAttribute.layout_named other, printed, inner]
  | .spread source, depth => by
    simp [JsxAttribute.layout, JsxAttribute.verbatim, Expr.newlines_layout source]

theorem JsxChild.newlines_layout : (child : JsxChild) → ∀ depth,
    (child.layout depth).newlines = child.verbatim.count '\n'
  | .element element, depth => by simp [JsxChild.verbatim, JsxElement.newlines_layout element]
  | .expr e, depth => by simp [JsxChild.verbatim, Expr.newlines_layout e]

theorem JsxChild.newlines_layouts : (children : List JsxChild) → ∀ depth,
    Layout.newlines (JsxChild.layouts depth children).flatten =
      (JsxChild.verbatims children).count '\n'
  | [], _ => rfl
  | child :: children, depth => by
    simp [JsxChild.verbatims, JsxChild.newlines_layout child, JsxChild.newlines_layouts children]

end

end JsxGen.Js
