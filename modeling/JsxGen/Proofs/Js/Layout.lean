import JsxGen.Js.Printer

/-! The characters of each form of expression, from those of its parts. -/

namespace JsxGen.Js

namespace Layout

variable (width : Nat)

@[simp] theorem chars_nil : chars width [] = [] := rfl

@[simp] theorem chars_char (c : Char) (layout : Layout) :
    chars width (.char c :: layout) = c :: chars width layout := rfl

@[simp] theorem chars_line (depth : Nat) (layout : Layout) :
    chars width (.line depth :: layout) =
      '\n' :: (List.replicate (depth * width) ' ' ++ chars width layout) := rfl

@[simp] theorem chars_append (first second : Layout) :
    chars width (first ++ second) = chars width first ++ chars width second :=
  List.flatMap_append

@[simp] theorem chars_plainChars (text : List Char) : chars width (plainChars text) = text := by
  induction text with
  | nil => rfl
  | cons c text ih => exact congrArg (c :: ·) ih

@[simp] theorem chars_plain (text : String) : chars width (plain text) = text.toList :=
  chars_plainChars width text.toList

end Layout

/-- Text between brackets where these are needed. -/
def bracketed (needed : Bool) (text : List Char) : List Char :=
  if needed then '(' :: text ++ [')'] else text

theorem bracketed_false (text : List Char) : bracketed false text = text := rfl

def separated (texts : List (List Char)) : List Char := [',', ' '].intercalate texts

theorem separated_singleton (text : List Char) : separated [text] = text := by
  simp [separated]

theorem separated_cons_cons (first second : List Char) (texts : List (List Char)) :
    separated (first :: second :: texts) =
      first ++ ',' :: ' ' :: separated (second :: texts) := by
  simp [separated, List.intercalate_cons_cons]

/-- Text at the start of a line of its own. -/
def onLine (width depth : Nat) (text : List Char) : List Char :=
  '\n' :: (List.replicate (depth * width) ' ' ++ text)

theorem exists_separated_cons (text : List Char) (texts : List (List Char)) :
    ∃ more, separated (text :: texts) = text ++ more := by
  cases texts with
  | nil => exact ⟨[], by rw [separated_singleton, List.append_nil]⟩
  | cons second texts => exact ⟨_, separated_cons_cons text second texts⟩

namespace Layout

theorem chars_parens (width : Nat) (needed : Bool) (layout : Layout) :
    (parens needed layout).chars width = bracketed needed (layout.chars width) := by
  cases needed with
  | false => rfl
  | true => simp [parens, bracketed]

theorem chars_commaSeparated (width : Nat) (layouts : List Layout) :
    (commaSeparated layouts).chars width = separated (layouts.map (chars width)) := by
  induction layouts with
  | nil => rfl
  | cons first layouts ih =>
    cases layouts with
    | nil => simp [commaSeparated, separated]
    | cons second layouts =>
      rw [List.map_cons] at ih
      rw [List.map_cons, List.map_cons, separated_cons_cons, ← ih, commaSeparated,
        List.intercalate_cons_cons]
      simp [commaSeparated]

theorem chars_lines (width depth : Nat) (layouts : List Layout) :
    (lines depth layouts).chars width =
      (layouts.map (chars width)).flatMap (onLine width depth) := by
  induction layouts with
  | nil => rfl
  | cons layout layouts ih =>
    rw [List.map_cons, List.flatMap_cons, ← ih, lines, List.flatMap_cons]
    simp [lines, onLine]

end Layout

variable {width depth : Nat}

def Key.chars : Key → List Char
  | .bare name => name.toList
  | .quoted text => stringLiteral text.toList

def Expr.chars (width depth : Nat) (e : Expr) : List Char := (e.layout depth).chars width

def Member.chars (width depth : Nat) (m : Member) : List Char := (m.layout depth).chars width

def TemplatePart.chars (width depth : Nat) : TemplatePart → List Char
  | .text literal => templateText literal.toList
  | .expr e => '$' :: '\x7b' :: (e.chars width depth ++ ['\x7d'])

attribute [local simp] Expr.layout Member.layout TemplatePart.layouts

theorem Expr.chars_layouts (es : List Expr) :
    (Expr.layouts depth es).map (Layout.chars width) = es.map (Expr.chars width depth) := by
  induction es with
  | nil => rfl
  | cons e es ih => rw [Expr.layouts, List.map_cons, ih, List.map_cons, Expr.chars]

theorem Member.chars_layouts (ms : List Member) :
    (Member.layouts depth ms).map (Layout.chars width) = ms.map (Member.chars width depth) := by
  induction ms with
  | nil => rfl
  | cons m ms ih => rw [Member.layouts, List.map_cons, ih, List.map_cons, Member.chars]

theorem TemplatePart.chars_layouts (parts : List TemplatePart) :
    (TemplatePart.layouts depth parts).chars width =
      parts.flatMap (TemplatePart.chars width depth) := by
  induction parts with
  | nil => rfl
  | cons part parts ih =>
    cases part with
    | text literal => simp [TemplatePart.chars, ih]
    | expr e => simp [TemplatePart.chars, Expr.chars, ih]

theorem Expr.layout_object_lines {members : List Member} (nonempty : members ≠ []) :
    (Expr.object members true).layout depth =
      Layout.braced depth ((Member.layouts (depth + 1) members).map (· ++ [.char ','])) := by
  rw [layout]
  exact nonempty

theorem Stmt.layout_ret {value : Expr} (other : ∀ element, value ≠ .jsx element) :
    (Stmt.ret value).layout depth =
      Layout.plain "return " ++ value.layout depth ++ [.char ';'] := by
  rw [layout]
  exact other

theorem JsxAttribute.layout_named {name : String} {value : Expr}
    (other : ∀ text, value ≠ .str text) : (JsxAttribute.named name value).layout depth =
      Layout.plain name ++ Layout.plain "=\x7b" ++ value.layout depth ++ [.char '\x7d'] := by
  rw [layout]
  exact other

namespace Member

theorem chars_spread (source : Expr) :
    (spread source).chars width depth =
      '.' :: '.' :: '.' :: bracketed source.apartAsOperand (source.chars width depth) := by
  simp [chars, Expr.chars, Layout.chars_parens]

theorem chars_property (key : Key) (value : Expr) :
    (property key value).chars width depth =
      key.chars ++ ':' :: ' ' :: value.chars width depth := by
  cases key with
  | bare name => simp [chars, Expr.chars, Key.layout, Key.chars]
  | quoted text => simp [chars, Expr.chars, Key.layout, Key.chars]

end Member

namespace Expr

theorem chars_ident (name : String) : (ident name).chars width depth = name.toList := by
  simp [chars]

theorem chars_str (value : String) :
    (str value).chars width depth = '"' :: (value.toList.flatMap quotedChar ++ ['"']) := by
  simp [chars, stringLiteral]

theorem chars_bool (value : Bool) :
    (bool value).chars width depth = (if value then "true" else "false").toList := by
  simp [chars]

theorem chars_null : null.chars width depth = "null".toList := by
  simp [chars]

theorem chars_object_empty (multiline : Bool) :
    (object [] multiline).chars width depth = ['\x7b', '\x7d'] := by
  simp [chars]

theorem chars_object_inline {members : List Member} (nonempty : members ≠ []) :
    (object members false).chars width depth =
      '\x7b' :: ' ' :: (separated (members.map (Member.chars width depth)) ++ [' ', '\x7d']) := by
  cases members with
  | nil => exact absurd rfl nonempty
  | cons m members =>
    simp [chars, Layout.chars_commaSeparated, Member.chars_layouts]

theorem chars_object_lines {members : List Member} (nonempty : members ≠ []) :
    (object members true).chars width depth =
      '\x7b' :: (members.flatMap (fun m =>
        onLine width (depth + 1) (m.chars width (depth + 1) ++ [','])) ++
          onLine width depth ['\x7d']) := by
  have ended : ((Member.layouts (depth + 1) members).map (· ++ [Glyph.char ','])).map
      (Layout.chars width) = (members.map (Member.chars width (depth + 1))).map (· ++ [',']) := by
    rw [← Member.chars_layouts, List.map_map, List.map_map]
    simp [Function.comp_def]
  have filled : ((Member.layouts (depth + 1) members).map (· ++ [Glyph.char ','])).isEmpty =
      false := by
    cases members with
    | nil => exact absurd rfl nonempty
    | cons m members => rfl
  rw [chars, layout_object_lines nonempty, Layout.braced, filled]
  simp [Layout.chars_lines, ended, List.flatMap_map, onLine]

theorem chars_array (items : List Expr) :
    (array items).chars width depth =
      '[' :: (separated (items.map (Expr.chars width depth)) ++ [']']) := by
  simp [chars, Layout.chars_commaSeparated, chars_layouts]

theorem chars_call (callee : Expr) (args : List Expr) :
    (call callee args).chars width depth =
      bracketed callee.apartAsObject (callee.chars width depth) ++
        '(' :: (separated (args.map (Expr.chars width depth)) ++ [')']) := by
  simp [chars, Layout.chars_parens, Layout.chars_commaSeparated, chars_layouts]

theorem chars_member (object : Expr) (property : String) (optional : Bool) :
    (member object property optional).chars width depth =
      bracketed object.apartAsObject (object.chars width depth) ++
        ((if optional then ['?', '.'] else ['.']) ++ property.toList) := by
  cases optional <;> simp [chars, Layout.chars_parens]

theorem chars_index (object at_ : Expr) (optional : Bool) :
    (index object at_ optional).chars width depth =
      bracketed object.apartAsObject (object.chars width depth) ++
        ((if optional then ['?', '.', '['] else ['[']) ++ (at_.chars width depth ++ [']'])) := by
  cases optional <;> simp [chars, Layout.chars_parens]

theorem chars_arrow (params : List String) (body : Expr) :
    (arrow params body).chars width depth =
      '(' :: (separated (params.map String.toList) ++ ')' :: ' ' :: '=' :: '>' :: ' ' ::
        bracketed body.isObject (body.chars width depth)) := by
  simp [chars, paramsLayout, Layout.chars_parens, Layout.chars_commaSeparated,
    Function.comp_def]

theorem chars_binary (left right : Expr) (op : BinaryOp) :
    (binary left op right).chars width depth =
      bracketed left.apartAsOperand (left.chars width depth) ++ ' ' :: (op.sign.toList ++ ' ' ::
        bracketed right.apartAsOperand (right.chars width depth)) := by
  simp [chars, Layout.chars_parens]

theorem chars_conditional (test yes no : Expr) :
    (conditional test yes no).chars width depth =
      bracketed test.apartAsBranch (test.chars width depth) ++ ' ' :: '?' :: ' ' ::
        (bracketed yes.apartAsBranch (yes.chars width depth) ++ ' ' :: ':' :: ' ' ::
          bracketed no.apartAsBranch (no.chars width depth)) := by
  simp [chars, Layout.chars_parens]

theorem chars_template (parts : List TemplatePart) :
    (template parts).chars width depth =
      '\x60' :: (parts.flatMap (TemplatePart.chars width depth) ++ ['\x60']) := by
  simp [chars, TemplatePart.chars_layouts]

end Expr

end JsxGen.Js
