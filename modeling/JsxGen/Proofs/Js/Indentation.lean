import JsxGen.Proofs.Js.Verbatim
import JsxGen.SourceFile

/-!
The lines of printed source. Their texts and levels come from the tree alone: the width of the
indentation only says how many spaces a level is, and a tree that stands deeper has all its lines
deeper.
-/

namespace JsxGen.Js

/-- A line and the level it is indented to; none if it follows a line break in the text itself. -/
structure Line where
  level : Option Nat
  text : List Char
  deriving DecidableEq

namespace Line

/-- The depth of a line in a tree that stands at a depth. -/
def depth (base : Nat) (line : Line) : Nat := line.level.elim 0 (base + ·)

def chars (width base : Nat) (line : Line) : List Char :=
  List.replicate (line.depth base * width) ' ' ++ line.text

theorem chars_none (width base : Nat) (text : List Char) :
    chars width base ⟨none, text⟩ = text := by
  simp [chars, depth]

end Line

/-- The glyph in a tree that stands deeper. -/
def Glyph.sunk (base : Nat) : Glyph → Glyph
  | .char c => .char c
  | .line depth => .line (base + depth)

namespace Layout

def sunk (base : Nat) (layout : Layout) : Layout := layout.map (Glyph.sunk base)

/-- The text up to the first line break, and the lines behind it. -/
def cut : Layout → List Char × List Line
  | [] => ([], [])
  | .char c :: layout =>
    if c = '\n' then ([], ⟨none, (cut layout).1⟩ :: (cut layout).2)
    else (c :: (cut layout).1, (cut layout).2)
  | .line depth :: layout => ([], ⟨some depth, (cut layout).1⟩ :: (cut layout).2)

/-- All lines of a layout, the first one without a level. -/
def rows (layout : Layout) : List Line := ⟨none, layout.cut.1⟩ :: layout.cut.2

section lines

variable (width base : Nat)

theorem splitOn_replicate_append (n : Nat) (text : List Char) :
    (List.replicate n ' ' ++ text).splitOn '\n' =
      (text.splitOn '\n').modifyHead (List.replicate n ' ' ++ ·) := by
  induction n with
  | zero => exact (congrFun List.modifyHead_id _).symm
  | succ n ih =>
    rw [List.replicate_succ, List.cons_append, List.splitOn, List.splitOnP_cons_eq_if_modifyHead,
      if_neg (by decide), ← List.splitOn, ih, List.modifyHead_modifyHead]
    rfl

/-- A layout is printed line by line, whatever the width and the depth. -/
theorem splitOn_chars_sunk (layout : Layout) :
    ((layout.sunk base).chars width).splitOn '\n' = layout.rows.map (Line.chars width base) := by
  have split_cons : ∀ (c : Char) (text : List Char), (c :: text).splitOn '\n' =
      if c = '\n' then [] :: text.splitOn '\n' else (text.splitOn '\n').modifyHead (c :: ·) := by
    intro c text
    simp [List.splitOn, List.splitOnP_cons_eq_if_modifyHead]
  simp only [rows, List.map_cons, Line.chars_none]
  induction layout with
  | nil => simp [sunk, cut]
  | cons glyph layout ih =>
    rw [sunk] at ih
    cases glyph with
    | char c =>
      rw [sunk, List.map_cons, Glyph.sunk, chars_char, split_cons, ih, cut]
      split <;> simp [Line.chars_none]
    | line depth =>
      rw [sunk, List.map_cons, Glyph.sunk, chars_line, split_cons, if_pos rfl,
        splitOn_replicate_append, ih]
      simp [cut, Line.chars, Line.depth]

theorem countP_rows (layout : Layout) :
    layout.rows.countP (·.level.isNone) = layout.newlines + 1 := by
  have later : layout.cut.2.countP (·.level.isNone) = layout.newlines := by
    induction layout with
    | nil => rfl
    | cons glyph layout ih =>
      cases glyph with
      | char c =>
        by_cases newline : c = '\n'
        · simpa [cut, newlines, newline] using ih
        · simpa [cut, newlines, newline] using ih
      | line depth => simpa [cut, newlines] using ih
  simp [rows, later]

end lines

section sunk

variable (base : Nat)

@[simp] theorem sunk_nil : sunk base [] = [] := rfl

@[simp] theorem sunk_char (c : Char) (layout : Layout) :
    sunk base (.char c :: layout) = .char c :: sunk base layout := rfl

@[simp] theorem sunk_line (depth : Nat) (layout : Layout) :
    sunk base (.line depth :: layout) = .line (base + depth) :: sunk base layout := rfl

@[simp] theorem sunk_append (first second : Layout) :
    sunk base (first ++ second) = sunk base first ++ sunk base second := List.map_append

@[simp] theorem sunk_plainChars (text : List Char) :
    sunk base (plainChars text) = plainChars text := by
  rw [sunk, plainChars, List.map_map]
  rfl

@[simp] theorem sunk_plain (text : String) : sunk base (plain text) = plain text :=
  sunk_plainChars base text.toList

@[simp] theorem sunk_parens (needed : Bool) (layout : Layout) :
    sunk base (parens needed layout) = parens needed (sunk base layout) := by
  cases needed with
  | false => rfl
  | true => simp [parens]

theorem sunk_intercalate (separator : Layout) (layouts : List Layout) :
    sunk base (separator.intercalate layouts) =
      (sunk base separator).intercalate (layouts.map (sunk base)) := by
  induction layouts with
  | nil => rfl
  | cons first layouts ih =>
    cases layouts with
    | nil => simp
    | cons second layouts =>
      rw [List.map_cons] at ih
      simp [List.intercalate_cons_cons, ih]

@[simp] theorem sunk_commaSeparated (layouts : List Layout) :
    sunk base (commaSeparated layouts) = commaSeparated (layouts.map (sunk base)) := by
  rw [commaSeparated, sunk_intercalate, sunk_plain, commaSeparated]

@[simp] theorem sunk_lines (depth : Nat) (layouts : List Layout) :
    sunk base (lines depth layouts) = lines (base + depth) (layouts.map (sunk base)) := by
  simp [lines, sunk, List.map_flatMap, List.flatMap_map, Glyph.sunk]

@[simp] theorem sunk_braced (depth : Nat) (layouts : List Layout) :
    sunk base (braced depth layouts) = braced (base + depth) (layouts.map (sunk base)) := by
  cases layouts with
  | nil => simp [braced]
  | cons layout layouts => simp [braced, Nat.add_assoc]

theorem map_sunk_concat (c : Char) (layouts : List Layout) :
    (layouts.map (· ++ [.char c])).map (sunk base) =
      (layouts.map (sunk base)).map (· ++ [.char c]) := by
  simp [Function.comp_def]

end sunk

end Layout

attribute [local simp] Expr.layout Expr.layouts Member.layout Member.layouts TemplatePart.layouts
  Stmt.layouts JsxAttribute.layouts JsxChild.layout JsxChild.layouts

section trees

variable (base : Nat)

theorem Key.sunk_layout (key : Key) : key.layout.sunk base = key.layout := by
  cases key <;> simp [layout]

theorem Pattern.sunk_layout (pattern : Pattern) : pattern.layout.sunk base = pattern.layout := by
  cases pattern with
  | ident name => simp [layout]
  | object bindings rest => simp [layout, Function.comp_def]
  | array names => simp [layout, Function.comp_def]

theorem sunk_paramsLayout (params : List String) :
    (paramsLayout params).sunk base = paramsLayout params := by
  simp [paramsLayout, Function.comp_def]

mutual

/-- An expression that stands deeper is laid out the same, with each line deeper by as much. -/
theorem Expr.sunk_layout : (e : Expr) → ∀ depth,
    (e.layout depth).sunk base = e.layout (base + depth)
  | .ident _, _ | .str _, _ | .num _, _ | .bool _, _ | .null, _ => by simp
  | .object [] _, _ => by simp
  | .object (m :: members) true, depth => by
    have inner := Member.sunk_layouts (m :: members) (depth + 1)
    have filled := List.cons_ne_nil m members
    rw [Expr.layout_object_lines filled, Expr.layout_object_lines filled, Layout.sunk_braced,
      Layout.map_sunk_concat, inner, Nat.add_assoc]
  | .object (m :: members) false, depth => by
    simp [Member.sunk_layout m, Member.sunk_layouts members]
  | .array items, depth => by simp [Expr.sunk_layouts items]
  | .call callee args, depth => by simp [Expr.sunk_layout callee, Expr.sunk_layouts args]
  | .member object _ _, depth => by simp [Expr.sunk_layout object]
  | .index object at_ _, depth => by simp [Expr.sunk_layout object, Expr.sunk_layout at_]
  | .arrow params body, depth => by simp [sunk_paramsLayout, Expr.sunk_layout body]
  | .arrowBlock params body, depth => by
    simp [sunk_paramsLayout, Stmt.sunk_layouts body, Nat.add_assoc]
  | .binary left _ right, depth => by simp [Expr.sunk_layout left, Expr.sunk_layout right]
  | .conditional test yes no, depth => by
    simp [Expr.sunk_layout test, Expr.sunk_layout yes, Expr.sunk_layout no]
  | .template parts, depth => by simp [TemplatePart.sunk_layouts parts]
  | .jsx element, depth => by simp [JsxElement.sunk_layout element]

theorem Expr.sunk_layouts : (es : List Expr) → ∀ depth,
    (Expr.layouts depth es).map (Layout.sunk base) = Expr.layouts (base + depth) es
  | [], _ => rfl
  | e :: es, depth => by simp [Expr.sunk_layout e, Expr.sunk_layouts es]

theorem Member.sunk_layout : (m : Member) → ∀ depth,
    (m.layout depth).sunk base = m.layout (base + depth)
  | .spread source, depth => by simp [Expr.sunk_layout source]
  | .property key value, depth => by simp [Key.sunk_layout, Expr.sunk_layout value]

theorem Member.sunk_layouts : (ms : List Member) → ∀ depth,
    (Member.layouts depth ms).map (Layout.sunk base) = Member.layouts (base + depth) ms
  | [], _ => rfl
  | m :: ms, depth => by simp [Member.sunk_layout m, Member.sunk_layouts ms]

theorem TemplatePart.sunk_layouts : (parts : List TemplatePart) → ∀ depth,
    (TemplatePart.layouts depth parts).sunk base = TemplatePart.layouts (base + depth) parts
  | [], _ => rfl
  | .text _ :: parts, depth => by simp [TemplatePart.sunk_layouts parts]
  | .expr e :: parts, depth => by simp [Expr.sunk_layout e, TemplatePart.sunk_layouts parts]

theorem Stmt.sunk_layout : (s : Stmt) → ∀ depth,
    (s.layout depth).sunk base = s.layout (base + depth)
  | .const pattern init, depth => by
    simp [Stmt.layout, Pattern.sunk_layout, Expr.sunk_layout init]
  | .expr e, depth => by simp [Stmt.layout, Expr.sunk_layout e]
  | .ret value, depth => by
    have inner := Expr.sunk_layout value
    by_cases markup : ∃ element, value = .jsx element
    · obtain ⟨element, rfl⟩ := markup
      have nested : (element.layout (depth + 1)).sunk base = element.layout (base + depth + 1) := by
        simpa [Nat.add_assoc] using inner (depth + 1)
      simp [Stmt.layout, nested, Nat.add_assoc]
    · have other : ∀ element, value ≠ .jsx element := fun element same => markup ⟨element, same⟩
      simp [Stmt.layout_ret other, inner]
  | .function name params body exported, depth => by
    simp [Stmt.layout, sunk_paramsLayout, Stmt.sunk_layouts body, Nat.add_assoc]

theorem Stmt.sunk_layouts : (ss : List Stmt) → ∀ depth,
    (Stmt.layouts depth ss).map (Layout.sunk base) = Stmt.layouts (base + depth) ss
  | [], _ => rfl
  | s :: ss, depth => by simp [Stmt.sunk_layout s, Stmt.sunk_layouts ss]

theorem JsxElement.sunk_layout : (element : JsxElement) → ∀ depth,
    (element.layout depth).sunk base = element.layout (base + depth)
  | ⟨tag, attributes, []⟩, depth => by
    simp [JsxElement.layout, JsxAttribute.sunk_layouts attributes]
  | ⟨tag, attributes, child :: children⟩, depth => by
    simp [JsxElement.layout, JsxAttribute.sunk_layouts attributes, JsxChild.sunk_layout child,
      JsxChild.sunk_layouts children, Nat.add_assoc]

theorem JsxAttribute.sunk_layouts : (attributes : List JsxAttribute) → ∀ depth,
    (JsxAttribute.layouts depth attributes).sunk base =
      JsxAttribute.layouts (base + depth) attributes
  | [], _ => rfl
  | a :: attributes, depth => by
    simp [JsxAttribute.sunk_layout a, JsxAttribute.sunk_layouts attributes]

theorem JsxAttribute.sunk_layout : (a : JsxAttribute) → ∀ depth,
    (a.layout depth).sunk base = a.layout (base + depth)
  | .named name value, depth => by
    have inner := Expr.sunk_layout value
    by_cases given : ∃ text, value = .str text
    · obtain ⟨text, rfl⟩ := given
      simp only [JsxAttribute.layout]
      split <;> simp
    · have other : ∀ text, value ≠ .str text := fun text same => given ⟨text, same⟩
      simp [JsxAttribute.layout_named other, inner]
  | .spread source, depth => by simp [JsxAttribute.layout, Expr.sunk_layout source]

theorem JsxChild.sunk_layout : (child : JsxChild) → ∀ depth,
    (child.layout depth).sunk base = child.layout (base + depth)
  | .element element, depth => by simp [JsxElement.sunk_layout element]
  | .expr e, depth => by simp [Expr.sunk_layout e]

theorem JsxChild.sunk_layouts : (children : List JsxChild) → ∀ depth,
    (JsxChild.layouts depth children).map (Layout.sunk base) =
      JsxChild.layouts (base + depth) children
  | [], _ => rfl
  | child :: children, depth => by
    simp [JsxChild.sunk_layout child, JsxChild.sunk_layouts children]

end

end trees

theorem Layout.sunk_zero (layout : Layout) : layout.sunk 0 = layout := by
  have same : Glyph.sunk 0 = id := by
    funext glyph
    cases glyph <;> simp [Glyph.sunk]
  rw [Layout.sunk, same, List.map_id]

theorem Expr.splitOn_chars (e : Expr) (width depth : Nat) :
    (e.chars width depth).splitOn '\n' = (e.layout 0).rows.map (Line.chars width depth) := by
  rw [← Layout.splitOn_chars_sunk, Expr.sunk_layout, Nat.add_zero, chars]

theorem Stmt.splitOn_chars (s : Stmt) (width depth : Nat) :
    (s.chars width depth).splitOn '\n' = (s.layout 0).rows.map (Line.chars width depth) := by
  rw [← Layout.splitOn_chars_sunk, Stmt.sunk_layout, Nat.add_zero, chars]

/-- The text of an attribute breaks its line without indentation. -/
example : ((Stmt.ret (.jsx ⟨"p", [.named "title" (.str "one\ntwo")], []⟩)).layout 0).rows =
    [⟨none, "return (".toList⟩, ⟨some 1, "<p title=\"one".toList⟩, ⟨none, "two\" />".toList⟩,
      ⟨some 0, ");".toList⟩] := by decide

theorem splitOn_moduleText (stmts : List Stmt) (width : Nat) :
    (moduleText width stmts).toList.splitOn '\n' =
      (moduleLayout stmts).rows.map (Line.chars width 0) := by
  rw [← Layout.splitOn_chars_sunk, Layout.sunk_zero, moduleText, Layout.text, String.toList_ofList]

end JsxGen.Js

namespace JsxGen

open Js

/-- The width of the indentation decides nothing but the text of a module. -/
theorem Component.render_width (options : SourceOptions) (component : Component) :
    (∃ error, ∀ width, component.render { options with indentWidth := width } = .error error) ∨
      ∃ name stmts, ∀ width, component.render { options with indentWidth := width } =
        .ok ⟨name, moduleText width stmts⟩ := by
  have same : ∀ width, component.body { options with indentWidth := width } =
      component.body options := fun _ => rfl
  cases valid : component.validate with
  | error e =>
    refine .inl ⟨e, fun width => ?_⟩
    rw [render, valid]
    rfl
  | ok _ =>
    cases made : component.body options with
    | error e =>
      refine .inl ⟨e, fun width => ?_⟩
      rw [render, valid, same, made]
      rfl
    | ok body =>
      refine .inr ⟨functionName component.name,
        [.function (functionName component.name) [propsVariable] body true], fun width => ?_⟩
      rw [render, valid, same, made]
      rfl

/-- Indentation is only layout: the lines of an expression or a statement and the levels of these
lines are the same at every width and depth. Besides the first line, as many have no level, and so
stand at depth 0, as there are line breaks in what is printed as it stands. A rendered component has
the same lines at every width. -/
theorem indentation_only_layout :
    (∀ e : Expr, ∃ lines : List Line,
      lines.countP (·.level.isNone) = e.verbatim.count '\n' + 1 ∧
      ∀ width depth, (e.chars width depth).splitOn '\n' = lines.map (Line.chars width depth)) ∧
    (∀ s : Stmt, ∃ lines : List Line,
      lines.countP (·.level.isNone) = s.verbatim.count '\n' + 1 ∧
      ∀ width depth, (s.chars width depth).splitOn '\n' = lines.map (Line.chars width depth)) ∧
    ∀ (options : SourceOptions) (component : Component),
      (∃ error, ∀ width, component.render { options with indentWidth := width } = .error error) ∨
        ∃ name, ∃ lines : List Line, ∀ width, ∃ text,
          component.render { options with indentWidth := width } = .ok ⟨name, text⟩ ∧
            text.toList.splitOn '\n' = lines.map (Line.chars width 0) := by
  refine ⟨fun e => ⟨(e.layout 0).rows, ?_, e.splitOn_chars⟩,
    fun s => ⟨(s.layout 0).rows, ?_, s.splitOn_chars⟩, fun options component => ?_⟩
  · rw [Layout.countP_rows, e.newlines_layout]
  · rw [Layout.countP_rows, s.newlines_layout]
  · rcases component.render_width options with failed | ⟨name, stmts, written⟩
    · exact .inl failed
    · exact .inr ⟨name, (moduleLayout stmts).rows, fun width =>
        ⟨_, written width, splitOn_moduleText stmts width⟩⟩

end JsxGen
