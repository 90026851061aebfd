/-! Source text before the width of its indentation is chosen. -/

namespace JsxGen.Js

/-- A character, or the start of a line at a depth. -/
inductive Glyph where
  | char (c : Char)
  | line (depth : Nat)
  deriving DecidableEq

abbrev Layout := List Glyph

def Glyph.chars (width : Nat) : Glyph → List Char
  | .char c => [c]
  | .line depth => '\n' :: List.replicate (depth * width) ' '

namespace Layout

def plainChars (text : List Char) : Layout := text.map .char

def plain (text : String) : Layout := plainChars text.toList

/-- The text with `width` spaces for each level of depth. -/
def chars (width : Nat) (layout : Layout) : List Char :=
  layout.flatMap (Glyph.chars width)

def text (width : Nat) (layout : Layout) : String :=
  String.ofList (layout.chars width)

def parens (needed : Bool) (layout : Layout) : Layout :=
  if needed then .char '(' :: layout ++ [.char ')'] else layout

def commaSeparated (layouts : List Layout) : Layout :=
  (plain ", ").intercalate layouts

/-- Each layout on a line of its own. -/
def lines (depth : Nat) (layouts : List Layout) : Layout :=
  layouts.flatMap fun layout => .line depth :: layout

/-- Lines one level deeper than the brackets around them. -/
def braced (depth : Nat) (layouts : List Layout) : Layout :=
  if layouts.isEmpty then plain "\x7b\x7d"
  else .char '\x7b' :: lines (depth + 1) layouts ++ [.line depth, .char '\x7d']

end Layout

end JsxGen.Js
