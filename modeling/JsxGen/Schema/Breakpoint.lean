import JsxGen.Json.Decode

/-! Sizes of the screen, smallest first. -/

namespace JsxGen

inductive Breakpoint where
  | base | small | medium | large | xl | xxl
  deriving DecidableEq

namespace Breakpoint

def all : List Breakpoint := [.base, .small, .medium, .large, .xl, .xxl]

def name : Breakpoint → String
  | .base => "base"
  | .small => "small"
  | .medium => "medium"
  | .large => "large"
  | .xl => "xl"
  | .xxl => "xxl"

def ofName? (name : String) : Option Breakpoint :=
  all.find? (·.name = name)

def decode (document : Document) : Decoded Breakpoint :=
  document.variant (all.map fun size => (size.name, size))

end Breakpoint

end JsxGen
