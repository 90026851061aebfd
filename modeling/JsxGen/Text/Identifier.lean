/-! Names that source code can hold without quotes. -/

namespace JsxGen.Text

def isNameChar (c : Char) : Bool :=
  c.isAlphanum || c == '_'

/-- The text without the characters that no identifier holds. -/
def sanitize (s : String) : String :=
  String.ofList (s.toList.filter isNameChar)

def isIdentifierStart (c : Char) : Bool :=
  c.isAlpha || c == '_' || c == '$'

def isIdentifierPart (c : Char) : Bool :=
  c.isAlphanum || c == '_' || c == '$'

def isIdentifier (s : String) : Bool :=
  match s.toList with
  | [] => false
  | c :: cs => isIdentifierStart c && cs.all isIdentifierPart

end JsxGen.Text
