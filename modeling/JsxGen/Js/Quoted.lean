/-! Text inside string and template literals. -/

namespace JsxGen.Js

def quotedChar (c : Char) : List Char :=
  if c = '"' then ['\\', '"']
  else if c = '\\' then ['\\', '\\']
  else if c = '\n' then ['\\', 'n']
  else if c = '\r' then ['\\', 'r']
  else if c = '\t' then ['\\', 't']
  else [c]

/-- A string literal in double quotes. -/
def stringLiteral (text : List Char) : List Char :=
  '"' :: text.flatMap quotedChar ++ ['"']

/-- Escapes what would end a template literal or start a substitution in it. -/
def templateText : List Char → List Char
  | [] => []
  | '\\' :: cs => '\\' :: '\\' :: templateText cs
  | '\x60' :: cs => '\\' :: '\x60' :: templateText cs
  | '$' :: '\x7b' :: cs => '\\' :: '$' :: '\x7b' :: templateText cs
  | c :: cs => c :: templateText cs

end JsxGen.Js
