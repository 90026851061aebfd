import JsxGen.Text.CaseTable

/-! Upper and lower case forms of characters and words; a form may have several characters. -/

namespace JsxGen.Text

/-- The form of `code` in a case table: an expansion, a shifted code point, or `code` itself. -/
def caseForm (expansions : List (Nat × List Nat)) (runs : List CaseRun) (code : Nat) : List Nat :=
  match expansions.lookup code with
  | some form => form
  | none =>
    match runs.find? (·.covers code) with
    | some run => [(code + run.shift).toNat]
    | none => [code]

def upper (c : Char) : List Char :=
  if c.toNat < 0x80 then [c.toUpper]
  else (caseForm upperExpansions upperRuns c.toNat).map Char.ofNat

def lower (c : Char) : List Char :=
  if c.toNat < 0x80 then [c.toLower]
  else (caseForm lowerExpansions lowerRuns c.toNat).map Char.ofNat

def capitalize (s : String) : String :=
  match s.toList with
  | [] => ""
  | c :: cs => String.ofList (upper c ++ cs)

def lowerFirst (s : String) : String :=
  match s.toList with
  | [] => ""
  | c :: cs => String.ofList (lower c ++ cs)

end JsxGen.Text
