import JsxGen.Js.Tree
import JsxGen.Proofs.Js.Quoted

/-!
A reader for the text of expressions. It takes each expression to end where its text stops fitting,
and returns what is left of the text; `fuel` bounds the depth of the reading.
-/

namespace JsxGen.Js

open Text (isIdentifierStart isIdentifierPart)

def readName (input : List Char) : String × List Char :=
  (String.ofList (input.takeWhile isIdentifierPart), input.dropWhile isIdentifierPart)

def word (name : String) : Expr :=
  if name = "null" then .null
  else if name = "true" then .bool true
  else if name = "false" then .bool false
  else .ident name

def readKey : List Char → Option (Key × List Char)
  | '"' :: rest => (readString rest).map fun (text, rest) => (.quoted (String.ofList text), rest)
  | input => some (.bare (readName input).1, (readName input).2)

def operator? : List Char → Option (BinaryOp × List Char)
  | ' ' :: '=' :: '=' :: '=' :: ' ' :: rest => some (.strictEq, rest)
  | ' ' :: '!' :: '=' :: '=' :: ' ' :: rest => some (.strictNe, rest)
  | ' ' :: '<' :: ' ' :: rest => some (.lt, rest)
  | ' ' :: '>' :: ' ' :: rest => some (.gt, rest)
  | ' ' :: '<' :: '=' :: ' ' :: rest => some (.le, rest)
  | ' ' :: '>' :: '=' :: ' ' :: rest => some (.ge, rest)
  | ' ' :: '|' :: '|' :: ' ' :: rest => some (.or, rest)
  | ' ' :: '?' :: '?' :: ' ' :: rest => some (.nullish, rest)
  | _ => none

/-- Parameters from the first to the arrow. -/
def readParams : Nat → List Char → Option (List String × List Char)
  | 0, _ => none
  | fuel + 1, input =>
    match readName input with
    | (name, ',' :: ' ' :: rest) =>
      (readParams fuel rest).map fun (names, rest) => (name :: names, rest)
    | (name, ')' :: ' ' :: '=' :: '>' :: ' ' :: rest) => some ([name], rest)
    | _ => none

/-- The parameters of an arrow, up to its body. -/
def arrowHead? (fuel : Nat) : List Char → Option (List String × List Char)
  | '(' :: ')' :: ' ' :: '=' :: '>' :: ' ' :: rest => some ([], rest)
  | '(' :: rest => readParams fuel rest
  | _ => none

def closesItems (input : List Char) : Bool :=
  input.head? = some ')' || input.head? = some ']'

mutual

def readExpr : Nat → List Char → Option (Expr × List Char)
  | 0, _ => none
  | fuel + 1, input =>
    match arrowHead? fuel input with
    | some (params, rest) => do
      let (body, rest) ← readExpr fuel rest
      return (.arrow params body, rest)
    | none => do
      let (test, rest) ← readBranch fuel input
      match rest with
      | ' ' :: '?' :: ' ' :: rest =>
        let (yes, ' ' :: ':' :: ' ' :: rest) ← readBranch fuel rest | none
        let (no, rest) ← readBranch fuel rest
        return (.conditional test yes no, rest)
      | rest => return (test, rest)

def readBranch : Nat → List Char → Option (Expr × List Char)
  | 0, _ => none
  | fuel + 1, input => do
    let (left, rest) ← readOperand fuel input
    match operator? rest with
    | some (op, rest) =>
      let (right, rest) ← readOperand fuel rest
      return (.binary left op right, rest)
    | none => return (left, rest)

def readOperand : Nat → List Char → Option (Expr × List Char)
  | 0, _ => none
  | fuel + 1, input => do
    let (e, rest) ← readPrimary fuel input
    readSuffixes fuel e rest

def readPrimary : Nat → List Char → Option (Expr × List Char)
  | 0, _ => none
  | fuel + 1, input =>
    if input.head?.any isIdentifierStart then some (word (readName input).1, (readName input).2)
    else
      match input with
      | '(' :: rest => do
        let (e, ')' :: rest) ← readExpr fuel rest | none
        return (e, rest)
      | '[' :: rest => do
        let (items, ']' :: rest) ← readItems fuel rest | none
        return (.array items, rest)
      | '\x7b' :: '\x7d' :: rest => some (.object [] false, rest)
      | '\x7b' :: ' ' :: rest => do
        let (members, ' ' :: '\x7d' :: rest) ← readMembers fuel rest | none
        return (.object members false, rest)
      | '\x7b' :: '\n' :: rest => do
        let (members, rest) ← readLines fuel (rest.dropWhile (· = ' '))
        return (.object members true, rest)
      | '"' :: rest => (readString rest).map fun (text, rest) => (.str (String.ofList text), rest)
      | '\x60' :: rest => do
        let (parts, rest) ← readParts fuel rest
        return (.template parts, rest)
      | _ => none

/-- Calls of the expression read so far and accesses to it. -/
def readSuffixes : Nat → Expr → List Char → Option (Expr × List Char)
  | 0, _, _ => none
  | fuel + 1, e, input =>
    match input with
    | '.' :: rest => readSuffixes fuel (.member e (readName rest).1 false) (readName rest).2
    | '?' :: '.' :: '[' :: rest => do
      let (at_, ']' :: rest) ← readExpr fuel rest | none
      readSuffixes fuel (.index e at_ true) rest
    | '?' :: '.' :: rest => readSuffixes fuel (.member e (readName rest).1 true) (readName rest).2
    | '[' :: rest => do
      let (at_, ']' :: rest) ← readExpr fuel rest | none
      readSuffixes fuel (.index e at_ false) rest
    | '(' :: rest => do
      let (args, ')' :: rest) ← readItems fuel rest | none
      readSuffixes fuel (.call e args) rest
    | rest => some (e, rest)

def readItems : Nat → List Char → Option (List Expr × List Char)
  | 0, _ => none
  | fuel + 1, input =>
    if closesItems input then some ([], input)
    else do
      let (e, rest) ← readExpr fuel input
      match rest with
      | ',' :: ' ' :: rest =>
        let (es, rest) ← readItems fuel rest
        return (e :: es, rest)
      | rest => return ([e], rest)

def readMember : Nat → List Char → Option (Member × List Char)
  | 0, _ => none
  | fuel + 1, input =>
    match input with
    | '.' :: rest => do
      let '.' :: '.' :: rest := rest | none
      let (source, rest) ← readOperand fuel rest
      return (.spread source, rest)
    | input => do
      let (key, ':' :: ' ' :: rest) ← readKey input | none
      let (value, rest) ← readExpr fuel rest
      return (.property key value, rest)

def readMembers : Nat → List Char → Option (List Member × List Char)
  | 0, _ => none
  | fuel + 1, input => do
    let (m, rest) ← readMember fuel input
    match rest with
    | ',' :: ' ' :: rest =>
      let (ms, rest) ← readMembers fuel rest
      return (m :: ms, rest)
    | rest => return ([m], rest)

/-- Members on lines of their own, from the first character of a line on. -/
def readLines : Nat → List Char → Option (List Member × List Char)
  | 0, _ => none
  | fuel + 1, input =>
    match input with
    | '\x7d' :: rest => some ([], rest)
    | input => do
      let (m, ',' :: '\n' :: rest) ← readMember fuel input | none
      let (ms, rest) ← readLines fuel (rest.dropWhile (· = ' '))
      return (m :: ms, rest)

def readParts : Nat → List Char → Option (List TemplatePart × List Char)
  | 0, _ => none
  | fuel + 1, input =>
    let text := if (readTemplate input).1 = [] then []
      else [TemplatePart.text (String.ofList (readTemplate input).1)]
    match (readTemplate input).2 with
    | '\x60' :: rest => some (text, rest)
    | '$' :: '\x7b' :: rest => do
      let (e, '\x7d' :: rest) ← readExpr fuel rest | none
      let (parts, rest) ← readParts fuel rest
      return (text ++ .expr e :: parts, rest)
    | _ => none

end

end JsxGen.Js
