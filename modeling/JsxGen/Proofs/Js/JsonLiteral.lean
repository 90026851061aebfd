import JsxGen.Proofs.Js.Evaluation
import JsxGen.Proofs.Js.Members

/-!
JSON values written as literals and read back. The reader knows literals alone: strings with the five
escapes that are written, the three words, arrays, and objects with bare or quoted keys.
`readJsonLiteral_ofJson` says that every value without numbers comes back as it was.
-/

namespace JsxGen

open Text (isIdentifier isIdentifierStart)

/-- No number is in the value, at any depth. -/
inductive Json.Numberless : Json → Prop where
  | null : Numberless .null
  | bool (value : Bool) : Numberless (.bool value)
  | str (value : String) : Numberless (.str value)
  | arr {items : List Json} (each : ∀ item ∈ items, Numberless item) : Numberless (.arr items)
  | obj {fields : List (String × Json)} (each : ∀ field ∈ fields, Numberless field.2) :
    Numberless (.obj fields)

namespace Js

def escaped? : Char → Option Char
  | '"' => some '"'
  | '\\' => some '\\'
  | 'n' => some '\n'
  | 'r' => some '\r'
  | 't' => some '\t'
  | _ => none

/-- The text up to the closing quote, which stands on one line and has no other escapes. -/
def readEscaped : List Char → Option (List Char × List Char)
  | [] => none
  | '"' :: rest => some ([], rest)
  | ['\\'] => none
  | '\\' :: c :: rest =>
    (escaped? c).bind fun d => (readEscaped rest).map fun (text, rest) => (d :: text, rest)
  | c :: rest =>
    if c = '\n' ∨ c = '\r' then none
    else (readEscaped rest).map fun (text, rest) => (c :: text, rest)

def skipBlanks (input : List Char) : List Char :=
  input.dropWhile fun c => c = ' ' || c = '\n'

def readLiteralKey : List Char → Option (Key × List Char)
  | '"' :: rest => (readEscaped rest).map fun (text, rest) => (.quoted (String.ofList text), rest)
  | input =>
    if input.head?.any isIdentifierStart then some (.bare (readName input).1, (readName input).2)
    else none

def readField (readValue : List Char → Option (Expr × List Char)) (input : List Char) :
    Option (Member × List Char) :=
  match readLiteralKey input with
  | some (key, ':' :: rest) => (readValue (skipBlanks rest)).map
      fun (value, rest) => (.property key value, rest)
  | _ => none

/-- Items with commas between them, up to the bracket that closes them; `fuel` bounds their number. -/
def readSeries {α : Type} (close : Char) (readItem : List Char → Option (α × List Char)) :
    Nat → List Char → Option (List α × List Char)
  | 0, _ => none
  | fuel + 1, input =>
    if input.head? = some close then some ([], input.tail)
    else (readItem input).bind fun (item, rest) =>
      match skipBlanks rest with
      | ',' :: rest => (readSeries close readItem fuel (skipBlanks rest)).map
          fun (items, rest) => (item :: items, rest)
      | c :: rest => if c = close then some ([item], rest) else none
      | [] => none

def wordLiteral? : String → Option Expr
  | "null" => some .null
  | "true" => some (.bool true)
  | "false" => some (.bool false)
  | _ => none

/-- A literal and what follows it; `fuel` bounds the depth of arrays and objects. -/
def readValue : Nat → List Char → Option (Expr × List Char)
  | 0, _ => none
  | fuel + 1, input =>
    match input with
    | '"' :: rest => (readEscaped rest).map fun (text, rest) => (.str (String.ofList text), rest)
    | '[' :: rest =>
      (readSeries ']' (readValue fuel) rest.length (skipBlanks rest)).map
        fun (items, rest) => (.array items, rest)
    | '\x7b' :: rest =>
      (readSeries '\x7d' (readField (readValue fuel)) rest.length (skipBlanks rest)).map
        fun (members, rest) => (.inline members, rest)
    | input => (wordLiteral? (readName input).1).map fun e => (e, (readName input).2)

/-- The literal that is the whole of the text. -/
def readJsonLiteral (text : List Char) : Option Expr :=
  match readValue text.length text with
  | some (e, []) => some e
  | _ => none

mutual

/-- The JSON value that a literal denotes. -/
def Expr.json? : Expr → Option Json
  | .null => some .null
  | .bool value => some (.bool value)
  | .str value => some (.str value)
  | .array items => (Expr.jsonItems? items).map .arr
  | .object members _ => (Member.jsonFields? members).map .obj
  | _ => none

def Expr.jsonItems? : List Expr → Option (List Json)
  | [] => some []
  | e :: es => do
    let item ← e.json?
    let items ← Expr.jsonItems? es
    return item :: items

def Member.jsonFields? : List Member → Option (List (String × Json))
  | [] => some []
  | .spread _ :: _ => none
  | .property key value :: members => do
    let json ← value.json?
    let fields ← Member.jsonFields? members
    return (key.text, json) :: fields

end

/-- The key is that of a member of an object in the literal. -/
inductive Expr.WritesKey (key : Key) : Expr → Prop where
  | here {members : List Member} {multiline : Bool} {value : Expr}
    (listed : .property key value ∈ members) : WritesKey key (.object members multiline)
  | value {members : List Member} {multiline : Bool} {other : Key} {value : Expr}
    (listed : .property other value ∈ members) (within : WritesKey key value) :
    WritesKey key (.object members multiline)
  | item {items : List Expr} {e : Expr} (listed : e ∈ items) (within : WritesKey key e) :
    WritesKey key (.array items)

theorem readEscaped_quotedChar (c : Char) (input : List Char) :
    readEscaped (quotedChar c ++ input) =
      (readEscaped input).map fun (text, rest) => (c :: text, rest) := by
  by_cases quote : c = '"'
  · subst quote
    rfl
  by_cases backslash : c = '\\'
  · subst backslash
    rfl
  by_cases newline : c = '\n'
  · subst newline
    rfl
  by_cases ret : c = '\r'
  · subst ret
    rfl
  by_cases tab : c = '\t'
  · subst tab
    rfl
  simp [quotedChar, quote, backslash, newline, ret, tab, readEscaped]

theorem readEscaped_quoted (text rest : List Char) :
    readEscaped (text.flatMap quotedChar ++ '"' :: rest) = some (text, rest) := by
  induction text with
  | nil => rfl
  | cons c text ih =>
    rw [List.flatMap_cons, List.append_assoc, readEscaped_quotedChar, ih]
    rfl

theorem skipBlanks_cons {c : Char} (mark : c ≠ ' ' ∧ c ≠ '\n') (rest : List Char) :
    skipBlanks (c :: rest) = c :: rest := by
  simp [skipBlanks, mark]

theorem skipBlanks_space (rest : List Char) : skipBlanks (' ' :: rest) = skipBlanks rest := by
  simp [skipBlanks]

theorem readLiteralKey_chars (text : String) (rest : List Char) :
    readLiteralKey ((Key.ofString text).chars ++ ':' :: rest) =
      some (Key.ofString text, ':' :: rest) := by
  unfold Key.ofString
  split
  · rename_i identifier
    have read := readName_append identifier (endsName_cons (c := ':') rest (by decide))
    rcases Text.exists_of_isIdentifier identifier with ⟨c, cs, same, start, _⟩
    rw [Key.chars, readLiteralKey]
    · rw [read]
      simp [same, start]
    · exact Text.identifier_append_ne identifier (by decide) _
  · simp [Key.chars, stringLiteral, readLiteralKey, readEscaped_quoted]

section Series

variable {α β : Type} {close : Char} {readItem : List Char → Option (α × List Char)}

/-- The text of an item starts with a mark of its own and is read back, unless what follows goes on
with a name. -/
structure ReadsItem (close : Char) (readItem : List Char → Option (α × List Char))
    (text : List Char) (item : α) : Prop where
  head : ∃ c more, text = c :: more ∧ c ∉ [' ', '\n', close]
  read : ∀ rest, EndsName rest → readItem (text ++ rest) = some (item, rest)

theorem ReadsItem.head?_ne {text : List Char} {item : α}
    (reads : ReadsItem close readItem text item) (rest : List Char) :
    (text ++ rest).head? ≠ some close := by
  obtain ⟨c, more, same, mark⟩ := reads.head
  simp only [List.mem_cons, List.not_mem_nil, or_false, not_or] at mark
  simp [same, mark]

theorem ReadsItem.skipBlanks_append {text : List Char} {item : α}
    (reads : ReadsItem close readItem text item) (rest : List Char) :
    skipBlanks (text ++ rest) = text ++ rest := by
  obtain ⟨c, more, same, mark⟩ := reads.head
  simp only [List.mem_cons, List.not_mem_nil, or_false, not_or] at mark
  rw [same]
  exact skipBlanks_cons ⟨mark.1, mark.2.1⟩ _

theorem readSeries_last {text rest more : List Char} {item : α}
    (reads : ReadsItem close readItem text item) (ends : EndsName rest)
    (closed : skipBlanks rest = close :: more) (mark : close ≠ ',') (fuel : Nat) :
    readSeries close readItem (fuel + 1) (text ++ rest) = some ([item], more) := by
  rw [readSeries, if_neg (reads.head?_ne rest), reads.read rest ends]
  simp [closed]

theorem readSeries_more {text rest more : List Char} {item : α}
    (reads : ReadsItem close readItem text item) (ends : EndsName rest)
    (goesOn : skipBlanks rest = ',' :: more) (fuel : Nat) :
    readSeries close readItem (fuel + 1) (text ++ rest) =
      (readSeries close readItem fuel (skipBlanks more)).map
        fun (items, rest) => (item :: items, rest) := by
  rw [readSeries, if_neg (reads.head?_ne rest), reads.read rest ends]
  simp [goesOn]

/-- Items that are read back one by one are read back as a series, up to the bracket behind them. -/
theorem readSeries_separated {print : β → List Char} {tree : β → α} {rest tail : List Char}
    (ends : EndsName tail) (closed : skipBlanks tail = close :: rest) (mark : close ≠ ',')
    (xs : List β) (nonempty : xs ≠ [])
    (each : ∀ x ∈ xs, ReadsItem close readItem (print x) (tree x)) (fuel : Nat)
    (enough : (separated (xs.map print)).length ≤ fuel) :
    readSeries close readItem fuel (skipBlanks (separated (xs.map print) ++ tail)) =
      some (xs.map tree, rest) := by
  induction xs generalizing fuel with
  | nil => exact absurd rfl nonempty
  | cons x xs ih =>
    rw [List.forall_mem_cons] at each
    obtain ⟨c, first, start, _⟩ := each.1.head
    obtain ⟨more, whole⟩ := exists_separated_cons (print x) (xs.map print)
    cases fuel with
    | zero =>
      rw [List.map_cons, whole, start] at enough
      cases enough
    | succ fuel =>
      cases xs with
      | nil =>
        rw [List.map_singleton, separated_singleton, each.1.skipBlanks_append]
        exact readSeries_last each.1 ends closed mark fuel
      | cons y ys =>
        rw [List.map_cons, List.map_cons, separated_cons_cons] at enough
        have others := ih (List.cons_ne_nil y ys) each.2 fuel (by
          rw [List.length_append, List.length_cons, List.length_cons] at enough
          exact Nat.le_of_succ_le_succ (le_trans (by simp [start]; omega) enough))
        rw [List.map_cons, List.map_cons, separated_cons_cons, List.append_assoc,
          each.1.skipBlanks_append, List.cons_append, List.cons_append,
          readSeries_more each.1 (endsName_cons _ (by decide)) (skipBlanks_cons (by decide) _),
          skipBlanks_space, ← List.map_cons, others]
        rfl

theorem length_le_of_mem {text : List Char} {texts : List (List Char)} (member : text ∈ texts) :
    text.length ≤ (separated texts).length := by
  induction texts with
  | nil => cases member
  | cons first texts ih =>
    obtain ⟨more, start⟩ := exists_separated_cons first texts
    rcases List.mem_cons.1 member with rfl | member
    · rw [start, List.length_append]
      exact Nat.le_add_right _ _
    · cases texts with
      | nil => cases member
      | cons second texts =>
        have behind := ih member
        rw [separated_cons_cons, List.length_append, List.length_cons, List.length_cons]
        omega

end Series

theorem Expr.ofItems_eq_map (items : List Json) : ofItems items = items.map ofJson := by
  induction items with
  | nil => rfl
  | cons item items ih => rw [ofItems, ih, List.map_cons]

/-- The member for a field of a JSON object. -/
def Member.ofField (field : String × Json) : Member := .ofString field.1 (.ofJson field.2)

theorem Expr.ofFields_eq_map (fields : List (String × Json)) :
    ofFields fields = fields.map Member.ofField := by
  induction fields with
  | nil => rfl
  | cons field fields ih => rw [ofFields, ih, List.map_cons, Member.ofField]

namespace Expr

variable {width depth : Nat}

theorem exists_head_ofJson {json : Json} (numberless : json.Numberless) :
    ∃ c more, (ofJson json).chars width depth = c :: more ∧ c ∉ [' ', '\n', ']'] := by
  cases numberless with
  | null => exact ⟨_, _, chars_null, by decide⟩
  | bool value =>
    cases value with
    | false => exact ⟨_, _, chars_bool false, by decide⟩
    | true => exact ⟨_, _, chars_bool true, by decide⟩
  | str value => exact ⟨_, _, chars_str value, by decide⟩
  | arr each => exact ⟨_, _, chars_array _, by decide⟩
  | obj each =>
    obtain ⟨more, text⟩ := chars_object_cons _ _
    exact ⟨_, more, text, by decide⟩

/-- With fuel for its depth, the literal is read back. -/
def ReadsBack (width depth : Nat) (e : Expr) : Prop :=
  ∀ fuel, (e.chars width depth).length ≤ fuel → ∀ rest, EndsName rest →
    readValue fuel (e.chars width depth ++ rest) = some (e, rest)

theorem readsBack_word {e : Expr} {name : String} (text : e.chars width depth = name.toList)
    (identifier : isIdentifier name) (word : wordLiteral? name = some e) :
    e.ReadsBack width depth := by
  intro fuel enough rest ends
  obtain ⟨c, cs, same, _⟩ := Text.exists_of_isIdentifier identifier
  rw [text] at enough ⊢
  cases fuel with
  | zero => simp [same] at enough
  | succ fuel =>
    rw [readValue, readName_append identifier ends, word]
    · rfl
    · exact Text.identifier_append_ne identifier (by decide) _
    · exact Text.identifier_append_ne identifier (by decide) _
    · exact Text.identifier_append_ne identifier (by decide) _

theorem readsBack_bool (value : Bool) : (bool value).ReadsBack width depth := by
  cases value with
  | false => exact readsBack_word (chars_bool false) (by decide) rfl
  | true => exact readsBack_word (chars_bool true) (by decide) rfl

theorem readsBack_str (value : String) : (str value).ReadsBack width depth := by
  intro fuel enough rest ends
  rw [chars_str] at enough ⊢
  cases fuel with
  | zero => simp at enough
  | succ fuel => simp [readValue, readEscaped_quoted]

/-- An item is no longer than what is left of the fuel behind the bracket. -/
theorem readsBack_array {items : List Json} (numberless : ∀ item ∈ items, item.Numberless)
    (each : ∀ item ∈ items, (ofJson item).ReadsBack width depth) :
    (ofJson (.arr items)).ReadsBack width depth := by
  intro fuel enough rest ends
  rw [ofJson, ofItems_eq_map, chars_array, List.map_map] at enough ⊢
  cases fuel with
  | zero => cases enough
  | succ fuel =>
    by_cases empty : items = []
    · subst empty
      simp [separated, readValue, readSeries, skipBlanks]
    · have reads : ∀ item ∈ items, ReadsItem ']' (readValue fuel)
          ((chars width depth ∘ ofJson) item) (ofJson item) := by
        intro item member
        have short := length_le_of_mem
          (List.mem_map_of_mem (f := chars width depth ∘ ofJson) member)
        rw [List.length_cons, List.length_append] at enough
        exact ⟨exists_head_ofJson (numberless item member),
          each item member fuel (short.trans (by omega))⟩
      have closer : EndsName (']' :: rest) :=
        (EndsOperand.branch (.expr (.closer rest (by decide)))).name
      rw [List.cons_append, List.append_assoc, List.singleton_append, readValue,
        readSeries_separated closer (skipBlanks_cons (by decide) rest) (by decide) items empty reads]
      · rfl
      · rw [List.length_append]
        exact Nat.le_add_right _ _

theorem skipBlanks_ofJson {json : Json} (numberless : json.Numberless) (rest : List Char) :
    skipBlanks ((ofJson json).chars width depth ++ rest) =
      (ofJson json).chars width depth ++ rest := by
  have head : ∃ c more, (ofJson json).chars width depth = c :: more ∧ c ∉ [' ', '\n', ']'] :=
    exists_head_ofJson numberless
  obtain ⟨c, more, text, mark⟩ := head
  simp only [List.mem_cons, List.not_mem_nil, or_false, not_or] at mark
  rw [text]
  exact skipBlanks_cons ⟨mark.1, mark.2.1⟩ _

theorem exists_head_ofField (field : String × Json) :
    ∃ c more, (Member.ofField field).chars width depth = c :: more ∧ c ∉ [' ', '\n', '\x7d'] := by
  rw [Member.ofField, Member.ofString, Member.chars_property]
  unfold Key.ofString
  split
  · rename_i identifier
    obtain ⟨c, cs, same, start, _⟩ := Text.exists_of_isIdentifier identifier
    refine ⟨c, _, by rw [Key.chars, same]; rfl, fun mark => ?_⟩
    have marks : [' ', '\n', '\x7d'].any isIdentifierStart = false := by decide
    exact List.any_eq_false.1 marks c mark start
  · exact ⟨_, _, rfl, by decide⟩

theorem readsItem_ofField {field : String × Json} (numberless : field.2.Numberless)
    (value : (ofJson field.2).ReadsBack width depth) {fuel : Nat}
    (enough : ((Member.ofField field).chars width depth).length ≤ fuel) :
    ReadsItem '\x7d' (readField (readValue fuel)) ((Member.ofField field).chars width depth)
      (.ofField field) := by
  refine ⟨exists_head_ofField field, fun rest ends => ?_⟩
  rw [Member.ofField, Member.ofString, Member.chars_property] at enough ⊢
  have read := value fuel (by simp at enough; omega) rest ends
  rw [List.append_assoc, List.cons_append, List.cons_append, readField, readLiteralKey_chars]
  simp only [skipBlanks_space, skipBlanks_ofJson numberless, read, Option.map_some]

theorem readsBack_object {fields : List (String × Json)}
    (numberless : ∀ field ∈ fields, field.2.Numberless)
    (each : ∀ field ∈ fields, (ofJson field.2).ReadsBack width depth) :
    (ofJson (.obj fields)).ReadsBack width depth := by
  intro fuel enough rest ends
  rw [ofJson, ofFields_eq_map, inline] at enough ⊢
  by_cases empty : fields = []
  · subst empty
    rw [List.map_nil, chars_object_empty] at enough ⊢
    cases fuel with
    | zero => cases enough
    | succ fuel => simp [readValue, readSeries, skipBlanks, inline]
  rw [chars_object_inline (by simpa using empty), List.map_map] at enough ⊢
  cases fuel with
  | zero => cases enough
  | succ fuel =>
    have reads : ∀ field ∈ fields, ReadsItem '\x7d' (readField (readValue fuel))
        ((Member.chars width depth ∘ Member.ofField) field) (.ofField field) := by
      intro field member
      have short := length_le_of_mem
        (List.mem_map_of_mem (f := Member.chars width depth ∘ Member.ofField) member)
      rw [List.length_cons, List.length_cons, List.length_append] at enough
      exact readsItem_ofField (numberless field member) (each field member)
        (short.trans (by omega))
    have blank : EndsName (' ' :: '\x7d' :: rest) := endsName_cons _ (by decide)
    have closed : skipBlanks (' ' :: '\x7d' :: rest) = '\x7d' :: rest := by
      rw [skipBlanks_space, skipBlanks_cons (by decide)]
    rw [List.cons_append, List.cons_append, List.append_assoc, readValue, skipBlanks_space,
      List.cons_append, List.cons_append, List.nil_append,
      readSeries_separated blank closed (by decide) fields empty reads]
    · rfl
    · rw [List.length_cons, List.length_append]
      omega

theorem readsBack_ofJson {json : Json} (numberless : json.Numberless) :
    (ofJson json).ReadsBack width depth := by
  induction numberless with
  | null => exact readsBack_word chars_null (by decide) rfl
  | bool value => exact readsBack_bool value
  | str value => exact readsBack_str value
  | arr numberless each => exact readsBack_array numberless each
  | obj numberless each => exact readsBack_object numberless each

theorem jsonItems?_ofItems {items : List Json}
    (each : ∀ item ∈ items, (ofJson item).json? = some item) :
    jsonItems? (ofItems items) = some items := by
  induction items with
  | nil => rfl
  | cons item items ih =>
    rw [List.forall_mem_cons] at each
    rw [ofItems, jsonItems?, each.1, ih each.2]
    rfl

theorem jsonFields?_ofFields {fields : List (String × Json)}
    (each : ∀ field ∈ fields, (ofJson field.2).json? = some field.2) :
    Member.jsonFields? (ofFields fields) = some fields := by
  induction fields with
  | nil => rfl
  | cons field fields ih =>
    rw [List.forall_mem_cons] at each
    rw [ofFields, Member.ofString, Member.jsonFields?, each.1, ih each.2, Key.text_ofString]
    rfl

theorem json?_ofJson {json : Json} (numberless : json.Numberless) :
    (ofJson json).json? = some json := by
  induction numberless with
  | null => rw [ofJson, json?]
  | bool value => rw [ofJson, json?]
  | str value => rw [ofJson, json?]
  | arr _ each =>
    rw [ofJson, json?, jsonItems?_ofItems each]
    rfl
  | obj _ each =>
    rw [ofJson, inline, json?, jsonFields?_ofFields each]
    rfl

/-- All keys in the literal of a JSON value are made from texts. -/
theorem eq_ofString_of_writesKey {key : Key} {json : Json} (numberless : json.Numberless)
    (writes : (ofJson json).WritesKey key) : key = .ofString key.text := by
  induction numberless with
  | null => rw [ofJson] at writes; cases writes
  | bool value => rw [ofJson] at writes; cases writes
  | str value => rw [ofJson] at writes; cases writes
  | arr _ each =>
    rw [ofJson, ofItems_eq_map] at writes
    cases writes with
    | item listed within =>
      obtain ⟨item, member, rfl⟩ := List.mem_map.1 listed
      exact each item member within
  | obj _ each =>
    rw [ofJson, ofFields_eq_map, inline] at writes
    cases writes with
    | here listed =>
      obtain ⟨field, _, same⟩ := List.mem_map.1 listed
      rw [← (Member.property.inj same).1, Key.text_ofString]
    | value listed within =>
      obtain ⟨field, member, same⟩ := List.mem_map.1 listed
      rw [← (Member.property.inj same).2] at within
      exact each field member within

/-- The text of the literal is read back as the value, with its keys in their order, and the keys that
are identifiers stand in it without quotes. -/
theorem readJsonLiteral_ofJson (json : Json) (numberless : json.Numberless) (width depth : Nat) :
    ∃ e, readJsonLiteral (((ofJson json).layout depth).chars width) = some e ∧ e.json? = some json ∧
      ∀ key, e.WritesKey key → ((∃ name, key = .bare name) ↔ isIdentifier key.text) := by
  have back : (ofJson json).ReadsBack width depth := readsBack_ofJson numberless
  have read := back _ le_rfl [] (EndsOperand.branch (.expr .nothing)).name
  rw [List.append_nil] at read
  refine ⟨ofJson json, ?_, json?_ofJson numberless, fun key writes => ?_⟩
  · change readJsonLiteral ((ofJson json).chars width depth) = _
    rw [readJsonLiteral, read]
  · rw [eq_ofString_of_writesKey numberless writes, Key.text_ofString]
    exact Key.bare_ofString_iff _

/-- A key that is a word, one with a blank and an empty one, around a text with a quote, a backslash
and a line break. -/
theorem readJsonLiteral_ofJson_words :
    let json : Json := .obj [("null", .arr [.str "a \"b\\c\"\n", .obj []]),
      ("first name", .obj [("", .bool true)])]
    json.Numberless ∧
      ((ofJson json).layout 1).text 2 = "\x7b null: [\"a \\\"b\\\\c\\\"\\n\", \x7b\x7d], " ++
        "\"first name\": \x7b \"\": true \x7d \x7d" ∧
      ∃ e, readJsonLiteral (((ofJson json).layout 1).chars 2) = some e ∧ e.json? = some json ∧
        ∀ key, e.WritesKey key → ((∃ name, key = .bare name) ↔ isIdentifier key.text) := by
  intro json
  have list : (Json.arr [.str "a \"b\\c\"\n", .obj []]).Numberless :=
    .arr (by simp [Json.Numberless.str, Json.Numberless.obj])
  have object : (Json.obj [("", .bool true)]).Numberless :=
    .obj (by simp [Json.Numberless.bool])
  have numberless : json.Numberless := .obj (by simp [list, object])
  exact ⟨numberless, rfl, readJsonLiteral_ofJson json numberless 2 1⟩

end Expr

end Js

end JsxGen
