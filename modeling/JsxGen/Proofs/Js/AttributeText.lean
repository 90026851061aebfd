import JsxGen.Proofs.Js.JsonLiteral

/-!
Strings as values of attributes, read by the rules of markup between quotes and by those of string
literals between braces. `JsxAttribute.string_denotes_iff` says for which strings the attribute denotes the
string itself.
-/

namespace JsxGen.Js

/-- The text ahead of a mark, and what follows the mark. -/
def splitAt? (mark : Char) : List Char → Option (List Char × List Char)
  | [] => none
  | c :: input =>
    if c = mark then some ([], input)
    else (splitAt? mark input).map fun (before, rest) => (c :: before, rest)

theorem splitAt?_append {mark : Char} {before : List Char} (absent : mark ∉ before)
    (rest : List Char) : splitAt? mark (before ++ mark :: rest) = some (before, rest) := by
  induction before with
  | nil => rw [List.nil_append, splitAt?, if_pos rfl]
  | cons c before ih =>
    rw [List.mem_cons, not_or] at absent
    rw [List.cons_append, splitAt?, if_neg (Ne.symm absent.1), ih absent.2]
    rfl

theorem splitAt?_eq_some {mark : Char} {input before rest : List Char}
    (split : splitAt? mark input = some (before, rest)) :
    input = before ++ mark :: rest ∧ mark ∉ before := by
  induction input generalizing before with
  | nil => cases split
  | cons c input ih =>
    rw [splitAt?] at split
    split at split
    · rename_i same
      cases split
      exact ⟨by rw [same, List.nil_append], List.not_mem_nil⟩
    · rename_i other
      obtain ⟨⟨inner, more⟩, within, whole⟩ := Option.map_eq_some_iff.1 split
      cases whole
      obtain ⟨same, absent⟩ := ih within
      exact ⟨by rw [same, List.cons_append],
        List.not_mem_cons_of_ne_of_not_mem (Ne.symm other) absent⟩

/-- The code points that the characters between `&` and `;` stand for, where these are a reference to
a character. -/
abbrev References := List Char → Option Nat

variable {refers : References}

/-- The reference behind an `&`: the code point it stands for, and what follows it. -/
def reference? (refers : References) (input : List Char) : Option (Nat × List Char) :=
  (splitAt? ';' input).bind fun (name, rest) => (refers name).map (·, rest)

theorem reference?_eq_some_iff {input rest : List Char} {code : Nat} :
    reference? refers input = some (code, rest) ↔
      ∃ name, (input = name ++ ';' :: rest ∧ ';' ∉ name) ∧ refers name = some code := by
  rw [reference?, Option.bind_eq_some_iff]
  constructor
  · rintro ⟨⟨name, more⟩, split, found⟩
    obtain ⟨_, stands, whole⟩ := Option.map_eq_some_iff.1 found
    cases whole
    exact ⟨name, splitAt?_eq_some split, stands⟩
  · rintro ⟨name, ⟨rfl, absent⟩, stands⟩
    exact ⟨(name, rest), splitAt?_append absent rest, congrArg (Option.map (·, rest)) stands⟩

/-- The code points of text between quotes: those of its characters, each reference replaced by what
it stands for. -/
def markupText (refers : References) : List Char → List Nat
  | [] => []
  | c :: text =>
    if c = '&' then
      match _found : reference? refers text with
      | some (code, rest) => code :: markupText refers rest
      | none => c.toNat :: markupText refers text
    else c.toNat :: markupText refers text
termination_by text => text.length
decreasing_by
  · obtain ⟨name, split, _⟩ := reference?_eq_some_iff.1 _found
    simp only [split.1, List.length_append, List.length_cons]
    omega
  · simp
  · simp

/-- A reference stands somewhere in the text. -/
def HasReference (refers : References) (text : List Char) : Prop :=
  ∃ before name after, text = before ++ '&' :: (name ++ ';' :: after) ∧ ';' ∉ name ∧
    (refers name).isSome

theorem hasReference_cons_iff {c : Char} {text : List Char} :
    HasReference refers (c :: text) ↔
      (c = '&' ∧ ∃ code rest, reference? refers text = some (code, rest)) ∨
        HasReference refers text := by
  constructor
  · rintro ⟨before, name, after, split, absent, known⟩
    obtain ⟨code, stands⟩ := Option.isSome_iff_exists.1 known
    cases before with
    | nil =>
      obtain ⟨rfl, rfl⟩ := List.cons.inj split
      exact .inl ⟨rfl, code, after, reference?_eq_some_iff.2 ⟨name, ⟨rfl, absent⟩, stands⟩⟩
    | cons d before =>
      exact .inr ⟨before, name, after, (List.cons.inj split).2, absent, known⟩
  · rintro (⟨rfl, code, rest, found⟩ | ⟨before, name, after, rfl, absent, known⟩)
    · obtain ⟨name, ⟨rfl, absent⟩, stands⟩ := reference?_eq_some_iff.1 found
      exact ⟨[], name, rest, rfl, absent, by rw [stands]; rfl⟩
    · exact ⟨c :: before, name, after, rfl, absent, known⟩

theorem markupText_of_not_hasReference {text : List Char} (absent : ¬HasReference refers text) :
    markupText refers text = text.map Char.toNat := by
  fun_induction markupText refers text with
  | case1 => rfl
  | case2 text code rest found _ =>
    exact absurd (hasReference_cons_iff.2 (.inl ⟨rfl, code, rest, found⟩)) absent
  | case3 text none ih =>
    rw [ih fun found => absent (hasReference_cons_iff.2 (.inr found)), List.map_cons]
  | case4 c text other ih =>
    rw [ih fun found => absent (hasReference_cons_iff.2 (.inr found)), List.map_cons]

/-- A reference is longer than the one code point it stands for. -/
theorem length_markupText (text : List Char) :
    (markupText refers text).length ≤ text.length ∧
      (HasReference refers text → (markupText refers text).length < text.length) := by
  fun_induction markupText refers text with
  | case1 =>
    refine ⟨le_rfl, fun ⟨before, name, after, split, _⟩ => ?_⟩
    cases before <;> cases split
  | case2 text code rest found ih =>
    obtain ⟨name, ⟨split, _⟩, _⟩ := reference?_eq_some_iff.1 found
    have short : (code :: markupText refers rest).length < ('&' :: text).length := by
      have behind := ih.1
      simp only [split, List.length_append, List.length_cons]
      omega
    exact ⟨short.le, fun _ => short⟩
  | case3 text none ih =>
    refine ⟨Nat.succ_le_succ ih.1, fun found => Nat.succ_lt_succ (ih.2 ?_)⟩
    obtain ⟨_, code, rest, here⟩ | within := hasReference_cons_iff.1 found
    · cases none.symm.trans here
    · exact within
  | case4 c text other ih =>
    refine ⟨Nat.succ_le_succ ih.1, fun found => Nat.succ_lt_succ (ih.2 ?_)⟩
    exact (hasReference_cons_iff.1 found).resolve_left fun here => other here.1

theorem markupText_eq_iff (text : List Char) :
    markupText refers text = text.map Char.toNat ↔ ¬HasReference refers text := by
  refine ⟨fun same found => ?_, markupText_of_not_hasReference⟩
  have short := (length_markupText text).2 found
  rw [same, List.length_map] at short
  exact lt_irrefl _ short

/-- The value behind the name of an attribute in code points, and what follows it: text between
quotes, or a string literal between braces. -/
def readAttribute (refers : References) : List Char → Option (List Nat × List Char)
  | '=' :: '"' :: input =>
    (splitAt? '"' input).map fun (text, rest) => (markupText refers text, rest)
  | '=' :: '\x7b' :: '"' :: input =>
    match readEscaped input with
    | some (text, '\x7d' :: rest) => some (text.map Char.toNat, rest)
    | _ => none
  | _ => none

theorem isPlainText_iff (text : String) :
    isPlainText text = true ↔ '"' ∉ text.toList ∧ '\\' ∉ text.toList := by
  rw [isPlainText, List.all_eq_true]
  constructor
  · intro plain
    exact ⟨fun member => by simpa using plain _ member, fun member => by simpa using plain _ member⟩
  · rintro ⟨noQuote, noBackslash⟩ c member
    have other : c ≠ '"' ∧ c ≠ '\\' :=
      ⟨fun same => noQuote (same ▸ member), fun same => noBackslash (same ▸ member)⟩
    simpa using other

namespace JsxAttribute

variable {width depth : Nat}

/-- The source of a string behind the name of an attribute. -/
def stringSource (text : String) : List Char :=
  '=' :: if isPlainText text then '"' :: (text.toList ++ ['"'])
    else '\x7b' :: (stringLiteral text.toList ++ ['\x7d'])

theorem chars_named_str (name text : String) :
    ((named name (.str text)).layout depth).chars width = name.toList ++ stringSource text := by
  rw [layout, stringSource]
  split <;> simp

theorem readAttribute_quotes {text : List Char} (noQuote : '"' ∉ text) (rest : List Char) :
    readAttribute refers ('=' :: '"' :: (text ++ '"' :: rest)) =
      some (markupText refers text, rest) := by
  rw [readAttribute, splitAt?_append noQuote]
  rfl

theorem readAttribute_braces (text rest : List Char) :
    readAttribute refers ('=' :: '\x7b' :: (stringLiteral text ++ '\x7d' :: rest)) =
      some (text.map Char.toNat, rest) := by
  have literal : stringLiteral text ++ '\x7d' :: rest =
      '"' :: (text.flatMap quotedChar ++ '"' :: '\x7d' :: rest) := by
    simp [stringLiteral]
  rw [literal, readAttribute, readEscaped_quoted]
  rfl

/-- The attribute denotes its string, whatever follows, exactly if the string has a quote or a
backslash, and stands between braces for it, or no reference. -/
theorem string_denotes_iff (refers : References) (name text : String) (width depth : Nat) :
    ∃ source, ((named name (.str text)).layout depth).chars width = name.toList ++ source ∧
      ∃ codes, (∀ rest, readAttribute refers (source ++ rest) = some (codes, rest)) ∧
        (codes = text.toList.map Char.toNat ↔
          '"' ∈ text.toList ∨ '\\' ∈ text.toList ∨ ¬HasReference refers text.toList) := by
  refine ⟨stringSource text, chars_named_str name text, ?_⟩
  by_cases plain : isPlainText text = true
  · obtain ⟨noQuote, noBackslash⟩ := (isPlainText_iff text).1 plain
    refine ⟨markupText refers text.toList, fun rest => ?_, ?_⟩
    · rw [stringSource, if_pos plain, List.cons_append, List.cons_append, List.append_assoc]
      exact readAttribute_quotes noQuote rest
    · rw [markupText_eq_iff]
      simp [noQuote, noBackslash]
  · refine ⟨text.toList.map Char.toNat, fun rest => ?_, ?_⟩
    · rw [stringSource, if_neg plain, List.cons_append, List.cons_append, List.append_assoc]
      exact readAttribute_braces text.toList rest
    · rw [isPlainText_iff, not_and_or, not_not, not_not] at plain
      exact iff_of_true rfl (or_assoc.1 (.inl plain))

end JsxAttribute

/-- The references that all markup knows. -/
def predefinedReferences : References := fun name =>
  [("amp", 38), ("lt", 60), ("gt", 62), ("quot", 34), ("apos", 39)].lookup (String.ofList name)

/-- Text that spells a reference stands between quotes all the same, and denotes the character. -/
theorem ampersand_spelled_out :
    ((JsxAttribute.named "children" (.str "&amp;")).layout 0).text 2 = "children=\"&amp;\"" ∧
      readAttribute predefinedReferences "=\"&amp;\"".toList = some ("&".toList.map Char.toNat, []) ∧
      "&".toList ≠ "&amp;".toList := by
  refine ⟨rfl, ?_, by decide⟩
  decide +kernel

end JsxGen.Js
