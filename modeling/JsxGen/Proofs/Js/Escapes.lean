import JsxGen.Proofs.Js.JsonLiteral

/-!
Escaped text read from left to right, where a backslash escapes the character behind it.
`stringLiteral_delimits` says that a string literal decides where it ends and holds its text,
`marks_templateText` that nothing in the text of a template ends it.
-/

namespace JsxGen.Js

/-- A character of escaped text, with or without a backslash ahead of it. -/
inductive Mark where
  | bare (c : Char)
  | escaped (c : Char)
  deriving DecidableEq

/-- The marks of a text that does not end in the middle of an escape. -/
def marks : List Char → Option (List Mark)
  | [] => some []
  | ['\\'] => none
  | '\\' :: c :: rest => (marks rest).map (.escaped c :: ·)
  | c :: rest => (marks rest).map (.bare c :: ·)

namespace Mark

def chars : Mark → List Char
  | bare c => [c]
  | escaped c => ['\\', c]

/-- The character that the mark stands for; `escape` knows the escapes. -/
def meaning (escape : Char → Option Char) : Mark → Option Char
  | bare c => some c
  | escaped c => escape c

end Mark

/-- The text that the marks stand for, if none of them is an unknown escape. -/
def unescaped (escape : Char → Option Char) (read : List Mark) : Option (List Char) :=
  read.mapM (Mark.meaning escape)

theorem unescaped_cons {escape : Char → Option Char} {mark : Mark} {read : List Mark} {c : Char}
    {text : List Char} (first : mark.meaning escape = some c)
    (others : unescaped escape read = some text) :
    unescaped escape (mark :: read) = some (c :: text) := by
  rw [unescaped] at others ⊢
  rw [List.mapM_cons, first, others]
  rfl

/-- Written marks are read back, a lone backslash aside. -/
theorem marks_flatMap_chars {read : List Mark} (escapes : .bare '\\' ∉ read) :
    marks (read.flatMap Mark.chars) = some read := by
  induction read with
  | nil => rfl
  | cons mark read ih =>
    rw [List.mem_cons, not_or] at escapes
    have others := ih escapes.2
    cases mark with
    | bare c =>
      have plain : c ≠ '\\' := fun same => escapes.1 (by rw [same])
      rw [List.flatMap_cons, Mark.chars, List.singleton_append, marks, others]
      · rfl
      · exact fun same => absurd same plain
      · exact fun _ _ same => absurd same plain
    | escaped c =>
      rw [List.flatMap_cons, Mark.chars, List.cons_append, List.singleton_append, marks, others]
      rfl

/-- A character in a string literal is one mark, which neither ends the literal nor breaks its
line. -/
theorem exists_mark_quotedChar (c : Char) :
    ∃ mark : Mark, quotedChar c = mark.chars ∧ mark ∉ [.bare '\\', .bare '"'] ∧
      mark.meaning escaped? = some c ∧ ∀ d ∈ ['\n', '\r', '\t'], d ∉ quotedChar c := by
  by_cases quote : c = '"'
  · subst quote
    exact ⟨.escaped '"', rfl, by decide, rfl, by simp [quotedChar]⟩
  by_cases backslash : c = '\\'
  · subst backslash
    exact ⟨.escaped '\\', rfl, by decide, rfl, by simp [quotedChar]⟩
  by_cases newline : c = '\n'
  · subst newline
    exact ⟨.escaped 'n', rfl, by decide, rfl, by simp [quotedChar]⟩
  by_cases ret : c = '\r'
  · subst ret
    exact ⟨.escaped 'r', rfl, by decide, rfl, by simp [quotedChar]⟩
  by_cases tab : c = '\t'
  · subst tab
    exact ⟨.escaped 't', rfl, by decide, rfl, by simp [quotedChar]⟩
  have itself : quotedChar c = [c] := by
    rw [quotedChar, if_neg quote, if_neg backslash, if_neg newline, if_neg ret, if_neg tab]
  refine ⟨.bare c, itself, ?_, rfl, ?_⟩
  · simp [quote, backslash]
  · simp [itself, eq_comm, newline, ret, tab]

theorem exists_marks_quoted (text : List Char) :
    ∃ read : List Mark, text.flatMap quotedChar = read.flatMap Mark.chars ∧
      .bare '\\' ∉ read ∧ .bare '"' ∉ read ∧ unescaped escaped? read = some text := by
  induction text with
  | nil => exact ⟨[], rfl, List.not_mem_nil, List.not_mem_nil, rfl⟩
  | cons c text ih =>
    obtain ⟨mark, written, other, means, _⟩ := exists_mark_quotedChar c
    obtain ⟨read, same, noBackslash, noQuote, back⟩ := ih
    simp only [List.mem_cons, List.not_mem_nil, or_false, not_or] at other
    refine ⟨mark :: read, ?_, ?_, ?_, unescaped_cons means back⟩
    · rw [List.flatMap_cons, List.flatMap_cons, written, same]
    · exact List.not_mem_cons_of_ne_of_not_mem (Ne.symm other.1) noBackslash
    · exact List.not_mem_cons_of_ne_of_not_mem (Ne.symm other.2) noQuote

theorem not_mem_quoted (text : List Char) :
    ∀ c ∈ ['\n', '\r', '\t'], c ∉ text.flatMap quotedChar := by
  intro c line member
  obtain ⟨d, _, within⟩ := List.mem_flatMap.1 member
  obtain ⟨_, _, _, _, none⟩ := exists_mark_quotedChar d
  exact none c line within

theorem readString_stringLiteral (text rest : List Char) :
    readString (stringLiteral text ++ rest).tail = some (text, rest) := by
  rw [stringLiteral, List.cons_append, List.cons_append, List.tail_cons, List.append_assoc]
  exact readString_quoted text rest

/-- Two literals with what follows them are the same text only if they hold the same text and the
same follows. Between its quotes stands escaped text that is all on one line and has no quote of its
own, and that is read back. -/
theorem stringLiteral_delimits :
    (∀ first second rest rest' : List Char,
      stringLiteral first ++ rest = stringLiteral second ++ rest' ↔
        first = second ∧ rest = rest') ∧
    ∀ text, ∃ inner read, stringLiteral text = '"' :: inner ++ ['"'] ∧ marks inner = some read ∧
      .bare '"' ∉ read ∧ (∀ c ∈ ['\n', '\r', '\t'], c ∉ inner) ∧
      unescaped escaped? read = some text := by
  constructor
  · intro first second rest rest'
    constructor
    · intro same
      have firstRead := readString_stringLiteral first rest
      rw [same, readString_stringLiteral second rest', Option.some.injEq, Prod.mk.injEq] at firstRead
      exact ⟨firstRead.1.symm, firstRead.2.symm⟩
    · rintro ⟨rfl, rfl⟩
      rfl
  · intro text
    obtain ⟨read, written, noBackslash, noQuote, back⟩ := exists_marks_quoted text
    refine ⟨text.flatMap quotedChar, read, rfl, ?_, noQuote, not_mem_quoted text, back⟩
    rw [written]
    exact marks_flatMap_chars noBackslash

/-- The characters that are escaped in the text of a template stand for themselves. -/
def templateEscaped? (c : Char) : Option Char :=
  if c ∈ ['\\', '\x60', '$'] then some c else none

/-- Each occurrence of `first :: others`, from the left and none over another, is replaced. -/
def replaceAll (first : Char) (others new : List Char) : List Char → List Char
  | [] => []
  | c :: text =>
    if first :: others <+: c :: text then
      new ++ replaceAll first others new (text.drop others.length)
    else c :: replaceAll first others new text
termination_by text => text.length
decreasing_by
  all_goals simp only [List.length_drop, List.length_cons]
  all_goals omega

section Replacement

variable {first : Char} {others new : List Char}

theorem replaceAll_hit (rest : List Char) :
    replaceAll first others new (first :: (others ++ rest)) =
      new ++ replaceAll first others new rest := by
  rw [replaceAll, if_pos ⟨rest, rfl⟩, List.drop_left]

theorem replaceAll_miss {c : Char} {text : List Char} (miss : ¬first :: others <+: c :: text) :
    replaceAll first others new (c :: text) = c :: replaceAll first others new text := by
  rw [replaceAll, if_neg miss]

theorem replaceAll_other {c : Char} (other : first ≠ c) (text : List Char) :
    replaceAll first others new (c :: text) = c :: replaceAll first others new text :=
  replaceAll_miss fun start => other (List.cons_prefix_cons.1 start).1

theorem replaceAll_single (text : List Char) :
    replaceAll first [] new text = text.flatMap fun c => if c = first then new else [c] := by
  induction text with
  | nil => rw [replaceAll, List.flatMap_nil]
  | cons c text ih =>
    rw [List.flatMap_cons, ← ih]
    by_cases same : c = first
    · rw [if_pos same, same]
      exact replaceAll_hit text
    · rw [if_neg same, replaceAll_other (Ne.symm same), List.singleton_append]

end Replacement

/-- What stands for a character in the text of a template when starts of substitutions are let be. -/
def templateChar (c : Char) : List Char :=
  if c = '\\' then ['\\', '\\'] else if c = '\x60' then ['\\', '\x60'] else [c]

theorem templateChar_eq_self {c : Char} (noBackslash : c ≠ '\\') (noQuote : c ≠ '\x60') :
    templateChar c = [c] := by
  rw [templateChar, if_neg noBackslash, if_neg noQuote]

theorem replaceAll_backslash_quote (text : List Char) :
    replaceAll '\x60' [] ['\\', '\x60'] (replaceAll '\\' [] ['\\', '\\'] text) =
      text.flatMap templateChar := by
  rw [replaceAll_single, replaceAll_single, List.flatMap_assoc]
  congr 1
  funext c
  by_cases backslash : c = '\\'
  · subst backslash
    rfl
  · rw [if_neg backslash, List.flatMap_singleton, templateChar, if_neg backslash]

theorem head?_flatMap_templateChar {text : List Char}
    (brace : (text.flatMap templateChar).head? = some '\x7b') : text.head? = some '\x7b' := by
  cases text with
  | nil => simp at brace
  | cons c text =>
    rw [List.flatMap_cons, templateChar] at brace
    split at brace
    · simp at brace
    split at brace
    · simp at brace
    · simpa using brace

/-- The three replacements one after the other, the last of them of a pair of characters, come to one
pass over the text. -/
theorem templateText_eq_replaceAll (text : List Char) :
    templateText text =
      replaceAll '$' ['\x7b'] ['\\', '$', '\x7b']
        (replaceAll '\x60' [] ['\\', '\x60'] (replaceAll '\\' [] ['\\', '\\'] text)) := by
  rw [replaceAll_backslash_quote]
  induction text using templateText.induct with
  | case1 => rw [templateText, List.flatMap_nil, replaceAll]
  | case2 text ih =>
    rw [templateText, ih, List.flatMap_cons, templateChar, if_pos rfl, List.cons_append,
      List.singleton_append, replaceAll_other (by decide), replaceAll_other (by decide)]
  | case3 text ih =>
    rw [templateText, ih, List.flatMap_cons, templateChar, if_neg (by decide), if_pos rfl,
      List.cons_append, List.singleton_append, replaceAll_other (by decide),
      replaceAll_other (by decide)]
  | case4 text ih =>
    have start : ('$' :: '\x7b' :: text).flatMap templateChar =
        '$' :: (['\x7b'] ++ text.flatMap templateChar) := rfl
    rw [templateText, ih, start, replaceAll_hit]
    rfl
  | case5 c text noBackslash noQuote noSubstitution ih =>
    have miss : ¬['$', '\x7b'] <+: c :: text.flatMap templateChar := by
      intro start
      -- No escape starts with a brace, so one that comes next was next in the text already.
      obtain ⟨dollar, brace⟩ := List.cons_prefix_cons.1 start
      obtain ⟨rest, same⟩ := brace
      obtain ⟨more, next⟩ :=
        List.head?_eq_some_iff.1 (head?_flatMap_templateChar (by rw [← same]; rfl))
      exact noSubstitution more dollar.symm next
    rw [templateText, ih, List.flatMap_cons, templateChar_eq_self noBackslash noQuote,
      List.singleton_append, replaceAll_miss miss]
    · exact noBackslash
    · exact noQuote
    · exact noSubstitution

/-- Marks in a template: they stand for the text, and none of them ends the template or starts a
substitution in it. -/
structure TemplateMarks (read : List Mark) (text : List Char) : Prop where
  noBackslash : .bare '\\' ∉ read
  noQuote : .bare '\x60' ∉ read
  noStart : ¬[.bare '$', .bare '\x7b'] <:+: read
  back : unescaped templateEscaped? read = some text

namespace TemplateMarks

variable {read : List Mark} {text : List Char} {c : Char}

theorem escaped (known : templateEscaped? c = some c) (held : TemplateMarks read text) :
    TemplateMarks (.escaped c :: read) (c :: text) where
  noBackslash := by simpa using held.noBackslash
  noQuote := by simpa using held.noQuote
  noStart := by simpa [List.infix_cons_iff] using held.noStart
  back := unescaped_cons known held.back

theorem bare (plain : c ≠ '\\' ∧ c ≠ '\x60')
    (apart : ¬(c = '$' ∧ text.head? = some '\x7b')) (held : TemplateMarks read text) :
    TemplateMarks (.bare c :: read) (c :: text) where
  noBackslash := by simpa [Ne.symm plain.1] using held.noBackslash
  noQuote := by simpa [Ne.symm plain.2] using held.noQuote
  noStart := by
    rw [List.infix_cons_iff, not_or]
    refine ⟨fun start => ?_, held.noStart⟩
    obtain ⟨dollar, more, same⟩ := List.cons_prefix_cons.1 start
    have back := held.back
    rw [← same, List.singleton_append, unescaped, List.mapM_cons] at back
    obtain ⟨d, brace, back⟩ := Option.bind_eq_some_iff.1 back
    obtain ⟨others, _, whole⟩ := Option.bind_eq_some_iff.1 back
    cases brace
    cases whole
    exact apart ⟨(Mark.bare.inj dollar).symm, rfl⟩
  back := unescaped_cons rfl held.back

end TemplateMarks

theorem exists_marks_template (text : List Char) :
    ∃ read, templateText text = read.flatMap Mark.chars ∧ TemplateMarks read text := by
  induction text using templateText.induct with
  | case1 => exact ⟨[], rfl, by simp, by simp, by simp, rfl⟩
  | case2 text ih =>
    obtain ⟨read, written, held⟩ := ih
    exact ⟨.escaped '\\' :: read, by rw [templateText, written]; rfl, held.escaped (by decide)⟩
  | case3 text ih =>
    obtain ⟨read, written, held⟩ := ih
    exact ⟨.escaped '\x60' :: read, by rw [templateText, written]; rfl, held.escaped (by decide)⟩
  | case4 text ih =>
    obtain ⟨read, written, held⟩ := ih
    have brace : TemplateMarks (.bare '\x7b' :: read) ('\x7b' :: text) :=
      held.bare (by decide) (by simp)
    exact ⟨.escaped '$' :: .bare '\x7b' :: read, by rw [templateText, written]; rfl,
      brace.escaped (by decide)⟩
  | case5 c text noBackslash noQuote noSubstitution ih =>
    obtain ⟨read, written, held⟩ := ih
    have apart : ¬(c = '$' ∧ text.head? = some '\x7b') := by
      rintro ⟨dollar, brace⟩
      obtain ⟨more, same⟩ := List.head?_eq_some_iff.1 brace
      exact noSubstitution more dollar same
    refine ⟨.bare c :: read, ?_, held.bare ⟨noBackslash, noQuote⟩ apart⟩
    rw [templateText, written]
    · rfl
    · exact noBackslash
    · exact noQuote
    · exact noSubstitution

/-- The escaped text of a template is what three replacements make of the text, and from left to right
it has no quote that ends the template and no start of a substitution, does not end in the middle of
an escape, and is read back. -/
theorem marks_templateText (text : List Char) :
    templateText text =
      replaceAll '$' ['\x7b'] ['\\', '$', '\x7b']
        (replaceAll '\x60' [] ['\\', '\x60'] (replaceAll '\\' [] ['\\', '\\'] text)) ∧
    ∃ read, marks (templateText text) = some read ∧ .bare '\x60' ∉ read ∧
      ¬[.bare '$', .bare '\x7b'] <:+: read ∧ unescaped templateEscaped? read = some text := by
  obtain ⟨read, written, held⟩ := exists_marks_template text
  refine ⟨templateText_eq_replaceAll text, read, ?_, held.noQuote, held.noStart, held.back⟩
  rw [written]
  exact marks_flatMap_chars held.noBackslash

end JsxGen.Js
