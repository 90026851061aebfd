import JsxGen.Js.Quoted

/-!
String and template literals read back: the text between their quotes decides where they end, so
what follows is of no account.
-/

namespace JsxGen.Js

def unescape (c : Char) : Char :=
  if c = 'n' then '\n' else if c = 'r' then '\r' else if c = 't' then '\t' else c

/-- The text up to the closing quote, and what follows it. -/
def readString : List Char → Option (List Char × List Char)
  | [] => none
  | '"' :: rest => some ([], rest)
  | ['\\'] => none
  | '\\' :: c :: rest => (readString rest).map fun (text, rest) => (unescape c :: text, rest)
  | c :: rest => (readString rest).map fun (text, rest) => (c :: text, rest)

theorem readString_quotedChar (c : Char) (input : List Char) :
    readString (quotedChar c ++ input) =
      (readString input).map fun (text, rest) => (c :: text, rest) := by
  by_cases quote : c = '"'
  · subst quote
    rfl
  by_cases backslash : c = '\\'
  · subst backslash
    rfl
  by_cases newline : c = '\n'
  · subst newline
    rfl
  by_cases ret : c = '\r'
  · subst ret
    rfl
  by_cases tab : c = '\t'
  · subst tab
    rfl
  simp [quotedChar, quote, backslash, newline, ret, tab, readString]

theorem readString_quoted (text rest : List Char) :
    readString (text.flatMap quotedChar ++ '"' :: rest) = some (text, rest) := by
  induction text with
  | nil => rfl
  | cons c text ih =>
    rw [List.flatMap_cons, List.append_assoc, readString_quotedChar, ih]
    rfl

/-- The text up to the end of the literal or the start of a substitution, which is left. -/
def readTemplate : List Char → List Char × List Char
  | [] => ([], [])
  | '\x60' :: rest => ([], '\x60' :: rest)
  | '$' :: '\x7b' :: rest => ([], '$' :: '\x7b' :: rest)
  | '\\' :: c :: rest => (c :: (readTemplate rest).1, (readTemplate rest).2)
  | c :: rest => (c :: (readTemplate rest).1, (readTemplate rest).2)

/-- What ends the text of a template. -/
inductive EndsText : List Char → Prop where
  | literal (rest : List Char) : EndsText ('\x60' :: rest)
  | substitution (rest : List Char) : EndsText ('$' :: '\x7b' :: rest)

theorem head?_templateText (text : List Char) :
    (templateText text).head? = some '\x7b' ↔ text.head? = some '\x7b' := by
  fun_cases templateText text <;> simp

theorem templateText_eq_nil {text : List Char} : templateText text = [] ↔ text = [] := by
  fun_cases templateText text <;> simp

theorem templateText_dollar (text : List Char) :
    templateText (text ++ ['$']) = templateText text ++ ['$'] := by
  induction text using templateText.induct with
  | case1 => rfl
  | case2 text ih => simp [templateText, ih]
  | case3 text ih => simp [templateText, ih]
  | case4 text ih => simp [templateText, ih]
  | case5 c text noBackslash noQuote noSubstitution ih =>
    have apart : ∀ more, c = '$' → text ++ ['$'] = '\x7b' :: more → False := by
      intro more dollar brace
      cases text with
      | nil => simp at brace
      | cons d text => exact noSubstitution text dollar (by simpa using (List.cons.inj brace).1)
    rw [List.cons_append, templateText, templateText, ih, List.cons_append]
    · exact noBackslash
    · exact noQuote
    · exact noSubstitution
    · exact noBackslash
    · exact noQuote
    · exact apart

theorem getLast?_cons_of_some {c d : Char} {text : List Char} (last : text.getLast? = some d) :
    (c :: text).getLast? = some d := by
  rw [List.getLast?_cons, last]
  rfl

/-- Unless a substitution seems to start where the two meet, what follows a text is read as it is
by itself. -/
theorem readTemplate_append (text : List Char) {rest : List Char}
    (apart : ¬(text.getLast? = some '$' ∧ rest.head? = some '\x7b')) :
    readTemplate (templateText text ++ rest) =
      (text ++ (readTemplate rest).1, (readTemplate rest).2) := by
  induction text using templateText.induct with
  | case1 => rfl
  | case2 text ih =>
    have next := ih fun joined => apart ⟨getLast?_cons_of_some joined.1, joined.2⟩
    simp [templateText, readTemplate, next]
  | case3 text ih =>
    have next := ih fun joined => apart ⟨getLast?_cons_of_some joined.1, joined.2⟩
    simp [templateText, readTemplate, next]
  | case4 text ih =>
    have next := ih fun joined =>
      apart ⟨getLast?_cons_of_some (getLast?_cons_of_some joined.1), joined.2⟩
    simp [templateText, readTemplate, next]
  | case5 c text noBackslash noQuote noSubstitution ih =>
    have written : templateText (c :: text) = c :: templateText text := by
      rw [templateText]
      · exact noBackslash
      · exact noQuote
      · exact noSubstitution
    have noStart : ∀ more, c = '$' → templateText text ++ rest = '\x7b' :: more → False := by
      intro more dollar brace
      cases text with
      | nil =>
        rw [templateText, List.nil_append] at brace
        exact apart ⟨by rw [dollar]; rfl, by rw [brace]; rfl⟩
      | cons d text =>
        have filled : templateText (d :: text) ≠ [] := by simp [templateText_eq_nil]
        have first : (templateText (d :: text)).head? = some '\x7b' := by
          obtain ⟨e, tail, start⟩ := List.exists_cons_of_ne_nil filled
          rw [start] at brace ⊢
          exact congrArg some (List.cons.inj brace).1
        have same : d = '\x7b' := by simpa using (head?_templateText _).1 first
        exact noSubstitution text dollar (by rw [same])
    have next := ih fun joined => apart ⟨getLast?_cons_of_some joined.1, joined.2⟩
    rw [written, List.cons_append, readTemplate]
    · rw [next, List.cons_append]
    · exact noQuote
    · intro more dollar brace
      exact noStart more dollar brace
    · intro d more backslash
      exact absurd backslash noBackslash

theorem readTemplate_templateText (text : List Char) {rest : List Char} (ends : EndsText rest) :
    readTemplate (templateText text ++ rest) = (text, rest) := by
  have apart : ¬(text.getLast? = some '$' ∧ rest.head? = some '\x7b') := by
    cases ends <;> simp
  have alone : readTemplate rest = ([], rest) := by
    cases ends <;> rfl
  rw [readTemplate_append text apart, alone, List.append_nil]

/-- A dollar sign at the end of a text and a brace behind it start a substitution. -/
theorem readTemplate_joined (text rest : List Char) :
    readTemplate (templateText (text ++ ['$']) ++ '\x7b' :: rest) =
      (text, '$' :: '\x7b' :: rest) := by
  rw [templateText_dollar, List.append_assoc, List.singleton_append]
  exact readTemplate_templateText text (.substitution rest)

theorem readTemplate_length (input : List Char) :
    (readTemplate input).2.length ≤ input.length := by
  induction input using readTemplate.induct with
  | case1 => simp [readTemplate]
  | case2 rest => simp [readTemplate]
  | case3 rest => simp [readTemplate]
  | case4 c rest ih =>
    simp only [readTemplate, List.length_cons]
    omega
  | case5 c rest noQuote noSubstitution noEscape ih =>
    rw [readTemplate]
    · simp only [List.length_cons]
      omega
    · exact noQuote
    · exact noSubstitution
    · exact noEscape

end JsxGen.Js
