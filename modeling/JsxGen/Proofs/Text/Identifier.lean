import JsxGen.Text.Identifier

/-! The characters of an identifier. -/

namespace JsxGen.Text

@[simp]
theorem isIdentifier_cons (c : Char) (cs : List Char) :
    isIdentifier (String.ofList (c :: cs)) = (isIdentifierStart c && cs.all isIdentifierPart) := by
  simp [isIdentifier]

theorem exists_of_isIdentifier {name : String} (identifier : isIdentifier name) :
    ∃ c cs, name.toList = c :: cs ∧ isIdentifierStart c ∧ ∀ d ∈ cs, isIdentifierPart d := by
  unfold isIdentifier at identifier
  split at identifier
  · contradiction
  · rename_i c cs same
    rw [Bool.and_eq_true, List.all_eq_true] at identifier
    exact ⟨c, cs, same, identifier.1, identifier.2⟩

theorem isIdentifierPart_of_start {c : Char} (start : isIdentifierStart c) :
    isIdentifierPart c := by
  simp only [isIdentifierStart, isIdentifierPart, Char.isAlphanum, Bool.or_eq_true] at start ⊢
  rcases start with (letter | underscore) | dollar
  · exact .inl (.inl (.inl letter))
  · exact .inl (.inr underscore)
  · exact .inr dollar

theorem isIdentifierPart_of_mem {name : String} (identifier : isIdentifier name) :
    ∀ c ∈ name.toList, isIdentifierPart c := by
  rcases exists_of_isIdentifier identifier with ⟨c, cs, same, start, parts⟩
  intro d member
  rw [same] at member
  rcases List.mem_cons.1 member with rfl | member
  · exact isIdentifierPart_of_start start
  · exact parts d member

theorem isIdentifierPart_of_isNameChar {c : Char} (kept : isNameChar c) : isIdentifierPart c := by
  rw [isIdentifierPart, Bool.or_eq_true]
  exact .inl kept

theorem isIdentifierPart_of_mem_sanitize {s : String} :
    ∀ c ∈ (sanitize s).toList, isIdentifierPart c := by
  intro c member
  rw [sanitize, String.toList_ofList] at member
  exact isIdentifierPart_of_isNameChar (List.mem_filter.1 member).2

/-- A name that is put together is an identifier by its first part, unless this part is empty. -/
theorem isIdentifier_append_iff {first second : String} :
    isIdentifier (first ++ second) ↔
      (isIdentifier first ∧ ∀ c ∈ second.toList, isIdentifierPart c) ∨
        first = "" ∧ isIdentifier second := by
  cases same : first.toList with
  | nil =>
    rw [String.toList_eq_nil_iff] at same
    subst same
    simp [isIdentifier]
  | cons c cs =>
    have named : first = String.ofList (c :: cs) := by rw [← same, String.ofList_toList]
    have joined : first ++ second = String.ofList (c :: (cs ++ second.toList)) := by
      rw [named, ← List.cons_append, String.ofList_append, String.ofList_toList]
    have filled : first ≠ "" := by
      rintro rfl
      cases same
    rw [joined, named, isIdentifier_cons, isIdentifier_cons, List.all_append]
    simp only [Bool.and_eq_true, List.all_eq_true, ← named, filled, false_and, or_false, and_assoc]

/-- Text that starts with an identifier does not start with a character that cannot. -/
theorem identifier_append_ne {name : String} {c : Char} (identifier : isIdentifier name)
    (mark : isIdentifierStart c = false) (rest more : List Char) :
    name.toList ++ rest ≠ c :: more := by
  rcases exists_of_isIdentifier identifier with ⟨d, cs, same, start, _⟩
  intro first
  rw [same] at first
  rw [(List.cons.inj first).1, mark] at start
  contradiction

end JsxGen.Text
