import JsxGen.Proofs.Text.Identifier
import JsxGen.Text.Case

/-!
What starts an identifier, and what is left of it by a change of case. In ASCII a letter stays a
letter; beyond ASCII no character has a digit among its forms.
-/

namespace JsxGen.Text

theorem isAlpha_iff {c : Char} :
    c.isAlpha ↔ (65 ≤ c.toNat ∧ c.toNat ≤ 90) ∨ (97 ≤ c.toNat ∧ c.toNat ≤ 122) := by
  change (decide ('A'.val ≤ c.val ∧ c.val ≤ 'Z'.val) ||
    (decide ('a'.val ≤ c.val) && decide (c.val ≤ 'z'.val))) = true ↔ _
  simp only [Bool.or_eq_true, Bool.and_eq_true, decide_eq_true_eq, UInt32.le_iff_toNat_le]
  rfl

theorem isDigit_eq_false_of_isAlpha {c : Char} (letter : c.isAlpha) : c.isDigit = false := by
  rw [isAlpha_iff] at letter
  rw [Bool.eq_false_iff, Ne, Char.isDigit_iff_toNat]
  change ¬(48 ≤ _ ∧ _ ≤ 57)
  omega

/-- Of what is kept in a name, only a digit cannot start an identifier. -/
theorem isIdentifierStart_of_isNameChar {c : Char} (kept : isNameChar c) :
    isIdentifierStart c = !c.isDigit := by
  simp only [isNameChar, Char.isAlphanum, Bool.or_eq_true, beq_iff_eq] at kept
  rcases kept with (letter | digit) | rfl
  · rw [isDigit_eq_false_of_isAlpha letter, isIdentifierStart, letter]
    rfl
  · have other : c.isAlpha = false := by
      rw [Bool.eq_false_iff]
      intro letter
      rw [isDigit_eq_false_of_isAlpha letter] at digit
      contradiction
    have underscore : c ≠ '_' := by
      rintro rfl
      contradiction
    have dollar : c ≠ '$' := by
      rintro rfl
      contradiction
    simp [isIdentifierStart, other, digit, underscore, dollar]
  · rfl

/-- What is kept of a text is an identifier if it is not empty and does not start with a digit. -/
theorem isIdentifier_filter (cs : List Char) :
    isIdentifier (String.ofList (cs.filter isNameChar)) =
      (cs.find? isNameChar).any (!·.isDigit) := by
  induction cs with
  | nil => rfl
  | cons c cs ih =>
    by_cases kept : isNameChar c
    · have parts : (cs.filter isNameChar).all isIdentifierPart := by
        rw [List.all_eq_true]
        exact fun d member => isIdentifierPart_of_isNameChar (List.mem_filter.1 member).2
      rw [List.filter_cons_of_pos kept, List.find?_cons_of_pos kept, isIdentifier_cons,
        isIdentifierStart_of_isNameChar kept, parts, Bool.and_true, Option.any_some]
    · rw [List.filter_cons_of_neg kept, List.find?_cons_of_neg kept, ih]

/-- Something is kept of the text, and what is kept first is no digit. -/
def beginsName (s : String) : Bool := (s.toList.find? isNameChar).any (!·.isDigit)

theorem isIdentifier_sanitize (s : String) : isIdentifier (sanitize s) = beginsName s :=
  isIdentifier_filter s.toList

theorem ascii_of_isIdentifierPart {c : Char} (part : isIdentifierPart c) : c.toNat < 0x80 := by
  simp only [isIdentifierPart, Char.isAlphanum, Bool.or_eq_true, beq_iff_eq] at part
  rcases part with ((letter | digit) | rfl) | rfl
  · rw [isAlpha_iff] at letter
    omega
  · have bounds : 48 ≤ c.toNat ∧ c.toNat ≤ 57 := Char.isDigit_iff_toNat.1 digit
    omega
  · decide
  · decide

/-- The class holds of all letters or of none of them. -/
def Caseless (class_ : Char → Bool) : Prop :=
  ∀ c d : Char, c.isAlpha → d.isAlpha → class_ c = class_ d

theorem caseless_isDigit : Caseless Char.isDigit := by
  intro c d letter letter'
  rw [isDigit_eq_false_of_isAlpha letter, isDigit_eq_false_of_isAlpha letter']

theorem caseless_isIdentifierStart : Caseless isIdentifierStart := by
  intro c d letter letter'
  simp [isIdentifierStart, letter, letter']

theorem caseless_isIdentifierPart : Caseless isIdentifierPart := by
  intro c d letter letter'
  simp [isIdentifierPart, Char.isAlphanum, letter, letter']

theorem caseless_isNameChar : Caseless isNameChar := by
  intro c d letter letter'
  simp [isNameChar, Char.isAlphanum, letter, letter']

section ascii

variable {class_ : Char → Bool} {c d : Char}

/-- A change of case moves a letter by the distance between the cases, to a letter. -/
theorem Caseless.toLower (caseless : Caseless class_) (c : Char) : class_ c.toLower = class_ c := by
  unfold Char.toLower
  split
  · rename_i upper
    have bounds : 65 ≤ c.toNat ∧ c.toNat ≤ 90 :=
      upper.imp UInt32.le_iff_toNat_le.1 UInt32.le_iff_toNat_le.1
    refine caseless _ _ (isAlpha_iff.2 (.inr ?_)) (isAlpha_iff.2 (.inl bounds))
    have distance : ('a'.val - 'A'.val).toNat = 32 := rfl
    rw [Char.toNat, UInt32.toNat_add, distance, Char.toNat_val]
    omega
  · rfl

theorem Caseless.toUpper (caseless : Caseless class_) (c : Char) : class_ c.toUpper = class_ c := by
  unfold Char.toUpper
  split
  · rename_i lower
    have bounds : 97 ≤ c.toNat ∧ c.toNat ≤ 122 :=
      lower.imp UInt32.le_iff_toNat_le.1 UInt32.le_iff_toNat_le.1
    refine caseless _ _ (isAlpha_iff.2 (.inl ?_)) (isAlpha_iff.2 (.inr bounds))
    have distance : ('A'.val - 'a'.val).toNat = 4294967264 := by decide
    rw [Char.toNat, UInt32.toNat_add, distance, Char.toNat_val]
    omega
  · rfl

theorem lower_of_ascii (ascii : c.toNat < 0x80) : lower c = [c.toLower] :=
  if_pos ascii

theorem upper_of_ascii (ascii : c.toNat < 0x80) : upper c = [c.toUpper] :=
  if_pos ascii

theorem lowerFirst_of_ascii {s : String} {cs : List Char} (same : s.toList = c :: cs)
    (ascii : c.toNat < 0x80) : lowerFirst s = String.ofList (c.toLower :: cs) := by
  simp only [lowerFirst, same, lower_of_ascii ascii, List.singleton_append]

theorem capitalize_of_ascii {s : String} {cs : List Char} (same : s.toList = c :: cs)
    (ascii : c.toNat < 0x80) : capitalize s = String.ofList (c.toUpper :: cs) := by
  simp only [capitalize, same, upper_of_ascii ascii, List.singleton_append]

/-- Of a text that an identifier can go on with, a lower case start keeps whether it is one, and
whether it is empty. -/
theorem isIdentifier_lowerFirst {s : String} (parts : ∀ c ∈ s.toList, isIdentifierPart c) :
    isIdentifier (lowerFirst s) = isIdentifier s ∧ (lowerFirst s = "" ↔ s = "") := by
  cases same : s.toList with
  | nil =>
    rw [String.toList_eq_nil_iff] at same
    subst same
    exact ⟨rfl, Iff.rfl⟩
  | cons c cs =>
    have ascii : c.toNat < 0x80 := ascii_of_isIdentifierPart (parts c (by simp [same]))
    have named : s = String.ofList (c :: cs) := by rw [← same, String.ofList_toList]
    rw [lowerFirst_of_ascii same ascii, named, isIdentifier_cons, isIdentifier_cons,
      caseless_isIdentifierStart.toLower]
    simp [← String.toList_eq_nil_iff]

theorem isIdentifierPart_of_mem_capitalize {s : String}
    (parts : ∀ c ∈ s.toList, isIdentifierPart c) :
    ∀ c ∈ (capitalize s).toList, isIdentifierPart c := by
  cases same : s.toList with
  | nil =>
    rw [String.toList_eq_nil_iff] at same
    subst same
    exact parts
  | cons c cs =>
    rw [same, List.forall_mem_cons] at parts
    intro d member
    rw [capitalize_of_ascii same (ascii_of_isIdentifierPart parts.1), String.toList_ofList,
      List.mem_cons] at member
    rcases member with rfl | member
    · rw [caseless_isIdentifierPart.toUpper]
      exact parts.1
    · exact parts.2 d member

end ascii

/-- The forms in a case table lie above a bound if the character does and the table's entries do. -/
theorem le_of_mem_caseForm {expansions : List (Nat × List Nat)} {runs : List CaseRun}
    {bound code form : Nat} (expanded : ∀ entry ∈ expansions, ∀ n ∈ entry.2, bound ≤ n)
    (shifted : ∀ run ∈ runs, (bound : Int) ≤ run.first + run.shift) (above : bound ≤ code)
    (member : form ∈ caseForm expansions runs code) : bound ≤ form := by
  unfold caseForm at member
  split at member
  · rename_i forms found
    rcases List.lookup_eq_some_iff.1 found with ⟨before, after, split, _⟩
    exact expanded (code, forms) (split ▸ List.mem_append_right _ List.mem_cons_self) form member
  · split at member
    · rename_i run found
      have covered := List.find?_some found
      have start := shifted run (List.mem_of_find?_eq_some found)
      simp only [CaseRun.covers, Bool.and_eq_true, decide_eq_true_eq] at covered
      rw [List.mem_singleton] at member
      omega
    · rw [List.mem_singleton] at member
      omega

theorem isDigit_eq_false_of_le {c : Char} (above : 0x3A ≤ c.toNat) : c.isDigit = false := by
  rw [Bool.eq_false_iff, Ne, Char.isDigit_iff_toNat]
  change ¬(48 ≤ _ ∧ _ ≤ 57)
  omega

theorem isDigit_ofNat_eq_false {code : Nat} (above : 0x3A ≤ code) :
    (Char.ofNat code).isDigit = false := by
  by_cases valid : code.isValidChar
  · refine isDigit_eq_false_of_le ?_
    rwa [Char.ofNat, dif_pos valid]
  · rw [Char.ofNat, dif_neg valid]
    rfl

theorem upperExpansions_above : ∀ entry ∈ upperExpansions, ∀ n ∈ entry.2, 0x3A ≤ n := by
  decide +kernel

theorem lowerExpansions_above : ∀ entry ∈ lowerExpansions, ∀ n ∈ entry.2, 0x3A ≤ n := by
  decide +kernel

theorem upperRuns_above : ∀ run ∈ upperRuns, ((0x3A : Nat) : Int) ≤ run.first + run.shift := by
  decide +kernel

theorem lowerRuns_above : ∀ run ∈ lowerRuns, ((0x3A : Nat) : Int) ≤ run.first + run.shift := by
  decide +kernel

/-- A digit is its own upper case form, and that of no other character. -/
theorem isDigit_of_mem_upper {c d : Char} (member : d ∈ upper c) : d.isDigit = c.isDigit := by
  unfold upper at member
  split at member
  · rw [List.mem_singleton.1 member, caseless_isDigit.toUpper]
  · rcases List.mem_map.1 member with ⟨code, form, rfl⟩
    have above := le_of_mem_caseForm upperExpansions_above upperRuns_above (by omega) form
    rw [isDigit_ofNat_eq_false above, isDigit_eq_false_of_le (by omega)]

theorem isDigit_of_mem_lower {c d : Char} (member : d ∈ lower c) : d.isDigit = c.isDigit := by
  unfold lower at member
  split at member
  · rw [List.mem_singleton.1 member, caseless_isDigit.toLower]
  · rcases List.mem_map.1 member with ⟨code, form, rfl⟩
    have above := le_of_mem_caseForm lowerExpansions_above lowerRuns_above (by omega) form
    rw [isDigit_ofNat_eq_false above, isDigit_eq_false_of_le (by omega)]

end JsxGen.Text
