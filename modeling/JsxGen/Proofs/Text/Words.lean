import JsxGen.Proofs.Text.Case
import JsxGen.Text.Words
import Mathlib.Data.List.Basic
import Mathlib.Data.List.Find
import Mathlib.Tactic.SplitIfs

/-!
The Pascal case form of a name, character by character. Only separators are dropped by the words of
a name; the forms of what they hold tell whether the form starts with a digit.
-/

namespace JsxGen.Text

theorem flatten_clustersFrom (cluster cs : List Char) :
    (clustersFrom cluster cs).flatten = cluster.reverse ++ cs := by
  induction cs generalizing cluster with
  | nil => cases cluster <;> simp [clustersFrom]
  | cons c cs ih =>
    cases cluster with
    | nil => simp [clustersFrom, ih]
    | cons last before =>
      rw [clustersFrom]
      split <;> simp [ih]

theorem flatten_clusters (s : String) : (clusters s).flatten = s.toList :=
  flatten_clustersFrom [] s.toList

theorem flatten_wordsFrom (word : List (List Char)) (before : Letter)
    (marked : List (Letter × List Char)) :
    (wordsFrom word before marked).flatten =
      word.reverse ++ (marked.filter (·.1 ≠ .separator)).map Prod.snd := by
  induction marked generalizing word before with
  | nil => simp [wordsFrom]
  | cons entry marked ih =>
    rcases entry with ⟨here, cluster⟩
    rw [wordsFrom]
    by_cases separator : here = .separator
    · rw [if_pos separator, List.flatten_cons, ih, List.filter_cons_of_neg (by simp [separator])]
      simp
    · rw [if_neg separator, List.filter_cons_of_pos (by simp [separator])]
      split <;> simp [ih]

theorem flatten_words (s : String) :
    (words s).flatten = ((clusters s).filter (letter · ≠ .separator)).flatten := by
  have marked : (((clusters s).map fun cluster => (letter cluster, cluster)).filter
      (·.1 ≠ .separator)).map Prod.snd = (clusters s).filter (letter · ≠ .separator) := by
    rw [List.filter_map, List.map_map]
    exact List.map_id _
  rw [words, List.flatten_filter_not_isEmpty, ← List.flatten_flatten, flatten_wordsFrom, marked]
  rfl

/-- The characters of a word, each with its form in Pascal case. -/
def wordForms : List Char → List (Char × List Char)
  | [] => []
  | c :: cs => (c, upper c) :: cs.map fun d => (d, lower d)

def pascalForms (s : String) : List (Char × List Char) := (words s).flatMap wordForms

/-- The first character in the words of a name of whose Pascal case form something is kept. -/
def pascalHead? (s : String) : Option Char :=
  ((pascalForms s).find? (·.2.any isNameChar)).map Prod.fst

theorem pascalWord_eq (word : List Char) : pascalWord word = (wordForms word).flatMap Prod.snd := by
  cases word with
  | nil => rfl
  | cons c cs => simp [pascalWord, wordForms, List.flatMap_map]

theorem map_fst_wordForms (word : List Char) : (wordForms word).map Prod.fst = word := by
  cases word with
  | nil => rfl
  | cons c cs => simp [wordForms, Function.comp_def]

theorem toList_pascal (s : String) : (pascal s).toList = (pascalForms s).flatMap Prod.snd := by
  rw [pascal, pascalForms, String.toList_ofList, List.flatMap_assoc]
  exact List.flatMap_congr fun word _ => pascalWord_eq word

theorem map_fst_pascalForms (s : String) : (pascalForms s).map Prod.fst = (words s).flatten := by
  rw [pascalForms, List.map_flatMap, List.flatten_eq_flatMap]
  exact List.flatMap_congr fun word _ => map_fst_wordForms word

theorem form_of_mem_pascalForms {s : String} {entry : Char × List Char}
    (member : entry ∈ pascalForms s) : entry.2 = upper entry.1 ∨ entry.2 = lower entry.1 := by
  rcases List.mem_flatMap.1 member with ⟨word, _, member⟩
  cases word with
  | nil => cases member
  | cons c cs =>
    rcases List.mem_cons.1 member with rfl | member
    · exact .inl rfl
    · rcases List.mem_map.1 member with ⟨d, _, rfl⟩
      exact .inr rfl

/-- Where forms keep what is a digit, what is kept first of all forms is a digit if the character
that it is a form of is one. -/
theorem find?_flatMap_forms {forms : List (Char × List Char)}
    (digits : ∀ entry ∈ forms, ∀ d ∈ entry.2, d.isDigit = entry.1.isDigit) :
    ((forms.flatMap Prod.snd).find? isNameChar).any (!·.isDigit) =
      ((forms.find? (·.2.any isNameChar)).map Prod.fst).any (!·.isDigit) := by
  induction forms with
  | nil => rfl
  | cons entry forms ih =>
    have below := ih fun entry member => digits entry (List.mem_cons_of_mem _ member)
    rw [List.flatMap_cons, List.find?_append]
    by_cases kept : entry.2.any isNameChar
    · rcases Option.isSome_iff_exists.1 (List.isSome_find?.trans kept) with ⟨d, found⟩
      have digit := digits entry List.mem_cons_self d (List.mem_of_find?_eq_some found)
      rw [List.find?_cons_of_pos (by exact kept), found, Option.some_or]
      simp [digit]
    · have nothing : entry.2.find? isNameChar = none := by
        rwa [← Option.not_isSome_iff_eq_none, List.isSome_find?]
      rw [List.find?_cons_of_neg (by exact kept), nothing, Option.none_or, below]

/-- What is kept of the Pascal case form is no identifier if it is empty or starts with a digit,
which is then a digit of the name. -/
theorem isIdentifier_pascal (s : String) :
    isIdentifier (sanitize (pascal s)) = (pascalHead? s).any (!·.isDigit) := by
  rw [sanitize, isIdentifier_filter, toList_pascal]
  refine find?_flatMap_forms fun entry member d form => ?_
  rcases form_of_mem_pascalForms member with same | same
  · exact isDigit_of_mem_upper (same ▸ form)
  · exact isDigit_of_mem_lower (same ▸ form)

/-! A name in ASCII: no mark joins a separator, and each character is kept or dropped in all its
forms. -/

def separators : List Char := ['-', '_', ' ']

theorem forall_mem_separators {p : Char → Prop} :
    (∀ c ∈ separators, p c) ↔ p '-' ∧ p '_' ∧ p ' ' := by
  simp [separators]

theorem letter_eq_separator {cluster : List Char} :
    letter cluster = .separator ↔ ∃ c ∈ separators, cluster = [c] := by
  have named : (∃ c ∈ separators, cluster = [c]) ↔
      cluster = ['-'] || cluster = ['_'] || cluster = [' '] := by
    simp [separators, or_assoc]
  rw [named]
  by_cases separator : cluster = ['-'] || cluster = ['_'] || cluster = [' ']
  · exact iff_of_true (if_pos separator) separator
  · refine iff_of_false ?_ separator
    simp only [letter, if_neg separator]
    split_ifs <;> exact not_false

/-- A separator in the cluster is all of it. -/
def SeparatorsAlone (cluster : List Char) : Prop :=
  ∀ c ∈ cluster, c ∈ separators → cluster = [c]

theorem flatten_filter_letter {clusters : List (List Char)}
    (alone : ∀ cluster ∈ clusters, SeparatorsAlone cluster) :
    (clusters.filter (letter · ≠ .separator)).flatten =
      clusters.flatten.filter (· ∉ separators) := by
  induction clusters with
  | nil => rfl
  | cons cluster clusters ih =>
    rw [List.forall_mem_cons] at alone
    rw [List.flatten_cons, List.filter_append, ← ih alone.2]
    by_cases separator : letter cluster = .separator
    · rcases letter_eq_separator.1 separator with ⟨c, member, rfl⟩
      have dropped : [c].filter (· ∉ separators) = [] := by simp [member]
      rw [List.filter_cons_of_neg (by simp [separator]), dropped, List.nil_append]
    · have kept : cluster.filter (· ∉ separators) = cluster := by
        rw [List.filter_eq_self]
        intro c inside
        rw [decide_eq_true_eq]
        intro member
        exact separator (letter_eq_separator.2 ⟨c, member, alone.1 c inside member⟩)
      rw [List.filter_cons_of_pos (by simp [separator]), kept, List.flatten_cons]

theorem breakClass_of_ascii {c : Char} (ascii : c.toNat < 0x80) :
    breakClass c ∈ [BreakClass.cr, .lf, .control, .other] := by
  have all : ∀ code < 0x80,
      breakClass (Char.ofNat code) ∈ [BreakClass.cr, .lf, .control, .other] := by
    decide +kernel
  simpa using all c.toNat ascii

/-- In ASCII only a line feed behind a carriage return continues a cluster. -/
theorem breakClass_of_continues {last c : Char} {before : List Char} (ascii : c.toNat < 0x80)
    (ascii' : last.toNat < 0x80) (joined : continues last before c) :
    breakClass last = .cr ∧ breakClass c = .lf := by
  have first := breakClass_of_ascii ascii'
  have second := breakClass_of_ascii ascii
  simp only [List.mem_cons, List.not_mem_nil, or_false] at first second
  unfold continues at joined
  rcases first with first | first | first | first <;>
    rcases second with second | second | second | second <;>
    simp_all

theorem breakClass_of_separator : ∀ c ∈ separators, breakClass c = .other :=
  forall_mem_separators.2 ⟨rfl, rfl, rfl⟩

theorem SeparatorsAlone.singleton (c : Char) : SeparatorsAlone [c] := by
  intro d member _
  rw [List.mem_singleton.1 member]

theorem SeparatorsAlone.reverse {cluster : List Char} (alone : SeparatorsAlone cluster) :
    SeparatorsAlone cluster.reverse := by
  intro c member separator
  rw [alone c (List.mem_reverse.1 member) separator]
  rfl

theorem separatorsAlone_clustersFrom {cluster cs : List Char}
    (ascii : ∀ c ∈ cluster ++ cs, c.toNat < 0x80) (alone : SeparatorsAlone cluster) :
    ∀ piece ∈ clustersFrom cluster cs, SeparatorsAlone piece := by
  induction cs generalizing cluster with
  | nil =>
    intro piece member
    rw [clustersFrom] at member
    split at member
    · cases member
    · rw [List.mem_singleton.1 member]
      exact alone.reverse
  | cons c cs ih =>
    have start := ih (fun d member => ascii d (List.mem_append_right _ member))
      (SeparatorsAlone.singleton c)
    cases cluster with
    | nil => exact start
    | cons last before =>
      rw [clustersFrom]
      split
      · rename_i joined
        rcases breakClass_of_continues (ascii c (by simp)) (ascii last (by simp)) joined with
          ⟨ends, feeds⟩
        refine ih (fun d member => ascii d (List.perm_middle.mem_iff.2 member)) ?_
        -- a line break is all that is read of the cluster, so there is no separator in it
        intro d member separator
        have other := breakClass_of_separator d separator
        rcases List.mem_cons.1 member with rfl | member
        · rw [feeds] at other
          cases other
        · rw [← List.head_eq_of_cons_eq (alone d member separator), ends] at other
          cases other
      · rw [List.forall_mem_cons]
        exact ⟨alone.reverse, start⟩

theorem flatten_words_of_ascii {s : String} (ascii : ∀ c ∈ s.toList, c.toNat < 0x80) :
    (words s).flatten = s.toList.filter (· ∉ separators) := by
  rw [flatten_words, flatten_filter_letter, flatten_clusters]
  exact separatorsAlone_clustersFrom ascii fun _ member _ => nomatch member

theorem any_isNameChar_form {c : Char} {form : List Char} (ascii : c.toNat < 0x80)
    (cased : form = upper c ∨ form = lower c) : form.any isNameChar = isNameChar c := by
  rcases cased with rfl | rfl
  · rw [upper_of_ascii ascii, List.any_cons, List.any_nil, Bool.or_false,
      caseless_isNameChar.toUpper]
  · rw [lower_of_ascii ascii, List.any_cons, List.any_nil, Bool.or_false,
      caseless_isNameChar.toLower]

/-- The Pascal case form of an ASCII name starts with its first letter or digit. -/
theorem pascalHead?_of_ascii {s : String} (ascii : ∀ c ∈ s.toList, c.toNat < 0x80) :
    pascalHead? s = s.toList.find? Char.isAlphanum := by
  have same := (map_fst_pascalForms s).trans (flatten_words_of_ascii ascii)
  have kept : ∀ entry ∈ pascalForms s, entry.2.any isNameChar = isNameChar entry.1 := by
    intro entry member
    refine any_isNameChar_form (ascii _ ?_) (form_of_mem_pascalForms member)
    have inside : entry.1 ∈ s.toList.filter (· ∉ separators) := same ▸ List.mem_map_of_mem member
    exact (List.mem_filter.1 inside).1
  have marks : ∀ c ∈ separators, c.isAlphanum = false :=
    forall_mem_separators.2 ⟨rfl, rfl, rfl⟩
  have parted : ∀ c : Char, decide (c ∉ separators ∧ isNameChar c) = c.isAlphanum := by
    intro c
    by_cases separator : c ∈ separators
    · simp [separator, marks c separator]
    · have underscore : c ≠ '_' := fun same => separator (same ▸ by decide)
      simp [separator, isNameChar, underscore]
  calc pascalHead? s
      = ((pascalForms s).find? (isNameChar ∘ Prod.fst)).map Prod.fst :=
        congrArg _ (List.find?_congr kept)
    _ = (s.toList.filter (· ∉ separators)).find? isNameChar := by rw [← List.find?_map, same]
    _ = s.toList.find? Char.isAlphanum := by
      rw [List.find?_filter]
      exact List.find?_congr fun c _ => by simpa using parted c

end JsxGen.Text
