import JsxGen.Proofs.Js.Layout
import Mathlib.Tactic.SplitIfs

/-!
What each character of a source stands inside of: braces, quotes or a template literal. Text is level
if it closes what it opens and nothing else; `Expr.Clear.isLevel` says that the text of an expression is.
-/

namespace JsxGen.Js

/-- What is open, innermost first. In a template, a dollar sign is kept in mind for one character. -/
inductive Inside where
  | code
  | quotes (mark : Char)
  | template
  | dollar
  | escape
  deriving DecidableEq

def stepTemplate (outer : List Inside) (c : Char) : List Inside :=
  if c = '\\' then .escape :: .template :: outer
  else if c = '\x60' then outer
  else if c = '$' then .dollar :: outer
  else .template :: outer

/-- What is open behind one more character. -/
def step : List Inside → Char → List Inside
  | [], _ => []
  | .code :: outer, c =>
    if c = '\x7d' then outer
    else if c = '\x7b' then .code :: .code :: outer
    else if c = '"' ∨ c = '\'' then .quotes c :: .code :: outer
    else if c = '\x60' then .template :: .code :: outer
    else .code :: outer
  | .quotes mark :: outer, c =>
    if c = '\\' then .escape :: .quotes mark :: outer
    else if c = mark then outer
    else .quotes mark :: outer
  | .template :: outer, c => stepTemplate outer c
  | .dollar :: outer, c =>
    if c = '\x7b' then .code :: .template :: outer else stepTemplate outer c
  | .escape :: outer, _ => outer

/-- What is open behind a text, if it does not close all that is open. -/
def run : List Inside → List Char → Option (List Inside)
  | inside, [] => some inside
  | inside, c :: rest =>
    match step inside c with
    | [] => none
    | next => run next rest

/-- The text up to the character that closes all that is open, and what follows that character. -/
def readSource : List Inside → List Char → Option (List Char × List Char)
  | _, [] => none
  | inside, c :: rest =>
    match step inside c with
    | [] => some ([], rest)
    | next => (readSource next rest).map fun (source, more) => (c :: source, more)

theorem run_append (inside : List Inside) (first second : List Char) :
    run inside (first ++ second) = (run inside first).bind fun next => run next second := by
  induction first generalizing inside with
  | nil => rfl
  | cons c first ih =>
    rw [List.cons_append, run, run]
    split
    · rfl
    · exact ih _

theorem readSource_append {inside next : List Inside} {text : List Char}
    (ran : run inside text = some next) (rest : List Char) :
    readSource inside (text ++ rest) =
      (readSource next rest).map fun (source, more) => (text ++ source, more) := by
  induction text generalizing inside with
  | nil =>
    cases ran
    simp
  | cons c text ih =>
    rw [run] at ran
    rw [List.cons_append, readSource]
    split at ran
    · cases ran
    · rw [ih ran, Option.map_map]
      rfl

/-- The source that is read, the character that closes it and the rest make up the text. -/
theorem readSource_split {inside : List Inside} {text source more : List Char}
    (read : readSource inside text = some (source, more)) :
    ∃ close, text = source ++ close :: more := by
  induction text generalizing inside source with
  | nil => cases read
  | cons c text ih =>
    rw [readSource] at read
    split at read
    · cases read
      exact ⟨c, rfl⟩
    · rcases Option.map_eq_some_iff.1 read with ⟨⟨source', more'⟩, inner, same⟩
      cases same
      rcases ih inner with ⟨close, split⟩
      exact ⟨close, by rw [split, List.cons_append]⟩

/-- Where a source ends does not depend on what follows. -/
theorem readSource_of_prefix {inside : List Inside} {source more : List Char} {close : Char}
    (read : readSource inside (source ++ close :: more) = some (source, more))
    (other : List Char) :
    readSource inside (source ++ close :: other) = some (source, other) := by
  induction source generalizing inside with
  | nil =>
    rw [List.nil_append, readSource] at read ⊢
    split at read
    · rfl
    · rcases Option.map_eq_some_iff.1 read with ⟨_, _, same⟩
      cases same
  | cons c source ih =>
    rw [List.cons_append, readSource] at read ⊢
    split at read
    · cases read
    · rcases Option.map_eq_some_iff.1 read with ⟨⟨source', more'⟩, inner, same⟩
      cases same
      rw [ih inner]
      rfl

/-- Within braces, the text closes what it opens and nothing else. -/
def Level (text : List Char) : Prop :=
  ∀ outer, run (.code :: outer) text = some (.code :: outer)

/-- Read from behind the start of a substitution on, the text ends where a brace follows it. -/
def Closed (text : List Char) : Prop :=
  readSource [.code] (text ++ ['\x7d']) = some (text, [])

instance (text : List Char) : Decidable (Closed text) :=
  inferInstanceAs (Decidable (_ = _))

theorem Level.closed {text : List Char} (level : Level text) : Closed text := by
  rw [Closed, readSource_append (level [])]
  simp [readSource, step]

/-- A character that opens and closes nothing in code. -/
def isBare (c : Char) : Bool :=
  c ∉ ['"', '\'', '\x60', '\x7b', '\x7d']

namespace Level

theorem nil : Level [] := fun _ => rfl

theorem append {first second : List Char} (one : Level first) (two : Level second) :
    Level (first ++ second) := by
  intro outer
  rw [run_append, one outer, Option.bind_some, two outer]

theorem step_bare {c : Char} (bare : isBare c) (outer : List Inside) :
    step (.code :: outer) c = .code :: outer := by
  simp only [isBare, List.mem_cons, List.not_mem_nil, or_false, not_or, decide_eq_true_eq] at bare
  rcases bare with ⟨quote, apostrophe, backtick, opening, closing⟩
  simp [step, quote, apostrophe, backtick, opening, closing]

theorem cons {c : Char} {text : List Char} (bare : isBare c) (level : Level text) :
    Level (c :: text) := by
  intro outer
  rw [run, step_bare bare]
  exact level outer

theorem of_bare {text : List Char} (bare : ∀ c ∈ text, isBare c) : Level text := by
  induction text with
  | nil => exact nil
  | cons c text ih =>
    rcases List.forall_mem_cons.1 bare with ⟨first, others⟩
    exact cons first (ih others)

theorem of_literal {text : List Char} (bare : text.all isBare) : Level text :=
  of_bare (List.all_eq_true.1 bare)

theorem braces {text : List Char} (level : Level text) : Level ('\x7b' :: (text ++ ['\x7d'])) := by
  intro outer
  have opened : step (.code :: outer) '\x7b' = .code :: .code :: outer := by simp [step]
  rw [run, opened]
  simp only [run_append, level (.code :: outer), Option.bind_some]
  simp [run, step]

/-- Between double quotes, text that is all within them. -/
theorem quotes_of_run {text : List Char}
    (within : ∀ outer, run (.quotes '"' :: outer) text = some (.quotes '"' :: outer)) :
    Level ('"' :: (text ++ ['"'])) := by
  intro outer
  have opened : step (.code :: outer) '"' = .quotes '"' :: .code :: outer := by simp [step]
  rw [run, opened]
  simp only [run_append, within, Option.bind_some]
  simp [run, step]

theorem quotes {text : List Char} (plain : ∀ c ∈ text, c ≠ '"' ∧ c ≠ '\\') :
    Level ('"' :: (text ++ ['"'])) := by
  refine quotes_of_run fun outer => ?_
  induction text with
  | nil => rfl
  | cons c text ih =>
    rcases List.forall_mem_cons.1 plain with ⟨⟨quote, backslash⟩, others⟩
    have stays : step (.quotes '"' :: outer) c = .quotes '"' :: outer := by
      simp [step, quote, backslash]
    rw [run, stays]
    exact ih others

theorem run_quotedChar (c : Char) (outer : List Inside) :
    run (.quotes '"' :: outer) (quotedChar c) = some (.quotes '"' :: outer) := by
  unfold quotedChar
  split_ifs with quote backslash newline ret tab
  · simp [run, step]
  · simp [run, step]
  · simp [run, step]
  · simp [run, step]
  · simp [run, step]
  · simp [run, step, quote, backslash]

end Level

end JsxGen.Js
