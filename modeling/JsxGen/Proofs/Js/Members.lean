import JsxGen.Proofs.Js.Places

/-! How object literals are read back, on one line or with a line for each member. -/

namespace JsxGen.Js

open Text (isIdentifier isIdentifierStart)

variable {width : Nat}

/-- A key starts neither as a spread does nor as what stands around members. -/
theorem Key.exists_head {key : Key} (named : key.Named) :
    ∃ c more, key.chars = c :: more ∧ c ∉ ['.', ' ', '\x7d'] := by
  cases key with
  | bare name =>
    rcases Text.exists_of_isIdentifier named with ⟨c, cs, same, start, _⟩
    refine ⟨c, cs, same, fun mark => ?_⟩
    have marks : ['.', ' ', '\x7d'].any isIdentifierStart = false := by decide
    exact List.any_eq_false.1 marks c mark start
  | quoted text => exact ⟨_, _, rfl, by decide⟩

theorem readKey_chars {key : Key} (named : key.Named) (rest : List Char) :
    readKey (key.chars ++ ':' :: rest) = some (key, ':' :: rest) := by
  cases key with
  | bare name =>
    have identifier : isIdentifier name := named
    have read := readName_append identifier (endsName_cons (c := ':') rest (by decide))
    rw [Key.chars, readKey]
    · rw [read]
    · exact Text.identifier_append_ne identifier (by decide) _
  | quoted text =>
    simp [Key.chars, stringLiteral, readKey, readString_quoted]

theorem Member.exists_head {m : Member} (named : m.Named) (depth : Nat) :
    ∃ c more, m.chars width depth = c :: more ∧ c ∉ [' ', '\x7d'] := by
  cases m with
  | spread source => exact ⟨_, _, chars_spread source, by decide⟩
  | property key value =>
    rcases Key.exists_head named with ⟨c, more, same, mark⟩
    rw [chars_property, same]
    exact ⟨c, _, rfl, fun member => mark (List.mem_cons_of_mem _ member)⟩

theorem reads_member {m : Member} (named : m.Named) (value : m.value.RoundTrip width) (depth : Nat)
    {rest : List Char} (ends : EndsExpr rest) :
    Reads (readMember · (m.chars width depth ++ rest)) (m, rest) := by
  apply Reads.succ
  cases m with
  | spread source =>
    have inner : source.RoundTrip width := value
    filter_upwards [inner.operand depth rest (.branch (.expr ends))] with fuel one
    simp [Member.chars_spread, readMember, one]
  | property key e =>
    have inner : e.RoundTrip width := value
    have read := readKey_chars named (' ' :: (e.chars width depth ++ rest))
    rcases Key.exists_head named with ⟨c, more, same, mark⟩
    have noSpread : ∀ tail, ¬key.chars ++ (':' :: ' ' :: e.chars width depth ++ rest) =
        '.' :: tail := by
      intro tail dot
      rw [same] at dot
      exact mark (by simp [(List.cons.inj dot).1])
    filter_upwards [inner.whole depth rest ends] with fuel one
    rw [Member.chars_property, List.append_assoc, readMember]
    · simp [read, one]
    · exact noSpread

theorem reads_members {members : List Member} (nonempty : members ≠ [])
    (named : ∀ m ∈ members, m.Named) (values : ∀ m ∈ members, m.value.RoundTrip width)
    (depth : Nat) (rest : List Char) :
    Reads (readMembers · (separated (members.map (Member.chars width depth)) ++
      ' ' :: '\x7d' :: rest)) (members, ' ' :: '\x7d' :: rest) := by
  induction members with
  | nil => exact absurd rfl nonempty
  | cons m members ih =>
    rcases List.forall_mem_cons.1 named with ⟨key, named⟩
    rcases List.forall_mem_cons.1 values with ⟨value, values⟩
    have first {rest : List Char} (ends : EndsExpr rest) := reads_member key value depth ends
    apply Reads.succ
    cases members with
    | nil =>
      filter_upwards [first (.brace rest)] with fuel one
      rw [List.map_cons, List.map_nil, separated_singleton, readMembers, one]
      rfl
    | cons second members =>
      have others := ih (List.cons_ne_nil second members) named values
      have comma : EndsExpr (',' :: ' ' ::
          (separated ((second :: members).map (Member.chars width depth)) ++
            ' ' :: '\x7d' :: rest)) := .closer _ (by decide)
      filter_upwards [first comma, others] with fuel one two
      rw [List.map_cons] at one two
      rw [List.map_cons, List.map_cons, separated_cons_cons, List.append_assoc, readMembers,
        List.cons_append, List.cons_append, one]
      simp [two]

theorem dropWhile_blanks (count : Nat) {c : Char} (rest : List Char) (mark : c ≠ ' ') :
    (List.replicate count ' ' ++ c :: rest).dropWhile (· = ' ') = c :: rest := by
  rw [List.dropWhile_append_of_pos]
  · rw [List.dropWhile_cons_of_neg (by simpa using mark)]
  · intro d member
    simp [List.eq_of_mem_replicate member]

/-- The lines are read from the end of the line before them, each from its first character on. -/
theorem reads_lines {members : List Member} (named : ∀ m ∈ members, m.Named)
    (values : ∀ m ∈ members, m.value.RoundTrip width) (depth : Nat) (rest : List Char) :
    ∃ more, members.flatMap (fun m => onLine width (depth + 1)
        (m.chars width (depth + 1) ++ [','])) ++ onLine width depth ['\x7d'] ++ rest =
          '\n' :: more ∧
      Reads (fun fuel => readLines fuel (more.dropWhile (· = ' '))) (members, rest) := by
  induction members with
  | nil =>
    refine ⟨List.replicate (depth * width) ' ' ++ '\x7d' :: rest, by simp [onLine], ?_⟩
    rw [dropWhile_blanks _ _ (by decide)]
    exact Reads.always fun fuel => rfl
  | cons m members ih =>
    rcases List.forall_mem_cons.1 named with ⟨key, named⟩
    rcases List.forall_mem_cons.1 values with ⟨value, values⟩
    rcases ih named values with ⟨more, text, others⟩
    have head : ∃ c tail, m.chars width (depth + 1) = c :: tail ∧ c ∉ [' ', '\x7d'] :=
      Member.exists_head key (depth + 1)
    have first := reads_member key value (depth + 1)
      (.closer ('\n' :: more) (by decide : ',' ∈ [',', ')', ']', '\x7d']))
    rcases head with ⟨c, tail, same, mark⟩
    simp only [List.mem_cons, List.not_mem_nil, or_false, not_or] at mark
    refine ⟨List.replicate ((depth + 1) * width) ' ' ++
      (m.chars width (depth + 1) ++ ',' :: '\n' :: more), ?_, ?_⟩
    · rw [List.flatMap_cons, List.append_assoc, List.append_assoc,
        ← List.append_assoc _ _ rest, text]
      simp [onLine]
    · rw [same, List.cons_append, dropWhile_blanks _ _ mark.1, ← List.cons_append, ← same]
      have noBrace : ∀ rest,
          m.chars width (depth + 1) ++ ',' :: '\n' :: more ≠ '\x7d' :: rest := by
        intro rest brace
        rw [same] at brace
        exact mark.2 (List.cons.inj brace).1
      apply Reads.succ
      filter_upwards [first, others] with fuel one two
      rw [readLines]
      · simp [one, two]
      · exact noBrace

namespace Expr

theorem readsPrimary_object {members : List Member} {multiline : Bool}
    (named : ∀ m ∈ members, m.Named) (values : ∀ m ∈ members, m.value.RoundTrip width)
    (lines : members = [] → multiline = false) :
    (object members multiline).ReadsPrimary width := by
  intro depth rest _
  have noName : isIdentifierStart '\x7b' = false := by decide
  apply Reads.succ
  by_cases nonempty : members = []
  · rw [lines nonempty, nonempty]
    refine Filter.Eventually.of_forall fun fuel => ?_
    simp [chars_object_empty, readPrimary, noName]
  · cases multiline with
    | false =>
      filter_upwards [reads_members nonempty named values depth rest] with fuel one
      rw [chars_object_inline nonempty]
      simp [readPrimary, noName, one]
    | true =>
      rcases reads_lines named values depth rest with ⟨more, text, inner⟩
      filter_upwards [inner] with fuel one
      rw [chars_object_lines nonempty, List.cons_append, text]
      simp [readPrimary, noName, one]

end Expr

end JsxGen.Js
