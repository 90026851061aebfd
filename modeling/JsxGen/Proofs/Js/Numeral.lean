import JsxGen.Js.Numeral
import Mathlib.Tactic.IntervalCases

/-!
The form of number literals. `exists_decimalLiteral` says that every finite number is written as a
decimal literal under its sign.
-/

namespace JsxGen

namespace Js

/-- Digits without a zero ahead of others. -/
structure IsInteger (text : List Char) : Prop where
  digits : ∀ c ∈ text, c.isDigit
  lead : text = ['0'] ∨ ∃ c, text.head? = some c ∧ c ≠ '0'

/-- An integer, with digits behind a point if there is one. -/
inductive DecimalLiteral : List Char → Prop where
  | integer {whole : List Char} (integer : IsInteger whole) : DecimalLiteral whole
  | point {whole fraction : List Char} (integer : IsInteger whole) (nonempty : fraction ≠ [])
    (digits : ∀ c ∈ fraction, c.isDigit) : DecimalLiteral (whole ++ '.' :: fraction)

theorem IsInteger.exists_head {text : List Char} (integer : IsInteger text) :
    ∃ c rest, text = c :: rest ∧ c.isDigit := by
  cases text with
  | nil => rcases integer.lead with none | ⟨_, none, _⟩ <;> cases none
  | cons c rest => exact ⟨c, rest, rfl, integer.digits c List.mem_cons_self⟩

theorem DecimalLiteral.exists_head {text : List Char} (literal : DecimalLiteral text) :
    ∃ c rest, text = c :: rest ∧ c.isDigit := by
  cases literal with
  | integer integer => exact integer.exists_head
  | point integer _ _ =>
    obtain ⟨c, rest, rfl, digit⟩ := integer.exists_head
    exact ⟨c, _, rfl, digit⟩

end Js

open Js (IsInteger DecimalLiteral)

theorem head?_toDigits_ne_zero {n : Nat} (positive : 0 < n) :
    ∃ c, (Nat.toDigits 10 n).head? = some c ∧ c ≠ '0' := by
  induction n using Nat.strongRecOn with
  | ind n ih =>
    rw [Nat.toDigits_eq_if (by decide)]
    split
    · rename_i small
      interval_cases n <;> exact ⟨_, rfl, by decide⟩
    · obtain ⟨c, head, other⟩ := ih (n / 10) (by omega) (by omega)
      exact ⟨c, by rw [List.head?_append, head]; rfl, other⟩

theorem isDigit_toDigits (n : Nat) : ∀ c ∈ Nat.toDigits 10 n, c.isDigit := fun _ member =>
  Nat.isDigit_of_mem_toDigits (by decide) (by decide) member

theorem isInteger_toDigits (n : Nat) : IsInteger (Nat.toDigits 10 n) where
  digits := isDigit_toDigits n
  lead := by
    rcases Nat.eq_zero_or_pos n with zero | positive
    · exact .inl (by rw [zero, Nat.toDigits_zero])
    · exact .inr (head?_toDigits_ne_zero positive)

namespace Binary64

namespace RoundingInterval

variable {r : RoundingInterval} {power : ℤ} {n : Nat}

/-- The multiple `n * 10 ^ power` lies in the interval. -/
def inside (r : RoundingInterval) (power : ℤ) (n : Nat) : Bool :=
  let up := Nat.pow 10 (-power).toNat
  let unit := r.scale * Nat.pow 10 power.toNat
  if r.closed then r.low * up ≤ n * unit && n * unit ≤ r.high * up
  else r.low * up < n * unit && n * unit < r.high * up

theorem inside_of_gridPoint? (point : r.gridPoint? power = some n) : r.inside power n := by
  have below : ∃ k near, r.gridPoint? power =
      if r.inside power k && near then some k
      else if r.inside power (k + 1) then some (k + 1) else none := ⟨_, _, rfl⟩
  obtain ⟨k, near, tried⟩ := below
  rw [tried] at point
  split at point
  · rename_i here
    rw [← Option.some.inj point]
    exact (Bool.and_eq_true _ _ ▸ here).1
  split at point
  · rename_i next
    rw [← Option.some.inj point]
    exact next
  · cases point

theorem not_inside_zero (low : 0 < r.low) : r.inside power 0 = false := by
  have scaled : 0 < r.low * Nat.pow 10 (-power).toNat :=
    Nat.mul_pos low (Nat.pow_pos (by decide))
  unfold inside
  dsimp only
  split
  · rw [Nat.zero_mul, decide_eq_false (Nat.not_le.2 scaled), Bool.false_and]
  · rw [Nat.zero_mul, decide_eq_false (Nat.not_lt_zero _), Bool.false_and]

end RoundingInterval

theorem low_roundingInterval_pos {mantissa : Nat} (positive : 0 < mantissa) (exponent : ℤ) :
    0 < (roundingInterval mantissa exponent).low := by
  unfold roundingInterval
  dsimp only
  refine Nat.mul_pos ?_ (Nat.pow_pos (by decide))
  split <;> omega

theorem shortest_zero {mantissa : Nat} {exponent : ℤ}
    (zero : (shortest mantissa exponent).1 = 0) : (shortest mantissa exponent).2 = 0 := by
  unfold shortest at zero ⊢
  by_cases none : mantissa = 0
  · rw [if_pos none]
  rw [if_neg none] at zero ⊢
  dsimp only at zero ⊢
  cases found : ((List.range 660).map fun (i : Nat) => (310 : ℤ) - i).findSome? fun power =>
      ((roundingInterval mantissa exponent).gridPoint? power).map (·, power) with
  | none => rfl
  | some decimal =>
    rw [found] at zero
    obtain ⟨power, _, point⟩ := List.exists_of_findSome?_eq_some found
    obtain ⟨n, point, same⟩ := Option.map_eq_some_iff.1 point
    -- Zero would have to lie in an interval that starts above it.
    have within := RoundingInterval.inside_of_gridPoint? point
    have low := low_roundingInterval_pos (Nat.pos_of_ne_zero none) exponent
    rw [← same] at zero
    rw [show n = 0 from zero, RoundingInterval.not_inside_zero low] at within
    cases within

theorem isDigit_padded {text : List Char} (digits : ∀ c ∈ text, c.isDigit) (n : Nat) :
    ∀ c ∈ List.replicate n '0' ++ text, c.isDigit := by
  refine List.forall_mem_append.2 ⟨fun c member => ?_, digits⟩
  rw [List.eq_of_mem_replicate member]
  rfl

/-- Ahead of the point stand the digits that are left over, or a zero if none are. -/
theorem isInteger_take_padded {text : List Char} {places : Nat} (digits : ∀ c ∈ text, c.isDigit)
    (lead : places < text.length → ∃ c, text.head? = some c ∧ c ≠ '0') :
    let padded := List.replicate (places + 1 - text.length) '0' ++ text
    IsInteger (padded.take (padded.length - places)) := by
  intro padded
  have whole : padded = List.replicate (places + 1 - text.length) '0' ++ text := rfl
  refine ⟨fun c member => isDigit_padded digits _ c (List.mem_of_mem_take member), ?_⟩
  rcases Nat.lt_or_ge places text.length with long | short
  · obtain ⟨c, head, other⟩ := lead long
    have same : padded = text := by
      rw [whole, Nat.sub_eq_zero_of_le long, List.replicate_zero, List.nil_append]
    refine .inr ⟨c, ?_, other⟩
    rw [same, List.head?_take, if_neg (Nat.sub_ne_zero_of_lt long), head]
  · obtain ⟨k, zeros⟩ := Nat.exists_eq_succ_of_ne_zero
      (show places + 1 - text.length ≠ 0 by omega)
    have length : padded.length - places = 1 := by
      rw [List.length_append, List.length_replicate]
      omega
    refine .inl ?_
    rw [length, whole, zeros, List.replicate_succ, List.cons_append, List.take_succ_cons,
      List.take_zero]

theorem decimalLiteral_positional {digits : Nat} {power : ℤ} (zero : digits = 0 → power = 0) :
    DecimalLiteral (positional digits power) := by
  have lead : 0 < digits → ∃ c, (Nat.toDigits 10 digits).head? = some c ∧ c ≠ '0' :=
    head?_toDigits_ne_zero
  unfold positional
  dsimp only
  by_cases places : (-power).toNat = 0
  · rw [if_pos places]
    refine .integer ⟨List.forall_mem_append.2 ⟨isDigit_toDigits digits, ?_⟩, ?_⟩
    · intro c member
      rw [List.eq_of_mem_replicate member]
      rfl
    · rcases Nat.eq_zero_or_pos digits with none | positive
      · exact .inl (by rw [none, zero none, Nat.toDigits_zero]; rfl)
      · obtain ⟨c, head, other⟩ := lead positive
        exact .inr ⟨c, by rw [List.head?_append, head]; rfl, other⟩
  · rw [if_neg places]
    have positive : 0 < digits := Nat.pos_of_ne_zero fun none => places (by rw [zero none]; rfl)
    refine .point (isInteger_take_padded (isDigit_toDigits digits) fun _ => lead positive) ?_
      fun c member => isDigit_padded (isDigit_toDigits digits) _ c (List.mem_of_mem_drop member)
    have length := Nat.length_toDigits_pos (b := 10) (n := digits)
    rw [ne_eq, List.drop_eq_nil_iff, List.length_append]
    omega

end Binary64

namespace Js

theorem exists_decimalLiteral (negative : Bool) (mantissa : Nat) (exponent : ℤ)
    (canonical : Binary64.Canonical mantissa exponent) :
    ∃ sign literal, numeral (.finite negative mantissa exponent canonical) = signed sign literal ∧
      DecimalLiteral literal := by
  have positional : ∃ sign literal,
      numeral.shortest (.finite negative mantissa exponent canonical) = signed sign literal ∧
        DecimalLiteral literal :=
    ⟨negative, _, rfl, Binary64.decimalLiteral_positional Binary64.shortest_zero⟩
  unfold numeral
  split
  · split
    · exact ⟨_, _, rfl, .integer (isInteger_toDigits _)⟩
    · exact positional
  · exact positional

end Js

end JsxGen
