import JsxGen.Number.Text
import JsxGen.Proofs.Text.Case
import Mathlib.Algebra.Order.Field.Power
import Mathlib.Algebra.Order.Field.Rat
import Mathlib.Data.Nat.Cast.Order.Field
import Mathlib.Tactic.FieldSimp
import Mathlib.Tactic.Linarith
import Mathlib.Tactic.NormNum

/-!
Which quotients and which decimals are rounded to an infinite number. `isInfinite_ofDecimal_iff`
says that these are all from half way between the largest finite number and the next power of two on.
-/

namespace JsxGen.Binary64

variable {num den n : Nat}

theorem div_le_roundEven (num den : Nat) : num / den ≤ roundEven num den := by
  unfold roundEven
  dsimp only
  split
  · exact le_rfl
  split <;> omega

theorem roundEven_le_succ (num den : Nat) : roundEven num den ≤ num / den + 1 := by
  unfold roundEven
  dsimp only
  split
  · exact Nat.le_succ _
  split <;> omega

theorem le_roundEven (positive : 0 < den) (least : (n : ℚ) ≤ num / den) :
    n ≤ roundEven num den := by
  rw [le_div_iff₀ (by exact_mod_cast positive)] at least
  have whole : n ≤ num / den := (Nat.le_div_iff_mul_le positive).2 (by exact_mod_cast least)
  exact whole.trans (div_le_roundEven num den)

theorem roundEven_le (positive : 0 < den) (bound : (num : ℚ) / den < n) :
    roundEven num den ≤ n := by
  rw [div_lt_iff₀ (by exact_mod_cast positive)] at bound
  have whole : num / den < n := (Nat.div_lt_iff_lt_mul positive).2 (by exact_mod_cast bound)
  exact (roundEven_le_succ num den).trans whole

/-- An even number is reached from half a unit below it on: a half goes to the even neighbour. -/
theorem le_roundEven_iff (positive : 0 < den) (even : n % 2 = 0) :
    n ≤ roundEven num den ↔ (n : ℚ) - 1 / 2 ≤ num / den := by
  have scaled : (n : ℚ) - 1 / 2 ≤ num / den ↔ 2 * (n * den) ≤ 2 * num + den := by
    rw [le_div_iff₀ (by exact_mod_cast positive), ← Nat.cast_le (α := ℚ)]
    push_cast
    constructor <;> intro bound <;> linarith
  have split : num = num / den * den + num % den := (Nat.div_add_mod' num den).symm
  have small : num % den < den := Nat.mod_lt num positive
  rw [scaled]
  rcases lt_trichotomy n (num / den + 1) with below | next | above
  · have products : n * den ≤ num / den * den := Nat.mul_le_mul_right den (Nat.le_of_lt_succ below)
    exact iff_of_true ((Nat.le_of_lt_succ below).trans (div_le_roundEven num den)) (by omega)
  · have products : n * den = num / den * den + den := by rw [next, Nat.succ_mul]
    have upward : n ≤ roundEven num den ↔ den ≤ 2 * (num % den) := by
      unfold roundEven
      dsimp only
      split
      · omega
      split <;> omega
    rw [upward]
    omega
  · have products : (num / den + 2) * den ≤ n * den := Nat.mul_le_mul_right den above
    rw [Nat.add_mul] at products
    have top := roundEven_le_succ num den
    exact iff_of_false (by omega) (by omega)

/-- A whole power as a quotient of natural powers, of which one is one. -/
theorem zpow_eq_div {base : Nat} (positive : 0 < base) (e : ℤ) :
    (base : ℚ) ^ e = (Nat.pow base e.toNat : ℕ) / (Nat.pow base (-e).toNat : ℕ) := by
  have nonzero : (base : ℚ) ≠ 0 := by exact_mod_cast positive.ne'
  rw [Nat.pow_eq, Nat.pow_eq, Nat.cast_pow, Nat.cast_pow, ← zpow_natCast, ← zpow_natCast,
    ← zpow_sub₀ nonzero, Int.toNat_sub_toNat_neg]

theorem scaled_pos (positive : 0 < den) (e : ℤ) : 0 < den * Nat.pow 2 e.toNat :=
  Nat.mul_pos positive (Nat.pow_pos two_pos)

/-- The quotient in units of a power of two. -/
theorem scaled_div (num den : Nat) (e : ℤ) :
    ((num * Nat.pow 2 (-e).toNat : ℕ) : ℚ) / (den * Nat.pow 2 e.toNat : ℕ) = num / den / 2 ^ e := by
  have power := zpow_eq_div two_pos e
  rw [Nat.cast_two] at power
  rw [power, Nat.cast_mul, Nat.cast_mul]
  field_simp

/-- The quotient lies between two neighbouring powers of two. -/
structure Leads (lead : ℤ) (num den : Nat) : Prop where
  least : (2 : ℚ) ^ lead ≤ num / den
  bound : (num : ℚ) / den < 2 ^ (lead + 1)

theorem lt_zpow_iff (positive : 0 < den) (e : ℤ) :
    num * Nat.pow 2 (-e).toNat < den * Nat.pow 2 e.toNat ↔ (num : ℚ) / den < 2 ^ e := by
  have unit : (0 : ℚ) < 2 ^ e := by positivity
  have scaled : (0 : ℚ) < (den * Nat.pow 2 e.toNat : ℕ) := by
    exact_mod_cast scaled_pos positive e
  rw [← div_lt_one unit, ← scaled_div, div_lt_one scaled, Nat.cast_lt]

/-- The powers of two in a quotient are known from those in its two parts up to one. -/
theorem div_bounds (numPositive : 0 < num) (denPositive : 0 < den) :
    (2 : ℚ) ^ ((num.log2 : ℤ) - den.log2 - 1) ≤ num / den ∧
      (num : ℚ) / den < 2 ^ ((num.log2 : ℤ) - den.log2 + 1) := by
  have numLeast : (2 : ℚ) ^ num.log2 ≤ num := by
    exact_mod_cast Nat.log2_self_le numPositive.ne'
  have numBound : (num : ℚ) < 2 ^ (num.log2 + 1) := by exact_mod_cast Nat.lt_log2_self
  have denLeast : (2 : ℚ) ^ den.log2 ≤ den := by
    exact_mod_cast Nat.log2_self_le denPositive.ne'
  have denBound : (den : ℚ) < 2 ^ (den.log2 + 1) := by exact_mod_cast Nat.lt_log2_self
  have low : (num.log2 : ℤ) - den.log2 - 1 = num.log2 - (den.log2 + 1 : ℕ) := by omega
  have high : (num.log2 : ℤ) - den.log2 + 1 = (num.log2 + 1 : ℕ) - den.log2 := by omega
  have unit : (0 : ℚ) < den := by exact_mod_cast denPositive
  constructor
  · rw [low, zpow_sub₀ two_ne_zero, zpow_natCast, zpow_natCast]
    exact div_le_div₀ (by positivity) numLeast unit denBound.le
  · rw [high, zpow_sub₀ two_ne_zero, zpow_natCast, zpow_natCast]
    exact div_lt_div₀ numBound denLeast (by positivity) (by positivity)

theorem leads_of_log2 (numPositive : 0 < num) (denPositive : 0 < den) :
    Leads (if num * Nat.pow 2 (-((num.log2 : ℤ) - den.log2)).toNat <
        den * Nat.pow 2 ((num.log2 : ℤ) - den.log2).toNat
      then (num.log2 : ℤ) - den.log2 - 1 else (num.log2 : ℤ) - den.log2) num den := by
  obtain ⟨least, bound⟩ := div_bounds numPositive denPositive
  split
  · rename_i less
    rw [lt_zpow_iff denPositive] at less
    exact ⟨least, by rwa [sub_add_cancel]⟩
  · rename_i atLeast
    rw [lt_zpow_iff denPositive, not_lt] at atLeast
    exact ⟨atLeast, bound⟩

/-- The quotient rounded to a multiple of a power of two, before a carry is taken care of. -/
def roundedAt (num den : Nat) (e : ℤ) : Nat :=
  roundEven (num * Nat.pow 2 (-e).toNat) (den * Nat.pow 2 e.toNat)

theorem le_roundedAt_iff (positive : 0 < den) (e : ℤ) (even : n % 2 = 0) :
    n ≤ roundedAt num den e ↔ ((n : ℚ) - 1 / 2) * 2 ^ e ≤ num / den := by
  have unit : (0 : ℚ) < 2 ^ e := by positivity
  rw [roundedAt, le_roundEven_iff (scaled_pos positive e) even, scaled_div, le_div_iff₀ unit]

theorem ofRatio_eq (negative : Bool) (numPositive : 0 < num) (denPositive : 0 < den) :
    ∃ lead, Leads lead num den ∧
      ofRatio negative num den =
        if roundedAt num den (max (lead - 52) (-1074)) = Nat.pow 2 53
        then ofParts negative (Nat.pow 2 52) (max (lead - 52) (-1074) + 1)
        else ofParts negative (roundedAt num den (max (lead - 52) (-1074)))
          (max (lead - 52) (-1074)) := by
  refine ⟨_, leads_of_log2 numPositive denPositive, ?_⟩
  rw [ofRatio, if_neg (by simp [numPositive.ne', denPositive.ne'])]
  rfl

theorem Leads.roundedAt_le {lead e : ℤ} (leads : Leads lead num den) (positive : 0 < den)
    (coarse : lead - 52 ≤ e) : roundedAt num den e ≤ 2 ^ 53 := by
  have unit : (0 : ℚ) < 2 ^ e := by positivity
  refine roundEven_le (scaled_pos positive e) ?_
  rw [scaled_div, div_lt_iff₀ unit]
  calc (num : ℚ) / den < 2 ^ (lead + 1) := leads.bound
    _ ≤ 2 ^ (53 + e) := zpow_le_zpow_right₀ one_le_two (by omega)
    _ = ((2 ^ 53 : ℕ) : ℚ) * 2 ^ e := by
      rw [zpow_add₀ two_ne_zero]
      norm_cast

theorem Leads.le_roundedAt {lead : ℤ} (leads : Leads lead num den) (positive : 0 < den) :
    2 ^ 52 ≤ roundedAt num den (lead - 52) := by
  have unit : (0 : ℚ) < 2 ^ (lead - 52) := by positivity
  refine le_roundEven (scaled_pos positive (lead - 52)) ?_
  rw [scaled_div, le_div_iff₀ unit]
  calc ((2 ^ 52 : ℕ) : ℚ) * 2 ^ (lead - 52) = 2 ^ (52 + (lead - 52)) := by
        rw [zpow_add₀ two_ne_zero]
        norm_cast
    _ = 2 ^ lead := by rw [add_sub_cancel]
    _ ≤ num / den := leads.least

def IsInfinite (value : Binary64) : Prop := ∃ negative, value = .infinite negative

theorem isInfinite_infinite (negative : Bool) : IsInfinite (.infinite negative) := ⟨negative, rfl⟩

theorem not_isInfinite_nan : ¬IsInfinite .nan := nofun

theorem not_isInfinite_zero (negative : Bool) : ¬IsInfinite (zero negative) := nofun

theorem isInfinite_ofParts_iff {negative : Bool} {mantissa : Nat} {exponent : ℤ} :
    IsInfinite (ofParts negative mantissa exponent) ↔ ¬Canonical mantissa exponent := by
  unfold ofParts
  split
  · rename_i canonical
    exact iff_of_false nofun (not_not.2 canonical)
  · rename_i beyond
    exact iff_of_true (isInfinite_infinite negative) beyond

/-- A mantissa that is rounded up to the next power of two is carried into the exponent. -/
theorem isInfinite_carried_iff {negative : Bool} {mantissa : Nat} {exponent : ℤ}
    (bound : mantissa ≤ 2 ^ 53) (least : -1074 ≤ exponent)
    (full : exponent = -1074 ∨ 2 ^ 52 ≤ mantissa) :
    IsInfinite (if mantissa = Nat.pow 2 53 then ofParts negative (Nat.pow 2 52) (exponent + 1)
      else ofParts negative mantissa exponent) ↔
        971 < exponent ∨ exponent = 971 ∧ 2 ^ 53 ≤ mantissa := by
  rw [Nat.pow_eq, Nat.pow_eq]
  split <;> rw [isInfinite_ofParts_iff, Canonical, Nat.pow_eq, Nat.pow_eq] <;> omega

/-- Half way between the largest finite number and the next power of two. -/
def overflowBound : ℚ := (2 ^ 53 - 1 / 2) * 2 ^ (971 : ℤ)

theorem overflowBound_bounds :
    (2 : ℚ) ^ (1023 : ℤ) ≤ overflowBound ∧ overflowBound ≤ 2 ^ (1024 : ℤ) := by
  have unit : (0 : ℚ) ≤ 2 ^ (971 : ℤ) := by positivity
  have low : (2 : ℚ) ^ (1023 : ℤ) = 2 ^ 52 * 2 ^ (971 : ℤ) := by
    rw [← zpow_natCast, ← zpow_add₀ two_ne_zero]
    rfl
  have high : (2 : ℚ) ^ (1024 : ℤ) = 2 ^ 53 * 2 ^ (971 : ℤ) := by
    rw [← zpow_natCast, ← zpow_add₀ two_ne_zero]
    rfl
  rw [low, high, overflowBound]
  exact ⟨mul_le_mul_of_nonneg_right (by norm_num) unit,
    mul_le_mul_of_nonneg_right (by norm_num) unit⟩

theorem isInfinite_ofRatio_iff (negative : Bool) (numPositive : 0 < num) (denPositive : 0 < den) :
    IsInfinite (ofRatio negative num den) ↔ overflowBound ≤ num / den := by
  obtain ⟨lead, leads, rounded⟩ := ofRatio_eq negative numPositive denPositive
  have above : lead - 52 ≤ max (lead - 52) (-1074) := le_max_left _ _
  have least : -1074 ≤ max (lead - 52) (-1074) := le_max_right _ _
  have either : max (lead - 52) (-1074) = lead - 52 ∨ max (lead - 52) (-1074) = -1074 :=
    max_choice _ _
  rw [rounded]
  generalize max (lead - 52) (-1074) = e at above least either ⊢
  have full : e = -1074 ∨ 2 ^ 52 ≤ roundedAt num den e :=
    either.symm.imp_right fun exact => by
      rw [exact]
      exact leads.le_roundedAt denPositive
  rw [isInfinite_carried_iff (leads.roundedAt_le denPositive above) least full]
  -- Only at the last exponent does the mantissa decide, elsewhere the leading power of two does.
  rcases lt_trichotomy e 971 with below | same | beyond
  · refine iff_of_false (by omega) (not_le.2 ?_)
    calc (num : ℚ) / den < 2 ^ (lead + 1) := leads.bound
      _ ≤ 2 ^ (1023 : ℤ) := zpow_le_zpow_right₀ one_le_two (by omega)
      _ ≤ overflowBound := overflowBound_bounds.1
  · have tie : 2 ^ 53 ≤ roundedAt num den 971 ↔
        (((2 ^ 53 : ℕ) : ℚ) - 1 / 2) * 2 ^ (971 : ℤ) ≤ num / den :=
      le_roundedAt_iff denPositive 971 (by norm_num)
    rw [same, or_iff_right (lt_irrefl _), and_iff_right rfl, tie, overflowBound]
    norm_cast
  · refine iff_of_true (.inl beyond) ?_
    calc overflowBound ≤ 2 ^ (1024 : ℤ) := overflowBound_bounds.2
      _ ≤ 2 ^ lead := zpow_le_zpow_right₀ one_le_two (by omega)
      _ ≤ num / den := leads.least

theorem lt_pow_length (digits : Nat) : digits < 10 ^ (Nat.toDigits 10 digits).length :=
  (Nat.length_toDigits_le_iff (by decide) Nat.length_toDigits_pos).1 le_rfl

theorem pow_length_le {digits : Nat} (positive : 0 < digits) :
    10 ^ ((Nat.toDigits 10 digits).length - 1) ≤ digits := by
  rcases Nat.eq_zero_or_pos ((Nat.toDigits 10 digits).length - 1) with single | more
  · rw [single, pow_zero]
    exact positive
  · rw [← not_lt, ← Nat.length_toDigits_le_iff (by decide) more]
    omega

/-- Decimals whose size leaves no doubt are not computed with; the bound lies well between them. -/
theorem overflowBound_far : (1 : ℚ) < overflowBound ∧ overflowBound ≤ 10 ^ (400 : ℤ) := by
  constructor
  · calc (1 : ℚ) < 2 ^ (1023 : ℤ) := one_lt_zpow₀ one_lt_two (by norm_num)
      _ ≤ overflowBound := overflowBound_bounds.1
  · calc overflowBound ≤ 2 ^ (1024 : ℤ) := overflowBound_bounds.2
      _ ≤ 2 ^ (3 * 400 : ℤ) := zpow_le_zpow_right₀ one_le_two (by norm_num)
      _ = (2 ^ (3 : ℤ)) ^ (400 : ℤ) := zpow_mul 2 3 400
      _ ≤ 10 ^ (400 : ℤ) := zpow_le_zpow_left₀ (by norm_num) (by positivity) (by norm_num)

theorem isInfinite_ofDecimal_iff (negative : Bool) (digits : Nat) (exponent : ℤ) :
    IsInfinite (ofDecimal negative digits exponent) ↔ overflowBound ≤ digits * 10 ^ exponent := by
  have far := overflowBound_far
  unfold ofDecimal
  dsimp only
  rcases Nat.eq_zero_or_pos digits with none | positive
  · rw [if_pos (by simp [none])]
    refine iff_of_false (not_isInfinite_zero negative) ?_
    rw [none, Nat.cast_zero, zero_mul, not_le]
    exact zero_lt_one.trans far.1
  have bound : (digits : ℚ) < 10 ^ ((Nat.toDigits 10 digits).length : ℤ) := by
    exact_mod_cast lt_pow_length digits
  have least : (10 : ℚ) ^ (((Nat.toDigits 10 digits).length : ℤ) - 1) ≤ digits := by
    have wide := pow_length_le positive
    rw [← Nat.cast_le (α := ℚ), Nat.cast_pow, ← zpow_natCast,
      Nat.cast_sub Nat.length_toDigits_pos] at wide
    exact_mod_cast wide
  have unit : (0 : ℚ) < 10 ^ exponent := by positivity
  generalize (Nat.toDigits 10 digits).length = length at bound least ⊢
  by_cases small : exponent + length < -400
  · rw [if_pos (by simp [small])]
    refine iff_of_false (not_isInfinite_zero negative) (not_le.2 ?_)
    calc digits * (10 : ℚ) ^ exponent ≤ 10 ^ (length : ℤ) * 10 ^ exponent :=
          mul_le_mul_of_nonneg_right bound.le unit.le
      _ = 10 ^ (length + exponent : ℤ) := (zpow_add₀ (by norm_num) _ _).symm
      _ ≤ 1 := zpow_le_one_of_nonpos₀ (by norm_num) (by omega)
      _ < overflowBound := far.1
  rw [if_neg (by simp [positive.ne', small])]
  by_cases large : 400 < exponent + length
  · rw [if_pos large]
    refine iff_of_true (isInfinite_infinite negative) ?_
    calc overflowBound ≤ 10 ^ (400 : ℤ) := far.2
      _ ≤ 10 ^ (length - 1 + exponent : ℤ) := zpow_le_zpow_right₀ (by norm_num) (by omega)
      _ = 10 ^ (length - 1 : ℤ) * 10 ^ exponent := zpow_add₀ (by norm_num) _ _
      _ ≤ digits * 10 ^ exponent := mul_le_mul_of_nonneg_right least unit.le
  · have scaled : 0 < digits * Nat.pow 10 exponent.toNat :=
      Nat.mul_pos positive (Nat.pow_pos (by decide))
    have unitPositive : 0 < Nat.pow 10 (-exponent).toNat := Nat.pow_pos (by decide)
    have power : ((10 : ℕ) : ℚ) ^ exponent = _ := zpow_eq_div (by decide) exponent
    rw [if_neg large, isInfinite_ofRatio_iff negative scaled unitPositive, Nat.cast_mul,
      mul_div_assoc, ← power]
    norm_cast

end JsxGen.Binary64

namespace JsxGen.Number

def Decimal.value (d : Decimal) : ℚ := d.digits * 10 ^ d.exponent

/-- Behind its sign the text is a word for an infinite number, or a decimal that is rounded to one. -/
def NamesInfinity (text : String) : Prop :=
  String.ofList ((splitSign text.toList).2.map Char.toLower) ∈ ["inf", "infinity"] ∨
    ∃ d, readDecimal? (splitSign text.toList).2 = some d ∧ Binary64.overflowBound ≤ d.value

/-- No decimal starts with a letter. -/
theorem readDecimal?_letter {c : Char} (letter : c.isAlpha) (cs : List Char) :
    readDecimal? (c :: cs) = none := by
  have noDigit := Text.isDigit_eq_false_of_isAlpha letter
  have noPoint : c ≠ '.' := fun same => by rw [same] at letter; exact absurd letter (by decide)
  simp [readDecimal?, noDigit, noPoint]

theorem readDecimal?_nan {cs : List Char} (word : String.ofList (cs.map Char.toLower) = "nan") :
    readDecimal? cs = none := by
  have letters : cs.map Char.toLower = ['n', 'a', 'n'] := by
    rw [← String.toList_ofList (l := cs.map Char.toLower), word]
    rfl
  have caseless : Text.Caseless Char.isAlpha := fun _ _ letter letter' => letter.trans letter'.symm
  cases cs with
  | nil => cases letters
  | cons c cs =>
    refine readDecimal?_letter ?_ cs
    rw [← caseless.toLower, (List.cons.inj letters).1]
    rfl

/-- What is read as an infinite number, without regard to its sign. -/
theorem read?_isInfinite_iff (text : String) :
    (∃ value, read? text = some value ∧ value.IsInfinite) ↔ NamesInfinity text := by
  unfold NamesInfinity read?
  obtain ⟨negative, cs⟩ := splitSign text.toList
  simp only [List.mem_cons, List.not_mem_nil, or_false]
  by_cases infinite : String.ofList (cs.map Char.toLower) = "inf" ∨
      String.ofList (cs.map Char.toLower) = "infinity"
  · rw [if_pos (by simpa using infinite)]
    exact iff_of_true ⟨_, rfl, Binary64.isInfinite_infinite negative⟩ (.inl infinite)
  rw [if_neg (by simpa using infinite), or_iff_right infinite]
  by_cases nan : String.ofList (cs.map Char.toLower) = "nan"
  · rw [if_pos nan, readDecimal?_nan nan]
    refine iff_of_false ?_ nofun
    rintro ⟨value, read, sign⟩
    cases read
    exact Binary64.not_isInfinite_nan sign
  · rw [if_neg nan]
    simp only [Option.map_eq_some_iff]
    constructor
    · rintro ⟨_, ⟨d, read, rfl⟩, sign⟩
      exact ⟨d, read, (Binary64.isInfinite_ofDecimal_iff _ _ _).1 sign⟩
    · rintro ⟨d, read, bound⟩
      exact ⟨_, ⟨d, read, rfl⟩, (Binary64.isInfinite_ofDecimal_iff _ _ _).2 bound⟩

end JsxGen.Number
