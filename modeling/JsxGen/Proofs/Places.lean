import Mathlib.Data.List.Basic

/-!
The order of what occurs in a tree. A place is the list of numbers that leads down to it, and one
place comes before another in lexicographic order; `ListedInOrder.flatMap` puts the parts of a whole
in order. `firstUses_eraseDups` says that items listed once each are in the order of their first use.
-/

namespace JsxGen

variable {α β : Type}

/-- Each item once, in the order in which the items are used first. -/
structure FirstUses [BEq α] (firsts uses : List α) : Prop where
  nodup : firsts.Nodup
  mem_iff : ∀ a, a ∈ firsts ↔ a ∈ uses
  ordered : firsts.Pairwise fun a b => uses.idxOf a < uses.idxOf b

theorem idxOf_lt_of_filter [DecidableEq α] {p : α → Bool} {a b : α} (keepsA : p a) (keepsB : p b)
    {xs : List α} (before : (xs.filter p).idxOf a < (xs.filter p).idxOf b) :
    xs.idxOf a < xs.idxOf b := by
  induction xs with
  | nil => exact before
  | cons x xs ih =>
    by_cases keeps : p x
    · rw [List.filter_cons_of_pos keeps, List.idxOf_cons, List.idxOf_cons] at before
      rw [List.idxOf_cons, List.idxOf_cons]
      by_cases first : x = a
      · by_cases second : x = b
        · simp [second] at before
        · simp [first, beq_eq_false_iff_ne.2 (first ▸ second)]
      · by_cases second : x = b
        · simp [second] at before
        · simp only [beq_eq_false_iff_ne.2 first, beq_eq_false_iff_ne.2 second, cond_false]
            at before ⊢
          exact Nat.succ_lt_succ (ih (Nat.lt_of_succ_lt_succ before))
    · have first : x ≠ a := fun same => keeps (same ▸ keepsA)
      have second : x ≠ b := fun same => keeps (same ▸ keepsB)
      rw [List.filter_cons_of_neg keeps] at before
      rw [List.idxOf_cons, List.idxOf_cons, beq_eq_false_iff_ne.2 first,
        beq_eq_false_iff_ne.2 second]
      exact Nat.succ_lt_succ (ih before)

theorem firstUses_eraseDups [DecidableEq α] (uses : List α) : FirstUses uses.eraseDups uses := by
  have mem_iff : ∀ a, a ∈ uses.eraseDups ↔ a ∈ uses := fun a => List.mem_eraseDups
  cases uses with
  | nil => exact ⟨List.nodup_nil, mem_iff, .nil⟩
  | cons x xs =>
    -- The recursion is on the length: the items that are left lose all that equal the first.
    have rest := firstUses_eraseDups (xs.filter fun a => !a == x)
    have kept : ∀ a ∈ (xs.filter fun a => !a == x).eraseDups, (!a == x) = true := by
      intro a member
      exact (List.mem_filter.1 ((rest.mem_iff a).1 member)).2
    have other : ∀ a ∈ (xs.filter fun a => !a == x).eraseDups, (x == a) = false := by
      intro a member
      exact beq_eq_false_iff_ne.2 (bne_iff_ne.1 (kept a member)).symm
    rw [List.eraseDups_cons] at mem_iff ⊢
    refine ⟨List.nodup_cons.2 ⟨?_, rest.nodup⟩, mem_iff, List.pairwise_cons.2 ⟨?_, ?_⟩⟩
    · intro member
      exact beq_eq_false_iff_ne.1 (other x member) rfl
    · intro a member
      rw [List.idxOf_cons_self, List.idxOf_cons, other a member]
      exact Nat.succ_pos _
    · refine rest.ordered.imp_of_mem fun {a b} first second before => ?_
      rw [List.idxOf_cons, List.idxOf_cons, other a first, other b second]
      exact Nat.succ_lt_succ
        (idxOf_lt_of_filter (p := fun a => !a == x) (kept a first) (kept b second) before)
termination_by uses.length
decreasing_by
  exact Nat.lt_succ_of_le (List.length_filter_le _ _)

/-- The items with their places, place after place. -/
structure Enumerates (At : List Nat → α → Prop) (placed : List (List Nat × α)) : Prop where
  ordered : placed.Pairwise fun a b => a.1 < b.1
  mem_iff : ∀ place a, (place, a) ∈ placed ↔ At place a

/-- The item stands at a place, and nothing stands at a place before that one. -/
def ComesFirst (At : List Nat → α → Prop) (a : α) : Prop :=
  ∃ place, At place a ∧ ∀ place' b, At place' b → ¬place' < place

/-- The items that stand at some place, in the order of their places. -/
def ListedInOrder (At : List Nat → α → Prop) (items : List α) : Prop :=
  ∃ placed, Enumerates At placed ∧ placed.map Prod.snd = items

namespace ListedInOrder

variable {At Other : List Nat → α → Prop} {xs ys : List α}

theorem congr (inOrder : ListedInOrder At xs) (same : ∀ place a, At place a ↔ Other place a) :
    ListedInOrder Other xs := by
  rcases inOrder with ⟨placed, enumerates, items⟩
  exact ⟨placed, ⟨enumerates.ordered, fun place a => (enumerates.mem_iff place a).trans
    (same place a)⟩, items⟩

theorem nil (empty : ∀ place a, ¬At place a) : ListedInOrder At [] := by
  refine ⟨[], ⟨.nil, fun place a => ?_⟩, rfl⟩
  exact iff_of_false List.not_mem_nil (empty place a)

theorem head?_eq_some_iff {a : α} (inOrder : ListedInOrder At xs) :
    xs.head? = some a ↔ ComesFirst At a := by
  rcases inOrder with ⟨placed, enumerates, rfl⟩
  cases placed with
  | nil =>
    constructor
    · intro first
      cases first
    · rintro ⟨place, there, _⟩
      cases (enumerates.mem_iff place a).2 there
  | cons entry placed =>
    obtain ⟨place, b⟩ := entry
    have ordered := List.pairwise_cons.1 enumerates.ordered
    have here : At place b := (enumerates.mem_iff place b).1 List.mem_cons_self
    rw [List.map_cons, List.head?_cons, Option.some.injEq]
    constructor
    · rintro rfl
      refine ⟨place, here, fun place' c there => ?_⟩
      rcases List.mem_cons.1 ((enumerates.mem_iff place' c).2 there) with same | behind
      · cases same
        exact List.lt_irrefl place
      · exact List.lt_asymm (ordered.1 _ behind)
    · rintro ⟨place', there, least⟩
      rcases List.mem_cons.1 ((enumerates.mem_iff place' a).2 there) with same | behind
      · cases same
        rfl
      · exact absurd (ordered.1 _ behind) (least place b here)

theorem singleton (place : List Nat) {a : α}
    (only : ∀ place' b, At place' b ↔ place' = place ∧ b = a) : ListedInOrder At [a] := by
  refine ⟨[(place, a)], ⟨List.pairwise_singleton _ _, fun place' b => ?_⟩, rfl⟩
  rw [List.mem_singleton, Prod.mk.injEq, only]

/-- Items that are there on a condition. -/
theorem ite {p : Prop} [Decidable p] (inOrder : ListedInOrder At xs) :
    ListedInOrder (fun place a => p ∧ At place a) (if p then xs else []) := by
  by_cases present : p
  · rw [if_pos present]
    exact inOrder.congr fun place a => (and_iff_right present).symm
  · rw [if_neg present]
    exact nil fun _ _ there => present there.1

theorem filter (p : α → Prop) [DecidablePred p] (inOrder : ListedInOrder At xs) :
    ListedInOrder (fun place a => At place a ∧ p a) (xs.filter p) := by
  rcases inOrder with ⟨placed, enumerates, rfl⟩
  refine ⟨placed.filter fun entry => p entry.2, ⟨enumerates.ordered.filter _, fun place a => ?_⟩, ?_⟩
  · rw [List.mem_filter, enumerates.mem_iff, decide_eq_true_iff]
  · rw [List.filter_map]
    rfl

theorem eq_nil_iff (inOrder : ListedInOrder At xs) : xs = [] ↔ ∀ place a, ¬At place a := by
  rcases inOrder with ⟨placed, enumerates, rfl⟩
  rw [List.map_eq_nil_iff, List.eq_nil_iff_forall_not_mem]
  simp only [Prod.forall, enumerates.mem_iff]

theorem map (f : α → β) (inOrder : ListedInOrder At xs) :
    ListedInOrder (fun place b => ∃ a, At place a ∧ f a = b) (xs.map f) := by
  rcases inOrder with ⟨placed, enumerates, rfl⟩
  refine ⟨placed.map fun entry => (entry.1, f entry.2), ⟨?_, fun place b => ?_⟩, ?_⟩
  · rw [List.pairwise_map]
    exact enumerates.ordered
  · simp only [List.mem_map, Prod.mk.injEq, Prod.exists, ← enumerates.mem_iff]
    constructor
    · rintro ⟨_, a, member, rfl, rfl⟩
      exact ⟨a, member, rfl⟩
    · rintro ⟨a, member, rfl⟩
      exact ⟨place, a, member, rfl, rfl⟩
  · rw [List.map_map, List.map_map]
    rfl

/-- The places of a part, below its number in the whole. -/
theorem below (n : Nat) (inner : ListedInOrder At xs) :
    ListedInOrder (fun place a => ∃ rest, place = n :: rest ∧ At rest a) xs := by
  rcases inner with ⟨placed, enumerates, rfl⟩
  refine ⟨placed.map fun entry => (n :: entry.1, entry.2), ⟨?_, fun place a => ?_⟩, ?_⟩
  · rw [List.pairwise_map]
    exact enumerates.ordered.imp fun before => List.cons_lt_cons_iff.2 (.inr ⟨rfl, before⟩)
  · simp only [List.mem_map, Prod.mk.injEq, Prod.exists, ← enumerates.mem_iff]
    constructor
    · rintro ⟨rest, b, member, rfl, rfl⟩
      exact ⟨rest, rfl, member⟩
    · rintro ⟨rest, rfl, member⟩
      exact ⟨rest, a, member, rfl, rfl⟩
  · rw [List.map_map]
    rfl

theorem append (first : ListedInOrder At xs) (second : ListedInOrder Other ys)
    (before : ∀ place a place' b, At place a → Other place' b → place < place') :
    ListedInOrder (fun place a => At place a ∨ Other place a) (xs ++ ys) := by
  rcases first with ⟨placed, enumerates, rfl⟩
  rcases second with ⟨placed', enumerates', rfl⟩
  refine ⟨placed ++ placed', ⟨?_, fun place a => ?_⟩, List.map_append⟩
  · refine List.pairwise_append.2 ⟨enumerates.ordered, enumerates'.ordered, ?_⟩
    intro entry member entry' member'
    exact before _ _ _ _ ((enumerates.mem_iff _ _).1 member) ((enumerates'.mem_iff _ _).1 member')
  · rw [List.mem_append, enumerates.mem_iff, enumerates'.mem_iff]

/-- The parts of a whole one after the other, numbered from `n` on. -/
theorem flatMap (n : Nat) {parts : List β} {items : β → List α} {At : β → List Nat → α → Prop}
    (each : ∀ part ∈ parts, ListedInOrder (At part) (items part)) :
    ListedInOrder (fun place a => ∃ i part rest, parts[i]? = some part ∧ place = (i + n) :: rest ∧
      At part rest a) (parts.flatMap items) := by
  induction parts generalizing n with
  | nil => exact nil (by simp)
  | cons part parts ih =>
    rw [List.forall_mem_cons] at each
    rw [List.flatMap_cons]
    have joined := (each.1.below n).append (ih (n + 1) each.2) (by
      rintro _ _ _ _ ⟨rest, rfl, _⟩ ⟨i, _, rest', _, rfl, _⟩
      exact List.cons_lt_cons_iff.2 (.inl (by omega)))
    refine joined.congr fun place a => ?_
    constructor
    · rintro (⟨rest, rfl, there⟩ | ⟨i, other, rest, listed, rfl, there⟩)
      · exact ⟨0, part, rest, rfl, by rw [Nat.zero_add], there⟩
      · exact ⟨i + 1, other, rest, listed, by rw [Nat.add_right_comm, Nat.add_assoc], there⟩
    · rintro ⟨i, other, rest, listed, rfl, there⟩
      cases i with
      | zero =>
        cases listed
        exact .inl ⟨rest, by rw [Nat.zero_add], there⟩
      | succ i =>
        exact .inr ⟨i, other, rest, listed, by rw [Nat.add_right_comm, Nat.add_assoc], there⟩

/-- What some of the parts give, each at the number of its part. -/
theorem filterMap (parts : List β) (item? : β → Option α) :
    ListedInOrder (fun place a =>
      ∃ i part, parts[i]? = some part ∧ item? part = some a ∧ place = [i])
      (parts.filterMap item?) := by
  rw [List.filterMap_eq_flatMap_toList]
  have each : ∀ part ∈ parts,
      ListedInOrder (fun rest a => rest = [] ∧ item? part = some a) (item? part).toList := by
    intro part _
    cases item? part with
    | none => exact nil (by simp)
    | some a => exact singleton [] fun place b => by rw [Option.some.injEq, eq_comm (a := a)]
  refine (flatMap 0 each).congr fun place a => ?_
  constructor
  · rintro ⟨i, part, _, listed, rfl, rfl, given⟩
    exact ⟨i, part, listed, given, rfl⟩
  · rintro ⟨i, part, listed, given, rfl⟩
    exact ⟨i, part, [], listed, rfl, rfl, given⟩

end ListedInOrder

/-- Items in the order of their places, each of which starts with `n` or a higher number. -/
structure ListedFrom (n : Nat) (At : List Nat → α → Prop) (items : List α) : Prop where
  inOrder : ListedInOrder At items
  start : ∀ place a, At place a → ∃ m rest, place = m :: rest ∧ n ≤ m

section ListedFrom

variable {At Other : List Nat → α → Prop} {xs ys : List α} {n : Nat}

theorem ListedInOrder.last (n : Nat) (inOrder : ListedInOrder At xs) :
    ListedFrom n (fun place a => ∃ rest, place = n :: rest ∧ At rest a) xs where
  inOrder := inOrder.below n
  start := by
    rintro _ a ⟨rest, rfl, _⟩
    exact ⟨n, rest, rfl, Nat.le_refl n⟩

theorem ListedFrom.cons (first : ListedInOrder At xs) (others : ListedFrom (n + 1) Other ys) :
    ListedFrom n (fun place a => (∃ rest, place = n :: rest ∧ At rest a) ∨ Other place a)
      (xs ++ ys) where
  inOrder := by
    apply (first.below n).append others.inOrder
    rintro _ a place b ⟨rest, rfl, _⟩ there
    obtain ⟨m, rest', rfl, later⟩ := others.start place b there
    exact List.cons_lt_cons_iff.2 (.inl later)
  start := by
    rintro place a (⟨rest, rfl, _⟩ | there)
    · exact ⟨n, rest, rfl, Nat.le_refl n⟩
    · obtain ⟨m, rest, rfl, later⟩ := others.start place a there
      exact ⟨m, rest, rfl, Nat.le_of_lt later⟩

end ListedFrom

end JsxGen
