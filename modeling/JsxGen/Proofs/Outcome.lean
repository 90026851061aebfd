import Mathlib.Data.List.Forall2

/-! Steps of a computation that may fail: what a success says about each of them. -/

namespace JsxGen

variable {ε α β : Type}

theorem bind_eq_ok {x : Except ε α} {f : α → Except ε β} {b : β} :
    (x >>= f) = .ok b ↔ ∃ a, x = .ok a ∧ f a = .ok b := by
  cases x with
  | error e =>
    constructor
    · intro h
      cases h
    · intro steps
      rcases steps with ⟨a, h, _⟩
      cases h
  | ok a =>
    constructor
    · exact fun h => ⟨a, rfl, h⟩
    · intro steps
      rcases steps with ⟨_, same, h⟩
      cases same
      exact h

theorem mapM_eq_ok {f : α → Except ε β} {xs : List α} {ys : List β} :
    xs.mapM f = .ok ys ↔ List.Forall₂ (fun x y => f x = .ok y) xs ys := by
  induction xs generalizing ys with
  | nil =>
    rw [List.forall₂_nil_left_iff]
    constructor
    · intro h
      cases h
      rfl
    · intro empty
      rw [empty]
      rfl
  | cons x xs ih =>
    rw [List.mapM_cons, bind_eq_ok, List.forall₂_cons_left_iff]
    constructor
    · intro steps
      rcases steps with ⟨y, first, h⟩
      obtain ⟨rest, others, h⟩ := bind_eq_ok.1 h
      cases h
      exact ⟨y, rest, first, ih.1 others, rfl⟩
    · intro steps
      rcases steps with ⟨y, rest, first, others, rfl⟩
      exact ⟨y, first, bind_eq_ok.2 ⟨rest, ih.2 others, rfl⟩⟩

theorem map_eq_ok {f : α → β} {x : Except ε α} {b : β} :
    x.map f = .ok b ↔ ∃ a, x = .ok a ∧ f a = b := by
  cases x with
  | error e => simp [Except.map]
  | ok a => simp [Except.map]

def Succeeds (x : Except ε α) : Prop := ∃ a, x = .ok a

theorem succeeds_ok (a : α) : Succeeds (.ok a : Except ε α) := ⟨a, rfl⟩

theorem not_succeeds_iff {x : Except ε α} : ¬Succeeds x ↔ ∃ e, x = .error e := by
  cases x with
  | error e => simp [Succeeds]
  | ok a => simp [Succeeds]

theorem not_succeeds_error (e : ε) : ¬Succeeds (.error e : Except ε α) :=
  not_succeeds_iff.2 ⟨e, rfl⟩

theorem succeeds_bind {x : Except ε α} {f : α → Except ε β} :
    Succeeds (x >>= f) ↔ ∃ a, x = .ok a ∧ Succeeds (f a) := by
  simp only [Succeeds, bind_eq_ok]
  exact exists_comm.trans (exists_congr fun a => exists_and_left)

/-- If the second step does not depend on what the first gives, each succeeds by itself. -/
theorem succeeds_bind_of {x : Except ε α} {f : α → Except ε β} {p : Prop}
    (next : ∀ a, Succeeds (f a) ↔ p) : Succeeds (x >>= f) ↔ Succeeds x ∧ p := by
  simp only [succeeds_bind, next, exists_and_right]
  rfl

theorem succeeds_bind_pure {x : Except ε α} {f : α → β} :
    Succeeds (x >>= fun a => pure (f a)) ↔ Succeeds x :=
  (succeeds_bind_of fun a => iff_true_intro (succeeds_ok (f a))).trans (and_iff_left trivial)

theorem succeeds_map {f : α → β} {x : Except ε α} : Succeeds (x.map f) ↔ Succeeds x := by
  simp [Succeeds, map_eq_ok]

theorem succeeds_mapM {f : α → Except ε β} {xs : List α} :
    Succeeds (xs.mapM f) ↔ ∀ x ∈ xs, Succeeds (f x) := by
  induction xs with
  | nil => exact iff_of_true (succeeds_ok []) (by simp)
  | cons x xs ih =>
    rw [List.mapM_cons, succeeds_bind_of fun _ => succeeds_bind_pure, ih, List.forall_mem_cons]

/-- What relates each item of a list to one of another finds a partner for every item. -/
theorem exists_related {R : α → β → Prop} {xs : List α} {ys : List β} {x : α}
    (related : List.Forall₂ R xs ys) (member : x ∈ xs) : ∃ y ∈ ys, R x y := by
  induction related with
  | nil => cases member
  | cons first _ ih =>
    rcases List.mem_cons.1 member with rfl | member
    · exact ⟨_, List.mem_cons_self, first⟩
    · rcases ih member with ⟨y, present, holds⟩
      exact ⟨y, List.mem_cons_of_mem _ present, holds⟩

theorem exists_source {R : α → β → Prop} {xs : List α} {ys : List β} {y : β}
    (related : List.Forall₂ R xs ys) (member : y ∈ ys) : ∃ x ∈ xs, R x y :=
  exists_related related.flip member

theorem exists_append_related {R : α → β → Prop} {xs others : List α} {ys : List β}
    (related : List.Forall₂ R (xs ++ others) ys) :
    ∃ own rest, List.Forall₂ R xs own ∧ List.Forall₂ R others rest ∧ ys = own ++ rest := by
  induction xs generalizing ys with
  | nil => exact ⟨[], ys, .nil, related, rfl⟩
  | cons x xs ih =>
    cases related with
    | cons first behind =>
      obtain ⟨own, rest, here, there, rfl⟩ := ih behind
      exact ⟨_ :: own, rest, .cons first here, there, rfl⟩

theorem flatMap_related {γ : Type} {R : α → β → Prop} {f : α → List γ} {g : β → List γ}
    {xs : List α} {ys : List β} (related : List.Forall₂ R xs ys)
    (same : ∀ x y, R x y → g y = f x) : ys.flatMap g = xs.flatMap f := by
  induction related with
  | nil => rfl
  | cons first _ ih => rw [List.flatMap_cons, List.flatMap_cons, same _ _ first, ih]

theorem mem_flatMap_related {γ : Type} {R : α → β → Prop} {f : α → List γ} {g : β → List γ}
    {xs : List α} {ys : List β} {c : γ} (related : List.Forall₂ R xs ys)
    (same : ∀ x y, R x y → (c ∈ g y ↔ c ∈ f x)) : c ∈ ys.flatMap g ↔ c ∈ xs.flatMap f := by
  induction related with
  | nil => rfl
  | cons first _ ih =>
    rw [List.flatMap_cons, List.flatMap_cons, List.mem_append, List.mem_append, same _ _ first, ih]

theorem mem_flatMap_append {γ : Type} {xs : List α} {f : α → List β} {g : β → List γ}
    {h : α → List γ} {c : γ} :
    c ∈ xs.flatMap (fun x => (f x).flatMap g ++ h x) ↔
      c ∈ (xs.flatMap f).flatMap g ∨ c ∈ xs.flatMap h := by
  simp only [List.flatMap_assoc, List.mem_flatMap, List.mem_append, and_or_left, exists_or]

end JsxGen
