import JsxGen.Proofs.Outcome
import JsxGen.Proofs.Places

/-!
Checks and computations that stop at the first error. What they come to is told by all the errors
that could be reported, in the order in which they are looked for; `firstError_map_eq_error_iff` and
`Reports.eq_error_map_iff` say which of them is reported if the list is in the order of places.
-/

namespace JsxGen

variable {ε α β : Type}

/-- What checks come to that stop at the first of the errors. -/
def firstError : List ε → Except ε Unit
  | [] => .ok ()
  | error :: _ => .error error

theorem firstError_append (first rest : List ε) :
    firstError (first ++ rest) = firstError first >>= fun _ => firstError rest := by
  cases first with
  | nil => rfl
  | cons error errors => rfl

/-- A loop of checks, of which each may find one error. -/
theorem forM_eq_firstError {check : α → Except ε Unit} {error? : α → Option ε} (xs : List α)
    (each : ∀ x, check x = firstError (error? x).toList) :
    xs.forM check = firstError (xs.filterMap error?) := by
  rw [List.filterMap_eq_flatMap_toList]
  induction xs with
  | nil => rfl
  | cons x xs ih =>
    calc (x :: xs).forM check
        = check x >>= fun _ => xs.forM check := rfl
      _ = firstError (error? x).toList >>= fun _ =>
            firstError (xs.flatMap fun x => (error? x).toList) := by
          rw [each, ih]
      _ = firstError ((x :: xs).flatMap fun x => (error? x).toList) := by
          rw [List.flatMap_cons, firstError_append]

theorem firstError_eq_ok_iff {errors : List ε} : firstError errors = .ok () ↔ errors = [] := by
  cases errors with
  | nil => simp [firstError]
  | cons error errors => simp [firstError]

/-- Of errors that are made of items in order, the one made of the item that comes first. -/
theorem firstError_map_eq_error_iff {At : List Nat → α → Prop} {items : List α} {make : α → ε}
    (inOrder : ListedInOrder At items) {error : ε} :
    firstError (items.map make) = .error error ↔ ∃ item, ComesFirst At item ∧ make item = error := by
  have first : firstError (items.map make) = .error error ↔
      (items.map make).head? = some error := by
    cases items with
    | nil => simp [firstError]
    | cons item items => simp [firstError]
  rw [first, List.head?_map, Option.map_eq_some_iff]
  simp only [inOrder.head?_eq_some_iff]

/-- The computation fails with the first of the errors; if there is none, it gives a result. -/
def Reports (x : Except ε α) (errors : List ε) : Prop :=
  x.map (fun _ => ()) = firstError errors

theorem reports_ok (a : α) : Reports (.ok a : Except ε α) [] := rfl

/-- Whatever comes after a failure is not looked at. -/
theorem reports_error (error : ε) (errors : List ε) :
    Reports (.error error : Except ε α) (error :: errors) := rfl

namespace Reports

variable {x : Except ε α} {errors : List ε}

theorem succeeds_iff (reports : Reports x errors) : Succeeds x ↔ errors = [] := by
  rw [← firstError_eq_ok_iff, ← reports, map_eq_ok]
  exact exists_congr fun a => (and_iff_left rfl).symm

/-- Of errors that are made of items in order, the one made of the item that comes first. -/
theorem eq_error_map_iff {At : List Nat → β → Prop} {items : List β} {make : β → ε}
    (reports : Reports x (items.map make)) (inOrder : ListedInOrder At items) {error : ε} :
    x = .error error ↔ ∃ item, ComesFirst At item ∧ make item = error := by
  rw [← firstError_map_eq_error_iff inOrder, ← reports]
  cases x with
  | ok a => simp [Except.map]
  | error other => simp [Except.map]

theorem eq_error_iff {At : List Nat → ε → Prop} (reports : Reports x errors)
    (inOrder : ListedInOrder At errors) {error : ε} : x = .error error ↔ ComesFirst At error := by
  rw [← List.map_id errors] at reports
  rw [reports.eq_error_map_iff inOrder]
  exact exists_eq_right

theorem bind {f : α → Except ε β} {more : List ε} (first : Reports x errors)
    (next : ∀ a, Reports (f a) more) : Reports (x >>= f) (errors ++ more) := by
  cases x with
  | ok a =>
    have none : errors = [] := firstError_eq_ok_iff.1 first.symm
    rw [none]
    exact next a
  | error error =>
    cases errors with
    | nil => cases first
    | cons other errors => exact first

theorem bind_pure {f : α → β} (first : Reports x errors) :
    Reports (x >>= fun a => pure (f a)) errors := by
  have both := first.bind fun a => reports_ok (f a)
  rwa [List.append_nil] at both

theorem mapM {f : α → Except ε β} {found : α → List ε} {xs : List α}
    (each : ∀ x ∈ xs, Reports (f x) (found x)) : Reports (xs.mapM f) (xs.flatMap found) := by
  induction xs with
  | nil => exact reports_ok []
  | cons x xs ih =>
    rw [List.forall_mem_cons] at each
    rw [List.mapM_cons, List.flatMap_cons]
    exact each.1.bind fun _ => (ih each.2).bind_pure

end Reports

end JsxGen
