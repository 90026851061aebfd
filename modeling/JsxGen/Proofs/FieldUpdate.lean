import JsxGen.FieldUpdate
import JsxGen.Proofs.Js.Evaluation

/-!
What setting a nested field does to the records on the way to it. `eval_nestedUpdate` says that the
record at the stem is given back with the new value at the end of the path and nothing else changed.
-/

namespace JsxGen

open Js

/-- The value at a path from the root, or undefined where the last field is not there. -/
def Js.Scope.valueAt (scope : Scope) (path : List String) : Value :=
  (scope.get? path).getD .undefined

theorem Js.Scope.get?_append (scope : Scope) (root : String) (fields rest : List String) :
    scope.get? (root :: fields ++ rest) =
      (scope.get? (root :: fields)).bind fun v => v.get? rest := by
  simp only [List.cons_append, Scope.get?, Value.get?_append, Option.bind_assoc]

/-- One level of the copy: the record with `key` bound to what `inner` evaluates to. -/
theorem eval_copy (host : Host) (scope : Scope) (source inner : Expr) (key : String)
    (fields : Record) (evaluated : source.eval host scope = some (.record fields)) :
    (Expr.inline [.spread source, .ofString key inner]).eval host scope =
      (inner.eval host scope).map fun v => .record (Function.update fields key (some v)) := by
  have whole : Record.overlay (fun _ => none) fields = fields := by
    funext name
    simp [Record.overlay]
  simp only [Expr.inline, Expr.eval, Member.evalAll, Member.ofString, evaluated, whole,
    Value.fields_record, Key.text_ofString, Option.bind_eq_bind, Option.bind_some]
  cases inner.eval host scope with
  | none => rfl
  | some v => rfl

theorem eval_nestedCopy (host : Host) (scope : Scope) (root : String) (fields keys : List String)
    (leaf : Expr)
    (records : ∀ part, part <+: keys → part ≠ keys →
      ∃ inner, scope.get? (root :: fields ++ part) = some (.record inner)) :
    (nestedCopy root fields leaf keys).eval host scope =
      (leaf.eval host scope).map ((scope.valueAt (root :: fields)).setAt keys) := by
  induction keys generalizing fields with
  | nil =>
    have whole : (scope.valueAt (root :: fields)).setAt [] = id := by
      funext new
      simp
    rw [nestedCopy, whole, Option.map_id, id]
  | cons key keys ih =>
    rcases records [] List.nil_prefix (by simp) with ⟨record, here⟩
    rw [List.append_nil] at here
    have deeper := ih (fields ++ [key]) (by
      intro part within short
      rcases records (key :: part) (by simpa using within) (by simpa using short) with ⟨inner, held⟩
      exact ⟨inner, by simpa using held⟩)
    have next : scope.valueAt (root :: (fields ++ [key])) = (record key).getD .undefined := by
      have split := scope.get?_append root fields [key]
      rw [here] at split
      simp only [Scope.valueAt, ← List.cons_append, split, Option.bind_some, Value.get?_record]
      cases record key <;> simp
    have source := eval_path host scope root fields _ here
    have current : scope.valueAt (root :: fields) = .record record := by simp [Scope.valueAt, here]
    calc (nestedCopy root fields leaf (key :: keys)).eval host scope
        = ((nestedCopy root (fields ++ [key]) leaf keys).eval host scope).map
            fun v => .record (Function.update record key (some v)) :=
          eval_copy host scope _ _ key record source
      _ = (leaf.eval host scope).map fun new => .record (Function.update record key
            (some (((record key).getD .undefined).setAt keys new))) := by
          rw [deeper, next, Option.map_map]
          rfl
      _ = (leaf.eval host scope).map ((scope.valueAt (root :: fields)).setAt (key :: keys)) := by
          rw [current]
          rfl

theorem nestedUpdate_ok {path stem : List String} (leaf : Expr) {root : String}
    {fields : List String} (form : stem = root :: fields) (shorter : stem.length < path.length) :
    nestedUpdate path stem leaf = .ok (nestedCopy root fields leaf (path.drop stem.length)) := by
  subst form
  have long : ¬path.length < 2 := by
    simp only [List.length_cons] at shorter
    omega
  simp only [nestedUpdate, if_neg long, if_pos shorter]

/-- For a stem that leads part of the way, and records at all steps of the path but the last. -/
theorem eval_nestedUpdate (host : Host) (scope : Scope) (path stem : List String) (leaf : Expr)
    (within : stem <+: path) (nonempty : stem ≠ []) (proper : stem ≠ path)
    (records : ∀ part, part <+: path → part ≠ [] → part ≠ path →
      ∃ inner, scope.get? part = some (.record inner)) :
    ∃ update target, nestedUpdate path stem leaf = .ok update ∧
      scope.get? stem = some target ∧
      update.eval host scope =
        (leaf.eval host scope).map (target.setAt (path.drop stem.length)) ∧
      ∀ new, (target.setAt (path.drop stem.length) new).get? (path.drop stem.length) = some new ∧
        ∀ other, ¬other <+: path.drop stem.length → ¬path.drop stem.length <+: other →
          (target.setAt (path.drop stem.length) new).get? other = target.get? other := by
  rcases within with ⟨keys, rfl⟩
  rcases List.exists_cons_of_ne_nil nonempty with ⟨root, fields, rfl⟩
  have remaining : keys ≠ [] := fun empty => proper (by simp [empty])
  have shorter : (root :: fields).length < (root :: fields ++ keys).length := by
    have positive := List.length_pos_iff.2 remaining
    simp only [List.length_append]
    omega
  have below : ∀ part, part <+: keys → part ≠ keys →
      ∃ inner, scope.get? (root :: fields ++ part) = some (.record inner) := by
    intro part inside short
    exact records _ ((List.prefix_append_right_inj _).2 inside) (by simp)
      fun same => short (List.append_cancel_left same)
  rcases below [] List.nil_prefix (Ne.symm remaining) with ⟨target, here⟩
  rw [List.append_nil] at here
  have along : (Value.record target).RecordsAlong keys := by
    intro part inside short
    rcases below part inside short with ⟨inner, held⟩
    rw [scope.get?_append, here] at held
    exact ⟨inner, held⟩
  rw [nestedUpdate_ok leaf rfl shorter, List.drop_left]
  refine ⟨_, .record target, rfl, here, ?_, ?_⟩
  · rw [eval_nestedCopy host scope root fields keys leaf below]
    simp [Scope.valueAt, here]
  · intro new
    exact ⟨Value.get?_setAt_self along new, fun other above under =>
      Value.get?_setAt_of_diverge _ keys other new above under⟩

/-- A field that is no identifier, two records down; its neighbour keeps its value. -/
theorem nestedUpdate_first_name :
    let name : Record := fun key =>
      if key = "first name" then some (.str "Ann") else if key = "nick" then some .null else none
    let form : Record := fun key => if key = "bio" then some (.record name) else none
    let scope : Scope := fun root => if root = "form" then some (.record form) else none
    let host : Host := ⟨fun _ _ => none, fun _ _ => none⟩
    let path := ["form", "bio", "first name"]
    (∀ part, part <+: path → part ≠ [] → part ≠ path →
      ∃ inner, scope.get? part = some (.record inner)) ∧
    ∃ update result, nestedUpdate path ["form"] (.str "Eve") = .ok update ∧
      update.eval host scope = some result ∧
      result.get? ["bio", "first name"] = some (.str "Eve") ∧
      result.get? ["bio", "nick"] = some .null := by
  intro name form scope host path
  have records : ∀ part, part <+: path → part ≠ [] → part ≠ path →
      ∃ inner, scope.get? part = some (.record inner) := by
    intro part within nonempty short
    simp only [path, List.prefix_cons_iff, List.prefix_nil] at within
    rcases within with rfl | ⟨_, rfl, rfl | ⟨_, rfl, rfl | ⟨_, rfl, rfl⟩⟩⟩
    · exact absurd rfl nonempty
    · exact ⟨form, rfl⟩
    · exact ⟨name, rfl⟩
    · exact absurd rfl short
  obtain ⟨update, target, made, here, evaluated, replaced⟩ :=
    eval_nestedUpdate host scope path ["form"] (.str "Eve") (by decide) (by decide) (by decide)
      records
  have form_here : target = .record form := (Option.some.inj here).symm
  refine ⟨records, update, _, made, evaluated, (replaced _).1, ?_⟩
  rw [(replaced _).2 ["bio", "nick"] (by decide) (by decide), form_here]
  rfl

end JsxGen
