import JsxGen.Proofs.Js.Runtime

/-!
What expressions come to that hand a function to a method of lists. The body of the function is
evaluated for each item, with the parameter bound to the item over the variables around it. The
forms that have no part in this are evaluated as elsewhere.
-/

namespace JsxGen.Js

namespace Value

/-- Zero is the same under both signs, and what is no number is the same as nothing. -/
def sameNumber : Binary64 → Binary64 → Bool
  | .finite negative mantissa exponent _, .finite negative' mantissa' exponent' _ =>
    mantissa = mantissa' && (mantissa = 0 || negative = negative' && exponent = exponent')
  | .infinite negative, .infinite negative' => negative = negative'
  | _, _ => false

/-- Whether the value is compared by what it is and not by what it holds. -/
def isReference : Value → Bool
  | .array _ | .record _ | .foreign _ => true
  | _ => false

/-- Strict equality. Only the runtime can tell one list, record or foreign value from another. -/
def same (runtime : Runtime) : Value → Value → Bool
  | .undefined, .undefined | .null, .null => true
  | .bool a, .bool b => a = b
  | .num a, .num b => sameNumber a b
  | .str a, .str b => a = b
  | v, w => v.isReference && w.isReference && runtime.compare .strictEq v w = some true

/-- The list of what the function gives for each item. -/
def mapItems (f : Value → Option Value) : Value → Option Value
  | .array items => (items.mapM f).map .array
  | _ => none

def keep (runtime : Runtime) (f : Value → Option Value) : List Value → Option (List Value)
  | [] => some []
  | v :: vs => do
    let verdict ← f v
    let rest ← keep runtime f vs
    return if verdict.isTruthy runtime then v :: rest else rest

/-- The list of the items for which the function gives a value that passes as a condition. -/
def filterItems (runtime : Runtime) (f : Value → Option Value) : Value → Option Value
  | .array items => (keep runtime f items).map .array
  | _ => none

theorem mapItems_array {α : Type} {f : Value → Option Value} {items : List α} {v w : α → Value}
    (each : ∀ item ∈ items, f (v item) = some (w item)) :
    mapItems f (.array (items.map v)) = some (.array (items.map w)) := by
  have made : (items.map v).mapM f = some (items.map w) := by
    induction items with
    | nil => rfl
    | cons item items ih =>
      rw [List.forall_mem_cons] at each
      simp [each.1, ih each.2]
  rw [mapItems, made, Option.map_some]

theorem filterItems_array {α : Type} {runtime : Runtime} {f : Value → Option Value}
    {items : List α} {v : α → Value} {passes : α → Bool}
    (each : ∀ item ∈ items, f (v item) = some (.bool (passes item))) :
    filterItems runtime f (.array (items.map v)) =
      some (.array ((items.filter passes).map v)) := by
  have kept : keep runtime f (items.map v) = some ((items.filter passes).map v) := by
    induction items with
    | nil => rfl
    | cons item items ih =>
      rw [List.forall_mem_cons] at each
      rw [List.map_cons, keep, each.1, ih each.2, List.filter_cons]
      cases passes item <;> rfl
  rw [filterItems, kept, Option.map_some]

end Value

/-- The scope inside a function with one parameter. -/
def Scope.bind (scope : Scope) (param : String) (v : Value) : Scope :=
  Function.update scope param (some v)

@[simp] theorem Scope.bind_self (scope : Scope) (param : String) (v : Value) :
    scope.bind param v param = some v := by
  rw [bind, Function.update_self]

@[simp] theorem Scope.bind_of_ne (scope : Scope) {param name : String} (v : Value)
    (other : name ≠ param) : scope.bind param v name = scope name := by
  rw [bind, Function.update_of_ne other]

mutual

/-- The value of an expression that may hand functions to the methods of lists. -/
def Expr.result (runtime : Runtime) (scope : Scope) : Expr → Option Value
  | .object members _ => (Member.results runtime scope (fun _ => none) members).map .record
  | .binary left .strictEq right => do
    let v ← left.result runtime scope
    let w ← right.result runtime scope
    return .bool (v.same runtime w)
  | .call (.member list "map" false) [.arrow [param] body] => do
    let v ← list.result runtime scope
    v.mapItems fun item => body.result runtime (scope.bind param item)
  | .call (.member list "filter" false) [.arrow [param] body] => do
    let v ← list.result runtime scope
    v.filterItems runtime fun item => body.result runtime (scope.bind param item)
  | e => e.value runtime scope

/-- The record that the members make of the fields before them; a later member overrides. -/
def Member.results (runtime : Runtime) (scope : Scope) (before : Record) :
    List Member → Option Record
  | [] => some before
  | .spread source :: members => do
    let v ← source.result runtime scope
    Member.results runtime scope (before.overlay (v.fields runtime.toHost)) members
  | .property key value :: members => do
    let v ← value.result runtime scope
    Member.results runtime scope (Function.update before key.text (some v)) members

end

section results

variable (runtime : Runtime) (scope : Scope)

@[simp] theorem result_ident (name : String) :
    (Expr.ident name).result runtime scope = scope name := by
  simp only [Expr.result, value_ident]

theorem result_field {base : String} {fields : Record} (name : String)
    (held : scope base = some (.record fields)) :
    (Expr.member (.ident base) name false).result runtime scope =
      some ((fields name).getD .undefined) := by
  simp only [Expr.result, Expr.value, Expr.andThen, held, Option.bind_some]
  rfl

theorem result_strictEq {left right : Expr} {v w : Value}
    (first : left.result runtime scope = some v) (second : right.result runtime scope = some w) :
    (Expr.binary left .strictEq right).result runtime scope = some (.bool (v.same runtime w)) := by
  rw [Expr.result, first, second]
  rfl

theorem result_map {list body : Expr} {param : String} {v : Value}
    (found : list.result runtime scope = some v) :
    (Expr.call (.member list "map" false) [.arrow [param] body]).result runtime scope =
      v.mapItems fun item => body.result runtime (scope.bind param item) := by
  rw [Expr.result, found]
  rfl

theorem result_filter {list body : Expr} {param : String} {v : Value}
    (found : list.result runtime scope = some v) :
    (Expr.call (.member list "filter" false) [.arrow [param] body]).result runtime scope =
      v.filterItems runtime fun item => body.result runtime (scope.bind param item) := by
  rw [Expr.result, found]
  rfl

theorem result_object (members : List Member) (multiline : Bool) :
    (Expr.object members multiline).result runtime scope =
      (Member.results runtime scope (fun _ => none) members).map .record := by
  rw [Expr.result]

theorem results_spread {source : Expr} {fields : Record} (before : Record) (members : List Member)
    (found : source.result runtime scope = some (.record fields)) :
    Member.results runtime scope before (.spread source :: members) =
      Member.results runtime scope (before.overlay fields) members := by
  rw [Member.results, found]
  rfl

theorem results_property {value : Expr} {v : Value} (before : Record) (key : Key)
    (members : List Member) (found : value.result runtime scope = some v) :
    Member.results runtime scope before (.property key value :: members) =
      Member.results runtime scope (Function.update before key.text (some v)) members := by
  rw [Member.results, found]
  rfl

end results

end JsxGen.Js
