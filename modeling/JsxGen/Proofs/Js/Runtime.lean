import JsxGen.Proofs.Js.Evaluation

/-!
What expressions come to when the component runs, with optional access, fallbacks, comparisons,
conditionals and templates. How values compare, what their methods answer and the texts of values
that are no strings are left to a `Runtime`.
-/

namespace JsxGen.Js

/-- What a running program decides; `holds` says which of the values that are not known here pass as
a condition. -/
structure Runtime extends Host where
  compare : BinaryOp → Value → Value → Option Bool
  method : String → Value → List Value → Option Value
  text : Value → Option String
  holds : Nat → Bool

namespace Value

def isMissing : Value → Bool
  | .undefined | .null => true
  | _ => false

/-- Whether the value passes as a condition. -/
def isTruthy (runtime : Runtime) : Value → Bool
  | .undefined | .null | .num .nan => false
  | .bool value => value
  | .num (.finite _ mantissa _ _) => mantissa ≠ 0
  | .num (.infinite _) | .array _ | .record _ => true
  | .str value => value ≠ ""
  | .foreign token => runtime.holds token

/-- The text that stands for the value in a template. -/
def toText (runtime : Runtime) : Value → Option String
  | .str value => some value
  | v => runtime.text v

/-- A field that is not there reads as undefined. -/
def fieldOrUndefined (host : Host) (name : String) (v : Value) : Value :=
  (v.fields host name).getD .undefined

/-- An access to a missing value fails, or it skips the rest of its chain if it is optional. -/
def access (optional : Bool) (v : Value) (rest : Value → Option Value) : Option Value :=
  if v.isMissing then if optional then some .undefined else none
  else rest v

end Value

mutual

/-- What the rest of a chain of accesses makes of the value of the expression. -/
def Expr.andThen (runtime : Runtime) (scope : Scope) (rest : Value → Option Value) :
    Expr → Option Value
  | .ident name => (scope name).bind rest
  | .str value => rest (.str value)
  | .num value => rest (.num value)
  | .bool value => rest (.bool value)
  | .null => rest .null
  | .array items => (Expr.values runtime scope items).bind fun vs => rest (.array vs)
  | .object members _ =>
    (Member.fields runtime scope (fun _ => none) members).bind fun fields => rest (.record fields)
  | .member object name optional | .index object (.str name) optional =>
    object.andThen runtime scope fun v =>
      v.access optional fun v => rest (v.fieldOrUndefined runtime.toHost name)
  | .call (.member object name optional) args =>
    object.andThen runtime scope fun v => v.access optional fun v => do
      let given ← Expr.values runtime scope args
      let answer ← runtime.method name v given
      rest answer
  | .binary left op right => do
    let v ← left.andThen runtime scope some
    match op with
    | .nullish => if v.isMissing then (right.andThen runtime scope some).bind rest else rest v
    | .or => if v.isTruthy runtime then rest v else (right.andThen runtime scope some).bind rest
    | op => do
      let w ← right.andThen runtime scope some
      let holds ← runtime.compare op v w
      rest (.bool holds)
  | .conditional test yes no => do
    let v ← test.andThen runtime scope some
    let chosen ←
      if v.isTruthy runtime then yes.andThen runtime scope some
      else no.andThen runtime scope some
    rest chosen
  | .template parts => (TemplatePart.joined runtime scope parts).bind fun text => rest (.str text)
  | e => (runtime.eval scope e).bind rest

def Expr.values (runtime : Runtime) (scope : Scope) : List Expr → Option (List Value)
  | [] => some []
  | e :: es => do
    let v ← e.andThen runtime scope some
    let vs ← Expr.values runtime scope es
    return v :: vs

def Member.fields (runtime : Runtime) (scope : Scope) (before : Record) :
    List Member → Option Record
  | [] => some before
  | .spread source :: members => do
    let v ← source.andThen runtime scope some
    Member.fields runtime scope (before.overlay (v.fields runtime.toHost)) members
  | .property key value :: members => do
    let v ← value.andThen runtime scope some
    Member.fields runtime scope (Function.update before key.text (some v)) members

def TemplatePart.joined (runtime : Runtime) (scope : Scope) : List TemplatePart → Option String
  | [] => some ""
  | .text literal :: parts => do
    let others ← TemplatePart.joined runtime scope parts
    return literal ++ others
  | .expr e :: parts => do
    let v ← e.andThen runtime scope some
    let first ← v.toText runtime
    let others ← TemplatePart.joined runtime scope parts
    return first ++ others

end

/-- The value of the expression where the variables hold what the scope says. -/
def Expr.value (runtime : Runtime) (scope : Scope) (e : Expr) : Option Value :=
  e.andThen runtime scope some

section values

attribute [local simp] Expr.value Expr.andThen Expr.values Member.fields

variable (runtime : Runtime) (scope : Scope)

@[simp] theorem value_ident (name : String) :
    (Expr.ident name).value runtime scope = scope name := by
  simp

@[simp] theorem value_str (text : String) :
    (Expr.str text).value runtime scope = some (.str text) := by
  simp

@[simp] theorem value_num (number : Binary64) :
    (Expr.num number).value runtime scope = some (.num number) := by
  simp

@[simp] theorem value_bool (flag : Bool) :
    (Expr.bool flag).value runtime scope = some (.bool flag) := by
  simp

@[simp] theorem value_null : Expr.null.value runtime scope = some .null := by
  simp

/-- A chain that starts with a variable goes on with what the variable holds. -/
@[simp] theorem andThen_ident (name : String) (rest : Value → Option Value) :
    (Expr.ident name).andThen runtime scope rest = (scope name).bind rest := by
  simp

theorem andThen_optionalField (object : Expr) (name : String) (rest : Value → Option Value) :
    (Expr.member object name true).andThen runtime scope rest =
      object.andThen runtime scope fun v =>
        if v.isMissing then some .undefined
        else rest (v.fieldOrUndefined runtime.toHost name) := by
  rw [Expr.andThen]
  simp only [Value.access, if_true]

theorem value_index (object : Expr) (name : String) :
    (Expr.index object (.str name) false).value runtime scope =
      object.andThen runtime scope (Value.read runtime.toHost name) := by
  rw [Expr.value, Expr.andThen]
  refine congrArg (object.andThen runtime scope) (funext fun v => ?_)
  cases v <;> rfl

theorem value_nullish (left right : Expr) :
    (Expr.binary left .nullish right).value runtime scope =
      (left.value runtime scope).bind fun v =>
        if v.isMissing then right.value runtime scope else some v := by
  rw [Expr.value, Expr.andThen]
  simp only [Option.bind_fun_some]
  rfl

theorem value_template (parts : List TemplatePart) :
    (Expr.template parts).value runtime scope =
      (TemplatePart.joined runtime scope parts).map .str := by
  rw [Expr.value, Expr.andThen]
  exact Option.map_eq_bind.symm

theorem value_conditional (test yes no : Expr) :
    (Expr.conditional test yes no).value runtime scope =
      (test.value runtime scope).bind fun v =>
        if v.isTruthy runtime then yes.value runtime scope else no.value runtime scope := by
  rw [Expr.value, Expr.andThen]
  simp only [Expr.value]
  refine congrArg _ (funext fun v => ?_)
  split <;> exact Option.bind_fun_some _

theorem value_comparison {op : BinaryOp} (left right : Expr) (noFallback : op ≠ .nullish)
    (noOr : op ≠ .or) :
    (Expr.binary left op right).value runtime scope =
      (left.value runtime scope).bind fun v => (right.value runtime scope).bind fun w =>
        (runtime.compare op v w).map .bool := by
  rw [Expr.value, Expr.andThen]
  simp only [Option.map_eq_bind]
  cases op with
  | nullish => exact absurd rfl noFallback
  | or => exact absurd rfl noOr
  | _ => rfl

theorem value_optionalCall (object : Expr) (name : String) (args : List Expr) :
    (Expr.call (.member object name true) args).value runtime scope =
      object.andThen runtime scope fun v =>
        if v.isMissing then some .undefined
        else (Expr.values runtime scope args).bind (runtime.method name v) := by
  rw [Expr.value, Expr.andThen]
  simp only [Value.access, if_true, Option.bind_eq_bind, Option.bind_fun_some]

theorem value_array (items : List Expr) :
    (Expr.array items).value runtime scope =
      (Expr.values runtime scope items).map .array := by
  rw [Expr.value, Expr.andThen]
  exact Option.map_eq_bind.symm

theorem values_cons (e : Expr) (es : List Expr) :
    Expr.values runtime scope (e :: es) =
      (e.value runtime scope).bind fun v => (Expr.values runtime scope es).map (v :: ·) := by
  rw [Expr.values]
  simp only [Option.map_eq_bind]
  rfl

theorem value_object (members : List Member) (multiline : Bool) :
    (Expr.object members multiline).value runtime scope =
      (Member.fields runtime scope (fun _ => none) members).map .record := by
  rw [Expr.value, Expr.andThen]
  exact Option.map_eq_bind.symm

theorem fields_property (before : Record) (key : Key) (value : Expr) (members : List Member) :
    Member.fields runtime scope before (.property key value :: members) =
      (value.value runtime scope).bind fun v =>
        Member.fields runtime scope (Function.update before key.text (some v)) members := by
  rw [Member.fields]
  rfl

end values

end JsxGen.Js
