import JsxGen.Js.Tree
import Mathlib.Logic.Function.Basic

/-!
What expressions evaluate to. Variables, literals, records and the reading of a field are evaluated
here; the other forms are left to a `Host`.
-/

namespace JsxGen.Js

open JsxGen.Text (isIdentifier)

/-- A record is what each of its fields holds, if it has the field. -/
inductive Value where
  | undefined
  | null
  | bool (value : Bool)
  | num (value : Binary64)
  | str (value : String)
  | array (items : List Value)
  | record (fields : String → Option Value)
  | foreign (token : Nat)

abbrev Record := String → Option Value

/-- The variables that an expression can read. -/
abbrev Scope := String → Option Value

/-- What a running program knows beyond this evaluation: the fields of values that are no records,
and the values of the forms of expressions that are not evaluated here. -/
structure Host where
  own : Value → Record
  eval : Scope → Expr → Option Value

namespace Value

/-- The fields that a spread of the value copies. -/
def fields (host : Host) : Value → Record
  | .record fields => fields
  | .undefined | .null => fun _ => none
  | v => host.own v

/-- A field that is not there reads as undefined; a missing value has nothing to read. -/
def read (host : Host) (name : String) : Value → Option Value
  | .undefined | .null => none
  | v => some ((v.fields host name).getD .undefined)

/-- The value at the end of a path of fields, all of which are there. -/
def get? : Value → List String → Option Value
  | v, [] => some v
  | .record fields, key :: keys => (fields key).bind fun v => v.get? keys
  | _, _ :: _ => none

/-- The value with `new` in place of what stands at the end of a path of fields. -/
def setAt : Value → List String → Value → Value
  | _, [], new => new
  | .record fields, key :: keys, new =>
    .record (Function.update fields key (some (((fields key).getD .undefined).setAt keys new)))
  | v, _ :: _, _ => v

end Value

/-- The value at the end of a path that starts with a variable. -/
def Scope.get? (scope : Scope) : List String → Option Value
  | [] => none
  | root :: fields => (scope root).bind fun v => v.get? fields

def Key.text : Key → String
  | .bare name => name
  | .quoted text => text

/-- The record with the fields of another laid over its own. -/
def Record.overlay (below above : Record) : Record :=
  fun name => (above name).or (below name)

mutual

def Expr.eval (host : Host) (scope : Scope) : Expr → Option Value
  | .ident name => scope name
  | .str value => some (.str value)
  | .num value => some (.num value)
  | .bool value => some (.bool value)
  | .null => some .null
  | .array items => (Expr.evalAll host scope items).map .array
  | .object members _ => (Member.evalAll host scope (fun _ => none) members).map .record
  | .member object name false => (object.eval host scope).bind (Value.read host name)
  | .index object (.str name) false => (object.eval host scope).bind (Value.read host name)
  | e => host.eval scope e

def Expr.evalAll (host : Host) (scope : Scope) : List Expr → Option (List Value)
  | [] => some []
  | e :: es => do
    let v ← e.eval host scope
    let vs ← Expr.evalAll host scope es
    return v :: vs

/-- The record that the members make of the fields before them; a later member overrides. -/
def Member.evalAll (host : Host) (scope : Scope) (before : Record) : List Member → Option Record
  | [] => some before
  | .spread source :: members => do
    let v ← source.eval host scope
    Member.evalAll host scope (before.overlay (v.fields host)) members
  | .property key value :: members => do
    let v ← value.eval host scope
    Member.evalAll host scope (Function.update before key.text (some v)) members

end

namespace Value

@[simp] theorem get?_nil (v : Value) : v.get? [] = some v := by
  cases v <;> rfl

@[simp] theorem get?_record (fields : Record) (key : String) (keys : List String) :
    (record fields).get? (key :: keys) = (fields key).bind fun v => v.get? keys := rfl

@[simp] theorem setAt_nil (v new : Value) : v.setAt [] new = new := by
  cases v <;> rfl

@[simp] theorem setAt_record (fields : Record) (key : String) (keys : List String) (new : Value) :
    (record fields).setAt (key :: keys) new =
      record (Function.update fields key
        (some (((fields key).getD .undefined).setAt keys new))) := rfl

@[simp] theorem fields_record (host : Host) (fields : Record) :
    (record fields).fields host = fields := rfl

theorem get?_append (v : Value) (path rest : List String) :
    v.get? (path ++ rest) = (v.get? path).bind fun w => w.get? rest := by
  induction path generalizing v with
  | nil => simp
  | cons key keys ih =>
    cases v with
    | record fields =>
      simp only [List.cons_append, get?_record, ih, Option.bind_assoc]
    | _ => rfl

/-- A field that is there is read as what it holds. -/
theorem read_of_get? (host : Host) {v w : Value} {key : String} {keys : List String}
    (present : v.get? (key :: keys) = some w) :
    ∃ inner, v.read host key = some inner ∧ inner.get? keys = some w := by
  cases v with
  | record fields =>
    rcases Option.bind_eq_some_iff.1 present with ⟨inner, held, reached⟩
    exact ⟨inner, by simp [read, held], reached⟩
  | _ => cases present

/-- Every value short of the end of the path is a record. -/
def RecordsAlong (v : Value) (path : List String) : Prop :=
  ∀ stem, stem <+: path → stem ≠ path → ∃ fields, v.get? stem = some (record fields)

theorem RecordsAlong.head {v : Value} {key : String} {keys : List String}
    (records : v.RecordsAlong (key :: keys)) : ∃ fields, v = record fields := by
  rcases records [] List.nil_prefix (by simp) with ⟨fields, held⟩
  exact ⟨fields, by simpa using held⟩

theorem RecordsAlong.tail {fields : Record} {key : String} {keys : List String}
    (records : (record fields).RecordsAlong (key :: keys)) :
    ((fields key).getD .undefined).RecordsAlong keys := by
  intro stem within short
  rcases records (key :: stem) (by simpa using within) (by simpa using short) with ⟨inner, held⟩
  rw [get?_record] at held
  cases present : fields key with
  | none => simp [present] at held
  | some v => exact ⟨inner, by simpa [present] using held⟩

theorem get?_setAt_self {v : Value} {path : List String} (records : v.RecordsAlong path)
    (new : Value) : (v.setAt path new).get? path = some new := by
  induction path generalizing v with
  | nil => simp
  | cons key keys ih =>
    rcases records.head with ⟨fields, rfl⟩
    simpa using ih records.tail

/-- Paths that leave the one to the new value lead where they led before. -/
theorem get?_setAt_of_diverge (v : Value) (path other : List String) (new : Value)
    (above : ¬other <+: path) (below : ¬path <+: other) :
    (v.setAt path new).get? other = v.get? other := by
  induction path generalizing v other with
  | nil => exact absurd List.nil_prefix below
  | cons key keys ih =>
    cases other with
    | nil => exact absurd List.nil_prefix above
    | cons name names =>
      cases v with
      | record fields =>
        rw [setAt_record, get?_record, get?_record]
        by_cases same : name = key
        · subst same
          have inner := ih ((fields name).getD .undefined) names
            (fun within => above (by simpa using within))
            (fun within => below (by simpa using within))
          rw [Function.update_self, Option.bind_some, inner]
          cases fields name with
          | none =>
            have nonempty : names ≠ [] := fun empty => above (by simp [empty])
            rcases List.exists_cons_of_ne_nil nonempty with ⟨first, rest, rfl⟩
            rfl
          | some v => rfl
        · rw [Function.update_of_ne same]
      | _ => rfl

end Value

theorem eval_field (host : Host) (scope : Scope) (object : Expr) (name : String) :
    (object.field name).eval host scope = (object.eval host scope).bind (Value.read host name) := by
  unfold Expr.field
  split
  · simp only [Expr.eval]
  · simp only [Expr.eval]

theorem Key.text_ofString (text : String) : (Key.ofString text).text = text := by
  unfold Key.ofString
  split <;> rfl

theorem Key.bare_ofString_iff (text : String) :
    (∃ name, Key.ofString text = .bare name) ↔ isIdentifier text := by
  unfold Key.ofString
  split
  · rename_i identifier
    exact iff_of_true ⟨_, rfl⟩ identifier
  · rename_i other
    exact iff_of_false (fun ⟨_, written⟩ => nomatch written) other

/-- A key is made from its text if it has no quotes where none are needed, and only there. -/
theorem Key.eq_ofString {key : Key} (bare : (∃ name, key = .bare name) ↔ isIdentifier key.text) :
    key = .ofString key.text := by
  cases key with
  | bare name => exact (if_pos (bare.1 ⟨name, rfl⟩)).symm
  | quoted text => exact (if_neg fun identifier => nomatch bare.2 identifier).symm

theorem eval_foldl_field (host : Host) (scope : Scope) (object : Expr) (fields : List String)
    (start v : Value) (evaluated : object.eval host scope = some start)
    (reached : start.get? fields = some v) :
    (fields.foldl Expr.field object).eval host scope = some v := by
  induction fields generalizing object start with
  | nil => simpa [evaluated] using reached
  | cons key keys ih =>
    rcases Value.read_of_get? host reached with ⟨inner, held, rest⟩
    have step : (object.field key).eval host scope = some inner := by
      rw [eval_field, evaluated, Option.bind_some, held]
    exact ih (object.field key) inner step rest

/-- An access path evaluates to the value that it leads to. -/
theorem eval_path (host : Host) (scope : Scope) (root : String) (fields : List String) (v : Value)
    (present : scope.get? (root :: fields) = some v) :
    (Expr.path root fields).eval host scope = some v := by
  rcases Option.bind_eq_some_iff.1 present with ⟨start, held, reached⟩
  have looked : (Expr.ident root).eval host scope = some start := by
    simpa only [Expr.eval] using held
  exact eval_foldl_field host scope (.ident root) fields start v looked reached

end JsxGen.Js
