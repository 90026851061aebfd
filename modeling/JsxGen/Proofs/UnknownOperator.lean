import JsxGen.Proofs.FirstError
import JsxGen.Proofs.PropertyExpr

/-!
The comparison at fault if a property has no expression. `toExpr_first_unknown` says that only
operators decide whether there is one, and that of the unknown ones the first is reported: that of a
conditional comes ahead of those in its two values.
-/

namespace JsxGen

namespace Comparison

def fault (test : Comparison) : InputError :=
  .schema test.subject.property (.unknownOperator test.operator)

/-- What is wrong with the comparisons, in their order. -/
def faults (tests : List Comparison) : List InputError :=
  (tests.filter (·.operator ∉ operators)).map fault

theorem faults_append (first second : List Comparison) :
    faults (first ++ second) = faults first ++ faults second := by
  rw [faults, List.filter_append, List.map_append, faults, faults]

theorem reports_toExpr (test : Comparison) : Reports test.toExpr (faults [test]) := by
  by_cases known : test.operator ∈ operators
  · obtain ⟨e, made⟩ := test.succeeds_toExpr.2 known
    have faultless : faults [test] = [] := by simp [faults, known]
    rw [made, faultless]
    exact reports_ok e
  · have faulty : faults [test] = [test.fault] := by simp [faults, known]
    have failed : test.toExpr = .error test.fault := by
      have other : test.operator ≠ "contains" := by
        intro same
        exact known (same ▸ by decide)
      have none_ : comparisonOp? test.operator = none := by
        rw [← Option.not_isSome_iff_eq_none, comparisonOp?_isSome]
        exact fun listed => known (List.mem_append_left ["contains"] listed)
      rw [toExpr, if_neg other, none_]
      rfl
    rw [failed, faulty]
    exact reports_error test.fault []

end Comparison

namespace Property

/-- The property makes the comparison at the place: parts are numbered, and a conditional makes its
own comparison ahead of those of its values. -/
inductive ComparesAt : Property → List Nat → Comparison → Prop where
  | test {test : Comparison} {yes no : Property} : ComparesAt (.conditional test yes no) [0] test
  | yes {own test : Comparison} {yes no : Property} {place : List Nat} :
    ComparesAt yes place test → ComparesAt (.conditional own yes no) (1 :: place) test
  | no {own test : Comparison} {yes no : Property} {place : List Nat} :
    ComparesAt no place test → ComparesAt (.conditional own yes no) (2 :: place) test
  | part {parts : List Property} {part : Property} {i : Nat} {place : List Nat}
    {test : Comparison} :
    parts[i]? = some part → ComparesAt part place test → ComparesAt (.concat parts) (i :: place) test

/-- The comparison at the place is by an operator that is not known. -/
def UnknownAt (property : Property) (place : List Nat) (test : Comparison) : Prop :=
  property.ComparesAt place test ∧ test.operator ∉ Comparison.operators

mutual

def comparisons : Property → List Comparison
  | .concat parts => allComparisons parts
  | .conditional test yes no => test :: (yes.comparisons ++ no.comparisons)
  | .bound _ _ | .collectionBound _ _ | .auth _ | .state _ | .fixed _ _ => []

def allComparisons : List Property → List Comparison
  | [] => []
  | part :: parts => part.comparisons ++ allComparisons parts

end

theorem allComparisons_eq (parts : List Property) :
    allComparisons parts = parts.flatMap comparisons := by
  induction parts with
  | nil => rw [allComparisons, List.flatMap_nil]
  | cons part parts ih => rw [allComparisons, List.flatMap_cons, ih]

mutual

theorem inOrder_comparisons : (property : Property) →
    ListedInOrder property.ComparesAt property.comparisons
  | .concat parts => by
    rw [comparisons, allComparisons_eq]
    refine (ListedInOrder.flatMap 0 (inOrder_partComparisons parts)).congr fun place test => ⟨?_, ?_⟩
    · rintro ⟨i, part, place, listed, rfl, compares⟩
      exact .part listed compares
    · intro compares
      cases compares with
      | part listed compares => exact ⟨_, _, _, listed, rfl, compares⟩
  | .conditional test yes no => by
    have own : ListedInOrder (fun place other => place = [] ∧ other = test) [test] :=
      ListedInOrder.singleton [] fun _ _ => Iff.rfl
    have whole := (ListedFrom.cons own (.cons (inOrder_comparisons yes)
      ((inOrder_comparisons no).last 2))).inOrder
    rw [comparisons]
    refine whole.congr fun place other => ⟨?_, ?_⟩
    · rintro (⟨_, rfl, rfl, rfl⟩ | ⟨place, rfl, compares⟩ | ⟨place, rfl, compares⟩)
      · exact .test
      · exact .yes compares
      · exact .no compares
    · intro compares
      cases compares with
      | test => exact .inl ⟨_, rfl, rfl, rfl⟩
      | yes compares => exact .inr (.inl ⟨_, rfl, compares⟩)
      | no compares => exact .inr (.inr ⟨_, rfl, compares⟩)
  | .bound _ _ | .collectionBound _ _ | .auth _ | .state _ | .fixed _ _ => by
    simp only [comparisons]
    exact ListedInOrder.nil fun _ _ compares => nomatch compares

theorem inOrder_partComparisons : (parts : List Property) →
    ∀ part ∈ parts, ListedInOrder part.ComparesAt part.comparisons
  | [] => fun _ member => nomatch member
  | part :: parts =>
    List.forall_mem_cons.2 ⟨inOrder_comparisons part, inOrder_partComparisons parts⟩

end

theorem inOrder_unknown (property : Property) : ListedInOrder property.UnknownAt
    (property.comparisons.filter (·.operator ∉ Comparison.operators)) :=
  property.inOrder_comparisons.filter fun test : Comparison => test.operator ∉ Comparison.operators

variable {types : ElementTypes}

mutual

theorem reports_toExpr : (property : Property) →
    Reports (property.toExpr types) (Comparison.faults property.comparisons)
  | .concat parts => by
    rw [toExpr, comparisons]
    exact (reports_toParts parts).bind_pure
  | .conditional test yes no => by
    rw [toExpr, comparisons, ← List.singleton_append, Comparison.faults_append,
      Comparison.faults_append]
    exact test.reports_toExpr.bind fun _ => (reports_toExpr yes).bind fun _ =>
      (reports_toExpr no).bind_pure
  | .bound _ _ | .collectionBound _ _ | .auth _ | .state _ | .fixed _ _ => by
    simp only [toExpr, comparisons]
    exact reports_ok _

theorem reports_toParts : (parts : List Property) →
    Reports (toParts types parts) (Comparison.faults (allComparisons parts))
  | [] => by
    rw [toParts, allComparisons]
    exact reports_ok []
  | part :: parts => by
    have first := reports_toExpr part
    have others := reports_toParts parts
    rw [allComparisons, Comparison.faults_append, toParts.eq_def]
    dsimp only
    split
    · -- The text of a fixed string is copied, and it makes no comparison.
      rw [comparisons]
      exact (reports_ok _).bind fun _ => others.bind_pure
    · exact first.bind fun _ => (reports_ok _).bind fun _ => others.bind_pure

end

/-- A property has no expression exactly if some comparison in it, at whatever depth, is by an
operator that is not known. The error tells the first of them by its subject. -/
theorem toExpr_first_unknown (types : ElementTypes) (property : Property) :
    ((∃ error, property.toExpr types = .error error) ↔
      ∃ place test, property.ComparesAt place test ∧
        test.operator ∉ ["eq", "ne", "lt", "gt", "le", "ge", "contains"]) ∧
    ∀ error, property.toExpr types = .error error ↔
      ∃ test, ComesFirst property.UnknownAt test ∧
        .schema test.subject.property (.unknownOperator test.operator) = error := by
  have reports : Reports (property.toExpr types) (Comparison.faults property.comparisons) :=
    property.reports_toExpr
  have inOrder := property.inOrder_unknown
  constructor
  · rw [← not_succeeds_iff, reports.succeeds_iff, Comparison.faults, List.map_eq_nil_iff,
      inOrder.eq_nil_iff, not_forall]
    simp only [not_forall, not_not]
    rfl
  · intro error
    exact reports.eq_error_map_iff inOrder

/-- A comparison nested in the first value comes ahead of one in the second. -/
example :
    let test (subject operator : String) : Comparison :=
      ⟨⟨subject, none⟩, operator, ⟨.num (.int 0), trivial⟩, none⟩
    let between : Property := .conditional (test "age" "between") (.auth "name") (.auth "email")
    let like : Property := .conditional (test "name" "like") (.auth "name") (.auth "email")
    (Property.concat [.fixed ⟨.str "Hi ", trivial⟩ none,
        .conditional (test "count" "gt") (.concat [between]) like]).toExpr ∅ =
      .error (.schema "age" (.unknownOperator "between")) :=
  rfl

end Property

end JsxGen
