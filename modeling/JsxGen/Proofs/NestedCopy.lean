import JsxGen.Proofs.FieldUpdate

/-!
The shape of a nested update, told from the outside in. Every level is an object that spreads a
record and sets one key of the copy; `nestedUpdate_outcome` says for every path and stem which
levels there are, or which error is given.
-/

namespace JsxGen

open Js
open Text (isIdentifier)

/-- The expression reads what the names lead to: the variable of the first name, then a field for
each of the others, by index where the name is no identifier. -/
inductive Js.Expr.ReadsAlong : List String → Expr → Prop where
  | variable_ {name : String} : ReadsAlong [name] (.ident name)
  | member {names : List String} {name : String} {object : Expr} :
    isIdentifier name → ReadsAlong names object →
      ReadsAlong (names ++ [name]) (.member object name false)
  | index {names : List String} {name : String} {object : Expr} :
    ¬isIdentifier name → ReadsAlong names object →
      ReadsAlong (names ++ [name]) (.index object (.str name) false)

namespace Js.Expr

variable {names fields : List String} {object e : Expr} {name : String}

theorem ReadsAlong.field (reads : object.ReadsAlong names) (name : String) :
    (object.field name).ReadsAlong (names ++ [name]) := by
  unfold Expr.field
  split
  · rename_i identifier
    exact .member identifier reads
  · rename_i other
    exact .index other reads

theorem ReadsAlong.foldl_field (reads : object.ReadsAlong names) :
    (fields.foldl Expr.field object).ReadsAlong (names ++ fields) := by
  induction fields generalizing object names with
  | nil => rwa [List.foldl_nil, List.append_nil]
  | cons name fields ih =>
    rw [List.append_cons]
    exact ih (reads.field name)

theorem readsAlong_path (root : String) (fields : List String) :
    (path root fields).ReadsAlong (root :: fields) :=
  ReadsAlong.variable_.foldl_field

theorem path_concat (root : String) (fields : List String) (name : String) :
    path root (fields ++ [name]) = (path root fields).field name := by
  rw [path, List.foldl_append]
  rfl

/-- There is one way to read along the names. -/
theorem ReadsAlong.eq_path (reads : e.ReadsAlong names) :
    ∃ root fields, names = root :: fields ∧ e = path root fields := by
  induction reads with
  | variable_ => exact ⟨_, [], rfl, rfl⟩
  | @member _ name _ identifier _ ih =>
    obtain ⟨root, fields, rfl, rfl⟩ := ih
    exact ⟨root, fields ++ [name], rfl, by rw [path_concat, Expr.field, if_pos identifier]⟩
  | @index _ name _ other _ ih =>
    obtain ⟨root, fields, rfl, rfl⟩ := ih
    exact ⟨root, fields ++ [name], rfl, by rw [path_concat, Expr.field, if_neg other]⟩

end Js.Expr

/-- The record that is spread at one level, and the key that is set in its copy. -/
@[ext]
structure CopyLevel where
  source : Expr
  key : Key

def CopyLevel.around (level : CopyLevel) (inner : Expr) : Expr :=
  .object [.spread level.source, .property level.key inner] false

/-- Each level holds the next one under its key, and the last one holds the leaf. -/
def nest (levels : List CopyLevel) (leaf : Expr) : Expr :=
  levels.foldr CopyLevel.around leaf

/-- There is a level for each key of the path below the stem, which is written without quotes if it
is an identifier. It spreads the record that the stem and the keys of the levels around it lead to. -/
structure LevelsBelow (stem path : List String) (levels : List CopyLevel) : Prop where
  length : levels.length = path.length - stem.length
  key : ∀ i level, levels[i]? = some level → path[stem.length + i]? = some level.key.text
  bare : ∀ level ∈ levels, (∃ name, level.key = .bare name) ↔ isIdentifier level.key.text
  source : ∀ i (level : CopyLevel), levels[i]? = some level →
    level.source.ReadsAlong (stem ++ (path.drop stem.length).take i)

theorem LevelsBelow.unique {stem path : List String} {levels others : List CopyLevel}
    (first : LevelsBelow stem path levels) (second : LevelsBelow stem path others) :
    levels = others := by
  apply List.ext_getElem (first.length.trans second.length.symm)
  intro i inFirst inSecond
  have one : levels[i]? = some levels[i] := List.getElem?_eq_getElem inFirst
  have two : others[i]? = some others[i] := List.getElem?_eq_getElem inSecond
  have sameText : levels[i].key.text = others[i].key.text :=
    Option.some.inj ((first.key i _ one).symm.trans (second.key i _ two))
  have sameKey : levels[i].key = others[i].key := by
    rw [Key.eq_ofString (first.bare _ (List.getElem_mem inFirst)),
      Key.eq_ofString (second.bare _ (List.getElem_mem inSecond)), sameText]
  obtain ⟨root, fields, along, source⟩ := (first.source i _ one).eq_path
  obtain ⟨root', fields', along', source'⟩ := (second.source i _ two).eq_path
  obtain ⟨rfl, rfl⟩ := List.cons.inj (along.symm.trans along')
  exact CopyLevel.ext (source.trans source'.symm) sameKey

/-- The levels of a copy of the record at `fields` in `root`, changed along the keys. -/
def copyLevels (root : String) : List String → List String → List CopyLevel
  | _, [] => []
  | fields, key :: keys =>
    ⟨.path root fields, .ofString key⟩ :: copyLevels root (fields ++ [key]) keys

section copyLevels

variable (root : String) (fields keys : List String)

theorem nestedCopy_eq (leaf : Expr) :
    nestedCopy root fields leaf keys = nest (copyLevels root fields keys) leaf := by
  induction keys generalizing fields with
  | nil => rfl
  | cons key keys ih =>
    rw [nestedCopy, ih, copyLevels]
    rfl

theorem keys_copyLevels : (copyLevels root fields keys).map CopyLevel.key = keys.map .ofString := by
  induction keys generalizing fields with
  | nil => rfl
  | cons key keys ih => rw [copyLevels, List.map_cons, ih, List.map_cons]

theorem texts_copyLevels : (copyLevels root fields keys).map (·.key.text) = keys := by
  calc (copyLevels root fields keys).map (·.key.text)
      = ((copyLevels root fields keys).map CopyLevel.key).map Key.text := by rw [List.map_map]; rfl
    _ = keys.map (Key.text ∘ Key.ofString) := by rw [keys_copyLevels, List.map_map]
    _ = keys := by rw [funext (f := Key.text ∘ Key.ofString) Key.text_ofString, List.map_id']

theorem length_copyLevels : (copyLevels root fields keys).length = keys.length := by
  have same := congrArg List.length (keys_copyLevels root fields keys)
  rwa [List.length_map, List.length_map] at same

variable {root fields keys} {i : Nat} {level : CopyLevel}

theorem key_of_copyLevels (listed : (copyLevels root fields keys)[i]? = some level) :
    keys[i]? = some level.key.text := by
  calc keys[i]?
      = ((copyLevels root fields keys).map (·.key.text))[i]? := by rw [texts_copyLevels]
    _ = some level.key.text := by rw [List.getElem?_map, listed, Option.map_some]

theorem bare_of_mem_copyLevels (member : level ∈ copyLevels root fields keys) :
    (∃ name, level.key = .bare name) ↔ isIdentifier level.key.text := by
  have written := List.mem_map_of_mem (f := CopyLevel.key) member
  rw [keys_copyLevels] at written
  obtain ⟨key, _, same⟩ := List.mem_map.1 written
  rw [← same, Key.text_ofString]
  exact Key.bare_ofString_iff key

theorem source_of_copyLevels (listed : (copyLevels root fields keys)[i]? = some level) :
    level.source = .path root (fields ++ keys.take i) := by
  induction keys generalizing fields i with
  | nil => cases listed
  | cons key keys ih =>
    rw [copyLevels] at listed
    cases i with
    | zero =>
      cases listed
      rw [List.take_zero, List.append_nil]
    | succ i =>
      rw [List.getElem?_cons_succ] at listed
      rw [ih listed, List.take_succ_cons, List.append_assoc, List.singleton_append]

end copyLevels

theorem levelsBelow_copyLevels (root : String) (fields path : List String) :
    LevelsBelow (root :: fields) path
      (copyLevels root fields (path.drop (root :: fields).length)) where
  length := by rw [length_copyLevels, List.length_drop]
  key := by
    intro i level listed
    rw [← List.getElem?_drop]
    exact key_of_copyLevels listed
  bare := fun _ => bare_of_mem_copyLevels
  source := by
    intro i level listed
    rw [source_of_copyLevels listed]
    exact Expr.readsAlong_path root _

section nestedUpdate

variable {path stem : List String} (leaf : Expr)

theorem nestedUpdate_of_short (short : path.length < 2) :
    nestedUpdate path stem leaf = .error (.pathTooShort path) :=
  if_pos short

theorem nestedUpdate_of_badStem (long : 2 ≤ path.length)
    (bad : stem = [] ∨ path.length ≤ stem.length) :
    nestedUpdate path stem leaf = .error (.badStem stem path) := by
  cases stem with
  | nil => exact if_neg (Nat.not_lt.2 long)
  | cons root fields =>
    have covered := bad.resolve_left (List.cons_ne_nil root fields)
    simp only [nestedUpdate, if_neg (Nat.not_lt.2 long), if_neg (Nat.not_lt.2 covered)]

theorem exists_nestedUpdate (nonempty : stem ≠ []) (shorter : stem.length < path.length) :
    ∃ levels, LevelsBelow stem path levels ∧
      nestedUpdate path stem leaf = .ok (nest levels leaf) := by
  obtain ⟨root, fields, rfl⟩ := List.exists_cons_of_ne_nil nonempty
  refine ⟨_, levelsBelow_copyLevels root fields path, ?_⟩
  rw [nestedUpdate_ok leaf rfl shorter, nestedCopy_eq]

theorem nestedUpdate_eq_error_iff {error : InputError} :
    nestedUpdate path stem leaf = .error error ↔
      path.length < 2 ∧ error = .pathTooShort path ∨
        2 ≤ path.length ∧ (stem = [] ∨ path.length ≤ stem.length) ∧
          error = .badStem stem path := by
  constructor
  · intro failed
    by_cases short : path.length < 2
    · rw [nestedUpdate_of_short leaf short] at failed
      exact .inl ⟨short, (Except.error.inj failed).symm⟩
    · have long : 2 ≤ path.length := Nat.not_lt.1 short
      by_cases bad : stem = [] ∨ path.length ≤ stem.length
      · rw [nestedUpdate_of_badStem leaf long bad] at failed
        exact .inr ⟨long, bad, (Except.error.inj failed).symm⟩
      · rw [not_or, Nat.not_le] at bad
        obtain ⟨levels, _, made⟩ := exists_nestedUpdate leaf bad.1 bad.2
        rw [made] at failed
        cases failed
  · rintro (⟨short, rfl⟩ | ⟨long, bad, rfl⟩)
    · exact nestedUpdate_of_short leaf short
    · exact nestedUpdate_of_badStem leaf long bad

theorem nestedUpdate_eq_ok_iff {update : Expr} :
    nestedUpdate path stem leaf = .ok update ↔
      2 ≤ path.length ∧ stem ≠ [] ∧ stem.length < path.length ∧
        ∃ levels, LevelsBelow stem path levels ∧ update = nest levels leaf := by
  constructor
  · intro made
    have long : ¬path.length < 2 := by
      intro short
      rw [nestedUpdate_of_short leaf short] at made
      cases made
    have good : ¬(stem = [] ∨ path.length ≤ stem.length) := by
      intro bad
      rw [nestedUpdate_of_badStem leaf (Nat.not_lt.1 long) bad] at made
      cases made
    rw [not_or, Nat.not_le] at good
    obtain ⟨levels, below, same⟩ := exists_nestedUpdate leaf good.1 good.2
    rw [same] at made
    exact ⟨Nat.not_lt.1 long, good.1, good.2, levels, below, (Except.ok.inj made).symm⟩
  · rintro ⟨_, nonempty, shorter, levels, below, rfl⟩
    obtain ⟨others, same, made⟩ := exists_nestedUpdate leaf nonempty shorter
    rw [made, same.unique below]

end nestedUpdate

/-- A path of fewer than two names is refused first, then a stem that leaves nothing of it to set.
Any other stem and path give the levels between them, around the leaf as it is. -/
theorem nestedUpdate_outcome (path stem : List String) (leaf : Expr) :
    (∀ error, nestedUpdate path stem leaf = .error error ↔
      path.length < 2 ∧ error = .pathTooShort path ∨
        2 ≤ path.length ∧ (stem = [] ∨ path.length ≤ stem.length) ∧
          error = .badStem stem path) ∧
    ∀ update, nestedUpdate path stem leaf = .ok update ↔
      2 ≤ path.length ∧ stem ≠ [] ∧ stem.length < path.length ∧
        ∃ levels, LevelsBelow stem path levels ∧ update = nest levels leaf :=
  ⟨fun _ => nestedUpdate_eq_error_iff leaf, fun _ => nestedUpdate_eq_ok_iff leaf⟩

end JsxGen
