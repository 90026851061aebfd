import JsxGen.Proofs.Js.Identifiers
import JsxGen.Proofs.Names
import JsxGen.Proofs.NestedCopy

/-!
The call that sets a form field, for every name. `setField_nests` gives its setter and the levels of
its argument; `setField_identifiers_iff` says which names are written in it as they are, and when
all of them are identifiers.
-/

namespace JsxGen

open Js Text

theorem splitDots_eq (cs : List Char) : fieldPath.splitDots cs = cs.splitOn '.' := by
  induction cs with
  | nil => rfl
  | cons c cs ih =>
    obtain ⟨part, parts, split⟩ := List.exists_cons_of_ne_nil (List.splitOn_ne_nil '.' cs)
    rw [split] at ih
    simp only [fieldPath.splitDots, ih, List.splitOn_cons_eq_if_modifyHead, split, beq_iff_eq,
      List.modifyHead_cons]

theorem length_splitDots (cs : List Char) :
    (fieldPath.splitDots cs).length = cs.count '.' + 1 := by
  rw [splitDots_eq]
  induction cs with
  | nil => rfl
  | cons c cs ih =>
    rw [List.splitOn_cons_eq_if_modifyHead, List.count_cons]
    split
    · rw [List.length_cons, ih]
    · rw [List.length_modifyHead, ih, Nat.add_zero]

theorem intercalate_fieldPath (name : String) : ".".intercalate (fieldPath name) = name := by
  apply String.toList_injective
  rw [String.toList_intercalate, fieldPath, List.map_map, splitDots_eq]
  have same : String.toList ∘ String.ofList = id := funext fun cs => String.toList_ofList
  rw [same, List.map_id]
  exact List.intercalate_splitOn '.'

/-- There is one part more than there are dots. -/
theorem exists_fieldPath (name : String) :
    ∃ first rest, fieldPath name = first :: rest ∧ rest.length = name.toList.count '.' := by
  have length : (fieldPath name).length = name.toList.count '.' + 1 := by
    rw [fieldPath, List.length_map, length_splitDots]
  obtain ⟨first, rest, split⟩ := List.exists_cons_of_length_eq_add_one length
  rw [split, List.length_cons] at length
  exact ⟨first, rest, split, Nat.succ.inj length⟩

/-- The first part of the name is the setter's and the root of all levels, and each of the others is
the key of one level. -/
theorem setField_eq {name first : String} {rest : List String}
    (split : fieldPath name = first :: rest) (value : Expr) :
    setField name value =
      .ok (.call (.ident (fieldSetter first)) [nest (copyLevels first [] rest) value]) := by
  cases rest with
  | nil =>
    simp only [setField, split]
    rfl
  | cons key keys =>
    have long : ¬(first :: key :: keys).length < 2 := by simp
    have update : nestedUpdate (first :: key :: keys) [first] value =
        .ok (nest (copyLevels first [] (key :: keys)) value) := by
      rw [nestedUpdate_ok value rfl (by simp), nestedCopy_eq]
      rfl
    simp only [setField, split, if_neg long, List.take_succ_cons, List.take_zero, update]
    rfl

/-- For a name without dots there are no levels, and the value is what is set. -/
theorem setField_nests (name : String) (value : Expr) :
    ∃ first levels,
      setField name value = .ok (.call (.ident (fieldSetter first)) [nest levels value]) ∧
      isIdentifier (fieldSetter first) ∧
      levels.length = name.toList.count '.' ∧
      ".".intercalate (first :: levels.map (·.key.text)) = name ∧
      ∀ outer ∈ levels.head?, outer.source = .ident first := by
  obtain ⟨first, rest, split, dots⟩ := exists_fieldPath name
  refine ⟨first, _, setField_eq split value, isIdentifier_fieldSetter first, ?_, ?_, ?_⟩
  · rw [length_copyLevels, dots]
  · rw [texts_copyLevels, ← split, intercalate_fieldPath]
  · intro outer first?
    rw [List.head?_eq_getElem?] at first?
    rw [source_of_copyLevels first?]
    rfl

/-- Parts that are empty are kept. -/
example (value : Expr) : setField ".a" value =
    .ok (.call (.ident "set") [.inline [.spread (.ident ""), .ofString "a" value]]) :=
  setField_eq (show fieldPath ".a" = ["", "a"] by decide) value

section identifiers

def CopyLevel.identifiers (level : CopyLevel) : List String :=
  level.source.identifiers ++ level.key.identifiers

theorem identifiers_nest (levels : List CopyLevel) (leaf : Expr) :
    (nest levels leaf).identifiers = levels.flatMap CopyLevel.identifiers ++ leaf.identifiers := by
  induction levels with
  | nil => rfl
  | cons level levels ih =>
    calc (nest (level :: levels) leaf).identifiers
        = level.source.identifiers ++
            (level.key.identifiers ++ (nest levels leaf).identifiers ++ []) := by
          simp only [nest, List.foldr_cons, CopyLevel.around, Expr.identifiers,
            Member.identifiersAll, Member.identifiers]
      _ = (level :: levels).flatMap CopyLevel.identifiers ++ leaf.identifiers := by
          rw [ih, List.flatMap_cons, CopyLevel.identifiers]
          simp only [List.append_nil, List.append_assoc]

/-- What is written at the levels is the root, once at each, and names that are identifiers. -/
theorem mem_identifiers_copyLevels {root : String} {fields keys : List String} {name : String}
    (member : name ∈ (copyLevels root fields keys).flatMap CopyLevel.identifiers) :
    isIdentifier name ∨ name = root := by
  obtain ⟨level, listed, written⟩ := List.mem_flatMap.1 member
  obtain ⟨i, at_⟩ := List.mem_iff_getElem?.1 listed
  rw [CopyLevel.identifiers, source_of_copyLevels at_, Expr.identifiers_path,
    Key.eq_ofString (bare_of_mem_copyLevels listed), Key.identifiers_ofString, List.mem_append,
    List.mem_cons] at written
  rcases written with (root | field) | key
  · exact .inr root
  · exact .inl (List.mem_filter.1 field).2
  · exact .inl (List.mem_filter.1 key).2

theorem identifiers_copyLevels_iff {root : String} {fields keys : List String} :
    (∀ name ∈ (copyLevels root fields keys).flatMap CopyLevel.identifiers, isIdentifier name) ↔
      (keys ≠ [] → isIdentifier root) := by
  constructor
  · intro all some
    obtain ⟨key, keys, rfl⟩ := List.exists_cons_of_ne_nil some
    apply all
    rw [copyLevels, List.flatMap_cons, CopyLevel.identifiers, Expr.identifiers_path]
    exact List.mem_append_left _ (List.mem_append_left _ List.mem_cons_self)
  · intro known name member
    have some : keys ≠ [] := by
      rintro rfl
      cases member
    rcases mem_identifiers_copyLevels member with identifier | rfl
    · exact identifier
    · exact known some

end identifiers

/-- Outside of the value, all that is written is an identifier but for the part ahead of the first
dot, which is the root of every level. -/
theorem setField_identifiers_iff (name : String) :
    ∃ first rest names, fieldPath name = first :: rest ∧
      (∀ value, ∃ call, setField name value = .ok call ∧
        call.identifiers = names ++ value.identifiers) ∧
      (∀ written ∈ names, isIdentifier written ∨ written = first) ∧
      ((∀ written ∈ names, isIdentifier written) ↔ ('.' ∈ name.toList → isIdentifier first)) := by
  obtain ⟨first, rest, split, dots⟩ := exists_fieldPath name
  have setter := isIdentifier_fieldSetter first
  have dotted : '.' ∈ name.toList ↔ rest ≠ [] := by
    rw [← List.count_pos_iff, ← dots, List.length_pos_iff]
  refine ⟨first, rest, fieldSetter first ::
    (copyLevels first [] rest).flatMap CopyLevel.identifiers, split, ?_, ?_, ?_⟩
  · intro value
    refine ⟨_, setField_eq split value, ?_⟩
    simp only [Expr.identifiers, Expr.identifiersAll, identifiers_nest, List.append_nil,
      List.cons_append, List.nil_append]
  · intro written member
    rcases List.mem_cons.1 member with rfl | member
    · exact .inl setter
    · exact mem_identifiers_copyLevels member
  · rw [List.forall_mem_cons, and_iff_right setter, identifiers_copyLevels_iff, dotted]

/-- The setter leaves the hyphen out; the copy reads a variable with the hyphen in its name. -/
theorem hyphen_in_root :
    ∃ call, setField "my-field.genus" (.ident "value") = .ok call ∧
      call = .call (.ident "setMyfield")
        [.inline [.spread (.ident "my-field"), .ofString "genus" (.ident "value")]] ∧
      call.identifiers = ["setMyfield", "my-field", "genus"] ++ (Expr.ident "value").identifiers ∧
      isIdentifier "my-field" = false := by
  have split : fieldPath "my-field.genus" = ["my-field", "genus"] := by decide
  have setter : fieldSetter "my-field" = "setMyfield" := by decide
  have key : Key.ofString "genus" = .bare "genus" := by decide
  have made := setField_eq split (.ident "value")
  rw [setter] at made
  refine ⟨_, made, rfl, ?_, by decide⟩
  simp only [Expr.identifiers, Expr.identifiersAll, identifiers_nest, copyLevels,
    List.flatMap_cons, List.flatMap_nil, CopyLevel.identifiers, key, Key.identifiers,
    Expr.identifiers_path, List.filter_nil, List.append_nil, List.cons_append,
    List.nil_append]

end JsxGen
