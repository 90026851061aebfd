import JsxGen.Json.Fields
import JsxGen.Proofs.OrderedMap
import JsxGen.Proofs.Outcome

/-! What is known of a value that was decoded: each of its fields was read from a part of the document. -/

namespace JsxGen

open Document

namespace Fields

variable {whole : Document} {α β : Type}

/-- From some members or items, the record is read as the value. -/
inductive Gives (record : Fields whole α) (a : α) : Prop where
  | members {members : List (PlacedMember whole)} {total : Nat} :
    record.ofMembers members total = .ok a → Gives record a
  | items {items more : List (Part whole)} {close : Option Flaw} :
    record.ofItems items close = .ok (a, more) → Gives record a

theorem both_eq_ok {f : Except PlacedError (α → β)} {x : Except PlacedError α} {b : β} :
    both f x = .ok b ↔ ∃ g a, f = .ok g ∧ x = .ok a ∧ g a = b := by
  cases f <;> cases x <;> simp [both]

theorem Gives.seq {f : Fields whole (α → β)} {x : Fields whole α} {b : β}
    (given : (f <*> x).Gives b) : ∃ g a, f.Gives g ∧ x.Gives a ∧ g a = b := by
  cases given with
  | members read =>
    obtain ⟨g, a, first, second, rfl⟩ := both_eq_ok.1 read
    exact ⟨g, a, .members first, .members second, rfl⟩
  | items read =>
    obtain ⟨⟨g, items⟩, first, read⟩ := bind_eq_ok.1 read
    obtain ⟨⟨a, more⟩, second, read⟩ := bind_eq_ok.1 read
    cases read
    exact ⟨g, a, .items first, .items second, rfl⟩

theorem Gives.map {f : α → β} {x : Fields whole α} {b : β} (given : (f <$> x).Gives b) :
    ∃ a, x.Gives a ∧ f a = b := by
  obtain ⟨g, a, same, read, rfl⟩ := Gives.seq given
  have known : g = f := by
    cases same with
    | members read => exact (Except.ok.inj read).symm
    | items read => exact (Prod.mk.inj (Except.ok.inj read)).1.symm
  exact ⟨a, read, by rw [known]⟩

/-- A field is absent, or its value was decoded. -/
theorem Gives.field {name : String} {absent : Option α} {value : Part whole → Decoded α} {a : α}
    (given : (field name absent value).Gives a) : absent = some a ∨ ∃ part, value part = .ok a := by
  cases given with
  | @members members total read =>
    unfold Fields.field at read
    dsimp only at read
    split at read
    · split at read
      · exact .inl (congrArg some (Except.ok.inj read))
      · cases read
    · split at read
      · cases read
      · rename_i found
        split at read
        · cases read
          exact .inr ⟨_, found⟩
        · cases read
  | @items items more close read =>
    unfold Fields.field at read
    dsimp only at read
    split at read
    · obtain ⟨b, found, same⟩ := map_eq_ok.1 read
      cases same
      exact .inr ⟨_, found⟩
    · cases read
    · split at read
      · cases read
        exact .inl rfl
      · cases read

theorem Gives.optional {name : String} {value : Part whole → Decoded α} {a : α}
    (given : (optional name value).Gives (some a)) :
    ∃ part, part.1 ≠ .null ∧ value part = .ok a := by
  obtain same | ⟨part, found⟩ := Gives.field given
  · cases same
  · unfold Document.option at found
    split at found
    · cases found
    · rename_i other
      obtain ⟨b, found, same⟩ := map_eq_ok.1 found
      cases same
      exact ⟨part, other, found⟩

end Fields

theorem Document.record_gives {α : Type} {document : Document} {reading : Reading}
    {fields : Fields document α} {a : α} (decoded : document.record reading fields = .ok a) :
    fields.Gives a := by
  unfold record at decoded
  split at decoded
  · dsimp only at decoded
    split at decoded
    · rename_i read
      cases decoded
      exact .members read
    all_goals cases decoded
  · obtain ⟨⟨b, more⟩, read, decoded⟩ := bind_eq_ok.1 decoded
    dsimp only at decoded
    split at decoded
    · obtain ⟨_, _, decoded⟩ := bind_eq_ok.1 decoded
      cases decoded
      exact .items read
    · cases reading <;> cases decoded
  · cases decoded
  · unfold mismatch at decoded
    split at decoded <;> cases decoded

/-- Each value of a decoded map was decoded from a part of the document. -/
theorem Document.exists_of_map {α : Type} {document : Document}
    {value : Part document → Decoded α} {m : OrderedMap α} (decoded : document.map value = .ok m)
    {a : α} (member : a ∈ m.values) : ∃ part, value part = .ok a := by
  unfold map at decoded
  split at decoded
  · obtain ⟨entries, read, decoded⟩ := bind_eq_ok.1 decoded
    obtain ⟨_, _, decoded⟩ := bind_eq_ok.1 decoded
    cases decoded
    obtain ⟨entry, listed, rfl⟩ := List.mem_map.1 member
    obtain ⟨⟨key, part⟩, _, found⟩ :=
      exists_source (mapM_eq_ok.1 read) (Entries.mem_of_mem_merge listed)
    cases key with
    | none => cases found
    | some key =>
      rw [readMember] at found
      obtain ⟨b, held, rfl⟩ := map_eq_ok.1 found
      exact ⟨part, held⟩
  · cases decoded
  · unfold mismatch at decoded
    split at decoded <;> cases decoded

end JsxGen
