import JsxGen.OrderedMap
import Mathlib.Data.List.Nodup

/-!
The keys of a map made of entries, and what a look-up says about the entries: `keys_ofList` lists
each key once, and `get?_ofList` gives the last value of a key.
-/

namespace JsxGen

namespace Entries

variable {α : Type}

/-- Keys that are put in turn come after those that are there, each once. -/
theorem keys_foldl_put (entries merged : List (String × α)) :
    keys (entries.foldl (fun merged entry => put entry.1 entry.2 merged) merged) =
      keys merged ++ ((keys entries).removeAll (keys merged)).eraseDups := by
  induction entries generalizing merged with
  | nil => simp [List.removeAll]
  | cons entry entries ih =>
    have split : keys (entry :: entries) = entry.1 :: keys entries := List.map_cons
    rw [List.foldl_cons, ih, keys_put, split, List.cons_removeAll]
    by_cases known : entry.1 ∈ keys merged
    · rw [if_pos known, if_neg]
      simpa using known
    · have rest : (keys entries).removeAll (keys merged ++ [entry.1]) =
          ((keys entries).removeAll (keys merged)).filter fun key => !key == entry.1 := by
        rw [List.removeAll, List.removeAll, List.filter_filter]
        apply List.filter_congr
        intro key _
        rw [Bool.eq_iff_iff]
        simp [and_comm]
      rw [if_neg known, if_pos, List.eraseDups_cons, rest, List.append_assoc, List.singleton_append]
      simpa using known

theorem lookup_foldl_put {key : String} {entries merged : List (String × α)}
    (absent : key ∉ keys entries) :
    (entries.foldl (fun merged entry => put entry.1 entry.2 merged) merged).lookup key =
      merged.lookup key := by
  induction entries generalizing merged with
  | nil => rfl
  | cons entry entries ih =>
    rw [keys, List.map_cons, List.mem_cons, not_or] at absent
    rw [List.foldl_cons, ih absent.2, lookup_put, if_neg absent.1]

theorem put_of_absent {key : String} {value : α} {entries : List (String × α)}
    (absent : key ∉ keys entries) : put key value entries = entries ++ [(key, value)] := by
  induction entries with
  | nil => rfl
  | cons entry rest ih =>
    rw [keys, List.map_cons, List.mem_cons, not_or] at absent
    rw [put, if_neg (Ne.symm absent.1), ih absent.2, List.cons_append]

theorem foldl_put_of_nodup {entries merged : List (String × α)}
    (once : (keys (merged ++ entries)).Nodup) :
    entries.foldl (fun merged entry => put entry.1 entry.2 merged) merged = merged ++ entries := by
  induction entries generalizing merged with
  | nil => rw [List.foldl_nil, List.append_nil]
  | cons entry rest ih =>
    have split : merged ++ entry :: rest = merged ++ [entry] ++ rest := by
      rw [List.append_assoc, List.singleton_append]
    have absent : entry.1 ∉ keys merged := fun known => by
      rw [keys, List.map_append, List.nodup_append] at once
      exact once.2.2 _ known _ List.mem_cons_self rfl
    rw [List.foldl_cons, put_of_absent absent, split]
    rw [split] at once
    exact ih once

/-- Entries whose keys are distinct stay as they are. -/
theorem merge_of_nodup {entries : List (String × α)} (once : (keys entries).Nodup) :
    merge entries = entries :=
  foldl_put_of_nodup once

end Entries

namespace OrderedMap

variable {α : Type}

theorem map_eq_self_iff {f : α → α} {m : OrderedMap α} :
    m.map f = m ↔ ∀ a ∈ m.values, f a = a := by
  have same : m.map f = m ↔ m.entries.map (fun entry => (entry.1, f entry.2)) = m.entries :=
    ⟨congrArg entries, fun same => ext (show (m.map f).entries = m.entries from same)⟩
  rw [same, values, List.forall_mem_map]
  induction m.entries with
  | nil => simp
  | cons entry entries ih =>
    rw [List.map_cons, List.cons.injEq, List.forall_mem_cons, Prod.ext_iff]
    exact and_congr (and_iff_right rfl) ih

theorem ofList_entries (m : OrderedMap α) : ofList m.entries = m :=
  ext (Entries.merge_of_nodup m.nodup)

theorem mem_of_get? {m : OrderedMap α} {key : String} {value : α}
    (found : m.get? key = some value) : (key, value) ∈ m.entries := by
  rcases List.lookup_eq_some_iff.1 found with ⟨before, after, split, _⟩
  rw [split]
  exact List.mem_append_right _ List.mem_cons_self

theorem exists_get? {m : OrderedMap α} {key : String}
    (known : key ∈ m.keys) : ∃ value, m.get? key = some value := by
  cases found : m.get? key with
  | some value => exact ⟨value, rfl⟩
  | none =>
    rcases List.mem_map.1 known with ⟨entry, member, rfl⟩
    have absent := List.lookup_eq_none_iff.1 found entry member
    simp at absent

theorem get?_eq_none {m : OrderedMap α} {key : String} : m.get? key = none ↔ key ∉ m.keys := by
  constructor
  · intro absent known
    rcases exists_get? known with ⟨value, found⟩
    rw [absent] at found
    cases found
  · intro absent
    cases found : m.get? key with
    | none => rfl
    | some value => exact absurd (List.mem_map_of_mem (mem_of_get? found)) absent

theorem get?_of_mem {m : OrderedMap α} {key : String} {value : α}
    (member : (key, value) ∈ m.entries) : m.get? key = some value := by
  have known : key ∈ m.keys := List.mem_map_of_mem (f := Prod.fst) member
  rcases exists_get? known with ⟨other, found⟩
  have same := List.inj_on_of_nodup_map m.nodup (mem_of_get? found) member rfl
  cases same
  exact found

theorem keys_ofList (entries : List (String × α)) :
    (ofList entries).keys = (Entries.keys entries).eraseDups := by
  calc (ofList entries).keys
      = [] ++ ((Entries.keys entries).removeAll []).eraseDups :=
        Entries.keys_foldl_put entries []
    _ = (Entries.keys entries).eraseDups := by
        rw [List.nil_append, List.removeAll_nil]

theorem mem_keys_ofList (key : String) (entries : List (String × α)) :
    key ∈ (ofList entries).keys ↔ key ∈ Entries.keys entries := by
  rw [keys_ofList, List.mem_eraseDups]

/-- Of several entries with one key, the last counts. -/
theorem get?_ofList {key : String} {value : α} {before after : List (String × α)}
    (absent : key ∉ Entries.keys after) :
    (ofList (before ++ (key, value) :: after)).get? key = some value := by
  change (Entries.merge _).lookup key = some value
  rw [Entries.merge, List.foldl_append, List.foldl_cons, Entries.lookup_foldl_put absent,
    Entries.lookup_put, if_pos rfl]

end OrderedMap

end JsxGen
