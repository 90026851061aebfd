/-!
Maps that keep their keys in the order of first insertion. `keys_insert` says that a new key goes
last and a known one stays in place; `get?_insert` that the last value counts.
-/

namespace JsxGen

namespace Entries

variable {α : Type}

abbrev keys (entries : List (String × α)) : List String :=
  entries.map Prod.fst

def put (key : String) (value : α) : List (String × α) → List (String × α)
  | [] => [(key, value)]
  | (k, v) :: rest => if k = key then (k, value) :: rest else (k, v) :: put key value rest

theorem keys_put (key : String) (value : α) (entries : List (String × α)) :
    keys (put key value entries) =
      if key ∈ keys entries then keys entries else keys entries ++ [key] := by
  induction entries with
  | nil => simp [put]
  | cons entry rest ih =>
    obtain ⟨k, v⟩ := entry
    by_cases h : k = key
    · simp [put, h]
    · have h' : ¬key = k := fun e => h e.symm
      simp only [put, h, if_false, keys, List.map_cons, List.mem_cons, h', false_or] at ih ⊢
      rw [ih]
      split <;> simp

theorem nodup_put {entries : List (String × α)} (h : (keys entries).Nodup) (key : String)
    (value : α) : (keys (put key value entries)).Nodup := by
  rw [keys_put]
  split
  · exact h
  · rename_i absent
    rw [List.nodup_append]
    refine ⟨h, by simp, ?_⟩
    intro a ha b hb
    rw [List.mem_singleton] at hb
    exact fun e => absent (hb ▸ e ▸ ha)

theorem mem_put {entry : String × α} {key : String} {value : α} {entries : List (String × α)}
    (h : entry ∈ put key value entries) : entry = (key, value) ∨ entry ∈ entries := by
  induction entries with
  | nil => exact .inl (by simpa [put] using h)
  | cons e rest ih =>
    obtain ⟨k, v⟩ := e
    by_cases hk : k = key
    · simp only [put, hk, if_true, List.mem_cons] at h ⊢
      exact h.imp id .inr
    · simp only [put, hk, if_false, List.mem_cons] at h ⊢
      rcases h with h | h
      · exact .inr (.inl h)
      · exact (ih h).imp id .inr

theorem lookup_put (key other : String) (value : α) (entries : List (String × α)) :
    (put key value entries).lookup other =
      if other = key then some value else entries.lookup other := by
  have beq_ne {a b : String} (h : a ≠ b) : (a == b) = false := beq_eq_false_iff_ne.2 h
  induction entries with
  | nil =>
    by_cases h : other = key
    · simp [put, h]
    · simp [put, List.lookup_cons, h, beq_ne h]
  | cons e rest ih =>
    obtain ⟨k, v⟩ := e
    by_cases hk : k = key
    · subst hk
      by_cases h : other = k
      · simp [put, h]
      · simp [put, List.lookup_cons, h, beq_ne h]
    · by_cases h : other = k
      · subst h
        simp [put, hk]
      · simp [put, List.lookup_cons, hk, beq_ne h, ih]

/-- The entries as they are after each is put in turn. -/
def merge (entries : List (String × α)) : List (String × α) :=
  entries.foldl (fun merged entry => put entry.1 entry.2 merged) []

theorem nodup_foldl_put (entries merged : List (String × α)) (h : (keys merged).Nodup) :
    (keys (entries.foldl (fun merged entry => put entry.1 entry.2 merged) merged)).Nodup := by
  induction entries generalizing merged with
  | nil => exact h
  | cons entry rest ih => exact ih _ (nodup_put h _ _)

theorem nodup_merge (entries : List (String × α)) : (keys (merge entries)).Nodup :=
  nodup_foldl_put entries [] .nil

theorem mem_foldl_put {entry : String × α} {entries merged : List (String × α)}
    (h : entry ∈ entries.foldl (fun merged entry => put entry.1 entry.2 merged) merged) :
    entry ∈ merged ∨ entry ∈ entries := by
  induction entries generalizing merged with
  | nil => exact .inl h
  | cons e rest ih =>
    rcases ih h with h | h
    · rcases mem_put h with h | h
      · exact .inr (h ▸ .head _)
      · exact .inl h
    · exact .inr (.tail _ h)

theorem mem_of_mem_merge {entry : String × α} {entries : List (String × α)}
    (h : entry ∈ merge entries) : entry ∈ entries :=
  (mem_foldl_put h).resolve_left (by simp)

end Entries

structure OrderedMap (α : Type) where
  entries : List (String × α)
  nodup : (Entries.keys entries).Nodup

namespace OrderedMap

variable {α β : Type}

@[ext] theorem ext {a b : OrderedMap α} (h : a.entries = b.entries) : a = b := by
  cases a; cases b; cases h; rfl

instance [DecidableEq α] : DecidableEq (OrderedMap α) := fun a b =>
  decidable_of_iff (a.entries = b.entries) ⟨ext, fun h => h ▸ rfl⟩

def empty : OrderedMap α := ⟨[], .nil⟩

instance : EmptyCollection (OrderedMap α) := ⟨empty⟩
instance : Inhabited (OrderedMap α) := ⟨empty⟩

def keys (m : OrderedMap α) : List String :=
  Entries.keys m.entries

def values (m : OrderedMap α) : List α :=
  m.entries.map Prod.snd

def get? (m : OrderedMap α) (key : String) : Option α :=
  m.entries.lookup key

def contains (m : OrderedMap α) (key : String) : Bool :=
  m.keys.contains key

def insert (m : OrderedMap α) (key : String) (value : α) : OrderedMap α :=
  ⟨Entries.put key value m.entries, Entries.nodup_put m.nodup key value⟩

def erase (m : OrderedMap α) (key : String) : OrderedMap α :=
  ⟨m.entries.filter (·.1 ≠ key), m.nodup.sublist (List.filter_sublist.map _)⟩

def ofList (entries : List (String × α)) : OrderedMap α :=
  ⟨Entries.merge entries, Entries.nodup_merge entries⟩

def map (f : α → β) (m : OrderedMap α) : OrderedMap β :=
  ⟨m.entries.map fun entry => (entry.1, f entry.2), by
    have h := m.nodup
    simpa [Entries.keys, Function.comp_def] using h⟩

@[simp] theorem keys_insert (m : OrderedMap α) (key : String) (value : α) :
    (m.insert key value).keys = if key ∈ m.keys then m.keys else m.keys ++ [key] :=
  Entries.keys_put key value m.entries

@[simp] theorem get?_insert (m : OrderedMap α) (key other : String) (value : α) :
    (m.insert key value).get? other = if other = key then some value else m.get? other :=
  Entries.lookup_put key other value m.entries

end OrderedMap

end JsxGen
