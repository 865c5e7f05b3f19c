import TermDictionary.Term.Id

/-!
# The table of one kind

A dictionary keeps the terms of each kind in a table of its own: the records with their
ids, in the order they arrived, and the value that the next new record will receive. The
table never forgets a record, so both look-ups, the id of a record and the record of an id,
are read off the same list of entries. Before a record is pushed, the table asks the memory
allocator for room, and the allocator may refuse (`Allocation`).
-/

namespace TermDictionary

/-- What the memory allocator answers when the region of a table asks for room for one more
record. The allocator is outside the dictionary: an insertion is given its answer. -/
inductive Allocation where
  /-- Room was made, so pushing the record cannot fail. -/
  | granted
  /-- The allocator refused. -/
  | denied
deriving DecidableEq

/-- The records of one kind, each with its id, in order of arrival, and the next value. -/
structure KindTable (α : Type) where
  /-- The entries, oldest first. -/
  entries : List (TermId × α)
  /-- The value the next new record receives. -/
  next : Nat

namespace KindTable

variable {α : Type}

/-- The most records one table holds. -/
def maxRecords : Nat := 2 ^ 32

/-- The table with no records whose first new record receives `first`. -/
def empty (first : Nat) : KindTable α := ⟨[], first⟩

/-- The number of records. -/
def size (table : KindTable α) : Nat := table.entries.length

/-- The record stored under exactly this id. -/
def get? (table : KindTable α) (id : TermId) : Option α :=
  (table.entries.find? (fun entry => entry.1 == id)).map Prod.snd

/-- The id of a record equal to this one. -/
def idOf? [DecidableEq α] (table : KindTable α) (record : α) : Option TermId :=
  (table.entries.find? (fun entry => entry.2 == record)).map Prod.fst

/-- Whether a record is stored under exactly this id. -/
def contains (table : KindTable α) (id : TermId) : Bool :=
  (table.get? id).isSome

/-- The ids of the table, ascending as 64-bit numbers. -/
def ids (table : KindTable α) : List TermId :=
  (table.entries.map Prod.fst).mergeSort (fun a b => decide (a.toRaw ≤ b.toRaw))

/-- The table with a record stored at a given id, unless the id or an equal record is
already there or the table is full. The next value does not move. -/
def preload? [DecidableEq α] (table : KindTable α) (id : TermId) (record : α) :
    Option (KindTable α) :=
  if table.contains id || (table.idOf? record).isSome || maxRecords ≤ table.size then none
  else some ⟨table.entries ++ [(id, record)], table.next⟩

/-- The table with a new record stored at `id`, and the next value one further on. -/
def push (table : KindTable α) (id : TermId) (record : α) : KindTable α :=
  ⟨table.entries ++ [(id, record)], table.next + 1⟩

@[simp] theorem entries_empty (first : Nat) : (empty first : KindTable α).entries = [] := rfl

@[simp] theorem next_empty (first : Nat) : (empty first : KindTable α).next = first := rfl

@[simp] theorem entries_push (table : KindTable α) (id : TermId) (record : α) :
    (table.push id record).entries = table.entries ++ [(id, record)] := rfl

@[simp] theorem next_push (table : KindTable α) (id : TermId) (record : α) :
    (table.push id record).next = table.next + 1 := rfl

@[simp] theorem size_push (table : KindTable α) (id : TermId) (record : α) :
    (table.push id record).size = table.size + 1 := by
  simp [size]

/-- A pushed entry is found under its id only when no older entry has that id. -/
theorem get?_push (table : KindTable α) (id key : TermId) (record : α) :
    (table.push id record).get? key =
      (table.get? key).or (if id = key then some record else none) := by
  simp only [get?, entries_push, List.find?_append]
  cases table.entries.find? (fun entry => entry.1 == key) <;> by_cases hk : id = key <;>
    simp [hk]

/-- A pushed record is found by value only when no older entry holds an equal record. -/
theorem idOf?_push [DecidableEq α] (table : KindTable α) (id : TermId) (record other : α) :
    (table.push id record).idOf? other =
      (table.idOf? other).or (if record = other then some id else none) := by
  simp only [idOf?, entries_push, List.find?_append]
  cases table.entries.find? (fun entry => entry.2 == other) <;> by_cases hr : record = other <;>
    simp [hr]

end KindTable

end TermDictionary
