import TermDictionary.Store.Table
import Mathlib

/-!
# Tables as bijections

A table answers both of its look-ups from one list of entries. While the entries have
distinct ids and distinct records (`KindTable.Bijective`), the two look-ups read the same
relation: `get?` finds exactly the record an entry pairs with an id (`get?_eq_some_iff`), and
`idOf?` exactly the id an entry pairs with a record (`idOf?_eq_some_iff`). Pushing an entry
whose id and record are both new keeps the table a bijection; `preload?` stores an entry only
then (`preload?_eq_some_iff`).
-/

namespace TermDictionary
namespace KindTable

variable {α : Type}

/-- A table whose entries have distinct ids and distinct records. -/
structure Bijective (table : KindTable α) : Prop where
  /-- No two entries share an id. -/
  ids_nodup : (table.entries.map Prod.fst).Nodup
  /-- No two entries share a record. -/
  records_nodup : (table.entries.map Prod.snd).Nodup

theorem bijective_empty (first : Nat) : (empty first : KindTable α).Bijective :=
  ⟨List.nodup_nil, List.nodup_nil⟩

/-- An id is among the entries' ids exactly when some entry carries it. -/
theorem mem_entryIds_iff
    (table : KindTable α)
    (id : TermId) :
    id ∈ table.entries.map Prod.fst ↔ ∃ record, (id, record) ∈ table.entries := by
  rw [List.mem_map]
  constructor
  · rintro ⟨entry, member, rfl⟩
    exact ⟨entry.2, member⟩
  · rintro ⟨record, member⟩
    exact ⟨(id, record), member, rfl⟩

/-- A record is among the entries' records exactly when some entry carries it. -/
theorem mem_entryRecords_iff
    (table : KindTable α)
    (record : α) :
    record ∈ table.entries.map Prod.snd ↔ ∃ id, (id, record) ∈ table.entries := by
  rw [List.mem_map]
  constructor
  · rintro ⟨entry, member, rfl⟩
    exact ⟨entry.1, member⟩
  · rintro ⟨id, member⟩
    exact ⟨(id, record), member, rfl⟩

/-- An entry after a push is an old entry or the pushed one. -/
theorem mem_entries_push
    {table : KindTable α}
    {id : TermId}
    {record : α}
    {entry : TermId × α} :
    entry ∈ (table.push id record).entries ↔ entry ∈ table.entries ∨ entry = (id, record) := by
  rw [entries_push, List.mem_append, List.mem_singleton]

/-- A table holds an id exactly when some entry carries it. -/
theorem contains_iff
    (table : KindTable α)
    (id : TermId) :
    table.contains id = true ↔ ∃ record, (id, record) ∈ table.entries := by
  rw [← mem_entryIds_iff, List.mem_map]
  simp only [contains, get?, Option.isSome_map, List.find?_isSome, beq_iff_eq]

/-- A record has no id exactly when no entry carries it. -/
theorem idOf?_eq_none_iff [DecidableEq α]
    (table : KindTable α)
    (record : α) :
    table.idOf? record = none ↔ ∀ id, (id, record) ∉ table.entries := by
  simp only [idOf?, Option.map_eq_none_iff, List.find?_eq_none, beq_iff_eq]
  constructor
  · intro absent id member
    exact absent _ member rfl
  · rintro absent ⟨id, other⟩ member rfl
    exact absent id member

/-- The ids of a table, ascending, are its entries' ids. -/
theorem mem_ids_iff
    (table : KindTable α)
    (id : TermId) :
    id ∈ table.ids ↔ ∃ record, (id, record) ∈ table.entries := by
  rw [ids, (List.mergeSort_perm _ _).mem_iff, mem_entryIds_iff]

/-- Among entries with distinct keys, a key finds exactly the entry that carries it. -/
theorem find?_key_eq_some_iff
    {γ β : Type}
    [BEq β]
    [LawfulBEq β]
    {entries : List γ}
    (key : γ → β)
    (distinct : (entries.map key).Nodup)
    {wanted : β}
    {entry : γ} :
    entries.find? (fun candidate => key candidate == wanted) = some entry ↔
      entry ∈ entries ∧ key entry = wanted := by
  constructor
  · intro found
    exact ⟨List.mem_of_find?_eq_some found, by simpa using List.find?_some found⟩
  · rintro ⟨member, rfl⟩
    have isSome : (entries.find? (fun candidate => key candidate == key entry)).isSome := by
      rw [List.find?_isSome]
      exact ⟨entry, member, by simp⟩
    obtain ⟨first, found⟩ := Option.isSome_iff_exists.mp isSome
    have firstMember := List.mem_of_find?_eq_some found
    have sameKey : key first = key entry := by simpa using List.find?_some found
    rw [found, List.inj_on_of_nodup_map distinct firstMember member sameKey]

namespace Bijective

variable {table : KindTable α}

/-- In a bijective table an id carries at most one record. -/
theorem record_eq
    (bijective : table.Bijective)
    {id : TermId}
    {record other : α}
    (member : (id, record) ∈ table.entries)
    (otherMember : (id, other) ∈ table.entries) :
    record = other := by
  have same := List.inj_on_of_nodup_map bijective.ids_nodup member otherMember rfl
  exact congrArg Prod.snd same

/-- In a bijective table a record is carried by at most one id. -/
theorem id_eq
    (bijective : table.Bijective)
    {id other : TermId}
    {record : α}
    (member : (id, record) ∈ table.entries)
    (otherMember : (other, record) ∈ table.entries) :
    id = other := by
  have same := List.inj_on_of_nodup_map bijective.records_nodup member otherMember rfl
  exact congrArg Prod.fst same

/-- The record found under an id is the one its entry carries. -/
theorem get?_eq_some_iff
    (bijective : table.Bijective)
    {id : TermId}
    {record : α} :
    table.get? id = some record ↔ (id, record) ∈ table.entries := by
  simp only [get?, Option.map_eq_some_iff, find?_key_eq_some_iff Prod.fst bijective.ids_nodup]
  constructor
  · rintro ⟨entry, ⟨member, rfl⟩, rfl⟩
    exact member
  · intro member
    exact ⟨(id, record), ⟨member, rfl⟩, rfl⟩

/-- The id found for a record is the one its entry carries. -/
theorem idOf?_eq_some_iff [DecidableEq α]
    (bijective : table.Bijective)
    {id : TermId}
    {record : α} :
    table.idOf? record = some id ↔ (id, record) ∈ table.entries := by
  simp only [idOf?, Option.map_eq_some_iff, find?_key_eq_some_iff Prod.snd bijective.records_nodup]
  constructor
  · rintro ⟨entry, ⟨member, rfl⟩, rfl⟩
    exact member
  · intro member
    exact ⟨(id, record), ⟨member, rfl⟩, rfl⟩

/-- An entry with a new id and a new record keeps a table bijective. -/
theorem push
    (bijective : table.Bijective)
    {id : TermId}
    {record : α}
    (freshId : ∀ other, (id, other) ∉ table.entries)
    (freshRecord : ∀ other, (other, record) ∉ table.entries) :
    (table.push id record).Bijective := by
  have idNew : id ∉ table.entries.map Prod.fst := by
    rw [mem_entryIds_iff, not_exists]
    exact freshId
  have recordNew : record ∉ table.entries.map Prod.snd := by
    rw [mem_entryRecords_iff, not_exists]
    exact freshRecord
  constructor
  · rw [entries_push, List.map_append, List.map_singleton]
    exact bijective.ids_nodup.append (List.nodup_singleton _) (List.disjoint_singleton.mpr idNew)
  · rw [entries_push, List.map_append, List.map_singleton]
    exact bijective.records_nodup.append (List.nodup_singleton _)
      (List.disjoint_singleton.mpr recordNew)

end Bijective

/-- A reserved entry is stored exactly when its id and its record are both new and the
table has room; the next value stays. -/
theorem preload?_eq_some_iff [DecidableEq α]
    {table after : KindTable α}
    {id : TermId}
    {record : α} :
    table.preload? id record = some after ↔
      (∀ other, (id, other) ∉ table.entries) ∧
      (∀ other, (other, record) ∉ table.entries) ∧
      table.size < maxRecords ∧
      after = ⟨table.entries ++ [(id, record)], table.next⟩ := by
  have held := contains_iff table id
  have absent := idOf?_eq_none_iff table record
  constructor
  · intro stored
    unfold preload? at stored
    split at stored
    · cases stored
    · rename_i fits
      simp only [Bool.or_eq_true, decide_eq_true_eq, Option.isSome_iff_ne_none, not_or,
        Decidable.not_not] at fits
      obtain ⟨⟨notHeld, noRecord⟩, room⟩ := fits
      cases stored
      exact ⟨fun other member => notHeld (held.mpr ⟨other, member⟩), absent.mp noRecord,
        Nat.lt_of_not_le room, rfl⟩
  · rintro ⟨freshId, freshRecord, room, rfl⟩
    have notHeld : table.contains id = false := by
      rw [Bool.eq_false_iff]
      intro heldId
      obtain ⟨other, member⟩ := held.mp heldId
      exact freshId other member
    have noRecord : table.idOf? record = none := absent.mpr freshRecord
    simp [preload?, notHeld, noRecord, Nat.not_le.mpr room]

end KindTable
end TermDictionary
