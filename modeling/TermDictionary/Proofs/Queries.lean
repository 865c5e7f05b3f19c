import TermDictionary.Proofs.Layout
import TermDictionary.Proofs.RegionRefinement

/-!
# The questions agree

A dictionary answers four questions about ids from the same tables: whether it holds an id,
routed by the id's own kind; the record of an id in the table of a kind; the ids of a kind,
ascending; and the counts. A resolve refuses an id of another kind than the one asked for,
and an id of the right kind that the table does not hold exactly, all 64 bits of it
(`Store.resolve_eq_error_iff`). So holding an id, listing it and resolving it in its own kind
are one fact, whatever bits the id has (`query_paths_agree`).

In a reachable dictionary the ids of a kind are distinct, so the list is strictly ascending and
as long as the count (`KindTable.ids_strictly_ascending`). Literal ids are all minted, with
distinct values, so a literal id with another class tag than an issued one is unknown to the
dictionary, even though its short text, which shows no class, is the same.

The counts are read off the laid-out tables, which are consistent in a reachable dictionary.
So the forward index counts one id per entry and the region allocates one record per entry
(`Store.Reachable.count_eq_size`, `Store.Reachable.recordsAllocated_layout`); the forward index
lists the table's ids in their order, since both ascend strictly and hold the same ids
(`KindTable.ids_layout`); and the record read through the forward index from the region is
the one the table stores under the id (`KindTable.get?_layout`).
-/

namespace TermDictionary

namespace KindTable

variable {α : Type} (table : KindTable α)

/-- No record is stored under an id exactly when the id is not among the table's ids. -/
theorem get?_eq_none_iff (id : TermId) : table.get? id = none ↔ id ∉ table.ids := by
  rw [← Option.not_isSome_iff_eq_none, mem_ids_iff, ← contains_iff, contains]

/-- Some record is stored under an id exactly when the id is among the table's ids. -/
theorem exists_get?_eq_some_iff (id : TermId) :
    (∃ record, table.get? id = some record) ↔ id ∈ table.ids := by
  rw [← Option.isSome_iff_exists, mem_ids_iff, ← contains_iff, contains]

/-- A table lists as many ids as it holds records. -/
theorem length_ids : table.ids.length = table.size := by
  rw [ids, (List.mergeSort_perm _ _).length_eq, List.length_map, size]

/-- The ids of a bijective table are distinct. -/
theorem nodup_ids {table : KindTable α} (bijective : table.Bijective) : table.ids.Nodup :=
  (List.mergeSort_perm _ _).nodup_iff.mpr bijective.ids_nodup

/-- The ids of a bijective table ascend strictly as 64-bit numbers. -/
theorem ids_strictly_ascending {table : KindTable α} (bijective : table.Bijective) :
    table.ids.Pairwise fun id other => id.toRaw < other.toRaw := by
  have ascending : table.ids.Pairwise fun id other => decide (id.toRaw ≤ other.toRaw) = true :=
    List.pairwise_mergeSort (by intro a b c; simp only [decide_eq_true_eq]; omega)
      (by intro a b; simp only [Bool.or_eq_true, decide_eq_true_eq]; omega) _
  have distinct := nodup_ids bijective
  refine (ascending.and distinct).imp ?_
  rintro id other ⟨below, different⟩
  rw [decide_eq_true_eq] at below
  exact Nat.lt_of_le_of_ne below (fun same => different (TermId.toRaw_injective same))

/-! ## The questions on the laid-out table -/

section Layout

variable {kind : TermKind} (table : KindTable kind.Record)

/-- The region of a laid-out table allocates one record per entry. -/
theorem recordsAllocated_layout : table.layout.recordsAllocated = table.size :=
  table.length_region_layout

/-- Laid out consistently, a table has one id in its forward index per entry. -/
theorem len_layout (consistent : table.layout.Consistent) : table.layout.len = table.size := by
  rw [IndexedRegion.len, consistent.forward_size, length_region_layout]

/-- The forward index of a laid-out bijective table lists the table's ids, in the same order:
both ascend strictly and hold the ids of the entries. -/
theorem ids_layout {table : KindTable kind.Record} (bijective : table.Bijective) :
    table.layout.ids = table.ids := by
  have sameMembers : ∀ id, id ∈ table.layout.ids ↔ id ∈ table.ids := by
    intro id
    rw [IndexedRegion.ids, Std.ExtTreeMap.mem_keys, mem_forward_layout, mem_ids_iff]
  have forwardAscending : table.layout.ids.Pairwise fun id other => id.toRaw < other.toRaw := by
    have ordered : table.layout.forward.keys.Pairwise
        fun id other => compareOn TermId.toRaw id other = .lt :=
      Std.ExtTreeMap.ordered_keys
    exact ordered.imp TermId.compareOn_toRaw_eq_lt_iff.mp
  have permuted : table.layout.ids.Perm table.ids :=
    (List.perm_ext_iff_of_nodup Std.ExtTreeMap.nodup_keys (nodup_ids bijective)).mpr sameMembers
  exact permuted.eq_of_pairwise
    (fun _ _ _ _ below above => absurd (Nat.lt_trans below above) (Nat.lt_irrefl _))
    forwardAscending (ids_strictly_ascending bijective)

/-- In a bijective table laid out consistently, reading an id's handle from the forward index
and the record at that handle from the region finds the record the table stores under the id. -/
theorem get?_layout {table : KindTable kind.Record} (bijective : table.Bijective)
    (consistent : table.layout.Consistent) (id : TermId) :
    table.layout.get? id = table.get? id := by
  by_cases stored : id ∈ table.layout.forward
  · obtain ⟨record, member⟩ := (mem_forward_layout table id).mp stored
    -- The reverse index leads from the entry's record back through the forward index.
    have probed : table.layout.reverse[record]? = some id := by
      show table.layout.probe record = some id
      rw [probe_layout table bijective.records_nodup, bijective.idOf?_eq_some_iff]
      exact member
    obtain ⟨handle, found, read⟩ := consistent.reverse_forward probed
    rw [bijective.get?_eq_some_iff.mpr member, IndexedRegion.get?, found, Option.bind_some, read]
  · have absent : table.get? id = none := by
      rw [get?_eq_none_iff, mem_ids_iff, ← mem_forward_layout]
      exact stored
    rw [absent, IndexedRegion.get?, Std.ExtTreeMap.getElem?_eq_none stored, Option.bind_none]

end Layout

end KindTable

namespace Store

variable (store : Store)

/-- A resolve succeeds exactly when the id is of the kind asked for and its table stores the
record under exactly that id. -/
theorem resolve_eq_ok_iff_get?
    {kind : TermKind}
    {id : TermId}
    {record : kind.Record} :
    store.resolve kind id = .ok record ↔
      id.kind = kind ∧ (store.table kind).get? id = some record := by
  unfold resolve
  by_cases sameKind : id.kind = kind
  · rw [if_pos sameKind]
    cases (store.table kind).get? id <;> simp [sameKind]
  · simp [sameKind]

/-- A resolve is refused for an id of another kind, and otherwise for an id whose table stores
nothing under exactly that id. -/
theorem resolve_eq_error_iff
    {kind : TermKind}
    {id : TermId}
    {error : StoreError} :
    store.resolve kind id = .error error ↔
      (id.kind ≠ kind ∧ error = .wrongKind id kind) ∨
        (id.kind = kind ∧ (store.table kind).get? id = none ∧ error = .unknownId id) := by
  unfold resolve
  by_cases sameKind : id.kind = kind
  · rw [if_pos sameKind]
    cases (store.table kind).get? id <;> simp [sameKind, eq_comm]
  · simp [sameKind, eq_comm]

theorem resolve_eq_wrongKind_iff (kind : TermKind) (id : TermId) :
    store.resolve kind id = .error (.wrongKind id kind) ↔ id.kind ≠ kind := by
  rw [resolve_eq_error_iff]
  simp only [and_true, reduceCtorEq, and_false, or_false]

theorem resolve_eq_unknownId_iff (kind : TermKind) (id : TermId) :
    store.resolve kind id = .error (.unknownId id) ↔
      id.kind = kind ∧ id ∉ store.ids kind := by
  rw [resolve_eq_error_iff, ids, ← KindTable.get?_eq_none_iff]
  simp only [reduceCtorEq, and_false, and_true, false_or]

/-- Whether a dictionary holds an id, whether the id is among the ids of its own kind, and
whether it resolves in its own kind are one fact. -/
theorem contains_iff_mem_ids_iff_resolve (id : TermId) :
    (store.contains id = true ↔ id ∈ store.ids id.kind) ∧
      (id ∈ store.ids id.kind ↔ ∃ record, store.resolve id.kind id = .ok record) := by
  constructor
  · rw [contains, ids, KindTable.contains_iff, KindTable.mem_ids_iff]
  · simp only [resolve_eq_ok_iff_get?, true_and, ids]
    exact (KindTable.exists_get?_eq_some_iff _ id).symm

variable {store}

/-- In a reachable dictionary a literal id that differs from an issued one in its class tag
alone is unknown, and has the same short text. -/
theorem Reachable.resolve_retagged_literal
    (reachable : store.Reachable)
    {id : TermId}
    (issued : id ∈ store.ids .literal)
    {other : TermId}
    (sameKind : other.kind = id.kind)
    (sameValue : other.value = id.value)
    (different : other ≠ id) :
    store.resolve .literal other = .error (.unknownId other) ∧ other.display = id.display := by
  obtain ⟨record, stored⟩ := (KindTable.mem_ids_iff _ _).mp issued
  have literalKind : id.kind = .literal := reachable.coherent.kind_eq .literal _ stored
  -- The literal table holds only minted ids, so no two of its ids share a value.
  have laidOut : (store.table .literal).WellLaid :=
    reachable.tableWellLaid (.inl (by decide))
  have unknown : other ∉ store.ids .literal := by
    intro otherIssued
    obtain ⟨otherRecord, otherStored⟩ := (KindTable.mem_ids_iff _ _).mp otherIssued
    exact different (laidOut.id_eq otherStored stored sameValue)
  refine ⟨(resolve_eq_unknownId_iff store .literal other).mpr
    ⟨sameKind.trans literalKind, unknown⟩, ?_⟩
  exact TermId.display_eq_display_iff.mpr ⟨sameKind, sameValue⟩

/-- A reachable dictionary counts as many terms of a kind as the kind's table has entries. -/
theorem Reachable.count_eq_size (reachable : store.Reachable) (kind : TermKind) :
    store.count kind = (store.table kind).size :=
  (store.table kind).len_layout (reachable.layout_consistent kind)

/-- In a reachable dictionary the region of a kind allocates one record per term counted. -/
theorem Reachable.recordsAllocated_layout (reachable : store.Reachable) (kind : TermKind) :
    (store.table kind).layout.recordsAllocated = store.count kind := by
  rw [KindTable.recordsAllocated_layout, reachable.count_eq_size]

/-- In every reachable dictionary and for every id, any bits set: the dictionary holds the id
exactly when the id is among the ids of its own kind, exactly when it resolves in its own
kind. Resolving in a kind is refused as the wrong kind exactly when the id is of another kind,
and as unknown exactly when it is of that kind but not among its ids; so a literal id that
differs from an issued one only in its class tag bits is unknown, though its short text is the
same. The ids of each kind ascend strictly as 64-bit numbers and are as many as the kind's
count. The laid-out table of each kind answers the same: reading an id's handle from the
forward index and the record there from the region finds the record the table stores, the
forward index lists the kind's ids, and the region allocates as many records as the forward
index counts. The statistics report each kind's count, their sum as the records allocated in
the four regions, and the bytes in use. -/
theorem query_paths_agree (reachable : store.Reachable) :
    (∀ id : TermId, (store.contains id = true ↔ id ∈ store.ids id.kind) ∧
      (id ∈ store.ids id.kind ↔ ∃ record, store.resolve id.kind id = .ok record)) ∧
    (∀ kind id, store.resolve kind id = .error (.wrongKind id kind) ↔ id.kind ≠ kind) ∧
    (∀ kind id, store.resolve kind id = .error (.unknownId id) ↔
      id.kind = kind ∧ id ∉ store.ids kind) ∧
    (∀ id ∈ store.ids .literal, ∀ other : TermId, other.kind = id.kind →
      other.spare = id.spare → other.value = id.value → other ≠ id →
      store.resolve .literal other = .error (.unknownId other) ∧ other.display = id.display) ∧
    (∀ kind, (store.ids kind).Pairwise (fun id other => id.toRaw < other.toRaw) ∧
      (store.ids kind).length = store.count kind) ∧
    (∀ kind, (∀ id, (store.table kind).layout.get? id = (store.table kind).get? id) ∧
      (store.table kind).layout.ids = store.ids kind ∧
      (store.table kind).layout.recordsAllocated = store.count kind) ∧
    store.stats.iris = store.count .iri ∧ store.stats.literals = store.count .literal ∧
    store.stats.blanks = store.count .blank ∧ store.stats.vars = store.count .var ∧
    store.stats.records =
      store.count .iri + store.count .literal + store.count .blank + store.count .var ∧
    store.stats.bytes = store.budget.used := by
  refine ⟨store.contains_iff_mem_ids_iff_resolve, store.resolve_eq_wrongKind_iff,
    store.resolve_eq_unknownId_iff, ?_, ?_, ?_, rfl, rfl, rfl, rfl, ?_, rfl⟩
  · intro id issued other sameKind _ sameValue different
    exact reachable.resolve_retagged_literal issued sameKind sameValue different
  · intro kind
    refine ⟨KindTable.ids_strictly_ascending (reachable.coherent.bijective kind), ?_⟩
    rw [ids, KindTable.length_ids, reachable.count_eq_size]
  · intro kind
    have bijective := reachable.coherent.bijective kind
    exact ⟨KindTable.get?_layout bijective (reachable.layout_consistent kind),
      KindTable.ids_layout bijective, reachable.recordsAllocated_layout kind⟩
  · -- The records allocated in the four regions are the four counts.
    show (store.table .iri).layout.recordsAllocated +
        (store.table .literal).layout.recordsAllocated +
        (store.table .blank).layout.recordsAllocated +
        (store.table .var).layout.recordsAllocated = _
    rw [reachable.recordsAllocated_layout, reachable.recordsAllocated_layout,
      reachable.recordsAllocated_layout, reachable.recordsAllocated_layout]

/-- After an integer literal is interned into the standard dictionary, its questions agree. -/
theorem query_paths_agree_after_integer_literal :
    let store := (preloaded {}).run
      [.intern .literal ⟨"42", TermId.make .iri 5 (by decide), none⟩ .granted]
    store.Reachable ∧
    ((∀ id : TermId, (store.contains id = true ↔ id ∈ store.ids id.kind) ∧
        (id ∈ store.ids id.kind ↔ ∃ record, store.resolve id.kind id = .ok record)) ∧
      (∀ kind id, store.resolve kind id = .error (.wrongKind id kind) ↔ id.kind ≠ kind) ∧
      (∀ kind id, store.resolve kind id = .error (.unknownId id) ↔
        id.kind = kind ∧ id ∉ store.ids kind) ∧
      (∀ id ∈ store.ids .literal, ∀ other : TermId, other.kind = id.kind →
        other.spare = id.spare → other.value = id.value → other ≠ id →
        store.resolve .literal other = .error (.unknownId other) ∧ other.display = id.display) ∧
      (∀ kind, (store.ids kind).Pairwise (fun id other => id.toRaw < other.toRaw) ∧
        (store.ids kind).length = store.count kind) ∧
      (∀ kind, (∀ id, (store.table kind).layout.get? id = (store.table kind).get? id) ∧
        (store.table kind).layout.ids = store.ids kind ∧
        (store.table kind).layout.recordsAllocated = store.count kind) ∧
      store.stats.iris = store.count .iri ∧ store.stats.literals = store.count .literal ∧
      store.stats.blanks = store.count .blank ∧ store.stats.vars = store.count .var ∧
      store.stats.records =
        store.count .iri + store.count .literal + store.count .blank + store.count .var ∧
      store.stats.bytes = store.budget.used) := by
  intro store
  have reachable : store.Reachable :=
    (Reachable.build (show Store.build {} = .ok (preloaded {}) from rfl)).run _
  exact ⟨reachable, query_paths_agree reachable⟩

end Store

end TermDictionary
