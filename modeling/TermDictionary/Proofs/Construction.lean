import TermDictionary.Proofs.Interning

/-!
# Building a dictionary is exact

Building a dictionary stores the reserved IRIs one after the other, each into the IRI table
that the ones before it left, and charges the bytes of each without a check. A reserved table
has no id and no IRI twice and at most 2^20 entries, so each of these calls finds its id and its
IRI new and the table not full, and stores its entry (`ReservedTable.preload?_prefixTable`).

The capacity is checked once, at the end: the build is refused exactly when the reserved IRIs
take more bytes than the capacity, and then with those bytes as both the bytes asked for and
the bytes in use. Otherwise the dictionary holds exactly the reserved IRIs, each at its id, and
nothing else; every next value is its kind's first value, and exactly the reserved IRIs'
bytes are in use (`construction_is_exact`).
-/

namespace TermDictionary

namespace ReservedTable

variable (table : ReservedTable)

/-- The bytes that the reserved IRIs take. -/
def bytes : Nat :=
  (table.entries.map fun entry => TermKind.iri.footprint entry.iri).sum

/-- The IRI table of a dictionary under construction once the first `count` reserved IRIs are
stored: those entries at their ids, and the first IRI value next. -/
def prefixTable (count : Nat) : KindTable String :=
  ⟨(table.entries.take count).map fun entry => (entry.id, entry.iri), TermKind.iri.firstValue⟩

/-- The entry at a position has an id and an IRI that no entry before it has. -/
theorem fresh_at (index : Nat) (inRange : index < table.entries.length) :
    table.entries[index].id ∉ (table.entries.take index).map (·.id) ∧
      table.entries[index].iri ∉ (table.entries.take index).map (·.iri) := by
  have split : table.entries =
      table.entries.take index ++ table.entries[index] :: table.entries.drop (index + 1) := by
    rw [← List.drop_eq_getElem_cons inRange, List.take_append_drop]
  have ids := table.ids_nodup
  have iris := table.iris_nodup
  rw [split, List.map_append, List.map_cons] at ids iris
  constructor
  · intro earlier
    exact (List.nodup_append.mp ids).2.2 _ earlier _ List.mem_cons_self rfl
  · intro earlier
    exact (List.nodup_append.mp iris).2.2 _ earlier _ List.mem_cons_self rfl

/-- Building stores each reserved IRI: the call for the entry at a position, made on the table
that holds the entries before it, finds the id and the IRI new and the table not full. -/
theorem preload?_prefixTable (index : Nat) (inRange : index < table.entries.length) :
    (table.prefixTable index).preload? table.entries[index].id table.entries[index].iri =
      some (table.prefixTable (index + 1)) := by
  obtain ⟨newId, newIri⟩ := table.fresh_at index inRange
  refine KindTable.preload?_eq_some_iff.mpr ⟨?_, ?_, ?_, ?_⟩
  · intro other member
    obtain ⟨entry, entryMember, same⟩ := List.mem_map.mp member
    exact newId (List.mem_map.mpr ⟨entry, entryMember, congrArg Prod.fst same⟩)
  · intro other member
    obtain ⟨entry, entryMember, same⟩ := List.mem_map.mp member
    exact newIri (List.mem_map.mpr ⟨entry, entryMember, congrArg Prod.snd same⟩)
  · -- A reserved table has at most 2^20 entries, far fewer than a table holds.
    have few := table.length_le
    have taken := List.length_take_le' index table.entries
    simp only [prefixTable, KindTable.size, List.length_map, KindTable.maxRecords]
    omega
  · rw [prefixTable, prefixTable, List.take_succ_eq_append_getElem inRange, List.map_append,
      List.map_singleton]

end ReservedTable

namespace Store

/-- A build is refused with the reserved IRIs' bytes, asked for and in use, exactly when a
capacity is set and those bytes pass it. -/
theorem build_eq_error_iff (config : StoreConfig) (capacity : Nat) :
    build config =
        .error (.regionExhausted .iri config.reserved.bytes config.reserved.bytes capacity) ↔
      config.capacity = some capacity ∧ capacity < config.reserved.bytes := by
  have used : (preloaded config).budget.used = config.reserved.bytes := by
    rw [preloaded_budget]
    rfl
  unfold build
  cases limit : config.capacity with
  | none => simp
  | some limited =>
    by_cases overdrawn : limited < config.reserved.bytes
    · simp only [used, overdrawn, if_true, Except.error.injEq, StoreError.regionExhausted.injEq,
        Option.some.injEq, true_and]
      constructor
      · rintro rfl
        exact ⟨rfl, overdrawn⟩
      · rintro ⟨rfl, -⟩
        rfl
    · simp only [used, overdrawn, if_false, reduceCtorEq, false_iff, not_and, Option.some.injEq]
      rintro rfl
      exact overdrawn

/-- For every configuration, building is refused, with the reserved IRIs' bytes as both the
bytes asked for and the bytes in use and with the capacity, exactly when a capacity is set and
those bytes pass it. Otherwise it gives a dictionary, and every call that stores a reserved IRI,
made on the IRI table the earlier calls left, stores it; the IRI table holds exactly the
reserved IRIs at their ids, in order, and each of their ids resolves to its IRI; the other
tables are empty; every next value is its kind's first value; and the bytes in use are exactly
the reserved IRIs' bytes. -/
theorem construction_is_exact (config : StoreConfig) :
    (∀ capacity, build config =
        .error (.regionExhausted .iri config.reserved.bytes config.reserved.bytes capacity) ↔
      config.capacity = some capacity ∧ capacity < config.reserved.bytes) ∧
    ((∀ capacity, config.capacity = some capacity → config.reserved.bytes ≤ capacity) →
      ∃ store, build config = .ok store ∧
        (∀ index (inRange : index < config.reserved.entries.length),
          (config.reserved.prefixTable index).preload? config.reserved.entries[index].id
              config.reserved.entries[index].iri =
            some (config.reserved.prefixTable (index + 1))) ∧
        (store.table .iri).entries =
          config.reserved.entries.map (fun entry => (entry.id, entry.iri)) ∧
        (∀ id, id ∈ store.ids .iri ↔ ∃ entry ∈ config.reserved.entries, entry.id = id) ∧
        (∀ entry ∈ config.reserved.entries, store.resolve .iri entry.id = .ok entry.iri) ∧
        (∀ kind, kind ≠ .iri → store.ids kind = [] ∧ store.count kind = 0) ∧
        (∀ kind, (store.table kind).next = kind.firstValue) ∧
        store.budget.used = config.reserved.bytes ∧
        store.budget.capacity = config.capacity ∧
        store.reserved = config.reserved) := by
  refine ⟨build_eq_error_iff config, ?_⟩
  intro withinCapacity
  have budget : (preloaded config).budget = ⟨config.reserved.bytes, config.capacity⟩ :=
    preloaded_budget config
  have built : build config = .ok (preloaded config) := by
    refine build_eq_ok_iff.mpr ⟨rfl, fun capacity limited => ?_⟩
    rw [budget]
    exact withinCapacity capacity limited
  have coherent := (Reachable.build built).coherent
  have iris : ((preloaded config).table .iri).entries =
      config.reserved.entries.map (fun entry => (entry.id, entry.iri)) := by
    show (preloaded config).iris.entries = _
    rw [preloaded_iris]
  refine ⟨preloaded config, built, config.reserved.preload?_prefixTable, iris, ?_, ?_, ?_,
    next_preloaded config, by rw [budget], by rw [budget], rfl⟩
  · intro id
    rw [ids, KindTable.mem_ids_iff, iris]
    constructor
    · rintro ⟨record, member⟩
      obtain ⟨entry, entryMember, same⟩ := List.mem_map.mp member
      exact ⟨entry, entryMember, congrArg Prod.fst same⟩
    · rintro ⟨entry, entryMember, rfl⟩
      exact ⟨entry.iri, List.mem_map_of_mem entryMember⟩
  · intro entry member
    exact coherent.resolve_eq_ok_iff.mpr (coherent.reserved_stored entry member)
  · intro kind notIri
    rw [ids, count, table_preloaded_of_ne config notIri]
    exact ⟨List.mergeSort_nil, rfl⟩

end Store

end TermDictionary
