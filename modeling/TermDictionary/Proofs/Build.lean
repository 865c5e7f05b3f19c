import TermDictionary.Store.Basic
import TermDictionary.Proofs.Table

/-!
# What a built dictionary holds

A reserved table without faults has reserved IRI ids, no id twice and no IRI twice
(`ReservedTable.ids_nodup`, `ReservedTable.iris_nodup`), and so at most 2^20 entries: an id
in the reserved range is fixed by its class tag, spare bits and value (`length_le`). Building a
dictionary therefore stores every entry at its id, in order, none passed over, and charges
exactly their bytes (`Store.preloaded_iris`, `Store.preloaded_budget`); the build is refused
only when those bytes pass the capacity (`Store.build_eq_ok_iff`).
-/

namespace TermDictionary

namespace ReservedError

/-- An entry has no fault after `earlier` when its id is in range and neither its id nor its
IRI is among the earlier entries'. -/
theorem check?_eq_none_iff
    {earlier : List ReservedIri}
    {entry : ReservedIri} :
    check? earlier entry = none ↔
      entry.idInRange = true ∧ entry.id ∉ earlier.map (·.id) ∧
        entry.iri ∉ earlier.map (·.iri) := by
  unfold check?
  split_ifs with outOfRange seenId seenIri <;> simp_all [List.any_eq_true, List.mem_map]

/-- Entries with no fault after distinct earlier entries are in range, and all of them
together have distinct ids and distinct IRIs. -/
theorem faultless
    {earlier pending : List ReservedIri}
    (earlierIds : (earlier.map (·.id)).Nodup)
    (earlierIris : (earlier.map (·.iri)).Nodup)
    (noFault : firstFault earlier pending = none) :
    (∀ entry ∈ pending, entry.idInRange = true) ∧
      ((earlier ++ pending).map (·.id)).Nodup ∧ ((earlier ++ pending).map (·.iri)).Nodup := by
  induction pending generalizing earlier with
  | nil => simpa using ⟨earlierIds, earlierIris⟩
  | cons entry rest ih =>
    unfold firstFault at noFault
    split at noFault
    · cases noFault
    · rename_i accepted
      obtain ⟨inRange, newId, newIri⟩ := check?_eq_none_iff.mp accepted
      have extendedIds : ((earlier ++ [entry]).map (·.id)).Nodup := by
        simpa [List.nodup_append] using ⟨earlierIds, fun seen member same => newId (same ▸
          List.mem_map_of_mem member)⟩
      have extendedIris : ((earlier ++ [entry]).map (·.iri)).Nodup := by
        simpa [List.nodup_append] using ⟨earlierIris, fun seen member same => newIri (same ▸
          List.mem_map_of_mem member)⟩
      obtain ⟨restInRange, ids, iris⟩ := ih extendedIds extendedIris noFault
      refine ⟨?_, by simpa using ids, by simpa using iris⟩
      intro other member
      rcases List.mem_cons.mp member with rfl | later
      · exact inRange
      · exact restInRange other later

end ReservedError

namespace ReservedTable

variable (table : ReservedTable)

/-- The entries of a table are in range, with no id twice and no IRI twice. -/
theorem faultless :
    (∀ entry ∈ table.entries, entry.idInRange = true) ∧
      (table.entries.map (·.id)).Nodup ∧ (table.entries.map (·.iri)).Nodup := by
  simpa using @ReservedError.faultless [] table.entries List.nodup_nil List.nodup_nil
    table.noFault

theorem idInRange_of_mem {entry : ReservedIri} (member : entry ∈ table.entries) :
    entry.idInRange = true :=
  table.faultless.1 entry member

theorem ids_nodup : (table.entries.map (·.id)).Nodup :=
  table.faultless.2.1

theorem iris_nodup : (table.entries.map (·.iri)).Nodup :=
  table.faultless.2.2

/-- A reserved id is an IRI id with a value from 1 to 63. -/
theorem id_kind_value {entry : ReservedIri} (member : entry ∈ table.entries) :
    entry.id.kind = .iri ∧ 0 < entry.id.value ∧ entry.id.value < 64 := by
  simpa [TermKind.firstValue] using of_decide_eq_true (table.idInRange_of_mem member)

/-- The number under which a reserved id is counted: class tag, spare bits and value. -/
private def reservedKey (entry : ReservedIri) : Nat :=
  (entry.id.classTag * 256 + entry.id.spare) * 64 + entry.id.value

/-- Reserved ids are told apart by their class tag, spare bits and value, which leave room
for 2^20 of them. -/
theorem length_le : table.entries.length ≤ 2 ^ 20 := by
  have keysNodup : (table.entries.map reservedKey).Nodup := by
    refine List.Nodup.map_on ?_ (List.Nodup.of_map (·.id) table.ids_nodup)
    intro entry member other otherMember sameKey
    obtain ⟨kind, -, below⟩ := table.id_kind_value member
    obtain ⟨otherKind, -, otherBelow⟩ := table.id_kind_value otherMember
    have tag := entry.id.classTag_lt
    have otherTag := other.id.classTag_lt
    have spare := entry.id.spare_lt
    have otherSpare := other.id.spare_lt
    simp only [reservedKey] at sameKey
    have sameId : entry.id = other.id :=
      TermId.ext (kind.trans otherKind.symm) (by omega) (by omega) (by omega)
    exact List.inj_on_of_nodup_map table.ids_nodup member otherMember sameId
  have keysBelow : table.entries.map reservedKey ⊆ List.range (2 ^ 20) := by
    intro key member
    obtain ⟨entry, entryMember, rfl⟩ := List.mem_map.mp member
    obtain ⟨-, -, below⟩ := table.id_kind_value entryMember
    have tag := entry.id.classTag_lt
    have spare := entry.id.spare_lt
    rw [List.mem_range, reservedKey]
    omega
  simpa using (keysNodup.subperm keysBelow).length_le

end ReservedTable

namespace Budget

@[simp] theorem charge_charge (budget : Budget) (first second : Nat) :
    (budget.charge first).charge second = budget.charge (first + second) := by
  simp [charge, Nat.add_assoc]

end Budget

namespace Store

/-- Reserved entries with ids and IRIs new to the table, and room for all of them, are all
stored, in order, and all of their bytes charged. -/
theorem preloadReserved_eq
    (pending : List ReservedIri)
    (iris : KindTable String)
    (budget : Budget)
    (idsFresh : (iris.entries.map Prod.fst ++ pending.map (·.id)).Nodup)
    (irisFresh : (iris.entries.map Prod.snd ++ pending.map (·.iri)).Nodup)
    (room : iris.size + pending.length ≤ KindTable.maxRecords) :
    preloadReserved pending iris budget =
      (⟨iris.entries ++ pending.map (fun entry => (entry.id, entry.iri)), iris.next⟩,
        budget.charge (pending.map (fun entry => TermKind.iri.footprint entry.iri)).sum) := by
  induction pending generalizing iris budget with
  | nil => simp [preloadReserved, Budget.charge]
  | cons entry rest ih =>
    have stored : iris.preload? entry.id entry.iri =
        some ⟨iris.entries ++ [(entry.id, entry.iri)], iris.next⟩ := by
      refine KindTable.preload?_eq_some_iff.mpr ⟨?_, ?_, ?_, rfl⟩
      · intro other member
        exact (List.nodup_append.mp idsFresh).2.2 _ (List.mem_map_of_mem member) entry.id
          (by simp) rfl
      · intro other member
        exact (List.nodup_append.mp irisFresh).2.2 _ (List.mem_map_of_mem member) entry.iri
          (by simp) rfl
      · simp only [List.length_cons] at room
        omega
    have unfolded : preloadReserved (entry :: rest) iris budget =
        preloadReserved rest ⟨iris.entries ++ [(entry.id, entry.iri)], iris.next⟩
          (budget.charge (TermKind.iri.footprint entry.iri)) := by
      rw [preloadReserved, stored]
    rw [unfolded, ih]
    · simp
    · simpa using idsFresh
    · simpa using irisFresh
    · simp only [KindTable.size, List.length_append, List.length_cons,
        List.length_nil] at room ⊢
      omega

/-- Building stores every reserved entry of a table and charges exactly their bytes. -/
theorem preloadReserved_reserved
    (table : ReservedTable)
    (capacity : Option Nat) :
    preloadReserved table.entries (.empty TermKind.iri.firstValue) (.fresh capacity) =
      (⟨table.entries.map (fun entry => (entry.id, entry.iri)), TermKind.iri.firstValue⟩,
        ⟨(table.entries.map (fun entry => TermKind.iri.footprint entry.iri)).sum, capacity⟩) := by
  have room := table.length_le
  rw [preloadReserved_eq table.entries _ _ (by simpa using table.ids_nodup)
    (by simpa using table.iris_nodup)
    (by simp only [KindTable.size, KindTable.entries_empty, List.length_nil,
      KindTable.maxRecords]; omega)]
  simp [Budget.charge, Budget.fresh]

/-- A built dictionary's IRI table holds exactly the reserved entries, in order. -/
theorem preloaded_iris (config : StoreConfig) :
    (preloaded config).iris =
      ⟨config.reserved.entries.map (fun entry => (entry.id, entry.iri)),
        TermKind.iri.firstValue⟩ := by
  simp only [preloaded, preloadReserved_reserved]

/-- A built dictionary's budget holds exactly the bytes of the reserved IRIs. -/
theorem preloaded_budget (config : StoreConfig) :
    (preloaded config).budget =
      ⟨(config.reserved.entries.map (fun entry => TermKind.iri.footprint entry.iri)).sum,
        config.capacity⟩ := by
  simp only [preloaded, preloadReserved_reserved]

@[simp] theorem preloaded_reserved (config : StoreConfig) :
    (preloaded config).reserved = config.reserved := rfl

@[simp] theorem preloaded_vars (config : StoreConfig) :
    (preloaded config).vars = .empty TermKind.var.firstValue := rfl

@[simp] theorem preloaded_blanks (config : StoreConfig) :
    (preloaded config).blanks = .empty TermKind.blank.firstValue := rfl

@[simp] theorem preloaded_literals (config : StoreConfig) :
    (preloaded config).literals = .empty TermKind.literal.firstValue := rfl

/-- Only the IRI table of a built dictionary holds records. -/
theorem table_preloaded_of_ne (config : StoreConfig) {kind : TermKind} (notIri : kind ≠ .iri) :
    (preloaded config).table kind = .empty kind.firstValue := by
  cases kind
  · rfl
  · rfl
  · exact absurd rfl notIri
  · rfl

/-- Every table of a built dictionary starts at its kind's first value. -/
theorem next_preloaded (config : StoreConfig) (kind : TermKind) :
    ((preloaded config).table kind).next = kind.firstValue := by
  by_cases isIri : kind = .iri
  · subst isIri
    show (preloaded config).iris.next = _
    rw [preloaded_iris]
  · rw [table_preloaded_of_ne config isIri]
    rfl

/-- Every entry of a built dictionary is a reserved IRI at its reserved id. -/
theorem reserved_of_mem_preloaded
    {config : StoreConfig}
    {kind : TermKind}
    {entry : TermId × kind.Record}
    (member : entry ∈ ((preloaded config).table kind).entries) :
    kind = .iri ∧ ∃ reserved ∈ config.reserved.entries, entry.1 = reserved.id := by
  by_cases isIri : kind = .iri
  · subst isIri
    change entry ∈ (preloaded config).iris.entries at member
    rw [preloaded_iris] at member
    obtain ⟨reserved, reservedMember, rfl⟩ := List.mem_map.mp member
    exact ⟨rfl, reserved, reservedMember, rfl⟩
  · rw [table_preloaded_of_ne config isIri] at member
    cases member

/-- A configuration is built into its preloaded dictionary unless the reserved IRIs' bytes
pass its capacity. -/
theorem build_eq_ok_iff {config : StoreConfig} {store : Store} :
    build config = .ok store ↔
      store = preloaded config ∧
        ∀ capacity, config.capacity = some capacity →
          (preloaded config).budget.used ≤ capacity := by
  unfold build
  cases limit : config.capacity with
  | none => simp [eq_comm]
  | some capacity =>
    by_cases overdrawn : capacity < (preloaded config).budget.used
    · simp [overdrawn]
    · simp [overdrawn, eq_comm, Nat.le_of_not_lt overdrawn]

end Store

end TermDictionary
