import TermDictionary.Proofs.ExclusivePath

/-!
# Laid-out tables implement the dictionary's tables

A dictionary keeps the table of each kind as a list of entries; in memory that table is laid
out as a region with a forward and a reverse index (`KindTable.layout`): each entry's record at
its position in the region, each id indexed to that position, each record to its id, and the
next value in the allocator. On the layout, storing a new record, whatever the memory allocator
answers, does what the dictionary does to the list (`Store.insert_layout`), and while records
are distinct the reverse index answers what a search of the entries answers
(`KindTable.probe_layout`).

Building lays the reserved IRIs out by reserved insertions below the allocator, and each new
term is inserted after a probe that did not find it, with a mint that keeps the kind and the
value. So the laid-out tables of every dictionary that requests reach from a built one are
reached by the calls the dictionary makes, and are consistent
(`Store.Reachable.layout_consistent`). Interning a view that is no reserved IRI is finding or
making its record on the laid-out table of its kind (`Store.Coherent.intern_eq_findOrMake`).
-/

namespace TermDictionary

namespace IndexedRegion

variable {kind : TermKind}

section PlaceAll

variable (tables : IndexedRegion kind)

theorem placeAll_append_singleton (entries : List (TermId × kind.Record))
    (entry : TermId × kind.Record) :
    tables.placeAll (entries ++ [entry]) =
      (tables.placeAll entries).place entry.1 (tables.placeAll entries).region.length entry.2 := by
  rw [placeAll, List.foldl_append]
  rfl

@[simp] theorem region_placeAll (entries : List (TermId × kind.Record)) :
    (tables.placeAll entries).region = tables.region ++ entries.map Prod.snd := by
  induction entries using List.reverseRecOn with
  | nil => simp [placeAll]
  | append_singleton entries entry ih =>
    rw [placeAll_append_singleton, region_place, ih]
    simp

@[simp] theorem next_placeAll (entries : List (TermId × kind.Record)) :
    (tables.placeAll entries).next = tables.next := by
  induction entries using List.reverseRecOn with
  | nil => rfl
  | append_singleton entries entry ih => rw [placeAll_append_singleton, next_place, ih]

end PlaceAll

/-- An id is in the forward index of placed entries exactly when some entry carries it. -/
theorem mem_forward_placeAll_new (entries : List (TermId × kind.Record)) (id : TermId) :
    id ∈ ((new kind).placeAll entries).forward ↔ id ∈ entries.map Prod.fst := by
  induction entries using List.reverseRecOn with
  | nil => simp [placeAll, Std.ExtTreeMap.not_mem_empty]
  | append_singleton entries entry ih =>
    rw [placeAll_append_singleton, forward_place, mem_forward_insert, ih]
    simp [or_comm, eq_comm]

/-- No entry carries a record that is not among the entries' records. -/
theorem find?_carries_eq_none {entries : List (TermId × kind.Record)} {record : kind.Record}
    (absent : record ∉ entries.map Prod.snd) :
    entries.find? (fun entry => entry.2 == record) = none := by
  rw [List.find?_eq_none]
  intro entry member carries
  exact absent (List.mem_map.mpr ⟨entry, member, beq_iff_eq.mp carries⟩)

/-- While records are distinct, the reverse index of placed entries answers the id of the
entry that carries a record. -/
theorem reverse_placeAll_new {entries : List (TermId × kind.Record)}
    (records : (entries.map Prod.snd).Nodup) (record : kind.Record) :
    ((new kind).placeAll entries).reverse[record]? =
      (entries.find? fun entry => entry.2 == record).map Prod.fst := by
  induction entries using List.reverseRecOn with
  | nil => simp [placeAll]
  | append_singleton entries entry ih =>
    rw [List.map_append, List.map_singleton, ← List.concat_eq_append, List.nodup_concat] at records
    obtain ⟨newRecord, earlier⟩ := records
    rw [placeAll_append_singleton, reverse_place, getElem?_reverse_insert, List.find?_append,
      ih earlier]
    by_cases same : entry.2 = record
    · -- The last entry carries the record, so no earlier one does.
      rw [if_pos same, find?_carries_eq_none (same ▸ newRecord)]
      simp [same]
    · simp [same]

/-- Reserved insertions of entries with distinct ids and records of the kind, below its first
value and within the handles, reach the tables that place them all. -/
theorem placeAll_new_reached {entries : List (TermId × kind.Record)}
    (ids : (entries.map Prod.fst).Nodup)
    (records : (entries.map Prod.snd).Nodup)
    (reserved : ∀ entry ∈ entries, entry.1.kind = kind ∧ entry.1.value < kind.firstValue)
    (room : entries.length ≤ KindTable.maxRecords) :
    ((new kind).placeAll entries).Reached := by
  induction entries using List.reverseRecOn with
  | nil => exact .new
  | append_singleton entries entry ih =>
    rw [List.map_append, List.map_singleton, ← List.concat_eq_append, List.nodup_concat] at ids
    rw [List.map_append, List.map_singleton, ← List.concat_eq_append, List.nodup_concat] at records
    obtain ⟨newId, earlierIds⟩ := ids
    obtain ⟨newRecord, earlierRecords⟩ := records
    have earlier := ih earlierIds earlierRecords
      (fun other member => reserved other (List.mem_append_left _ member))
      (by rw [List.length_append] at room; omega)
    obtain ⟨kindEq, below⟩ := reserved entry (by simp)
    have freshId : entry.1 ∉ ((new kind).placeAll entries).forward := by
      rw [mem_forward_placeAll_new]
      exact newId
    have freshRecord : ((new kind).placeAll entries).probe entry.2 = none := by
      rw [probe, reverse_placeAll_new earlierRecords, find?_carries_eq_none newRecord,
        Option.map_none]
    have handleLeft : ((new kind).placeAll entries).region.length < KindTable.maxRecords := by
      rw [region_placeAll, region_new, List.nil_append, List.length_map]
      rw [List.length_append, List.length_singleton] at room
      omega
    have reached := Reached.reserve entry.1 entry.2 (.fresh none) earlier kindEq
      (by rw [next_placeAll, next_new]; exact below)
    rw [insertReserved_of_fresh freshId freshRecord handleLeft] at reached
    rw [placeAll_append_singleton]
    exact reached

end IndexedRegion

namespace KindTable

variable {kind : TermKind} (table : KindTable kind.Record)

@[simp] theorem region_layout : table.layout.region = table.entries.map Prod.snd := by
  simp [layout]

/-- The region of a laid-out table holds one record per entry. -/
@[simp] theorem length_region_layout : table.layout.region.length = table.size := by
  rw [region_layout, List.length_map, size]

@[simp] theorem next_layout : table.layout.next = table.next := rfl

/-- An empty table is laid out as empty tables. -/
theorem layout_empty : (empty kind.firstValue : KindTable kind.Record).layout =
    IndexedRegion.new kind :=
  rfl

/-- Pushing an entry places it at the next handle and moves the allocator on. -/
theorem layout_push (id : TermId) (record : kind.Record) :
    (table.push id record).layout =
      { table.layout.place id table.size record with next := table.next + 1 } := by
  have handle : ((IndexedRegion.new kind).placeAll table.entries).region.length = table.size :=
    table.length_region_layout
  simp only [layout, entries_push, IndexedRegion.placeAll_append_singleton, handle, next_push]
  rfl

/-- An id is in the forward index of a laid-out table exactly when an entry carries it. -/
theorem mem_forward_layout (id : TermId) :
    id ∈ table.layout.forward ↔ ∃ record, (id, record) ∈ table.entries := by
  rw [← mem_entryIds_iff]
  exact IndexedRegion.mem_forward_placeAll_new table.entries id

/-- While records are distinct, probing the laid-out table answers the id that a search of
the entries finds. -/
theorem probe_layout (records : (table.entries.map Prod.snd).Nodup) (record : kind.Record) :
    table.layout.probe record = table.idOf? record :=
  IndexedRegion.reverse_placeAll_new records record

/-- A table of distinct reserved entries that starts the allocator at the kind's first value
is laid out by reserved insertions alone. -/
theorem layout_reached_of_reserved
    (bijective : table.Bijective)
    (reserved : ∀ entry ∈ table.entries, entry.1.kind = kind ∧ entry.1.value < kind.firstValue)
    (room : table.size ≤ maxRecords)
    (starts : table.next = kind.firstValue) :
    table.layout.Reached := by
  have placed := IndexedRegion.placeAll_new_reached bijective.ids_nodup bijective.records_nodup
    reserved room
  have sameNext :
      ((IndexedRegion.new kind).placeAll table.entries).next = table.next := by
    rw [IndexedRegion.next_placeAll, IndexedRegion.next_new, starts]
  rw [layout, ← sameNext]
  exact placed

end KindTable

namespace Store

/-- The dictionary's mint for a kind, as a function of the value and the record. -/
def minter (store : Store) (kind : TermKind) :
    (value : Nat) → value < 2 ^ 48 → kind.Record → TermId :=
  fun value fits record => store.mint value fits kind record

/-- Storing a new record on the laid-out table of its kind, with the dictionary's budget and
mint and the same answer of the memory allocator, answers what the dictionary's insertion
answers and lays out the table and budget it leaves, refused or not. -/
theorem insert_layout (store : Store) (kind : TermKind) (record : kind.Record)
    (allocation : Allocation) :
    (store.table kind).layout.insert store.budget record (store.minter kind) allocation =
      ((store.insert kind record allocation).1,
        ((store.insert kind record allocation).2.table kind).layout,
        (store.insert kind record allocation).2.budget) := by
  have handle : (store.table kind).layout.region.length = (store.table kind).size :=
    (store.table kind).length_region_layout
  -- The same four checks, in the same order, on both sides.
  by_cases fits : (store.table kind).next < 2 ^ 48
  · have laidFits : (store.table kind).layout.next < 2 ^ 48 := fits
    by_cases room : (store.table kind).size < KindTable.maxRecords
    · have laidRoom : (store.table kind).layout.region.length < KindTable.maxRecords := by
        rw [handle]
        exact room
      by_cases affordable : store.budget.used + kind.footprint record ≤ store.budget.limit
      · cases allocation with
        | granted =>
          rw [insert_of_granted fits room affordable,
            IndexedRegion.insert_of_granted laidFits laidRoom affordable]
          dsimp only
          rw [table_withRecord_self, budget_withRecord, KindTable.layout_push, handle]
          rfl
        | denied =>
          rw [insert_of_denied fits room affordable,
            IndexedRegion.insert_of_denied laidFits laidRoom affordable]
      · have exceeded := Nat.lt_of_not_le affordable
        rw [insert_of_unaffordable fits room exceeded,
          IndexedRegion.insert_of_unaffordable laidFits laidRoom exceeded]
    · have laidFull : ¬ (store.table kind).layout.region.length < KindTable.maxRecords := by
        rw [handle]
        exact room
      rw [insert_of_full fits room, IndexedRegion.insert_of_full laidFits laidFull]
  · rw [insert_of_next_gt fits, IndexedRegion.insert_of_next_gt fits]

/-- In a coherent dictionary, interning a view that is no reserved IRI is finding or making its
record on the laid-out table of its kind, with the dictionary's budget and mint and the same
answer of the memory allocator. -/
theorem Coherent.intern_eq_findOrMake {store : Store} (coherent : store.Coherent)
    {kind : TermKind} {view : kind.View} (notReserved : store.reservedId? kind view = none)
    (allocation : Allocation) :
    (store.table kind).layout.findOrMake store.budget (kind.toRecord view) (store.minter kind)
        allocation =
      ((store.intern kind view allocation).1,
        ((store.intern kind view allocation).2.table kind).layout,
        (store.intern kind view allocation).2.budget) := by
  have probed := (store.table kind).probe_layout (coherent.bijective kind).records_nodup
    (kind.toRecord view)
  cases found : (store.table kind).idOf? (kind.toRecord view) with
  | some id =>
    have held : store.find? kind view = some id := by simp [find?, notReserved, found]
    rw [intern_of_find?_eq_some held, IndexedRegion.findOrMake, probed, found]
  | none =>
    have missing : store.find? kind view = none := by simp [find?, notReserved, found]
    rw [intern_of_find?_eq_none missing, IndexedRegion.findOrMake, probed, found,
      IndexedRegion.insertSlow, probed, found, insert_layout]

/-- The laid-out tables of every reachable dictionary are reached by the calls the dictionary
makes: building reserves each reserved IRI at its id, below the allocator, and each new term
is inserted after a probe that did not find it, with the dictionary's mint, which keeps the
kind and the value. -/
theorem Reachable.layout_reached {store : Store} (reachable : store.Reachable) (kind : TermKind) :
    (store.table kind).layout.Reached := by
  refine @Reachable.induction_on_insertions (fun store => ∀ kind, (store.table kind).layout.Reached)
    ?_ ?_ store reachable kind
  · intro config _ kind
    by_cases isIri : kind = .iri
    · subst isIri
      have coherent := coherent_preloaded config
      refine ((preloaded config).table .iri).layout_reached_of_reserved (coherent.bijective .iri)
        ?_ ?_ (next_preloaded config .iri)
      · intro entry member
        obtain ⟨-, reservedEntry, reservedMember, isReserved⟩ := reserved_of_mem_preloaded member
        obtain ⟨kindEq, -, below⟩ := config.reserved.id_kind_value reservedMember
        rw [isReserved]
        exact ⟨kindEq, below⟩
      · have entries : ((preloaded config).table .iri).size = config.reserved.entries.length := by
          show (preloaded config).iris.entries.length = _
          rw [preloaded_iris, List.length_map]
        have few := config.reserved.length_le
        rw [entries, KindTable.maxRecords]
        omega
    · rw [table_preloaded_of_ne config isIri, KindTable.layout_empty]
      exact .new
  · intro store step reachable laidOut kind
    by_cases same : kind = step.kind
    · subst same
      have coherent := reachable.coherent
      have absent : (store.table step.kind).layout.probe step.record = none := by
        rw [KindTable.probe_layout _ (coherent.bijective step.kind).records_nodup]
        exact (find?_eq_none_iff.mp step.missing).2
      have stored : store.insert step.kind step.record .granted = (.ok step.id, step.after) :=
        insert_eq_ok_iff.mpr ⟨step.fits, step.room, step.affordable, rfl, rfl, rfl⟩
      have reached := IndexedRegion.Reached.insert store.budget step.record (store.minter step.kind)
        .granted (laidOut step.kind) absent fun fits => ⟨kind_mint .., value_mint ..⟩
      rw [insert_layout, stored] at reached
      exact reached
    · rw [step.table_after_of_ne same]
      exact laidOut kind

/-- The laid-out tables of every reachable dictionary are consistent. -/
theorem Reachable.layout_consistent {store : Store} (reachable : store.Reachable)
    (kind : TermKind) : (store.table kind).layout.Consistent :=
  (reachable.layout_reached kind).consistent

end Store

end TermDictionary
