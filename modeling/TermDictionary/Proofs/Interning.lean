import TermDictionary.Proofs.Run

/-!
# Interning is a bijection

In every reachable dictionary the table of each kind pairs distinct ids with distinct records,
every id there is of the table's kind and below the table's next value, and every reserved IRI
is stored at its id (`Store.Coherent`). Building gives these facts and every insertion keeps
them: the minted id is new because it carries the next value, and the record is new because
its view was not found.

So a look-up finds exactly the id that its record is stored under
(`Coherent.find?_eq_some_iff`), a resolve exactly the record stored under an id
(`Coherent.resolve_eq_ok_iff`), and interning is a bijection between normalized views and the
ids of each kind (`interning_is_bijective`).
-/

namespace TermDictionary

namespace TermKind

/-- Two views have one record exactly when they normalize alike. -/
theorem toRecord_eq_toRecord_iff (kind : TermKind) (view other : kind.View) :
    kind.toRecord view = kind.toRecord other ↔ kind.normalize view = kind.normalize other := by
  constructor
  · intro same
    rw [← recordView_toRecord, same, recordView_toRecord]
  · intro same
    rw [← toRecord_normalize, same, toRecord_normalize]

end TermKind

/-- Two literals normalize alike exactly when they have the same lexical form, the same
datatype as a 64-bit number, and the same tag once an empty tag counts as none. -/
theorem Literal.normalize_eq_normalize_iff (view other : Literal) :
    view.normalize = other.normalize ↔
      view.lexical = other.lexical ∧ view.datatype.toRaw = other.datatype.toRaw ∧
        view.normalize.language = other.normalize.language := by
  constructor
  · intro same
    have lexical := congrArg Literal.lexical same
    have datatype := congrArg Literal.datatype same
    exact ⟨lexical, congrArg TermId.toRaw datatype, congrArg Literal.language same⟩
  · rintro ⟨lexical, datatype, language⟩
    have sameDatatype : view.datatype = other.datatype := TermId.toRaw_injective datatype
    cases view
    cases other
    simp_all [normalize]

namespace ReservedTable

variable (table : ReservedTable)

theorem exists_of_idOf?_eq_some {iri : String} {id : TermId} (found : table.idOf? iri = some id) :
    ∃ entry ∈ table.entries, entry.iri = iri ∧ entry.id = id := by
  simp only [idOf?, Option.map_eq_some_iff] at found
  obtain ⟨entry, selected, rfl⟩ := found
  exact ⟨entry, List.mem_of_find?_eq_some selected, by simpa using List.find?_some selected, rfl⟩

end ReservedTable

namespace Store

/-- A view is missing exactly when it is no reserved IRI and its record is in no entry. -/
theorem find?_eq_none_iff {store : Store} {kind : TermKind} {view : kind.View} :
    store.find? kind view = none ↔
      store.reservedId? kind view = none ∧
        (store.table kind).idOf? (kind.toRecord view) = none := by
  simp [find?]

/-- What every reachable dictionary keeps. -/
structure Coherent (store : Store) : Prop where
  /-- Each table pairs distinct ids with distinct records. -/
  bijective : ∀ kind, (store.table kind).Bijective
  /-- Every id of a table is of the table's kind. -/
  kind_eq : ∀ kind, ∀ entry ∈ (store.table kind).entries, entry.1.kind = kind
  /-- Every id of a table lies below the table's next value. -/
  value_lt_next : ∀ kind, ∀ entry ∈ (store.table kind).entries,
    entry.1.value < (store.table kind).next
  /-- Every reserved IRI is stored at its id. -/
  reserved_stored : ∀ entry ∈ store.reserved.entries, (entry.id, entry.iri) ∈ store.iris.entries

/-! ## Tables after an insertion -/

namespace Insertion

variable {store : Store} (step : Insertion store)

/-- A fact about every table holds after an insertion when it holds of the untouched tables
and of the table the new record is pushed to. -/
theorem forall_table_after
    {motive : (kind : TermKind) → KindTable kind.Record → Prop}
    (unchanged : ∀ kind, kind ≠ step.kind → motive kind (store.table kind))
    (pushed : motive step.kind ((store.table step.kind).push step.id step.record))
    (kind : TermKind) :
    motive kind (step.after.table kind) := by
  obtain ⟨inserted, view, missing, fits, room, affordable⟩ := step
  by_cases same : kind = inserted
  · subst same
    rw [table_after_self]
    exact pushed
  · rw [table_after_of_ne _ same]
    exact unchanged kind same

theorem entries_after_of_mem
    (kind : TermKind)
    {entry : TermId × kind.Record}
    (member : entry ∈ (store.table kind).entries) :
    entry ∈ (step.after.table kind).entries := by
  refine step.forall_table_after (motive := fun kind table =>
    ∀ entry ∈ (store.table kind).entries, entry ∈ table.entries) ?_ ?_ kind entry member
  · intro other _ entry member
    exact member
  · intro entry member
    exact KindTable.mem_entries_push.mpr (.inl member)

/-- The record of an insertion is in no entry of its table. -/
theorem record_fresh : ∀ other, (other, step.record) ∉ (store.table step.kind).entries := by
  have absent := (find?_eq_none_iff.mp step.missing).2
  exact (KindTable.idOf?_eq_none_iff _ _).mp absent

end Insertion

/-! ## The invariant -/

theorem coherent_preloaded (config : StoreConfig) : (preloaded config).Coherent := by
  constructor
  · intro kind
    by_cases isIri : kind = .iri
    · subst isIri
      show (preloaded config).iris.Bijective
      rw [preloaded_iris]
      constructor
      · simpa [Function.comp_def] using config.reserved.ids_nodup
      · simpa [Function.comp_def] using config.reserved.iris_nodup
    · rw [table_preloaded_of_ne config isIri]
      exact KindTable.bijective_empty _
  · intro kind entry member
    obtain ⟨rfl, reserved, reservedMember, isReserved⟩ := reserved_of_mem_preloaded member
    rw [isReserved]
    exact (config.reserved.id_kind_value reservedMember).1
  · intro kind entry member
    obtain ⟨rfl, reserved, reservedMember, isReserved⟩ := reserved_of_mem_preloaded member
    rw [isReserved, next_preloaded]
    exact (config.reserved.id_kind_value reservedMember).2.2
  · intro entry member
    rw [preloaded_iris]
    exact List.mem_map_of_mem member

theorem Coherent.after {store : Store} (coherent : store.Coherent) (step : Insertion store) :
    step.after.Coherent := by
  -- The minted id carries the next value, which every stored id lies below.
  have idFresh : ∀ other, (step.id, other) ∉ (store.table step.kind).entries := by
    intro other member
    have below := coherent.value_lt_next step.kind _ member
    rw [Insertion.value_id] at below
    exact Nat.lt_irrefl _ below
  constructor
  · exact step.forall_table_after (motive := fun _ table => table.Bijective)
      (fun kind _ => coherent.bijective kind)
      ((coherent.bijective step.kind).push idFresh step.record_fresh)
  · refine step.forall_table_after (motive := fun kind table =>
      ∀ entry ∈ table.entries, entry.1.kind = kind) (fun kind _ => coherent.kind_eq kind) ?_
    intro entry member
    rcases KindTable.mem_entries_push.mp member with old | rfl
    · exact coherent.kind_eq step.kind entry old
    · exact step.kind_id
  · refine step.forall_table_after (motive := fun _ table =>
      ∀ entry ∈ table.entries, entry.1.value < table.next)
      (fun kind _ => coherent.value_lt_next kind) ?_
    intro entry member
    rw [KindTable.next_push]
    rcases KindTable.mem_entries_push.mp member with old | rfl
    · exact Nat.lt_succ_of_lt (coherent.value_lt_next step.kind entry old)
    · rw [step.value_id]
      exact Nat.lt_succ_self _
  · intro entry member
    rw [Insertion.reserved_after] at member
    exact step.entries_after_of_mem .iri (coherent.reserved_stored entry member)

/-- Every reachable dictionary is coherent. -/
theorem Reachable.coherent {store : Store} (reachable : store.Reachable) : store.Coherent :=
  reachable.induction_on_insertions (fun config _ => coherent_preloaded config)
    (fun _ step _ coherent => coherent.after step)

/-! ## Look-ups in a coherent dictionary -/

namespace Coherent

variable {store : Store} (coherent : store.Coherent)
include coherent

/-- A view is found under exactly the id its record is stored under. -/
theorem find?_eq_some_iff {kind : TermKind} {view : kind.View} {id : TermId} :
    store.find? kind view = some id ↔ (id, kind.toRecord view) ∈ (store.table kind).entries := by
  have lookUp : (store.table kind).idOf? (kind.toRecord view) = some id ↔
      (id, kind.toRecord view) ∈ (store.table kind).entries :=
    (coherent.bijective kind).idOf?_eq_some_iff
  cases kind with
  | iri =>
    cases reserved : store.reserved.idOf? view with
    | none => simpa [find?, reservedId?, reserved] using lookUp
    | some reservedId =>
      -- A reserved IRI is answered from the reserved table, which agrees with the IRI table.
      obtain ⟨entry, member, rfl, rfl⟩ := store.reserved.exists_of_idOf?_eq_some reserved
      have stored := coherent.reserved_stored entry member
      simp only [find?, reservedId?, reserved, Option.some_or, Option.some.injEq]
      constructor
      · rintro rfl
        exact stored
      · intro found
        exact (coherent.bijective .iri).id_eq stored found
  | var => simpa [find?, reservedId?] using lookUp
  | blank => simpa [find?, reservedId?] using lookUp
  | literal => simpa [find?, reservedId?] using lookUp

/-- An id resolves in the table of a kind to exactly the record stored under it. -/
theorem resolve_eq_ok_iff {kind : TermKind} {id : TermId} {record : kind.Record} :
    store.resolve kind id = .ok record ↔ (id, record) ∈ (store.table kind).entries := by
  have lookUp : (store.table kind).get? id = some record ↔
      (id, record) ∈ (store.table kind).entries :=
    (coherent.bijective kind).get?_eq_some_iff
  unfold resolve
  constructor
  · intro resolved
    split at resolved
    · split at resolved
      · rename_i stored found
        cases resolved
        exact lookUp.mp found
      · cases resolved
    · cases resolved
  · intro member
    have ofKind : id.kind = kind := coherent.kind_eq kind _ member
    simp [ofKind, lookUp.mpr member]

/-- The view of a stored record is found under the record's id. -/
theorem find?_recordView {kind : TermKind} {id : TermId} {record : kind.Record}
    (stored : (id, record) ∈ (store.table kind).entries) :
    store.find? kind (kind.recordView record) = some id := by
  rw [coherent.find?_eq_some_iff, TermKind.toRecord_recordView]
  exact stored

end Coherent

/-! ## Interning -/

/-- In every reachable dictionary and for every kind, interning is a bijection between
normalized views and the kind's ids: two views get one id exactly when they normalize alike
(for literals: the same lexical form, the same datatype number and the same tag, an empty tag
counting as none), the ids that look-ups reach are exactly the kind's ids, each of them
resolves to a record that looks up to it again and is of the kind, and every reserved IRI is
found and resolved at its own id. -/
theorem interning_is_bijective
    {store : Store}
    (reachable : store.Reachable)
    (kind : TermKind) :
    (∀ view other id, store.find? kind view = some id →
      (store.find? kind other = some id ↔ kind.normalize view = kind.normalize other)) ∧
    (∀ view other : Literal, view.normalize = other.normalize ↔
      view.lexical = other.lexical ∧ view.datatype.toRaw = other.datatype.toRaw ∧
        view.normalize.language = other.normalize.language) ∧
    (∀ id, id ∈ store.ids kind ↔ ∃ view, store.find? kind view = some id) ∧
    (∀ id ∈ store.ids kind, ∃ record, store.resolve kind id = .ok record ∧
      store.find? kind (kind.recordView record) = some id) ∧
    (∀ id ∈ store.ids kind, id.kind = kind ∧ ∀ other, id ∈ store.ids other → other = kind) ∧
    (∀ entry ∈ store.reserved.entries,
      store.find? .iri entry.iri = some entry.id ∧
        store.resolve .iri entry.id = .ok entry.iri) := by
  have coherent := reachable.coherent
  have memIds : ∀ kind id, id ∈ store.ids kind ↔
      ∃ record, (id, record) ∈ (store.table kind).entries :=
    fun kind id => KindTable.mem_ids_iff _ _
  refine ⟨?_, Literal.normalize_eq_normalize_iff, ?_, ?_, ?_, ?_⟩
  · intro view other id found
    have stored := coherent.find?_eq_some_iff.mp found
    rw [coherent.find?_eq_some_iff, ← kind.toRecord_eq_toRecord_iff]
    constructor
    · intro otherStored
      exact (coherent.bijective kind).record_eq stored otherStored
    · intro same
      rw [← same]
      exact stored
  · intro id
    rw [memIds]
    constructor
    · rintro ⟨record, member⟩
      exact ⟨kind.recordView record, coherent.find?_recordView member⟩
    · rintro ⟨view, found⟩
      exact ⟨_, coherent.find?_eq_some_iff.mp found⟩
  · intro id member
    obtain ⟨record, stored⟩ := (memIds kind id).mp member
    exact ⟨record, coherent.resolve_eq_ok_iff.mpr stored, coherent.find?_recordView stored⟩
  · intro id member
    obtain ⟨record, stored⟩ := (memIds kind id).mp member
    have ofKind := coherent.kind_eq kind _ stored
    refine ⟨ofKind, fun other otherMember => ?_⟩
    obtain ⟨otherRecord, otherStored⟩ := (memIds other id).mp otherMember
    exact (coherent.kind_eq other _ otherStored).symm.trans ofKind
  · intro entry member
    have stored : (entry.id, entry.iri) ∈ (store.table .iri).entries :=
      coherent.reserved_stored entry member
    exact ⟨coherent.find?_eq_some_iff.mpr stored, coherent.resolve_eq_ok_iff.mpr stored⟩

/-- After interning one IRI into the standard dictionary, IRI interning is a bijection. -/
theorem interning_is_bijective_after_one_iri :
    let store := (preloaded {}).run [.intern .iri "http://example.org/a" .granted]
    store.Reachable ∧
    (∀ view other id, store.find? .iri view = some id →
      (store.find? .iri other = some id ↔
        TermKind.iri.normalize view = TermKind.iri.normalize other)) ∧
    (∀ view other : Literal, view.normalize = other.normalize ↔
      view.lexical = other.lexical ∧ view.datatype.toRaw = other.datatype.toRaw ∧
        view.normalize.language = other.normalize.language) ∧
    (∀ id, id ∈ store.ids .iri ↔ ∃ view, store.find? .iri view = some id) ∧
    (∀ id ∈ store.ids .iri, ∃ record, store.resolve .iri id = .ok record ∧
      store.find? .iri (TermKind.iri.recordView record) = some id) ∧
    (∀ id ∈ store.ids .iri, id.kind = .iri ∧ ∀ other, id ∈ store.ids other → other = .iri) ∧
    (∀ entry ∈ store.reserved.entries,
      store.find? .iri entry.iri = some entry.id ∧ store.resolve .iri entry.id = .ok entry.iri) := by
  intro store
  have reachable : store.Reachable :=
    (Reachable.build (show Store.build {} = .ok (preloaded {}) from rfl)).run _
  exact ⟨reachable, interning_is_bijective reachable .iri⟩

end Store

end TermDictionary
