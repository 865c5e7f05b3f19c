import TermDictionary.Proofs.Interning

/-!
# Reserved IRIs in a running dictionary

A dictionary reads its reserved table in two places: it answers a reserved IRI from the
table without looking in the IRI table, and it gives a new literal's id the class that the
table assigns to the literal's datatype. In every reachable dictionary both agree with what
the tables hold.

The IRI table stores every reserved IRI at its id, and holds no other entry for one, since
interning a reserved IRI never reaches the table. So the short-cut answers exactly what the
IRI table alone would, for look-ups and interning alike, and leaves the same dictionary
(`reserved_shortcut_agrees_with_table`).

A literal's class is read once, when its id is minted. The record keeps the datatype id and
the reserved table never changes, so every literal id carries the class of its record's
datatype (`literal_ids_carry_datatype_class`): the class of the entry with exactly that id,
or `other` when no entry has the id or the entry marks no class
(`ReservedTable.classOf_eq_iff`).
-/

namespace TermDictionary

namespace ReservedTable

variable (table : ReservedTable)

/-- An entry of a table is fixed by its id. -/
theorem eq_of_id_eq
    {entry other : ReservedIri}
    (member : entry ∈ table.entries)
    (otherMember : other ∈ table.entries)
    (same : other.id = entry.id) :
    other = entry :=
  List.inj_on_of_nodup_map table.ids_nodup otherMember member same

/-- The class of an entry's own id is the class it marks, or `other`. -/
theorem classOf_of_mem {entry : ReservedIri} (member : entry ∈ table.entries) :
    table.classOf entry.id = entry.datatypeClass.getD .other := by
  have found : table.entries.find? (fun candidate => candidate.id == entry.id) = some entry :=
    (KindTable.find?_key_eq_some_iff ReservedIri.id table.ids_nodup).mpr ⟨member, rfl⟩
  simp [classOf, found]

/-- A datatype id that no entry carries has class `other`. -/
theorem classOf_of_forall_ne
    {datatype : TermId}
    (absent : ∀ entry ∈ table.entries, entry.id ≠ datatype) :
    table.classOf datatype = .other := by
  have missing : table.entries.find? (fun candidate => candidate.id == datatype) = none := by
    rw [List.find?_eq_none]
    intro entry member
    simpa using absent entry member
  simp [classOf, missing]

/-- A datatype id has a class exactly when the entry with exactly that id marks it, or when
the class is `other` and no entry with that id marks a class. -/
theorem classOf_eq_iff (datatype : TermId) (cls : DatatypeClass) :
    table.classOf datatype = cls ↔
      (∃ entry ∈ table.entries, entry.id.toRaw = datatype.toRaw ∧
          entry.datatypeClass = some cls) ∨
        (cls = .other ∧ ∀ entry ∈ table.entries, entry.id.toRaw = datatype.toRaw →
          entry.datatypeClass = none) := by
  have sameId : ∀ entry : ReservedIri, entry.id.toRaw = datatype.toRaw ↔ entry.id = datatype :=
    fun entry => ⟨TermId.toRaw_injective, congrArg TermId.toRaw⟩
  simp only [sameId]
  by_cases carried : ∃ entry ∈ table.entries, entry.id = datatype
  · obtain ⟨entry, member, rfl⟩ := carried
    -- The entry is the only one with its id.
    have marks : (∃ other ∈ table.entries, other.id = entry.id ∧
        other.datatypeClass = some cls) ↔ entry.datatypeClass = some cls := by
      constructor
      · rintro ⟨other, otherMember, same, marked⟩
        rwa [← table.eq_of_id_eq member otherMember same]
      · intro marked
        exact ⟨entry, member, rfl, marked⟩
    have marksNone : (∀ other ∈ table.entries, other.id = entry.id →
        other.datatypeClass = none) ↔ entry.datatypeClass = none := by
      constructor
      · intro unmarked
        exact unmarked entry member rfl
      · intro unmarked other otherMember same
        rw [table.eq_of_id_eq member otherMember same]
        exact unmarked
    rw [table.classOf_of_mem member, marks, marksNone]
    cases entry.datatypeClass with
    | none => simp [eq_comm]
    | some marked => simp
  · have absent : ∀ entry ∈ table.entries, entry.id ≠ datatype := by
      intro entry member same
      exact carried ⟨entry, member, same⟩
    rw [table.classOf_of_forall_ne absent, eq_comm]
    constructor
    · intro isOther
      exact .inr ⟨isOther, fun entry member same => absurd same (absent entry member)⟩
    · rintro (⟨entry, member, same, -⟩ | ⟨isOther, -⟩)
      · exact absurd same (absent entry member)
      · exact isOther

/-- The class that the id of a record carries: a literal's is the class of its datatype, and
ids of other kinds carry none. -/
def recordClass : (kind : TermKind) → kind.Record → Option DatatypeClass
  | .literal, record => some (table.classOf record.datatype)
  | .var, _ => none
  | .blank, _ => none
  | .iri, _ => none

end ReservedTable

namespace Store

/-! ## The reserved short-cut -/

/-- The id of the term a view names by the table of its kind alone. -/
def findInTable? (store : Store) (kind : TermKind) (view : kind.View) : Option TermId :=
  (store.table kind).idOf? (kind.toRecord view)

/-- Interning by the table of the view's kind alone: the id of an equal record, or the
record stored anew, and the dictionary afterwards. -/
def internInTable (store : Store) (kind : TermKind) (view : kind.View)
    (allocation : Allocation) : Except StoreError TermId × Store :=
  match store.findInTable? kind view with
  | some id => (.ok id, store)
  | none => store.insert kind (kind.toRecord view) allocation

namespace Coherent

variable {store : Store} (coherent : store.Coherent)
include coherent

/-- A coherent dictionary finds every view where the table of its kind alone finds it. -/
theorem find?_eq_findInTable? (kind : TermKind) (view : kind.View) :
    store.find? kind view = store.findInTable? kind view := by
  apply Option.ext
  intro id
  rw [coherent.find?_eq_some_iff, findInTable?, (coherent.bijective kind).idOf?_eq_some_iff]

theorem intern_eq_internInTable (kind : TermKind) (view : kind.View) (allocation : Allocation) :
    store.intern kind view allocation = store.internInTable kind view allocation := by
  have agree := coherent.find?_eq_findInTable? kind view
  cases found : store.findInTable? kind view with
  | some id =>
    rw [found] at agree
    rw [intern_of_find?_eq_some agree]
    simp [internInTable, found]
  | none =>
    rw [found] at agree
    rw [intern_of_find?_eq_none agree]
    simp [internInTable, found]

end Coherent

/-- In every reachable dictionary, answering reserved IRIs from the reserved table changes
nothing: every look-up finds what the table of the view's kind alone finds, and every
interning answers and leaves what interning by that table alone would; the IRI table maps
every reserved IRI to exactly its configured id, and that id back to the IRI. -/
theorem reserved_shortcut_agrees_with_table
    {store : Store}
    (reachable : store.Reachable) :
    (∀ kind view, store.find? kind view = store.findInTable? kind view ∧
      ∀ allocation,
        store.intern kind view allocation = store.internInTable kind view allocation) ∧
    ∀ entry ∈ store.reserved.entries,
      store.iris.idOf? entry.iri = some entry.id ∧ store.iris.get? entry.id = some entry.iri := by
  have coherent := reachable.coherent
  refine ⟨fun kind view => ⟨coherent.find?_eq_findInTable? kind view,
    coherent.intern_eq_internInTable kind view⟩, ?_⟩
  intro entry member
  have stored : (entry.id, entry.iri) ∈ (store.table .iri).entries :=
    coherent.reserved_stored entry member
  exact ⟨(coherent.bijective .iri).idOf?_eq_some_iff.mpr stored,
    (coherent.bijective .iri).get?_eq_some_iff.mpr stored⟩

/-- In the standard dictionary after an IRI and a literal typed by a reserved IRI, the
reserved short-cut agrees with the tables. -/
theorem reserved_shortcut_agrees_in_standard_run :
    let store := (preloaded {}).run [.intern .iri "http://example.org/a" .granted,
      .intern .literal ⟨"42", TermId.make .iri 5 (by decide), none⟩ .granted]
    store.Reachable ∧
    (∀ kind view, store.find? kind view = store.findInTable? kind view ∧
      ∀ allocation,
        store.intern kind view allocation = store.internInTable kind view allocation) ∧
    ∀ entry ∈ store.reserved.entries,
      store.iris.idOf? entry.iri = some entry.id ∧ store.iris.get? entry.id = some entry.iri := by
  intro store
  have reachable : store.Reachable :=
    (Reachable.build (show Store.build {} = .ok (preloaded {}) from rfl)).run _
  exact ⟨reachable, reserved_shortcut_agrees_with_table reachable⟩

/-! ## Classes of literal ids -/

/-- A minted id carries the class of its record. -/
theorem datatypeClass?_mint
    (store : Store)
    (value : Nat)
    (fits : value < 2 ^ 48)
    (kind : TermKind)
    (record : kind.Record) :
    (store.mint value fits kind record).datatypeClass? =
      store.reserved.recordClass kind record := by
  cases kind with
  | literal => exact TermId.datatypeClass?_literal _ _ _
  | var => rfl
  | blank => rfl
  | iri => rfl

/-- Every id of a dictionary carries the class of its record. -/
def ClassesRecorded (store : Store) : Prop :=
  ∀ kind, ∀ entry ∈ (store.table kind).entries,
    entry.1.datatypeClass? = store.reserved.recordClass kind entry.2

theorem classesRecorded_preloaded (config : StoreConfig) : (preloaded config).ClassesRecorded := by
  intro kind entry member
  obtain ⟨rfl, reserved, reservedMember, isReserved⟩ := reserved_of_mem_preloaded member
  -- Reserved ids are IRI ids, and IRI ids carry no class.
  have iriKind := (config.reserved.id_kind_value reservedMember).1
  rw [isReserved]
  simp [TermId.datatypeClass?, iriKind, ReservedTable.recordClass]

theorem ClassesRecorded.after
    {store : Store}
    (recorded : store.ClassesRecorded)
    (step : Insertion store) :
    step.after.ClassesRecorded := by
  intro kind
  rw [Insertion.reserved_after]
  refine step.forall_table_after (motive := fun kind table => ∀ entry ∈ table.entries,
      entry.1.datatypeClass? = store.reserved.recordClass kind entry.2)
    (fun kind _ => recorded kind) ?_ kind
  intro entry member
  rcases KindTable.mem_entries_push.mp member with old | rfl
  · exact recorded step.kind entry old
  · exact datatypeClass?_mint ..

theorem Reachable.classesRecorded {store : Store} (reachable : store.Reachable) :
    store.ClassesRecorded :=
  reachable.induction_on_insertions (fun config _ => classesRecorded_preloaded config)
    (fun _ step _ recorded => recorded.after step)

/-- In every reachable dictionary, every literal id resolves to a record whose datatype's class,
as the dictionary's reserved table gives it, is the class the id carries; and the reserved
table gives a datatype id the class of the entry with exactly that 64-bit id, or `other` when
no entry has that id or the entry marks no class. -/
theorem literal_ids_carry_datatype_class
    {store : Store}
    (reachable : store.Reachable) :
    (∀ id ∈ store.ids .literal, ∃ record, store.resolve .literal id = .ok record ∧
      id.datatypeClass? = some (store.reserved.classOf record.datatype)) ∧
    ∀ datatype cls, store.reserved.classOf datatype = cls ↔
      (∃ entry ∈ store.reserved.entries, entry.id.toRaw = datatype.toRaw ∧
          entry.datatypeClass = some cls) ∨
        (cls = .other ∧ ∀ entry ∈ store.reserved.entries, entry.id.toRaw = datatype.toRaw →
          entry.datatypeClass = none) := by
  have coherent := reachable.coherent
  have recorded := reachable.classesRecorded
  refine ⟨?_, store.reserved.classOf_eq_iff⟩
  intro id member
  obtain ⟨record, stored⟩ := (KindTable.mem_ids_iff _ _).mp member
  exact ⟨record, coherent.resolve_eq_ok_iff.mpr stored, recorded .literal _ stored⟩

/-- In the standard dictionary after an integer literal, a tagged string, an IRI and a literal
of that IRI's type, every literal id carries the class of its datatype. -/
theorem literal_ids_carry_datatype_class_in_standard_run :
    let store := (preloaded {}).run
      [.intern .literal ⟨"42", TermId.make .iri 5 (by decide), none⟩ .granted,
        .intern .literal ⟨"chat", TermId.make .iri 2 (by decide), some "fr"⟩ .granted,
        .intern .iri "http://example.org/dt" .granted,
        .intern .literal ⟨"x", TermId.make .iri 64 (by decide), none⟩ .granted]
    store.Reachable ∧
    (∀ id ∈ store.ids .literal, ∃ record, store.resolve .literal id = .ok record ∧
      id.datatypeClass? = some (store.reserved.classOf record.datatype)) ∧
    ∀ datatype cls, store.reserved.classOf datatype = cls ↔
      (∃ entry ∈ store.reserved.entries, entry.id.toRaw = datatype.toRaw ∧
          entry.datatypeClass = some cls) ∨
        (cls = .other ∧ ∀ entry ∈ store.reserved.entries, entry.id.toRaw = datatype.toRaw →
          entry.datatypeClass = none) := by
  intro store
  have reachable : store.Reachable :=
    (Reachable.build (show Store.build {} = .ok (preloaded {}) from rfl)).run _
  exact ⟨reachable, literal_ids_carry_datatype_class reachable⟩

end Store

end TermDictionary
