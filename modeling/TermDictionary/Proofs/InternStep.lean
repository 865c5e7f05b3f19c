import TermDictionary.Proofs.Accounting
import TermDictionary.Proofs.Reserved

/-!
# One interning, exactly

Interning a view first normalizes it. When the dictionary holds the term, reserved IRIs
included, the answer is its id and nothing changes. Otherwise three checks are made in turn:
the kind's next value must fit in an id, the kind's table must have room, and the budget must
take the record's bytes without passing the capacity or the largest 64-bit number. The first
check that fails names the error, and nothing changes (`intern_of_next_gt`, `intern_of_full`,
`intern_of_unaffordable`). When all pass, the allocator is asked for room: if it refuses, the
claim on the bytes is given back and the refusal changes nothing (`intern_of_denied`); if it
grants room, the new record is stored under the id whose number has the kind in its top bits,
a literal's datatype class in bits 61–56, and the next value in its low bits; the table gains
exactly that entry and its next value moves on by one, the bytes of the normalized view are
charged, and nothing else changes (`intern_of_room`).
-/

namespace TermDictionary

namespace TermId

/-- A value is at most the largest value exactly when it fits in the 48 value bits. -/
theorem le_maxValue_iff {value : Nat} : value ≤ maxValue ↔ value < 2 ^ 48 := by
  unfold maxValue
  omega

end TermId

namespace Budget

/-- A total is within the limit exactly when it is within the capacity, if there is one, and
within the largest 64-bit number. -/
theorem le_limit_iff (budget : Budget) (total : Nat) :
    total ≤ budget.limit ↔
      (∀ capacity, budget.capacity = some capacity → total ≤ capacity) ∧
        total ≤ wordMax := by
  unfold limit
  cases budget.capacity with
  | none => simp
  | some capacity =>
    simp only [Option.some.injEq, forall_eq']
    omega

end Budget

namespace Store

variable (store : Store)

theorem reservedId?_normalize (kind : TermKind) (view : kind.View) :
    store.reservedId? kind (kind.normalize view) = store.reservedId? kind view := by
  cases kind <;> rfl

/-- A look-up normalizes the view first. -/
@[simp] theorem find?_normalize (kind : TermKind) (view : kind.View) :
    store.find? kind (kind.normalize view) = store.find? kind view := by
  simp only [find?, reservedId?_normalize, TermKind.toRecord_normalize]

/-- The number of a minted id: the kind's code in bits 63–62, the class tag that the record
gives a literal's id in bits 61–56, and the value in the low bits. -/
theorem toRaw_mint (value : Nat) (fits : value < 2 ^ 48) (kind : TermKind)
    (record : kind.Record) :
    (store.mint value fits kind record).toRaw =
      kind.code * 2 ^ 62 +
        ((store.reserved.recordClass kind record).map DatatypeClass.tag).getD 0 * 2 ^ 56 +
        value := by
  cases kind <;>
    simp [mint, TermId.toRaw, TermId.make, TermId.literal, ReservedTable.recordClass]

/-- The bytes of a view's record are those of the normalized view. -/
theorem footprint_toRecord (kind : TermKind) (view : kind.View) :
    kind.footprint (kind.toRecord view) = kind.viewFootprint (kind.normalize view) := by
  rw [TermKind.viewFootprint_eq_footprint, TermKind.toRecord_normalize]

variable {store}

/-! ## The branches of an interning of a missing term -/

section Missing

variable {kind : TermKind} {view : kind.View}

/-- A missing term whose kind has handed out every value is refused for want of ids, before
anything changes. -/
theorem intern_of_next_gt
    (missing : store.find? kind view = none)
    (exhausted : TermId.maxValue < (store.table kind).next)
    (allocation : Allocation) :
    store.intern kind view allocation = (.error (.idSpaceExhausted kind), store) := by
  rw [intern_of_find?_eq_none missing]
  exact insert_of_next_gt (fun fits => Nat.not_le.mpr exhausted (TermId.le_maxValue_iff.mpr fits))
    allocation

/-- A missing term whose kind's table is full is refused for want of a handle, before anything
changes. -/
theorem intern_of_full
    (missing : store.find? kind view = none)
    (fits : (store.table kind).next ≤ TermId.maxValue)
    (full : KindTable.maxRecords ≤ (store.table kind).size)
    (allocation : Allocation) :
    store.intern kind view allocation = (.error (.allocationFailed kind), store) := by
  rw [intern_of_find?_eq_none missing]
  exact insert_of_full (TermId.le_maxValue_iff.mp fits) (Nat.not_lt.mpr full) allocation

/-- A missing term whose bytes pass the capacity or the largest 64-bit number is refused, with
the bytes of the normalized view, the bytes in use and the capacity, before anything changes. -/
theorem intern_of_unaffordable
    (missing : store.find? kind view = none)
    (fits : (store.table kind).next ≤ TermId.maxValue)
    (room : (store.table kind).size < KindTable.maxRecords)
    (unaffordable :
      (∃ capacity, store.budget.capacity = some capacity ∧
          capacity < store.budget.used + kind.viewFootprint (kind.normalize view)) ∨
        Budget.wordMax < store.budget.used + kind.viewFootprint (kind.normalize view))
    (allocation : Allocation) :
    store.intern kind view allocation =
      (.error (.regionExhausted kind (kind.viewFootprint (kind.normalize view)) store.budget.used
        (store.budget.capacity.getD Budget.wordMax)), store) := by
  rw [intern_of_find?_eq_none missing, ← footprint_toRecord]
  rw [← footprint_toRecord, ← Budget.limit_lt_iff] at unaffordable
  exact insert_of_unaffordable (TermId.le_maxValue_iff.mp fits) room unaffordable allocation

/-- A missing term that passes the three checks is refused when the allocator denies room, and
the claim on its bytes is given back. -/
theorem intern_of_denied
    (missing : store.find? kind view = none)
    (fits : (store.table kind).next < 2 ^ 48)
    (room : (store.table kind).size < KindTable.maxRecords)
    (affordable :
      store.budget.used + kind.viewFootprint (kind.normalize view) ≤ store.budget.limit) :
    store.intern kind view .denied = (.error (.allocationFailed kind), store) := by
  rw [intern_of_find?_eq_none missing]
  rw [← footprint_toRecord] at affordable
  exact insert_of_denied fits room affordable

/-- A missing term that passes the three checks, with room granted, is stored at the kind's
next value. -/
theorem intern_of_room
    (missing : store.find? kind view = none)
    (fits : (store.table kind).next < 2 ^ 48)
    (room : (store.table kind).size < KindTable.maxRecords)
    (affordable :
      store.budget.used + kind.viewFootprint (kind.normalize view) ≤ store.budget.limit) :
    store.intern kind view .granted =
      (.ok (store.mint (store.table kind).next fits kind (kind.toRecord view)),
        store.withRecord kind (store.mint (store.table kind).next fits kind (kind.toRecord view))
          (kind.toRecord view)) := by
  rw [intern_of_find?_eq_none missing]
  rw [← footprint_toRecord] at affordable
  exact insert_of_granted fits room affordable

end Missing

/-- In a coherent dictionary the id minted at a kind's next value is none of the kind's ids. -/
theorem Coherent.mint_not_mem_ids
    (coherent : store.Coherent)
    {kind : TermKind}
    (fits : (store.table kind).next < 2 ^ 48)
    (record : kind.Record) :
    store.mint (store.table kind).next fits kind record ∉ store.ids kind := by
  intro member
  obtain ⟨held, stored⟩ := (KindTable.mem_ids_iff _ _).mp member
  have below := coherent.value_lt_next kind _ stored
  rw [value_mint] at below
  exact Nat.lt_irrefl _ below

/-- In every reachable dictionary, interning a view `view` of a kind, whose normalized form
is `w`, does exactly this, whatever the memory allocator answers unless said otherwise. If the
dictionary finds `w`, a reserved IRI included, the answer is that id and nothing changes.
Otherwise, if the kind's next value is at most the largest value, its table holds fewer than
2^32 records, and the bytes of `w` fit within the capacity and the largest 64-bit number, then
with room granted the answer is the new id whose number has the kind's code in bits 63–62, a
literal's datatype class tag in bits 61–56 and the next value in bits 47–0, an id the kind did
not have; the kind's table gains exactly the entry of that id and the record of `w`, its next
value moves on by one, the bytes of `w` are charged, and the other tables, the capacity and the
reserved IRIs stay; with room denied the interning is refused for want of room and nothing
changes. Otherwise the first check that fails names the error and nothing changes: the id
space, then the table's room, then the budget, which reports the bytes of `w`, the bytes in use
and the capacity (the largest 64-bit number when there is none). -/
theorem intern_step_is_exact
    (reachable : store.Reachable)
    (kind : TermKind)
    (view : kind.View) :
    (∀ id allocation, store.find? kind (kind.normalize view) = some id →
      store.intern kind view allocation = (.ok id, store)) ∧
    (store.find? kind (kind.normalize view) = none →
      (store.table kind).next ≤ TermId.maxValue →
      (store.table kind).size < KindTable.maxRecords →
      (∀ capacity, store.budget.capacity = some capacity →
        store.budget.used + kind.viewFootprint (kind.normalize view) ≤ capacity) →
      store.budget.used + kind.viewFootprint (kind.normalize view) ≤ Budget.wordMax →
      (∃ id after, store.intern kind view .granted = (.ok id, after) ∧
        id.toRaw = kind.code * 2 ^ 62 +
          ((store.reserved.recordClass kind (kind.toRecord view)).map DatatypeClass.tag).getD 0 *
            2 ^ 56 + (store.table kind).next ∧
        id ∉ store.ids kind ∧
        (after.table kind).entries =
          (store.table kind).entries ++ [(id, kind.toRecord (kind.normalize view))] ∧
        (after.table kind).next = (store.table kind).next + 1 ∧
        (∀ other, other ≠ kind → after.table other = store.table other) ∧
        after.budget.used = store.budget.used + kind.viewFootprint (kind.normalize view) ∧
        after.budget.capacity = store.budget.capacity ∧
        after.reserved = store.reserved) ∧
      store.intern kind view .denied = (.error (.allocationFailed kind), store)) ∧
    (store.find? kind (kind.normalize view) = none → ∀ allocation,
      (TermId.maxValue < (store.table kind).next →
        store.intern kind view allocation = (.error (.idSpaceExhausted kind), store)) ∧
      ((store.table kind).next ≤ TermId.maxValue →
        KindTable.maxRecords ≤ (store.table kind).size →
        store.intern kind view allocation = (.error (.allocationFailed kind), store)) ∧
      ((store.table kind).next ≤ TermId.maxValue →
        (store.table kind).size < KindTable.maxRecords →
        ((∃ capacity, store.budget.capacity = some capacity ∧
            capacity < store.budget.used + kind.viewFootprint (kind.normalize view)) ∨
          Budget.wordMax < store.budget.used + kind.viewFootprint (kind.normalize view)) →
        store.intern kind view allocation =
          (.error (.regionExhausted kind (kind.viewFootprint (kind.normalize view))
            store.budget.used (store.budget.capacity.getD Budget.wordMax)), store))) := by
  simp only [find?_normalize]
  refine ⟨fun id allocation found => intern_of_find?_eq_some found allocation, ?_,
    fun missing allocation => ⟨fun exhausted => intern_of_next_gt missing exhausted allocation,
      fun fits full => intern_of_full missing fits full allocation,
      fun fits room unaffordable => intern_of_unaffordable missing fits room unaffordable
        allocation⟩⟩
  intro missing fits room withinCapacity withinWord
  have fitsValue : (store.table kind).next < 2 ^ 48 := TermId.le_maxValue_iff.mp fits
  have affordable :
      store.budget.used + kind.viewFootprint (kind.normalize view) ≤ store.budget.limit :=
    (Budget.le_limit_iff _ _).mpr ⟨withinCapacity, withinWord⟩
  refine ⟨⟨_, _, intern_of_room missing fitsValue room affordable, toRaw_mint .., ?_, ?_, ?_, ?_,
    ?_, ?_, reserved_withRecord ..⟩, intern_of_denied missing fitsValue room affordable⟩
  · exact reachable.coherent.mint_not_mem_ids fitsValue _
  · rw [table_withRecord_self, KindTable.entries_push, TermKind.toRecord_normalize]
  · rw [table_withRecord_self, KindTable.next_push]
  · intro other different
    exact table_withRecord_of_ne _ _ _ _ different
  · rw [budget_withRecord, Budget.used_charge, footprint_toRecord]
  · rw [budget_withRecord, Budget.capacity_charge]

/-- Interning an integer literal into the standard dictionary is exactly one step. -/
theorem intern_step_is_exact_for_integer_literal :
    (preloaded {}).Reachable ∧
    ((∀ id allocation, (preloaded {}).find? .literal
        (TermKind.literal.normalize ⟨"42", TermId.make .iri 5 (by decide), none⟩) = some id →
      (preloaded {}).intern .literal ⟨"42", TermId.make .iri 5 (by decide), none⟩ allocation =
        (.ok id, preloaded {})) ∧
    ((preloaded {}).find? .literal
        (TermKind.literal.normalize ⟨"42", TermId.make .iri 5 (by decide), none⟩) = none →
      ((preloaded {}).table .literal).next ≤ TermId.maxValue →
      ((preloaded {}).table .literal).size < KindTable.maxRecords →
      (∀ capacity, (preloaded {}).budget.capacity = some capacity →
        (preloaded {}).budget.used + TermKind.literal.viewFootprint
          (TermKind.literal.normalize ⟨"42", TermId.make .iri 5 (by decide), none⟩) ≤
            capacity) →
      (preloaded {}).budget.used + TermKind.literal.viewFootprint
          (TermKind.literal.normalize ⟨"42", TermId.make .iri 5 (by decide), none⟩) ≤
        Budget.wordMax →
      (∃ id after, (preloaded {}).intern .literal
          ⟨"42", TermId.make .iri 5 (by decide), none⟩ .granted = (.ok id, after) ∧
        id.toRaw = TermKind.literal.code * 2 ^ 62 +
          (((preloaded {}).reserved.recordClass .literal
            (TermKind.literal.toRecord ⟨"42", TermId.make .iri 5 (by decide), none⟩)).map
              DatatypeClass.tag).getD 0 * 2 ^ 56 + ((preloaded {}).table .literal).next ∧
        id ∉ (preloaded {}).ids .literal ∧
        (after.table .literal).entries = ((preloaded {}).table .literal).entries ++
          [(id, TermKind.literal.toRecord
            (TermKind.literal.normalize ⟨"42", TermId.make .iri 5 (by decide), none⟩))] ∧
        (after.table .literal).next = ((preloaded {}).table .literal).next + 1 ∧
        (∀ other, other ≠ .literal → after.table other = (preloaded {}).table other) ∧
        after.budget.used = (preloaded {}).budget.used + TermKind.literal.viewFootprint
          (TermKind.literal.normalize ⟨"42", TermId.make .iri 5 (by decide), none⟩) ∧
        after.budget.capacity = (preloaded {}).budget.capacity ∧
        after.reserved = (preloaded {}).reserved) ∧
      (preloaded {}).intern .literal ⟨"42", TermId.make .iri 5 (by decide), none⟩ .denied =
        (.error (.allocationFailed .literal), preloaded {})) ∧
    ((preloaded {}).find? .literal
        (TermKind.literal.normalize ⟨"42", TermId.make .iri 5 (by decide), none⟩) = none →
      ∀ allocation,
      (TermId.maxValue < ((preloaded {}).table .literal).next →
        (preloaded {}).intern .literal ⟨"42", TermId.make .iri 5 (by decide), none⟩ allocation =
          (.error (.idSpaceExhausted .literal), preloaded {})) ∧
      (((preloaded {}).table .literal).next ≤ TermId.maxValue →
        KindTable.maxRecords ≤ ((preloaded {}).table .literal).size →
        (preloaded {}).intern .literal ⟨"42", TermId.make .iri 5 (by decide), none⟩ allocation =
          (.error (.allocationFailed .literal), preloaded {})) ∧
      (((preloaded {}).table .literal).next ≤ TermId.maxValue →
        ((preloaded {}).table .literal).size < KindTable.maxRecords →
        ((∃ capacity, (preloaded {}).budget.capacity = some capacity ∧
            capacity < (preloaded {}).budget.used + TermKind.literal.viewFootprint
              (TermKind.literal.normalize ⟨"42", TermId.make .iri 5 (by decide), none⟩)) ∨
          Budget.wordMax < (preloaded {}).budget.used + TermKind.literal.viewFootprint
            (TermKind.literal.normalize ⟨"42", TermId.make .iri 5 (by decide), none⟩)) →
        (preloaded {}).intern .literal ⟨"42", TermId.make .iri 5 (by decide), none⟩ allocation =
          (.error (.regionExhausted .literal (TermKind.literal.viewFootprint
            (TermKind.literal.normalize ⟨"42", TermId.make .iri 5 (by decide), none⟩))
            (preloaded {}).budget.used
            ((preloaded {}).budget.capacity.getD Budget.wordMax)), preloaded {})))) := by
  have reachable : (preloaded {}).Reachable :=
    .build (show Store.build {} = .ok (preloaded {}) from rfl)
  exact ⟨reachable, intern_step_is_exact reachable .literal _⟩

end Store

end TermDictionary
