import TermDictionary.Store.IndexedRegion
import TermDictionary.Proofs.RecordOrder

/-!
# Laid-out tables stay consistent

The three structures of a kind's tables describe one bijection between ids and records
(`IndexedRegion.Consistent`): both indexes have one entry per record of the region, the
handles of the forward index are exactly the positions of the region, each used once, every
reverse entry leads through the forward index to its own record, every id is of the tables'
kind, and every id lies below the allocator's next value.

Both ways of storing a record end in one step, `IndexedRegion.place`, which keeps the
invariant when the id and the record are both new (`Consistent.place`). Reserved ids are new
because the forward index is asked first, minted ids because they carry the allocator's next
value; the record is new because the reverse index was probed; a refused insertion changes
nothing. So the invariant holds of every table reached from empty tables by such calls
(`Reached.consistent`), and a refused reserved insertion changes nothing at all
(`insertReserved_of_fst_eq_false`). A reserved id must lie below the allocator: one at the
allocator's own value is minted again by the next insertion, which breaks the invariant
(`reserve_at_next_breaks_consistency`).
-/

namespace TermDictionary

/-- Ids compare equal as 64-bit numbers exactly when they are the same id. -/
@[simp] theorem TermId.compareOn_toRaw_eq_eq_iff {a b : TermId} :
    compareOn TermId.toRaw a b = .eq ↔ a = b := by
  rw [compareOn, Nat.compare_eq_eq]
  exact ⟨TermId.toRaw_injective, congrArg TermId.toRaw⟩

/-- Ids compare below exactly when their 64-bit numbers do. -/
theorem TermId.compareOn_toRaw_eq_lt_iff {a b : TermId} :
    compareOn TermId.toRaw a b = .lt ↔ a.toRaw < b.toRaw := by
  rw [compareOn, Nat.compare_eq_lt]

/-- Ids that compare equal are equal, so a map keyed by ids lists the ids themselves. -/
instance TermId.instLawfulEqCmpCompareOnToRaw : Std.LawfulEqCmp (compareOn TermId.toRaw) where
  compare_self := TermId.compareOn_toRaw_eq_eq_iff.mpr rfl
  eq_of_compare := TermId.compareOn_toRaw_eq_eq_iff.mp

namespace IndexedRegion

variable {kind : TermKind}

/-! ## The indexes after one insertion -/

section Indexes

variable (forward : Std.ExtTreeMap TermId Nat (compareOn TermId.toRaw))
  (reverse : Std.ExtTreeMap kind.Record TermId kind.compareRecord)

theorem getElem?_forward_insert (id key : TermId) (handle : Nat) :
    (forward.insert id handle)[key]? = if id = key then some handle else forward[key]? := by
  rw [Std.ExtTreeMap.getElem?_insert]
  simp only [TermId.compareOn_toRaw_eq_eq_iff]

theorem mem_forward_insert (id key : TermId) (handle : Nat) :
    key ∈ forward.insert id handle ↔ id = key ∨ key ∈ forward := by
  rw [Std.ExtTreeMap.mem_insert, TermId.compareOn_toRaw_eq_eq_iff]

theorem getElem?_reverse_insert (record key : kind.Record) (id : TermId) :
    (reverse.insert record id)[key]? = if record = key then some id else reverse[key]? := by
  rw [Std.ExtTreeMap.getElem?_insert]
  simp only [kind.compareRecord_eq_eq_iff]

/-- A new key adds one to the size of a map. -/
theorem size_insert_of_not_mem {α β : Type} {cmp : α → α → Ordering} [Std.TransCmp cmp]
    {map : Std.ExtTreeMap α β cmp} {key : α} (fresh : key ∉ map) (value : β) :
    (map.insert key value).size = map.size + 1 := by
  rw [Std.ExtTreeMap.size_insert, if_neg (mt Std.ExtTreeMap.contains_iff_mem.mp fresh)]

end Indexes

/-! ## The invariant -/

/-- Laid-out tables that describe one bijection between ids and records. -/
structure Consistent (tables : IndexedRegion kind) : Prop where
  /-- The forward index has one id per record of the region. -/
  forward_size : tables.forward.size = tables.region.length
  /-- The reverse index has one record per record of the region. -/
  reverse_size : tables.reverse.size = tables.region.length
  /-- The handles of the forward index are exactly the positions of the region. -/
  handle_lt_iff : ∀ handle : Nat,
    handle < tables.region.length ↔ ∃ id : TermId, tables.forward[id]? = some handle
  /-- No two ids share a handle. -/
  handle_injective : ∀ {id other : TermId} {handle : Nat},
    tables.forward[id]? = some handle → tables.forward[other]? = some handle → id = other
  /-- A reverse entry leads through the forward index to its own record in the region. -/
  reverse_forward : ∀ {record : kind.Record} {id : TermId}, tables.reverse[record]? = some id →
    ∃ handle, tables.forward[id]? = some handle ∧ tables.region[handle]? = some record
  /-- Every id is of the tables' kind. -/
  kind_eq : ∀ {id : TermId}, id ∈ tables.forward → id.kind = kind
  /-- Every id lies below the allocator's next value, which it has handed out already. -/
  value_lt_next : ∀ {id : TermId}, id ∈ tables.forward → id.value < tables.next

theorem consistent_new : (new kind).Consistent where
  forward_size := rfl
  reverse_size := rfl
  handle_lt_iff handle := by simp
  handle_injective found := by simp at found
  reverse_forward found := by simp at found
  kind_eq member := absurd member Std.ExtTreeMap.not_mem_empty
  value_lt_next member := absurd member Std.ExtTreeMap.not_mem_empty

namespace Consistent

variable {tables : IndexedRegion kind} (consistent : tables.Consistent)
include consistent

/-- A handle in the forward index is a position of the region. -/
theorem handle_lt {id : TermId} {handle : Nat} (found : tables.forward[id]? = some handle) :
    handle < tables.region.length :=
  (consistent.handle_lt_iff handle).mpr ⟨id, found⟩

/-- Every id of the forward index finds a record: the region is never read past its end. -/
theorem get?_isSome {id : TermId} (member : id ∈ tables.forward) : (tables.get? id).isSome := by
  obtain ⟨handle, found⟩ := Option.isSome_iff_exists.mp
    (Std.ExtTreeMap.mem_iff_isSome_getElem?.mp member)
  have inBounds := consistent.handle_lt found
  simp [get?, found, inBounds]

/-- Moving the allocator on keeps the invariant. -/
theorem advance : { tables with next := tables.next + 1 }.Consistent where
  forward_size := consistent.forward_size
  reverse_size := consistent.reverse_size
  handle_lt_iff := consistent.handle_lt_iff
  handle_injective := consistent.handle_injective
  reverse_forward := consistent.reverse_forward
  kind_eq := consistent.kind_eq
  value_lt_next member := Nat.lt_succ_of_lt (consistent.value_lt_next member)

/-- Placing a record keeps the invariant when its id and the record are both new, and the id
is of the tables' kind and below the allocator. -/
theorem place
    {id : TermId}
    {record : kind.Record}
    (freshId : id ∉ tables.forward)
    (freshRecord : tables.probe record = none)
    (kindEq : id.kind = kind)
    (below : id.value < tables.next) :
    (tables.place id tables.region.length record).Consistent := by
  have idAbsent : tables.forward[id]? = none := Std.ExtTreeMap.getElem?_eq_none freshId
  have recordAbsent : record ∉ tables.reverse := fun member => by
    have found := Std.ExtTreeMap.mem_iff_isSome_getElem?.mp member
    rw [show tables.reverse[record]? = none from freshRecord] at found
    cases found
  -- An id found in the old forward index is not the new one.
  have ne_of_found : ∀ {key handle}, tables.forward[key]? = some handle → id ≠ key := by
    rintro key handle found rfl
    rw [idAbsent] at found
    cases found
  constructor
  case forward_size =>
    rw [forward_place, size_insert_of_not_mem freshId, region_place, List.length_append,
      consistent.forward_size, List.length_singleton]
  case reverse_size =>
    rw [reverse_place, size_insert_of_not_mem recordAbsent, region_place, List.length_append,
      consistent.reverse_size, List.length_singleton]
  case handle_lt_iff =>
    -- The new handle is the region's old length; every other handle was there before.
    intro handle
    simp only [forward_place, region_place, List.length_append, List.length_singleton,
      getElem?_forward_insert]
    constructor
    · intro inRange
      rcases Nat.lt_succ_iff_lt_or_eq.mp inRange with old | rfl
      · obtain ⟨key, found⟩ := (consistent.handle_lt_iff handle).mp old
        exact ⟨key, by rw [if_neg (ne_of_found found), found]⟩
      · exact ⟨id, by rw [if_pos rfl]⟩
    · rintro ⟨key, found⟩
      split at found
      · cases found
        exact Nat.lt_succ_self _
      · exact Nat.lt_succ_of_lt (consistent.handle_lt found)
  case handle_injective =>
    intro key other handle found otherFound
    simp only [forward_place, getElem?_forward_insert] at found otherFound
    split at found <;> split at otherFound
    · subst_vars
      rfl
    · cases found
      exact absurd (consistent.handle_lt otherFound) (Nat.lt_irrefl _)
    · cases otherFound
      exact absurd (consistent.handle_lt found) (Nat.lt_irrefl _)
    · exact consistent.handle_injective found otherFound
  case reverse_forward =>
    intro key value found
    simp only [reverse_place, getElem?_reverse_insert] at found
    split at found
    · cases found
      refine ⟨tables.region.length, ?_, ?_⟩
      · rw [forward_place, getElem?_forward_insert, if_pos rfl]
      · rw [region_place, List.getElem?_append_right (Nat.le_refl _), Nat.sub_self]
        subst_vars
        rfl
    · obtain ⟨handle, stored, recorded⟩ := consistent.reverse_forward found
      refine ⟨handle, ?_, ?_⟩
      · rw [forward_place, getElem?_forward_insert, if_neg (ne_of_found stored), stored]
      · rw [region_place, List.getElem?_append_left (consistent.handle_lt stored), recorded]
  case kind_eq =>
    intro key member
    rcases (mem_forward_insert _ _ _ _).mp member with rfl | old
    · exact kindEq
    · exact consistent.kind_eq old
  case value_lt_next =>
    intro key member
    rcases (mem_forward_insert _ _ _ _).mp member with rfl | old
    · exact below
    · exact consistent.value_lt_next old

end Consistent

/-! ## What the two insertions do -/

/-- A reserved insertion is refused and changes nothing, or the id and the record are new,
a handle is left, and the record is placed at the next handle with its bytes charged. -/
theorem insertReserved_cases (tables : IndexedRegion kind) (id : TermId) (record : kind.Record)
    (budget : Budget) :
    tables.insertReserved id record budget = (false, tables, budget) ∨
      (id ∉ tables.forward ∧ tables.probe record = none ∧
        tables.region.length < KindTable.maxRecords ∧
        tables.insertReserved id record budget =
          (true, tables.place id tables.region.length record,
            budget.charge (kind.footprint record))) := by
  unfold insertReserved
  by_cases held : tables.forward.contains id
  · exact .inl (if_pos held)
  · rw [if_neg held]
    cases found : tables.probe record with
    | some other => exact .inl rfl
    | none =>
      unfold nextHandle?
      by_cases room : tables.region.length < KindTable.maxRecords
      · refine .inr ⟨mt Std.ExtTreeMap.contains_iff_mem.mpr held, rfl, room, ?_⟩
        simp [room]
      · exact .inl (by simp [room])

/-- A reserved insertion of a new id and a new record, with a handle left, stores the record
at the next handle and charges its bytes. -/
theorem insertReserved_of_fresh {tables : IndexedRegion kind} {id : TermId} {record : kind.Record}
    (freshId : id ∉ tables.forward) (freshRecord : tables.probe record = none)
    (room : tables.region.length < KindTable.maxRecords) (budget : Budget) :
    tables.insertReserved id record budget =
      (true, tables.place id tables.region.length record,
        budget.charge (kind.footprint record)) := by
  have notHeld : tables.forward.contains id = false := by
    rw [Bool.eq_false_iff]
    exact mt Std.ExtTreeMap.contains_iff_mem.mp freshId
  simp [insertReserved, notHeld, freshRecord, nextHandle?, room]

/-- A refused reserved insertion leaves the region, both indexes, the allocator and the
budget as they were. -/
theorem insertReserved_of_fst_eq_false {tables : IndexedRegion kind} {id : TermId}
    {record : kind.Record} {budget : Budget}
    (refused : (tables.insertReserved id record budget).1 = false) :
    (tables.insertReserved id record budget).2 = (tables, budget) := by
  rcases insertReserved_cases tables id record budget with unchanged | ⟨-, -, -, stored⟩
  · rw [unchanged]
  · rw [stored] at refused
    cases refused

/-! ## Reached tables -/

/-- The tables reached from empty ones by the calls the dictionary makes: reserved
insertions at ids of the kind that the allocator has passed, as the reserved IRIs are (their
values lie below the kind's first value), and insertions, stored or refused, of records the
reverse index lacks, whose mint makes an id of the kind carrying the allocator's value, as the
checks after minting assert. -/
inductive Reached : IndexedRegion kind → Prop
  /-- Empty tables. -/
  | new : Reached (new kind)
  /-- The tables after a reserved insertion, stored or refused. -/
  | reserve {tables : IndexedRegion kind} (id : TermId) (record : kind.Record) (budget : Budget) :
      Reached tables → id.kind = kind → id.value < tables.next →
      Reached (tables.insertReserved id record budget).2.1
  /-- The tables after an insertion, stored or refused, of a record the probe did not find. -/
  | insert {tables : IndexedRegion kind} (budget : Budget) (record : kind.Record)
      (mint : (value : Nat) → value < 2 ^ 48 → kind.Record → TermId) (allocation : Allocation) :
      Reached tables → tables.probe record = none →
      (∀ fits : tables.next < 2 ^ 48, (mint tables.next fits record).kind = kind ∧
        (mint tables.next fits record).value = tables.next) →
      Reached (tables.insert budget record mint allocation).2.1

/-- A reserved id at the allocator's own value, which the reserved IRIs never take, breaks the
invariant at the next insertion: the mint hands out the same id, whose forward entry is
overwritten, so the forward index keeps one id while the reverse index and the region hold two
records. -/
theorem reserve_at_next_breaks_consistency :
    let reserved : IndexedRegion .iri :=
      ((new .iri).insertReserved (TermId.make .iri 64 (by decide)) "a" (.fresh none)).2.1
    let after := (reserved.insert (.fresh none) "b"
      (fun value fits _ => TermId.make .iri value fits) .granted).2.1
    after.forward.size = 1 ∧ after.reverse.size = 2 ∧ after.region.length = 2 ∧
      ¬ after.Consistent := by
  intro reserved after
  have forwardSize : after.forward.size = 1 := by decide
  have reverseSize : after.reverse.size = 2 := by decide
  have regionLength : after.region.length = 2 := by decide
  refine ⟨forwardSize, reverseSize, regionLength, fun consistent => ?_⟩
  have sizes := consistent.forward_size
  rw [forwardSize, regionLength] at sizes
  cases sizes

/-- Every reached table is consistent. -/
theorem Reached.consistent {tables : IndexedRegion kind} (reached : tables.Reached) :
    tables.Consistent := by
  induction reached with
  | new => exact consistent_new
  | reserve id record budget _ kindEq below consistent =>
    rcases insertReserved_cases _ id record budget with
      unchanged | ⟨freshId, freshRecord, -, stored⟩
    · rw [unchanged]
      exact consistent
    · rw [stored]
      exact consistent.place freshId freshRecord kindEq below
  | @insert tables budget record mint allocation _ absent minted consistent =>
    rcases insert_cases tables budget record mint allocation with
      ⟨_, unchanged⟩ | ⟨fits, -, -, -, stored⟩
    · rw [unchanged]
      exact consistent
    · rw [stored]
      obtain ⟨kindEq, valueEq⟩ := minted fits
      -- The minted id carries the allocator's value, which no stored id has reached.
      have freshId : mint tables.next fits record ∉ tables.forward := fun member =>
        Nat.lt_irrefl _ (valueEq ▸ consistent.value_lt_next member)
      have below : (mint tables.next fits record).value < tables.next + 1 := by
        rw [valueEq]
        exact Nat.lt_succ_self _
      exact consistent.advance.place freshId absent kindEq below

/-- Laid-out tables keep their representation invariant. In every table reached from empty
tables by reserved insertions at ids the allocator has passed and by insertions of records the
probe did not find, the forward index, the reverse index and the region have one entry per
record; the handles of the forward index are exactly the positions of the region, each used
once, so reading the record of a stored id never runs past the region; every reverse entry
leads through the forward index to a handle whose record is that entry's record; every stored
id is of the tables' kind and below the allocator (`Consistent`); and the reverse keys ascend
strictly, so no two are equal records. A reserved insertion that answers `false` leaves the
region, both indexes, the allocator and the budget as they were. -/
theorem layout_stays_consistent {tables : IndexedRegion kind} (reached : tables.Reached) :
    tables.Consistent ∧
      (∀ id : TermId, id ∈ tables.forward → (tables.get? id).isSome) ∧
      tables.reverse.keys.Pairwise (fun a b => kind.compareRecord a b = .lt) ∧
      ∀ (id : TermId) (record : kind.Record) (budget : Budget),
        (tables.insertReserved id record budget).1 = false →
          (tables.insertReserved id record budget).2 = (tables, budget) := by
  have consistent := reached.consistent
  refine ⟨consistent, fun _ member => consistent.get?_isSome member,
    tables.reverse.ordered_keys, ?_⟩
  intro id record budget refused
  exact insertReserved_of_fst_eq_false refused

/-- IRI tables that store a reserved IRI at id 1 and then mint id 64 for a new IRI are
consistent. -/
theorem layout_stays_consistent_after_reserve_and_insert :
    let reserved : IndexedRegion .iri :=
      ((new .iri).insertReserved (TermId.make .iri 1 (by decide)) "a" (.fresh none)).2.1
    let after := (reserved.insert (.fresh none) "m"
      (fun value fits _ => TermId.make .iri value fits) .granted).2.1
    after.Consistent ∧
      (∀ id : TermId, id ∈ after.forward → (after.get? id).isSome) ∧
      after.reverse.keys.Pairwise (fun a b => TermKind.iri.compareRecord a b = .lt) ∧
      ∀ (id : TermId) (record : TermKind.iri.Record) (budget : Budget),
        (after.insertReserved id record budget).1 = false →
          (after.insertReserved id record budget).2 = (after, budget) :=
  layout_stays_consistent
    (@Reached.insert .iri _ (.fresh none) "m" (fun value fits _ => TermId.make .iri value fits)
      .granted (@Reached.reserve .iri _ (TermId.make .iri 1 (by decide)) "a" (.fresh none) .new rfl
        (by decide))
      (by decide) fun _ => ⟨rfl, rfl⟩)

end IndexedRegion

end TermDictionary
