import TermDictionary.Term.Content
import TermDictionary.Store.Budget
import TermDictionary.Store.Table
import TermDictionary.Store.Error
import Std.Data.ExtTreeMap

/-!
# Tables laid out in a region

In memory the table of one kind is three structures that change together: a region that only
grows, holding the records, where a record's handle is its position; a forward index from ids
to handles, ordered by id as a 64-bit number; and a reverse index from records to ids, ordered
by record. An allocator holds the next value the kind hands out.

A record that the reverse index lacks is stored in one of two ways. `IndexedRegion.insert`
gives it the id that a mint makes from the allocator's next value and moves the allocator on;
`IndexedRegion.insertReserved` stores a predefined record at the id it comes with, and refuses
an id or a record already there. Both make every check that can fail before they change
anything, then push the record and index it both ways (`IndexedRegion.place`).

Finding or making a record probes the reverse index under a shared lock and, when the record
is absent, hands over to an exclusive half that probes again before it stores
(`IndexedRegion.findOrMake`, `IndexedRegion.insertSlow`): another writer may store the same
record between the two locks. Making room in the region for one more record asks the memory
allocator, whose answer an insertion is given (`Allocation`).

A dictionary keeps each table as its list of entries; `KindTable.layout` lays such a table out
as these structures, and the dictionary's counts are read off the layout.
-/

namespace TermDictionary

/-- Literal records are ordered field by field: lexical form, datatype number, then tag. -/
theorem LiteralRecord.compareLex_eq_compare :
    compareLex (compareOn LiteralRecord.lexical)
        (compareLex (compareOn fun record : LiteralRecord => record.datatype.toRaw)
          (compareOn LiteralRecord.language)) =
      LiteralRecord.compare := by
  funext a b
  -- Rewritten step by step: the kernel would otherwise unfold the comparison of the
  -- datatype numbers, which are sums of large powers of two.
  rw [compareLex, compareOn, compareLex, compareOn, compareOn]
  rfl

instance LiteralRecord.instTransCmpCompare : Std.TransCmp LiteralRecord.compare := by
  rw [← LiteralRecord.compareLex_eq_compare]
  infer_instance

/-- Ids are ordered transitively as 64-bit numbers, so they can key an ordered map. -/
instance TermId.instTransCmpCompareOnToRaw : Std.TransCmp (compareOn TermId.toRaw) :=
  Std.instTransCmpCompareOnOfTransOrd

/-- Records of every kind are ordered transitively, so they can key an ordered map. -/
instance TermKind.instTransCmpCompareRecord : (kind : TermKind) → Std.TransCmp kind.compareRecord
  | .var => inferInstanceAs (Std.TransCmp (compare : String → String → Ordering))
  | .blank => inferInstanceAs (Std.TransCmp (compare : String → String → Ordering))
  | .iri => inferInstanceAs (Std.TransCmp (compare : String → String → Ordering))
  | .literal => inferInstanceAs (Std.TransCmp LiteralRecord.compare)

/-- The tables of one kind: records in a region, indexed by id and by record, and the next
value of the kind's allocator. -/
structure IndexedRegion (kind : TermKind) where
  /-- The records in arrival order; a record's handle is its position. -/
  region : List kind.Record
  /-- The handle of the record stored under each id, ordered by id as a 64-bit number. -/
  forward : Std.ExtTreeMap TermId Nat (compareOn TermId.toRaw)
  /-- The id of each record, ordered by record. -/
  reverse : Std.ExtTreeMap kind.Record TermId kind.compareRecord
  /-- The value the allocator hands out next. -/
  next : Nat

namespace IndexedRegion

variable {kind : TermKind}

/-- Empty tables whose allocator starts at the kind's first value. -/
def new (kind : TermKind) : IndexedRegion kind :=
  ⟨[], ∅, ∅, kind.firstValue⟩

/-- The id of a record equal to this one, read from the reverse index. -/
def probe (tables : IndexedRegion kind) (record : kind.Record) : Option TermId :=
  tables.reverse[record]?

/-- The record stored under an id: the forward index gives its handle and the region the
record there, or nothing where the region has no record at that handle. -/
def get? (tables : IndexedRegion kind) (id : TermId) : Option kind.Record :=
  tables.forward[id]?.bind fun handle => tables.region[handle]?

/-- The number of ids stored. -/
def len (tables : IndexedRegion kind) : Nat :=
  tables.forward.size

/-- The number of records in the region. -/
def recordsAllocated (tables : IndexedRegion kind) : Nat :=
  tables.region.length

/-- The ids stored, ascending as 64-bit numbers. -/
def ids (tables : IndexedRegion kind) : List TermId :=
  tables.forward.keys

/-- The handle the next record pushed receives, or `none` once handles, 32-bit numbers, are
used up. -/
def nextHandle? (tables : IndexedRegion kind) : Option Nat :=
  if tables.region.length < KindTable.maxRecords then some tables.region.length else none

/-- The tables with a record pushed to the region at a handle and indexed both ways; the
allocator does not move. -/
def place (tables : IndexedRegion kind) (id : TermId) (handle : Nat) (record : kind.Record) :
    IndexedRegion kind :=
  { tables with
    region := tables.region ++ [record]
    forward := tables.forward.insert id handle
    reverse := tables.reverse.insert record id }

/-- Stores a record that the reverse index lacks at the id the mint makes from the
allocator's next value, moves the allocator on and answers the id; every path answers the
tables and budget it leaves. The steps come in order: the value must fit in an id, a handle
must be left, the budget must take the record's bytes, and the memory allocator must make room
in the region. Nothing changes before the last of them except the budget, whose claim is
dropped, and so given back, when the allocator refuses. The budget is the one all kinds share. -/
def insert (tables : IndexedRegion kind) (budget : Budget) (record : kind.Record)
    (mint : (value : Nat) → value < 2 ^ 48 → kind.Record → TermId) (allocation : Allocation) :
    Except StoreError TermId × IndexedRegion kind × Budget :=
  if fits : tables.next < 2 ^ 48 then
    match tables.nextHandle? with
    | some handle =>
      match budget.claim kind (kind.footprint record) with
      | .ok (claimed, pending) =>
        match allocation with
        | .granted =>
          let id := mint tables.next fits record
          (.ok id, { tables.place id handle record with next := tables.next + 1 },
            pending.commit.drop claimed)
        | .denied => (.error (.allocationFailed kind), tables, pending.drop claimed)
      | .error error => (.error error, tables, budget)
    | none => (.error (.allocationFailed kind), tables, budget)
  else (.error (.idSpaceExhausted kind), tables, budget)

/-- Stores a predefined record at its reserved id, bypassing the allocator, and charges its
bytes without a check; answers `false` and changes nothing when the id or an equal record is
already stored or no handle is left. -/
def insertReserved (tables : IndexedRegion kind) (id : TermId) (record : kind.Record)
    (budget : Budget) : Bool × IndexedRegion kind × Budget :=
  if tables.forward.contains id then (false, tables, budget)
  else if (tables.probe record).isSome then (false, tables, budget)
  else
    match tables.nextHandle? with
    | some handle => (true, tables.place id handle record, budget.charge (kind.footprint record))
    | none => (false, tables, budget)

/-- The exclusive half of finding or making a record: probe again, then store. -/
def insertSlow (tables : IndexedRegion kind) (budget : Budget) (record : kind.Record)
    (mint : (value : Nat) → value < 2 ^ 48 → kind.Record → TermId) (allocation : Allocation) :
    Except StoreError TermId × IndexedRegion kind × Budget :=
  match tables.probe record with
  | some id => (.ok id, tables, budget)
  | none => tables.insert budget record mint allocation

/-- The id of a record, storing it first when the reverse index lacks it: a shared probe,
then the exclusive half. -/
def findOrMake (tables : IndexedRegion kind) (budget : Budget) (record : kind.Record)
    (mint : (value : Nat) → value < 2 ^ 48 → kind.Record → TermId) (allocation : Allocation) :
    Except StoreError TermId × IndexedRegion kind × Budget :=
  match tables.probe record with
  | some id => (.ok id, tables, budget)
  | none => tables.insertSlow budget record mint allocation

/-- The tables with entries placed one after another, each record at the next position. -/
def placeAll (tables : IndexedRegion kind) (entries : List (TermId × kind.Record)) :
    IndexedRegion kind :=
  entries.foldl (fun tables entry => tables.place entry.1 tables.region.length entry.2) tables

@[simp] theorem region_new : (new kind).region = [] := rfl

@[simp] theorem forward_new : (new kind).forward = ∅ := rfl

@[simp] theorem reverse_new : (new kind).reverse = ∅ := rfl

@[simp] theorem next_new : (new kind).next = kind.firstValue := rfl

section Place

variable (tables : IndexedRegion kind) (id : TermId) (handle : Nat) (record : kind.Record)

@[simp] theorem region_place : (tables.place id handle record).region = tables.region ++ [record] :=
  rfl

@[simp] theorem forward_place :
    (tables.place id handle record).forward = tables.forward.insert id handle :=
  rfl

@[simp] theorem reverse_place :
    (tables.place id handle record).reverse = tables.reverse.insert record id :=
  rfl

@[simp] theorem next_place : (tables.place id handle record).next = tables.next :=
  rfl

end Place

end IndexedRegion

/-- A table laid out in memory: its entries placed in order on empty tables, and its next
value in the allocator. -/
def KindTable.layout {kind : TermKind} (table : KindTable kind.Record) : IndexedRegion kind :=
  { (IndexedRegion.new kind).placeAll table.entries with next := table.next }

end TermDictionary
