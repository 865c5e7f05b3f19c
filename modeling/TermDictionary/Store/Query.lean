import TermDictionary.Store.Basic
import TermDictionary.Store.IndexedRegion

/-!
# Questions to a dictionary

Records are found by id within the table of the kind asked for: an id of another kind is the
caller's mistake, and an id of the right kind that the table does not hold exactly, all 64
bits of it, was not issued by the dictionary. Erasing is refused for every id. Counts are read
off the tables as laid out in memory (`KindTable.layout`): the number of terms of a kind is
the size of its forward index, and the records allocated are the lengths of the four regions.
-/

namespace TermDictionary

/-- Counts of a dictionary's records and budget. -/
structure Stats where
  /-- IRIs, reserved ones included. -/
  iris : Nat
  /-- Literals. -/
  literals : Nat
  /-- Blank nodes. -/
  blanks : Nat
  /-- Query variables. -/
  vars : Nat
  /-- Records allocated in the regions of all tables. -/
  records : Nat
  /-- Bytes in use. -/
  bytes : Nat
  /-- The capacity, if there is one. -/
  capacity : Option Nat
deriving DecidableEq

/-- The number of terms of every kind. -/
def Stats.total (stats : Stats) : Nat :=
  stats.iris + stats.literals + stats.blanks + stats.vars

namespace Store

/-- The record stored under an id, asked for in the table of a kind. -/
def resolve (store : Store) (kind : TermKind) (id : TermId) : Except StoreError kind.Record :=
  if id.kind = kind then
    match (store.table kind).get? id with
    | some record => .ok record
    | none => .error (.unknownId id)
  else .error (.wrongKind id kind)

/-- Erasing is never supported: the dictionary only grows. -/
def erase (_store : Store) (kind : TermKind) (id : TermId) : Except StoreError Unit :=
  .error (.unsupported kind id)

/-- Whether the table of the id's own kind holds exactly this id. -/
def contains (store : Store) (id : TermId) : Bool :=
  (store.table id.kind).contains id

/-- The number of terms of a kind: the ids in its forward index. -/
def count (store : Store) (kind : TermKind) : Nat :=
  (store.table kind).layout.len

/-- The ids of a kind, ascending as 64-bit numbers. -/
def ids (store : Store) (kind : TermKind) : List TermId :=
  (store.table kind).ids

/-- The counts of the dictionary: the terms of each kind, the records in the four regions, and
the budget. -/
def stats (store : Store) : Stats where
  iris := store.count .iri
  literals := store.count .literal
  blanks := store.count .blank
  vars := store.count .var
  records := (store.table .iri).layout.recordsAllocated +
    (store.table .literal).layout.recordsAllocated + (store.table .blank).layout.recordsAllocated +
    (store.table .var).layout.recordsAllocated
  bytes := store.budget.used
  capacity := store.budget.capacity

end Store

end TermDictionary
