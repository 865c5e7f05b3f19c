import TermDictionary.Store.Basic

/-!
# Interning

Interning a view answers the id of the term it names, storing the term first when it is new.
An IRI of the reserved table is answered from that table. Any other view is normalized, and
if the table of its kind holds an equal record, that record's id is the answer. Otherwise the
new record is stored at the kind's next value, provided that value fits in an id, the table
is not full, the budget takes the record's bytes and the memory allocator makes room; a
literal's id also records the class that the reserved table gives its datatype. Interning
answers the dictionary it leaves on every path, refused ones included.
-/

namespace TermDictionary

namespace Store

/-- The reserved id of an IRI view; views of other kinds have none. -/
def reservedId? (store : Store) : (kind : TermKind) → kind.View → Option TermId
  | .iri, text => store.reserved.idOf? text
  | .var, _ => none
  | .blank, _ => none
  | .literal, _ => none

/-- The id of the term a view names, if the dictionary holds it. -/
def find? (store : Store) (kind : TermKind) (view : kind.View) : Option TermId :=
  (store.reservedId? kind view).or ((store.table kind).idOf? (kind.toRecord view))

/-- The id a new record receives at a value: a literal's id records the class of its
datatype. -/
def mint (store : Store) (value : Nat) (h : value < 2 ^ 48) :
    (kind : TermKind) → kind.Record → TermId
  | .literal, record => .literal value (store.reserved.classOf record.datatype) h
  | .var, _ => .make .var value h
  | .blank, _ => .make .blank value h
  | .iri, _ => .make .iri value h

/-- Stores a record that the table of its kind does not hold, at the kind's next value, and
answers its id; every path answers the dictionary it leaves. The steps come in the table's
order: the next value must fit in an id, the table must have a handle left, the budget must
take the record's bytes, and the allocator must make room for the record. Nothing changes
before the last of them except the budget, whose claim is dropped, and so given back, when the
allocator refuses; once room is made, the record is pushed under the minted id and the claim
is committed. -/
def insert (store : Store) (kind : TermKind) (record : kind.Record) (allocation : Allocation) :
    Except StoreError TermId × Store :=
  let table := store.table kind
  if h : table.next < 2 ^ 48 then
    if table.size < KindTable.maxRecords then
      match store.budget.claim kind (kind.footprint record) with
      | .ok (claimed, pending) =>
        match allocation with
        | .granted =>
          let id := store.mint table.next h kind record
          (.ok id, { store.setTable kind (table.push id record) with
            budget := pending.commit.drop claimed })
        | .denied =>
          (.error (.allocationFailed kind), { store with budget := pending.drop claimed })
      | .error error => (.error error, store)
    else (.error (.allocationFailed kind), store)
  else (.error (.idSpaceExhausted kind), store)

/-- The id of the term a view names, storing it first when the dictionary does not hold it,
and the dictionary afterwards. -/
def intern (store : Store) (kind : TermKind) (view : kind.View) (allocation : Allocation) :
    Except StoreError TermId × Store :=
  match store.find? kind view with
  | some id => (.ok id, store)
  | none => store.insert kind (kind.toRecord view) allocation

end Store

end TermDictionary
