import TermDictionary.Term.Content
import TermDictionary.Reserved.Standard
import TermDictionary.Store.Budget
import TermDictionary.Store.Table
import TermDictionary.Store.Error

/-!
# Dictionaries

A dictionary holds a table for each kind of term, one byte budget that the four tables share,
and the reserved IRI table it was built with. Building a dictionary stores every reserved
IRI at its id in the IRI table and charges its bytes without a check; when a capacity is set
and those bytes pass it, no dictionary is built (`Store.build`).
-/

namespace TermDictionary

/-- The settings a dictionary is built from. -/
structure StoreConfig where
  /-- The reserved IRIs, stored at their ids from the start. -/
  reserved : ReservedTable := .standard
  /-- The most bytes the records may take, or `none` for no limit. -/
  capacity : Option Nat := none

/-- A dictionary of terms: a table per kind, the shared budget and the reserved IRIs. -/
structure Store where
  /-- The reserved IRIs the dictionary was built with. -/
  reserved : ReservedTable
  /-- The bytes in use and the capacity. -/
  budget : Budget
  /-- The query variables. -/
  vars : KindTable String
  /-- The blank nodes. -/
  blanks : KindTable String
  /-- The IRIs, reserved ones included. -/
  iris : KindTable String
  /-- The literals. -/
  literals : KindTable LiteralRecord

namespace Store

/-- The table of a kind. -/
def table (store : Store) : (kind : TermKind) → KindTable kind.Record
  | .var => store.vars
  | .blank => store.blanks
  | .iri => store.iris
  | .literal => store.literals

/-- The dictionary with the table of a kind replaced. -/
def setTable (store : Store) : (kind : TermKind) → KindTable kind.Record → Store
  | .var, table => { store with vars := table }
  | .blank, table => { store with blanks := table }
  | .iri, table => { store with iris := table }
  | .literal, table => { store with literals := table }

@[simp] theorem table_setTable_self (store : Store) (kind : TermKind)
    (table : KindTable kind.Record) : (store.setTable kind table).table kind = table := by
  cases kind <;> rfl

theorem table_setTable_of_ne (store : Store) {kind other : TermKind}
    (table : KindTable kind.Record) (h : other ≠ kind) :
    (store.setTable kind table).table other = store.table other := by
  cases kind <;> cases other <;> simp only [ne_eq, not_true_eq_false] at h <;> rfl

@[simp] theorem budget_setTable (store : Store) (kind : TermKind)
    (table : KindTable kind.Record) : (store.setTable kind table).budget = store.budget := by
  cases kind <;> rfl

@[simp] theorem reserved_setTable (store : Store) (kind : TermKind)
    (table : KindTable kind.Record) : (store.setTable kind table).reserved = store.reserved := by
  cases kind <;> rfl

/-- The IRI table and the budget after storing reserved entries, each at its id, charging
the bytes of each one stored. An entry whose id or IRI is already there is passed over. -/
def preloadReserved : List ReservedIri → KindTable String → Budget → KindTable String × Budget
  | [], iris, budget => (iris, budget)
  | entry :: rest, iris, budget =>
    match iris.preload? entry.id entry.iri with
    | some stored => preloadReserved rest stored (budget.charge (TermKind.iri.footprint entry.iri))
    | none => preloadReserved rest iris budget

/-- The dictionary of a configuration before its capacity is checked: the reserved IRIs are
stored and charged, and every other table is empty. -/
def preloaded (config : StoreConfig) : Store :=
  let loaded :=
    preloadReserved config.reserved.entries (.empty TermKind.iri.firstValue)
      (.fresh config.capacity)
  { reserved := config.reserved
    budget := loaded.2
    vars := .empty TermKind.var.firstValue
    blanks := .empty TermKind.blank.firstValue
    iris := loaded.1
    literals := .empty TermKind.literal.firstValue }

/-- The dictionary of a configuration, refused when the reserved IRIs alone take more bytes
than the capacity. -/
def build (config : StoreConfig) : Except StoreError Store :=
  let store := preloaded config
  match config.capacity with
  | some capacity =>
    if capacity < store.budget.used then
      .error (.regionExhausted .iri store.budget.used store.budget.used capacity)
    else .ok store
  | none => .ok store

end Store

end TermDictionary
