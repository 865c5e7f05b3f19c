import TermDictionary.Term.Id

/-!
# Reserved IRIs

IRI values from 1 to 63 are reserved for well-known IRIs, which every dictionary holds from
the start at fixed ids. A reserved IRI may mark a datatype class: a literal whose datatype
id is exactly that IRI's id gets that class in its own id.

A table of reserved IRIs is checked entry by entry, in order, against the entries before it;
the first fault found is the answer (`ReservedTable.ofEntries?`). An entry is at fault when
its id is not a reserved IRI id, when an earlier entry has the same id, or when an earlier
entry has the same IRI, and these are checked in that order. A `ReservedTable` keeps the
proof that its entries have no fault.
-/

namespace TermDictionary

/-- A well-known IRI with its fixed id and, for a datatype, the class it marks. -/
structure ReservedIri where
  /-- The fixed id. -/
  id : TermId
  /-- The IRI. -/
  iri : String
  /-- The class of literals of this datatype, if the IRI is a datatype with a class. -/
  datatypeClass : Option DatatypeClass
deriving DecidableEq

namespace ReservedIri

/-- Whether the id is a reserved IRI id: an IRI id with a value from 1 to 63. Only the kind
and the value count, not the class or spare bits. -/
def idInRange (entry : ReservedIri) : Bool :=
  decide (entry.id.kind = .iri ∧ 0 < entry.id.value ∧ entry.id.value < TermKind.iri.firstValue)

end ReservedIri

/-- Why a list of reserved IRIs is not a table. -/
inductive ReservedError where
  /-- The id is not a reserved IRI id. -/
  | outOfRange (id : TermId) (iri : String)
  /-- An earlier entry has the same id. -/
  | duplicateId (id : TermId)
  /-- An earlier entry has the same IRI. -/
  | duplicateIri (iri : String)
deriving DecidableEq

namespace ReservedError

/-- The text of the error. -/
def message : ReservedError → String
  | outOfRange id iri =>
    "predefined IRI <" ++ iri ++ "> has id " ++ id.diagnostic ++
      ", expected an IRI id in 1.." ++ toString TermKind.iri.firstValue
  | duplicateId id => "predefined id " ++ id.diagnostic ++ " is assigned twice"
  | duplicateIri iri => "predefined IRI <" ++ iri ++ "> is listed twice"

/-- The fault of an entry placed after the entries `earlier`, if it has one. -/
def check? (earlier : List ReservedIri) (entry : ReservedIri) : Option ReservedError :=
  if !entry.idInRange then some (outOfRange entry.id entry.iri)
  else if earlier.any (fun seen => seen.id == entry.id) then some (duplicateId entry.id)
  else if earlier.any (fun seen => seen.iri == entry.iri) then some (duplicateIri entry.iri)
  else none

/-- The first fault of the entries `pending` placed after the entries `earlier`. -/
def firstFault (earlier : List ReservedIri) : List ReservedIri → Option ReservedError
  | [] => none
  | entry :: pending =>
    match check? earlier entry with
    | some fault => some fault
    | none => firstFault (earlier ++ [entry]) pending

end ReservedError

/-- A list of reserved IRIs with no fault. -/
structure ReservedTable where
  /-- The entries, in the order they were given. -/
  entries : List ReservedIri
  noFault : ReservedError.firstFault [] entries = none

namespace ReservedTable

/-- The table of a list of entries, or the first fault of the list. -/
def ofEntries? (entries : List ReservedIri) : Except ReservedError ReservedTable :=
  match h : ReservedError.firstFault [] entries with
  | some fault => .error fault
  | none => .ok ⟨entries, h⟩

/-- The table with no entries. -/
def empty : ReservedTable := ⟨[], rfl⟩

/-- The number of entries. -/
def size (table : ReservedTable) : Nat := table.entries.length

/-- Whether the table has no entries. -/
def isEmpty (table : ReservedTable) : Bool := table.entries.isEmpty

/-- The id of the entry with exactly this IRI. -/
def idOf? (table : ReservedTable) (iri : String) : Option TermId :=
  (table.entries.find? (fun entry => entry.iri == iri)).map (·.id)

/-- The class of literals whose datatype is exactly this id: the class of the entry with
that id, or `other` when there is none or it marks no class. -/
def classOf (table : ReservedTable) (datatype : TermId) : DatatypeClass :=
  ((table.entries.find? (fun entry => entry.id == datatype)).bind (·.datatypeClass)).getD .other

/-- A table's entries are what it was built from. -/
theorem entries_of_ofEntries? {entries : List ReservedIri} {table : ReservedTable}
    (h : ofEntries? entries = .ok table) : table.entries = entries := by
  unfold ofEntries? at h
  split at h
  · cases h
  · cases h
    rfl

/-- A list is refused exactly with its first fault. -/
theorem ofEntries?_eq_error_iff {entries : List ReservedIri} {fault : ReservedError} :
    ofEntries? entries = .error fault ↔ ReservedError.firstFault [] entries = some fault := by
  unfold ofEntries?
  split <;> rename_i h <;> simp [h]

end ReservedTable

end TermDictionary
