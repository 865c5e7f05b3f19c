import TermDictionary.Term.Literal

/-!
# Views and records, kind by kind

For every kind of term, `TermKind.View` is what a caller names a term by and
`TermKind.Record` is what a dictionary keeps: a string for IRIs, blank nodes and variables,
a `Literal` or a `LiteralRecord` for literals. `TermKind.toRecord` turns a view into its
record and `TermKind.recordView` goes back; the two agree up to normalization
(`recordView_toRecord`, `toRecord_recordView`).

A record costs `TermKind.footprint` bytes of the dictionary's budget: sixteen bytes and the
UTF-8 bytes of the string, or forty bytes and the UTF-8 bytes of a literal's lexical form
and tag.
-/

namespace TermDictionary

namespace TermKind

/-- What a caller names a term of a kind by. -/
def View : TermKind → Type
  | var => String
  | blank => String
  | iri => String
  | literal => Literal

/-- What a dictionary keeps for a term of a kind. -/
def Record : TermKind → Type
  | var => String
  | blank => String
  | iri => String
  | literal => LiteralRecord

instance instDecidableEqView : (kind : TermKind) → DecidableEq kind.View
  | var => inferInstanceAs (DecidableEq String)
  | blank => inferInstanceAs (DecidableEq String)
  | iri => inferInstanceAs (DecidableEq String)
  | literal => inferInstanceAs (DecidableEq Literal)

instance instDecidableEqRecord : (kind : TermKind) → DecidableEq kind.Record
  | var => inferInstanceAs (DecidableEq String)
  | blank => inferInstanceAs (DecidableEq String)
  | iri => inferInstanceAs (DecidableEq String)
  | literal => inferInstanceAs (DecidableEq LiteralRecord)

/-- The view with an empty language tag dropped; views of other kinds are kept. -/
def normalize : (kind : TermKind) → kind.View → kind.View
  | var, name => name
  | blank, label => label
  | iri, text => text
  | literal, lit => Literal.normalize lit

/-- The record a dictionary keeps for a view. -/
def toRecord : (kind : TermKind) → kind.View → kind.Record
  | var, name => name
  | blank, label => label
  | iri, text => text
  | literal, lit => LiteralRecord.ofView lit

/-- The view a record stands for. -/
def recordView : (kind : TermKind) → kind.Record → kind.View
  | var, name => name
  | blank, label => label
  | iri, text => text
  | literal, record => LiteralRecord.view record

/-- The bytes a record costs: sixteen and the string's UTF-8 bytes, or forty and the UTF-8
bytes of a literal's lexical form and language tag. -/
def footprint : (kind : TermKind) → kind.Record → Nat
  | var, name => 16 + String.utf8ByteSize name
  | blank, label => 16 + String.utf8ByteSize label
  | iri, text => 16 + String.utf8ByteSize text
  | literal, record =>
    40 + record.lexical.utf8ByteSize + (record.language.map String.utf8ByteSize).getD 0

/-- The order of views: strings by code point, literals by `Literal.compare`. -/
def compareView : (kind : TermKind) → kind.View → kind.View → Ordering
  | var, a, b => Ord.compare (α := String) a b
  | blank, a, b => Ord.compare (α := String) a b
  | iri, a, b => Ord.compare (α := String) a b
  | literal, a, b => Literal.compare a b

/-- The order of records: strings by code point, literals by `LiteralRecord.compare`. -/
def compareRecord : (kind : TermKind) → kind.Record → kind.Record → Ordering
  | var, a, b => Ord.compare (α := String) a b
  | blank, a, b => Ord.compare (α := String) a b
  | iri, a, b => Ord.compare (α := String) a b
  | literal, a, b => LiteralRecord.compare a b

/-- A record's view is the normalized view it was made from. -/
@[simp] theorem recordView_toRecord (kind : TermKind) (view : kind.View) :
    kind.recordView (kind.toRecord view) = kind.normalize view := by
  cases kind <;> rfl

/-- A record is the record of its own view. -/
@[simp] theorem toRecord_recordView (kind : TermKind) (record : kind.Record) :
    kind.toRecord (kind.recordView record) = record := by
  cases kind
  · rfl
  · rfl
  · rfl
  · exact LiteralRecord.ofView_view record

/-- Normalizing first changes no record. -/
@[simp] theorem toRecord_normalize (kind : TermKind) (view : kind.View) :
    kind.toRecord (kind.normalize view) = kind.toRecord view := by
  cases kind
  · rfl
  · rfl
  · rfl
  · exact LiteralRecord.ofView_normalize view

end TermKind

end TermDictionary
