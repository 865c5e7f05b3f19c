import TermDictionary.Term.Id

/-!
# Literals

A literal is a lexical form, the id of its datatype, and perhaps a language tag. A caller
names a literal by a `Literal`; an empty language tag there means no tag, and
`Literal.normalize` says so by dropping it. What a dictionary keeps is a `LiteralRecord`,
whose type rules the empty tag out, so the two spellings of one literal are one record
(`view_ofView`).

Literals are ordered by lexical form, then by the datatype id as a 64-bit number, then by
tag, no tag first; strings are ordered by code points, which is the order of their UTF-8
bytes. Records are ordered as their views (`compare_ofView`).
-/

namespace TermDictionary

/-- A literal as a caller names it. -/
structure Literal where
  /-- The lexical form. -/
  lexical : String
  /-- The id of the datatype; any id is accepted. -/
  datatype : TermId
  /-- The language tag; `some ""` means no tag. -/
  language : Option String
deriving DecidableEq

namespace Literal

/-- The same literal with an empty language tag dropped. -/
def normalize (l : Literal) : Literal :=
  { l with language := l.language.filter (fun tag => tag != "") }

/-- Order by lexical form, then datatype number, then tag with no tag first. -/
def compare (a b : Literal) : Ordering :=
  (Ord.compare a.lexical b.lexical).then
    ((Ord.compare a.datatype.toRaw b.datatype.toRaw).then (Ord.compare a.language b.language))

instance : Ord Literal where
  compare := Literal.compare

theorem language_normalize_ne (l : Literal) : l.normalize.language ≠ some "" := by
  cases h : l.language with
  | none => simp [normalize, h]
  | some tag => by_cases ht : tag = "" <;> simp [normalize, h, ht]

@[simp] theorem normalize_normalize (l : Literal) : l.normalize.normalize = l.normalize := by
  cases h : l.language with
  | none => simp [normalize, h]
  | some tag => by_cases ht : tag = "" <;> simp [normalize, h, ht]

end Literal

/-- A literal as a dictionary keeps it: lexical form, datatype id and a non-empty tag, if any. -/
structure LiteralRecord where
  /-- The lexical form. -/
  lexical : String
  /-- The id of the datatype. -/
  datatype : TermId
  /-- The language tag, never empty. -/
  language : Option String
  language_ne : language ≠ some ""
deriving DecidableEq

namespace LiteralRecord

/-- The record of a literal: its empty tag, if any, is dropped. -/
def ofView (l : Literal) : LiteralRecord where
  lexical := l.lexical
  datatype := l.datatype
  language := l.normalize.language
  language_ne := l.language_normalize_ne

/-- The literal a record stands for. -/
def view (r : LiteralRecord) : Literal :=
  ⟨r.lexical, r.datatype, r.language⟩

/-- Records are ordered as the literals they stand for. -/
def compare (a b : LiteralRecord) : Ordering :=
  a.view.compare b.view

instance : Ord LiteralRecord where
  compare := LiteralRecord.compare

/-- The record of a literal stands for the literal without an empty tag. -/
@[simp] theorem view_ofView (l : Literal) : (ofView l).view = l.normalize := rfl

/-- The record of a record's literal is that record. -/
@[simp] theorem ofView_view (r : LiteralRecord) : ofView r.view = r := by
  cases r with
  | mk lexical datatype language ne =>
    cases language with
    | none => rfl
    | some tag =>
      have : tag ≠ "" := fun h => ne (by rw [h])
      simp [ofView, view, Literal.normalize, this]

/-- A literal and its normalized form have one record. -/
@[simp] theorem ofView_normalize (l : Literal) : ofView l.normalize = ofView l := by
  have h := Literal.normalize_normalize l
  unfold ofView
  congr 1
  rw [h]

/-- Records of two literals compare as the normalized literals. -/
theorem compare_ofView (a b : Literal) :
    (ofView a).compare (ofView b) = a.normalize.compare b.normalize := rfl

end LiteralRecord

end TermDictionary
