/-!
# Datatype classes

A literal id carries, in six bits of its own, the class of the literal's datatype: one of
eleven well-known XSD and RDF datatypes, or `other`. The class comes from the reserved IRI
table, so a literal whose datatype is not a reserved datatype IRI has class `other`.
Tags run from 0 to 11; a tag above 11 reads back as `other`.
-/

namespace TermDictionary

/-- The class of a literal's datatype, as its id records it. -/
inductive DatatypeClass where
  /-- Any datatype that is not one of the classes below. -/
  | other
  /-- `xsd:string`. -/
  | string
  /-- `rdf:langString`. -/
  | langString
  /-- `xsd:boolean`. -/
  | boolean
  /-- `xsd:integer`. -/
  | integer
  /-- `xsd:decimal`. -/
  | decimal
  /-- `xsd:double`. -/
  | double
  /-- `xsd:float`. -/
  | float
  /-- `xsd:dateTime`. -/
  | dateTime
  /-- `xsd:date`. -/
  | date
  /-- `xsd:int`. -/
  | int
  /-- `xsd:long`. -/
  | long
deriving DecidableEq, Repr

namespace DatatypeClass

/-- Every class, in tag order. -/
def all : List DatatypeClass :=
  [other, string, langString, boolean, integer, decimal, double, float, dateTime, date, int,
    long]

/-- The six-bit tag of a class. -/
def tag : DatatypeClass → Nat
  | other => 0
  | string => 1
  | langString => 2
  | boolean => 3
  | integer => 4
  | decimal => 5
  | double => 6
  | float => 7
  | dateTime => 8
  | date => 9
  | int => 10
  | long => 11

/-- The class with a given tag; tags without a class of their own read as `other`. -/
def ofTag (n : Nat) : DatatypeClass :=
  match n with
  | 1 => string
  | 2 => langString
  | 3 => boolean
  | 4 => integer
  | 5 => decimal
  | 6 => double
  | 7 => float
  | 8 => dateTime
  | 9 => date
  | 10 => int
  | 11 => long
  | _ => other

/-- The name of a class in the diagnostic text of literal ids. -/
def name : DatatypeClass → String
  | other => "Other"
  | string => "String"
  | langString => "LangString"
  | boolean => "Boolean"
  | integer => "Integer"
  | decimal => "Decimal"
  | double => "Double"
  | float => "Float"
  | dateTime => "DateTime"
  | date => "Date"
  | int => "Int"
  | long => "Long"

/-- The class with a given name, if there is one. -/
def ofName? (s : String) : Option DatatypeClass :=
  all.find? (fun c => c.name == s)

theorem tag_lt (c : DatatypeClass) : c.tag < 12 := by
  cases c <;> decide

@[simp] theorem ofTag_tag (c : DatatypeClass) : ofTag c.tag = c := by
  cases c <;> rfl

theorem ofTag_of_twelve_le {n : Nat} (h : 12 ≤ n) : ofTag n = other := by
  unfold ofTag
  split <;> first | rfl | omega

theorem ofName?_name (c : DatatypeClass) : ofName? c.name = some c := by
  cases c <;> decide

end DatatypeClass

end TermDictionary
