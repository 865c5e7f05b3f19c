import TermDictionary.Reserved.Basic

/-!
# The standard reserved IRIs

The standard table reserves twenty IRIs of the XSD, RDF, RDFS and OWL vocabularies at the
values 1 to 20: the eleven datatypes that have a class of their own (values 1, 2 and 4 to
12), `rdf:type`, and eight IRIs of RDF lists, RDFS classes and `owl:sameAs`.
-/

namespace TermDictionary

namespace ReservedIri

/-- A reserved IRI at a value, marking no class. -/
def plain (value : Nat) (iri : String) (h : value < 2 ^ 48 := by decide) : ReservedIri :=
  ⟨TermId.make .iri value h, iri, none⟩

/-- A reserved datatype IRI at a value, marking a class. -/
def datatype (value : Nat) (iri : String) (cls : DatatypeClass) (h : value < 2 ^ 48 := by decide) :
    ReservedIri :=
  ⟨TermId.make .iri value h, iri, some cls⟩

end ReservedIri

namespace ReservedTable

/-- The entries of the standard table, in value order. -/
def standardEntries : List ReservedIri :=
  [ .datatype 1 "http://www.w3.org/2001/XMLSchema#string" .string,
    .datatype 2 "http://www.w3.org/1999/02/22-rdf-syntax-ns#langString" .langString,
    .plain 3 "http://www.w3.org/1999/02/22-rdf-syntax-ns#type",
    .datatype 4 "http://www.w3.org/2001/XMLSchema#boolean" .boolean,
    .datatype 5 "http://www.w3.org/2001/XMLSchema#integer" .integer,
    .datatype 6 "http://www.w3.org/2001/XMLSchema#decimal" .decimal,
    .datatype 7 "http://www.w3.org/2001/XMLSchema#double" .double,
    .datatype 8 "http://www.w3.org/2001/XMLSchema#float" .float,
    .datatype 9 "http://www.w3.org/2001/XMLSchema#dateTime" .dateTime,
    .datatype 10 "http://www.w3.org/2001/XMLSchema#date" .date,
    .datatype 11 "http://www.w3.org/2001/XMLSchema#int" .int,
    .datatype 12 "http://www.w3.org/2001/XMLSchema#long" .long,
    .plain 13 "http://www.w3.org/1999/02/22-rdf-syntax-ns#Property",
    .plain 14 "http://www.w3.org/1999/02/22-rdf-syntax-ns#first",
    .plain 15 "http://www.w3.org/1999/02/22-rdf-syntax-ns#rest",
    .plain 16 "http://www.w3.org/1999/02/22-rdf-syntax-ns#nil",
    .plain 17 "http://www.w3.org/2000/01/rdf-schema#Class",
    .plain 18 "http://www.w3.org/2000/01/rdf-schema#label",
    .plain 19 "http://www.w3.org/2000/01/rdf-schema#subClassOf",
    .plain 20 "http://www.w3.org/2002/07/owl#sameAs" ]

/-- The standard table of reserved IRIs. -/
def standard : ReservedTable where
  entries := standardEntries
  noFault := by decide

example : standard.size = 20 := rfl

end ReservedTable

end TermDictionary
