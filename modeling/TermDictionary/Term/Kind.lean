/-!
# Kinds of terms

A dictionary keeps four kinds of terms apart: query variables, blank nodes, IRIs and
literals. The kind is the two-bit code at the top of every term id, so the code fixes the
order of the kinds, and each kind has its own first value for the ids it hands out: IRI
values below 64 are reserved for well-known IRIs.
-/

-- Powers of naturals are the core ones, also where an algebra library brings its own: every
-- bit-width bound of the library is then one term, whatever a module imports.
attribute [default_instance 20000] instPowNat

namespace TermDictionary

/-- The four kinds of terms, in the order of their two-bit codes. -/
inductive TermKind where
  /-- A query variable. -/
  | var
  /-- A blank node. -/
  | blank
  /-- An IRI. -/
  | iri
  /-- A literal. -/
  | literal
deriving DecidableEq, Repr

namespace TermKind

/-- All kinds, in code order. -/
def all : List TermKind := [var, blank, iri, literal]

/-- The two-bit code of a kind. -/
def code : TermKind → Nat
  | var => 0
  | blank => 1
  | iri => 2
  | literal => 3

/-- The kind with a given code; only the two low bits count. -/
def ofCode (n : Nat) : TermKind :=
  match n % 4 with
  | 0 => var
  | 1 => blank
  | 2 => iri
  | _ => literal

/-- The name of a kind in messages and in the text of ids. -/
def name : TermKind → String
  | var => "variable"
  | blank => "blank node"
  | iri => "IRI"
  | literal => "literal"

/-- The first value a dictionary hands out for a kind; IRI values below it are reserved. -/
def firstValue : TermKind → Nat
  | iri => 64
  | _ => 1

theorem code_lt_four (k : TermKind) : k.code < 4 := by
  cases k <;> decide

@[simp] theorem ofCode_code (k : TermKind) : ofCode k.code = k := by
  cases k <;> rfl

/-- The code of the kind of a number is its remainder by four. -/
theorem code_ofCode (n : Nat) : (ofCode n).code = n % 4 := by
  have h : n % 4 < 4 := Nat.mod_lt _ (by decide)
  unfold ofCode
  generalize n % 4 = r at *
  match r, h with
  | 0, _ => rfl
  | 1, _ => rfl
  | 2, _ => rfl
  | 3, _ => rfl

/-- Codes tell kinds apart. -/
theorem code_injective {k k' : TermKind} (h : k.code = k'.code) : k = k' := by
  rw [← ofCode_code k, ← ofCode_code k', h]

theorem mem_all (k : TermKind) : k ∈ all := by
  cases k <;> decide

theorem one_le_firstValue (k : TermKind) : 1 ≤ k.firstValue := by
  cases k <;> decide

end TermKind

end TermDictionary
