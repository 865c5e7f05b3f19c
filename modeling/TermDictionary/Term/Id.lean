import TermDictionary.Term.Kind
import TermDictionary.Term.DatatypeClass

/-!
# Term ids

A term id is a 64-bit number in four fields: the kind in bits 63–62, the datatype class tag
in bits 61–56 (used by literal ids only), eight spare bits 55–48, and the value in bits
47–0. `TermId` keeps the four fields apart, each with its bound, so that every 64-bit number
is exactly one id and back (`ofRaw_toRaw`, `toRaw_ofRaw`).

Ids are compared as 64-bit numbers, so the kind orders ids first, then the class tag, then
the value. Ids that a dictionary builds itself have no spare bits and a class tag only for
literals, but an id read from outside may carry any bits, and every bit counts for equality.

An id has a short text, its kind's name and its value (`IRI#5`, `blank node#1`), which
messages use, and a diagnostic text (`NodeId(IRI:5)`) that also names the datatype class of a
literal id when the class is not `other` (`NodeId(literal:5, Integer)`). Neither text shows
the spare bits, and the short text does not show the class either.
-/

namespace TermDictionary

/-- A term id, as its four bit fields. -/
structure TermId where
  /-- The kind, bits 63–62. -/
  kind : TermKind
  /-- The datatype class tag, bits 61–56. -/
  classTag : Nat
  /-- The spare bits 55–48. -/
  spare : Nat
  /-- The value within the kind, bits 47–0. -/
  value : Nat
  classTag_lt : classTag < 64 := by omega
  spare_lt : spare < 256 := by omega
  value_lt : value < 2 ^ 48 := by omega
deriving DecidableEq

namespace TermId

/-- The largest value an id holds. -/
def maxValue : Nat := 2 ^ 48 - 1

/-- The id of a kind and value, with no class tag and no spare bits. -/
def make (kind : TermKind) (value : Nat) (h : value < 2 ^ 48) : TermId where
  kind := kind
  classTag := 0
  spare := 0
  value := value
  value_lt := h

/-- The literal id of a value that records a datatype class. -/
def literal (value : Nat) (cls : DatatypeClass) (h : value < 2 ^ 48) : TermId where
  kind := .literal
  classTag := cls.tag
  spare := 0
  value := value
  classTag_lt := by have := cls.tag_lt; omega
  value_lt := h

/-- The id of a kind and value, or `none` when the value does not fit in 48 bits. -/
def ofKind? (kind : TermKind) (value : Nat) : Option TermId :=
  if h : value < 2 ^ 48 then some (make kind value h) else none

/-- The 64-bit number of an id. -/
def toRaw (x : TermId) : Nat :=
  x.kind.code * 2 ^ 62 + x.classTag * 2 ^ 56 + x.spare * 2 ^ 48 + x.value

/-- The id of a 64-bit number; bits above the 64th are ignored. -/
def ofRaw (n : Nat) : TermId where
  kind := TermKind.ofCode (n / 2 ^ 62)
  classTag := n / 2 ^ 56 % 64
  spare := n / 2 ^ 48 % 256
  value := n % 2 ^ 48
  classTag_lt := Nat.mod_lt _ (by decide)
  spare_lt := Nat.mod_lt _ (by decide)
  value_lt := Nat.mod_lt _ (by decide)

/-- The datatype class a literal id records; other kinds record none. -/
def datatypeClass? (x : TermId) : Option DatatypeClass :=
  match x.kind with
  | .literal => some (DatatypeClass.ofTag x.classTag)
  | _ => none

/-- Whether the value lies below the first value the dictionary hands out for the kind. -/
def isReserved (x : TermId) : Bool :=
  decide (x.value < x.kind.firstValue)

/-- Ids are ordered as 64-bit numbers. -/
instance : Ord TermId where
  compare a b := compare a.toRaw b.toRaw

instance : LT TermId where
  lt a b := a.toRaw < b.toRaw

instance : LE TermId where
  le a b := a.toRaw ≤ b.toRaw

instance (a b : TermId) : Decidable (a < b) :=
  inferInstanceAs (Decidable (a.toRaw < b.toRaw))

instance (a b : TermId) : Decidable (a ≤ b) :=
  inferInstanceAs (Decidable (a.toRaw ≤ b.toRaw))

/-- Two ids with the same fields are the same id. -/
theorem ext {x y : TermId} (hk : x.kind = y.kind) (ht : x.classTag = y.classTag)
    (hs : x.spare = y.spare) (hv : x.value = y.value) : x = y := by
  cases x
  cases y
  simp_all

theorem toRaw_lt (x : TermId) : x.toRaw < 2 ^ 64 := by
  have hk := x.kind.code_lt_four
  have ht := x.classTag_lt
  have hs := x.spare_lt
  have hv := x.value_lt
  simp only [toRaw]
  omega

/-- Reading the number of an id gives the id back. -/
@[simp] theorem ofRaw_toRaw (x : TermId) : ofRaw x.toRaw = x := by
  have hk := x.kind.code_lt_four
  have ht := x.classTag_lt
  have hs := x.spare_lt
  have hv := x.value_lt
  apply ext
  · have h : x.toRaw / 2 ^ 62 = x.kind.code := by simp only [toRaw]; omega
    simp only [ofRaw, h, TermKind.ofCode_code]
  · simp only [ofRaw, toRaw]; omega
  · simp only [ofRaw, toRaw]; omega
  · simp only [ofRaw, toRaw]; omega

/-- The number of the id of a number is that number, cut to 64 bits. -/
theorem toRaw_ofRaw (n : Nat) : (ofRaw n).toRaw = n % 2 ^ 64 := by
  simp only [toRaw, ofRaw, TermKind.code_ofCode]
  omega

/-- Different ids have different numbers. -/
theorem toRaw_injective {x y : TermId} (h : x.toRaw = y.toRaw) : x = y := by
  rw [← ofRaw_toRaw x, ← ofRaw_toRaw y, h]

@[simp] theorem kind_make (k : TermKind) (v : Nat) (h : v < 2 ^ 48) : (make k v h).kind = k :=
  rfl

@[simp] theorem value_make (k : TermKind) (v : Nat) (h : v < 2 ^ 48) :
    (make k v h).value = v :=
  rfl

@[simp] theorem kind_literal (v : Nat) (c : DatatypeClass) (h : v < 2 ^ 48) :
    (literal v c h).kind = .literal :=
  rfl

@[simp] theorem value_literal (v : Nat) (c : DatatypeClass) (h : v < 2 ^ 48) :
    (literal v c h).value = v :=
  rfl

/-- A literal id records the class it was made with. -/
theorem datatypeClass?_literal (v : Nat) (c : DatatypeClass) (h : v < 2 ^ 48) :
    (literal v c h).datatypeClass? = some c := by
  simp [datatypeClass?, literal]

example : (ofRaw 13979173243358019585).datatypeClass? = some .langString := by decide

/-! ## Texts -/

/-- The short text of an id: the kind's name, `#`, and the value. -/
def display (x : TermId) : String :=
  x.kind.name ++ "#" ++ toString x.value

/-- The diagnostic text of an id, naming the datatype class of a literal id unless it is
`other`. -/
def diagnostic (x : TermId) : String :=
  let head := "NodeId(" ++ x.kind.name ++ ":" ++ toString x.value
  match x.datatypeClass? with
  | some .other => head ++ ")"
  | some cls => head ++ ", " ++ cls.name ++ ")"
  | none => head ++ ")"

example : (make .iri 5 (by decide)).display = "IRI#5" := by decide

example : (literal 5 .integer (by decide)).diagnostic = "NodeId(literal:5, Integer)" := by
  decide

end TermId

end TermDictionary
