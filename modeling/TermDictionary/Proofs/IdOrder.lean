import TermDictionary.Proofs.InternStep

/-!
# Ids: fields, numbers and order

An id is its number: the kind's code, the class tag, the spare bits and the value, from the
most significant bits down. Reading the fields back from the number gives them unchanged, so
the ids an id constructor builds carry exactly the kind, class and value they were built
from (`kind_make`, `datatypeClass?_make`, `datatypeClass?_literal`), and the checked
constructor refuses exactly the values above the largest one (`ofKind?_eq_some_make_iff`).

Since each field fits below the next one's place, comparing two numbers compares their fields
lexicographically (`lt_iff_fields_lt`): the kind first, then the class tag, then the spare
bits, then the value. So an id of a smaller kind is smaller whatever its other bits
(`lt_of_code_lt`), and literal ids sort by class before value (`literal_lt_literal_iff`).
-/

namespace TermDictionary

/-- Tags tell classes apart. -/
theorem DatatypeClass.tag_injective {cls cls' : DatatypeClass} (same : cls.tag = cls'.tag) :
    cls = cls' := by
  rw [← DatatypeClass.ofTag_tag cls, same, DatatypeClass.ofTag_tag]

namespace TermId

/-- The fields of an id in the order its number holds them, most significant first. -/
def fields (x : TermId) : List Nat :=
  [x.kind.code, x.classTag, x.spare, x.value]

@[simp] theorem datatypeClass?_of_literal {x : TermId} (isLiteral : x.kind = .literal) :
    x.datatypeClass? = some (DatatypeClass.ofTag x.classTag) := by
  simp [datatypeClass?, isLiteral]

theorem datatypeClass?_of_ne_literal {x : TermId} (notLiteral : x.kind ≠ .literal) :
    x.datatypeClass? = none := by
  unfold datatypeClass?
  split
  · rename_i isLiteral
    exact absurd isLiteral notLiteral
  · rfl

/-- An id of a kind carries the class `other` when it is a literal id and no class otherwise. -/
theorem datatypeClass?_make (kind : TermKind) (value : Nat) (fits : value < 2 ^ 48) :
    (make kind value fits).datatypeClass? = if kind = .literal then some .other else none := by
  split
  · rename_i isLiteral
    rw [datatypeClass?_of_literal isLiteral]
    rfl
  · rename_i notLiteral
    exact datatypeClass?_of_ne_literal notLiteral

/-- The literal id of a value is the literal id of class `other`. -/
theorem make_literal (value : Nat) (fits : value < 2 ^ 48) :
    make .literal value fits = literal value .other fits :=
  ext rfl rfl rfl rfl

/-- The checked constructor builds the id of a value exactly when the value is at most the
largest one. -/
theorem ofKind?_eq_some_make_iff (kind : TermKind) (value : Nat) :
    (∃ fits, ofKind? kind value = some (make kind value fits)) ↔ value ≤ maxValue := by
  rw [le_maxValue_iff]
  constructor
  · rintro ⟨fits, -⟩
    exact fits
  · intro fits
    exact ⟨fits, dif_pos fits⟩

/-- The checked constructor refuses every value above the largest one. -/
theorem ofKind?_of_maxValue_lt {kind : TermKind} {value : Nat} (above : maxValue < value) :
    ofKind? kind value = none :=
  dif_neg fun fits => Nat.not_le.mpr above (le_maxValue_iff.mpr fits)

/-- Numbers compare as the fields of their ids, lexicographically. -/
theorem lt_iff_fields_lt (x y : TermId) : x < y ↔ x.fields < y.fields := by
  have kind := x.kind.code_lt_four
  have tag := x.classTag_lt
  have spare := x.spare_lt
  have value := x.value_lt
  have otherKind := y.kind.code_lt_four
  have otherTag := y.classTag_lt
  have otherSpare := y.spare_lt
  have otherValue := y.value_lt
  change x.toRaw < y.toRaw ↔ _
  simp only [fields, toRaw, List.cons_lt_cons_iff, List.not_lt_nil, and_false, or_false]
  omega

/-- An id of a smaller kind is smaller, whatever its other bits. -/
theorem lt_of_code_lt {x y : TermId} (smaller : x.kind.code < y.kind.code) : x < y := by
  rw [lt_iff_fields_lt]
  exact List.cons_lt_cons_iff.mpr (.inl smaller)

/-- Literal ids sort by class before value. -/
theorem literal_lt_literal_iff
    (value otherValue : Nat)
    (cls otherCls : DatatypeClass)
    (fits : value < 2 ^ 48)
    (otherFits : otherValue < 2 ^ 48) :
    literal value cls fits < literal otherValue otherCls otherFits ↔
      cls.tag < otherCls.tag ∨ cls = otherCls ∧ value < otherValue := by
  rw [lt_iff_fields_lt]
  show [TermKind.literal.code, cls.tag, 0, value] <
      [TermKind.literal.code, otherCls.tag, 0, otherValue] ↔ _
  simp only [List.cons_lt_cons_self, List.cons_lt_cons_iff, List.not_lt_nil, and_false,
    or_false]
  constructor
  · rintro (below | ⟨same, below⟩)
    · exact .inl below
    · exact .inr ⟨DatatypeClass.tag_injective same, below⟩
  · rintro (below | ⟨rfl, below⟩)
    · exact .inl below
    · exact .inr ⟨rfl, below⟩

/-- A literal id whose tag names no class reads as class `other`. -/
theorem datatypeClass?_of_twelve_le
    {x : TermId}
    (isLiteral : x.kind = .literal)
    (unnamed : 12 ≤ x.classTag) :
    x.datatypeClass? = some .other := by
  rw [datatypeClass?_of_literal isLiteral, DatatypeClass.ofTag_of_twelve_le unnamed]

/-- Ids are built, read and ordered as their layout says. An id of a kind and a value that fits
reads back that kind and value, and the class `other` exactly when it is a literal id; a
literal id of a class reads back the literal kind, its value and its class, and the literal id
of class `other` is the plain literal id. The checked constructor builds the id exactly when
the value is at most the largest one, and refuses it otherwise. An id's 64-bit number decodes
to the id, and every 64-bit number is the number of the id it decodes to. Numbers of ids
compare as their fields do lexicographically, kind first, then class tag, spare bits and value,
and one number is one id; so an id of a smaller kind has the smaller number, literal ids sort
by class before value, and a literal tag from 12 to 63 reads as class `other`. -/
theorem encoding_round_trips_in_order :
    (∀ kind value (fits : value < 2 ^ 48),
      (make kind value fits).kind = kind ∧ (make kind value fits).value = value ∧
        (make kind value fits).datatypeClass? =
          if kind = .literal then some .other else none) ∧
    (∀ value cls (fits : value < 2 ^ 48),
      (literal value cls fits).kind = .literal ∧ (literal value cls fits).value = value ∧
        (literal value cls fits).datatypeClass? = some cls) ∧
    (∀ value (fits : value < 2 ^ 48), make .literal value fits = literal value .other fits) ∧
    (∀ kind value,
      ((∃ fits, ofKind? kind value = some (make kind value fits)) ↔ value ≤ maxValue) ∧
        (maxValue < value → ofKind? kind value = none)) ∧
    (∀ x : TermId, ofRaw x.toRaw = x) ∧ (∀ n, (ofRaw n).toRaw = n % 2 ^ 64) ∧
    (∀ x y : TermId,
      (x.toRaw < y.toRaw ↔ x.fields < y.fields) ∧ (x.toRaw = y.toRaw → x = y)) ∧
    (∀ value otherValue cls otherCls (fits : value < 2 ^ 48) (otherFits : otherValue < 2 ^ 48),
      (literal value cls fits).toRaw < (literal otherValue otherCls otherFits).toRaw ↔
        cls.tag < otherCls.tag ∨ cls = otherCls ∧ value < otherValue) ∧
    (∀ x y : TermId, x.kind.code < y.kind.code → x.toRaw < y.toRaw) ∧
    (∀ x : TermId, x.kind = .literal → 12 ≤ x.classTag → x.datatypeClass? = some .other) :=
  ⟨fun kind value fits => ⟨rfl, rfl, datatypeClass?_make kind value fits⟩,
    fun value cls fits => ⟨rfl, rfl, datatypeClass?_literal value cls fits⟩,
    make_literal,
    fun kind value => ⟨ofKind?_eq_some_make_iff kind value, ofKind?_of_maxValue_lt⟩,
    ofRaw_toRaw,
    toRaw_ofRaw,
    fun x y => ⟨lt_iff_fields_lt x y, toRaw_injective⟩,
    literal_lt_literal_iff,
    fun _ _ smaller => lt_of_code_lt smaller,
    fun _ isLiteral unnamed => datatypeClass?_of_twelve_le isLiteral unnamed⟩

example : (literal 7 .integer (by decide)).toRaw < (literal 3 .double (by decide)).toRaw := by
  decide

end TermId

end TermDictionary
