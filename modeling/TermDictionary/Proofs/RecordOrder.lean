import TermDictionary.Proofs.Accounting
import TermDictionary.Proofs.ByteOrder

/-!
# Records and views agree

A dictionary keeps a record for every view it stores, and looks records up by comparing them
with views. The two sides agree on everything the look-up reads. A record stands for its
normalized view; records compare exactly as the views they stand for, so the order in which
records are kept and the order in which a view is searched for are one order, and a record
compares equal to another only when it is the same record (`compareRecord_eq_eq_iff`). A
record costs what its view costs (`TermKind.viewFootprint_eq_footprint`).

The order itself is the order of bytes: names, labels and IRIs compare as their UTF-8 bytes,
and literals compare by lexical form, then datatype id as a 64-bit number, then language tag,
with no tag before any tag (`Literal.compare_eq_bytes`).
-/

namespace TermDictionary

namespace Literal

/-- Literals are equal exactly when they compare equal. -/
theorem compare_eq_eq_iff (a b : Literal) : a.compare b = .eq ↔ a = b := by
  have datatypes :
      Ord.compare a.datatype.toRaw b.datatype.toRaw = .eq ↔ a.datatype = b.datatype := by
    rw [Nat.compare_eq_eq]
    exact ⟨TermId.toRaw_injective, congrArg TermId.toRaw⟩
  simp only [Literal.compare, Ordering.then_eq_eq, Std.LawfulEqOrd.compare_eq_iff_eq, datatypes]
  constructor
  · rintro ⟨lexical, datatype, language⟩
    cases a
    cases b
    simp_all
  · rintro rfl
    exact ⟨rfl, rfl, rfl⟩

/-- Optional strings compare as their optional UTF-8 bytes, nothing before anything. -/
theorem compare_map_utf8Bytes (a b : Option String) :
    Ord.compare (a.map utf8Bytes) (b.map utf8Bytes) = Ord.compare a b := by
  cases a with
  | none => cases b <;> rfl
  | some s =>
    cases b with
    | none => rfl
    | some t => exact (compare_eq_compare_utf8Bytes s t).symm

/-- Literals compare by the bytes of their lexical forms, then their datatype numbers, then
the bytes of their tags, with no tag first. -/
theorem compare_eq_bytes (a b : Literal) :
    a.compare b =
      (Ord.compare (utf8Bytes a.lexical) (utf8Bytes b.lexical)).then
        ((Ord.compare a.datatype.toRaw b.datatype.toRaw).then
          (Ord.compare (a.language.map utf8Bytes) (b.language.map utf8Bytes))) := by
  rw [compare_map_utf8Bytes, ← compare_eq_compare_utf8Bytes]
  rfl

end Literal

namespace TermKind

/-- Records compare as the views they stand for. -/
theorem compareRecord_eq_compareView (kind : TermKind) (r s : kind.Record) :
    kind.compareRecord r s = kind.compareView (kind.recordView r) (kind.recordView s) := by
  cases kind <;> rfl

/-- The records of two views compare as the normalized views. -/
theorem compareRecord_toRecord (kind : TermKind) (a b : kind.View) :
    kind.compareRecord (kind.toRecord a) (kind.toRecord b) =
      kind.compareView (kind.normalize a) (kind.normalize b) := by
  rw [compareRecord_eq_compareView, recordView_toRecord, recordView_toRecord]

/-- A record stands for one view only. -/
theorem recordView_injective {kind : TermKind} {r s : kind.Record}
    (same : kind.recordView r = kind.recordView s) : r = s := by
  rw [← toRecord_recordView kind r, same, toRecord_recordView]

/-- Views compare equal exactly when they are the same view. -/
theorem compareView_eq_eq_iff (kind : TermKind) (a b : kind.View) :
    kind.compareView a b = .eq ↔ a = b := by
  cases kind
  · exact Std.LawfulEqOrd.compare_eq_iff_eq (α := String)
  · exact Std.LawfulEqOrd.compare_eq_iff_eq (α := String)
  · exact Std.LawfulEqOrd.compare_eq_iff_eq (α := String)
  · exact Literal.compare_eq_eq_iff a b

/-- Records compare equal exactly when they are the same record. -/
theorem compareRecord_eq_eq_iff (kind : TermKind) (r s : kind.Record) :
    kind.compareRecord r s = .eq ↔ r = s := by
  rw [compareRecord_eq_compareView, compareView_eq_eq_iff]
  exact ⟨recordView_injective, congrArg kind.recordView⟩

end TermKind

/-- Records and views agree on value, order and cost. For every kind, the record of a view
stands for the normalized view, the records of two views compare as the normalized views, and
a record costs what its view costs. Any two records compare as the views they stand for, and
compare equal exactly when they are the same record, so keeping records in order and
searching them with a view use one order. That order is the order of bytes: names, labels and
IRIs compare as their UTF-8 bytes, and literals by the bytes of their lexical forms, then their
datatype ids as 64-bit numbers, then the bytes of their tags, with no tag before any tag. -/
theorem records_and_views_agree :
    (∀ (kind : TermKind) (a b : kind.View),
      kind.recordView (kind.toRecord a) = kind.normalize a ∧
        kind.compareRecord (kind.toRecord a) (kind.toRecord b) =
          kind.compareView (kind.normalize a) (kind.normalize b) ∧
        kind.footprint (kind.toRecord a) = kind.viewFootprint a) ∧
    (∀ (kind : TermKind) (r s : kind.Record),
      kind.compareRecord r s = kind.compareView (kind.recordView r) (kind.recordView s) ∧
        (kind.compareRecord r s = .eq ↔ r = s)) ∧
    (∀ a b : String,
      TermKind.var.compareView a b = compare (utf8Bytes a) (utf8Bytes b) ∧
        TermKind.blank.compareView a b = compare (utf8Bytes a) (utf8Bytes b) ∧
        TermKind.iri.compareView a b = compare (utf8Bytes a) (utf8Bytes b)) ∧
    (∀ a b : Literal,
      TermKind.literal.compareView a b =
        (compare (utf8Bytes a.lexical) (utf8Bytes b.lexical)).then
          ((compare a.datatype.toRaw b.datatype.toRaw).then
            (compare (a.language.map utf8Bytes) (b.language.map utf8Bytes)))) :=
  ⟨fun kind a b => ⟨kind.recordView_toRecord a, kind.compareRecord_toRecord a b,
      (kind.viewFootprint_eq_footprint a).symm⟩,
    fun kind r s => ⟨kind.compareRecord_eq_compareView r s, kind.compareRecord_eq_eq_iff r s⟩,
    fun a b => ⟨compare_eq_compare_utf8Bytes a b, compare_eq_compare_utf8Bytes a b,
      compare_eq_compare_utf8Bytes a b⟩,
    Literal.compare_eq_bytes⟩

end TermDictionary
