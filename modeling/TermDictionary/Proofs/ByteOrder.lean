import Mathlib

/-!
# Text compares as its UTF-8 bytes

Strings compare character by character, by code point. Stored text is compared as its UTF-8
bytes. The two orders agree (`compare_eq_compare_utf8Bytes`) because UTF-8 keeps the order of
code points and no character's bytes are a prefix of another's: a longer encoding has a
larger first byte, and encodings of one length list the bits of the code point from the most
significant end (`utf8EncodeChar_lt`). So the first character that differs decides the order
of the byte lists as well, whatever follows it (`compare_utf8EncodeChar_append`).
-/

namespace TermDictionary

/-- The UTF-8 bytes of a string. -/
def utf8Bytes (s : String) : List UInt8 := s.toUTF8.data.toList

theorem utf8Bytes_eq_flatMap (s : String) :
    utf8Bytes s = s.toList.flatMap String.utf8EncodeChar := by
  rw [utf8Bytes, String.toUTF8_eq_toByteArray, ← String.utf8Encode_toList, List.utf8Encode,
    List.toList_data_toByteArray]

/-! ## Byte lists -/

/-- A common prefix does not change a comparison. -/
theorem compare_append_left (common x y : List UInt8) :
    compare (common ++ x) (common ++ y) = compare x y := by
  induction common with
  | nil => rfl
  | cons byte rest ih => simp [List.compare_cons_cons, ih]

/-- A smaller byte list that is not a prefix of the other stays smaller, whatever follows
either. -/
theorem compare_append_of_lt :
    {p q : List UInt8} → p < q → ¬ p <+: q → ∀ x y, compare (p ++ x) (q ++ y) = .lt
  | [], _, _, notLeading, _, _ => absurd List.nil_prefix notLeading
  | _ :: _, [], smaller, _, _, _ => absurd smaller (List.not_lt_nil _)
  | a :: p, b :: q, smaller, notLeading, x, y => by
    rw [List.cons_append, List.cons_append, List.compare_cons_cons]
    rcases List.cons_lt_cons_iff.mp smaller with first | ⟨rfl, rest⟩
    · have decided : compare a b = .lt := compareOfLessAndEq_eq_lt.mpr first
      rw [decided, Ordering.lt_then]
    · have same : compare a a = .eq := Std.ReflOrd.compare_self
      rw [same, Ordering.eq_then]
      exact compare_append_of_lt rest
        (fun restLeading => notLeading (List.cons_prefix_cons.mpr ⟨rfl, restLeading⟩)) x y

/-! ## Characters -/

/-- The bytes of a smaller character are smaller, and not a prefix of the larger one's. -/
theorem utf8EncodeChar_lt {c d : Char} (below : c < d) :
    String.utf8EncodeChar c < String.utf8EncodeChar d ∧
      ¬ String.utf8EncodeChar c <+: String.utf8EncodeChar d := by
  have smaller : c.val.toNat < d.val.toNat := below
  have valid := d.valid
  simp only [UInt32.isValidChar, Nat.isValidChar] at valid
  dsimp only [String.utf8EncodeChar]
  generalize c.val.toNat = v at *
  generalize d.val.toNat = w at *
  -- One goal per pair of encoding lengths; the bytes are then arithmetic on the code points,
  -- each below 256.
  split_ifs <;>
    simp only [List.cons_lt_cons_iff, List.cons_prefix_cons, List.nil_lt_cons, List.not_lt_nil,
      List.nil_prefix, List.prefix_nil, UInt8.lt_iff_toNat_lt, ← UInt8.toNat_inj,
      UInt8.toNat_ofNat'] <;>
    simp (disch := omega) only [Nat.mod_eq_of_lt] <;>
    omega

/-- The first characters decide a comparison of byte lists unless they are equal. -/
theorem compare_utf8EncodeChar_append (c d : Char) (x y : List UInt8) :
    compare (String.utf8EncodeChar c ++ x) (String.utf8EncodeChar d ++ y) =
      (compare c d).then (compare x y) := by
  rcases lt_trichotomy c d with below | rfl | above
  · obtain ⟨smaller, notLeading⟩ := utf8EncodeChar_lt below
    have decided : compare c d = .lt := compareOfLessAndEq_eq_lt.mpr below
    rw [compare_append_of_lt smaller notLeading, decided, Ordering.lt_then]
  · have same : compare c c = .eq := Std.ReflOrd.compare_self
    rw [compare_append_left, same, Ordering.eq_then]
  · obtain ⟨smaller, notLeading⟩ := utf8EncodeChar_lt above
    have reversed : compare d c = .lt := compareOfLessAndEq_eq_lt.mpr above
    have swapped : compare c d = (compare d c).swap := Std.OrientedOrd.eq_swap
    rw [Std.OrientedOrd.eq_swap, compare_append_of_lt smaller notLeading, swapped, reversed]
    rfl

/-- Lists of characters compare as their bytes. -/
theorem compare_flatMap_utf8EncodeChar (l₁ l₂ : List Char) :
    compare (l₁.flatMap String.utf8EncodeChar) (l₂.flatMap String.utf8EncodeChar) =
      compare l₁ l₂ := by
  induction l₁ generalizing l₂ with
  | nil =>
    cases l₂ with
    | nil => rfl
    | cons d l₂ =>
      obtain ⟨b, bytes, encoded⟩ := List.exists_cons_of_ne_nil (@String.utf8EncodeChar_ne_nil d)
      simp [encoded]
  | cons c l₁ ih =>
    cases l₂ with
    | nil =>
      obtain ⟨b, bytes, encoded⟩ := List.exists_cons_of_ne_nil (@String.utf8EncodeChar_ne_nil c)
      simp [encoded]
    | cons d l₂ =>
      rw [List.flatMap_cons, List.flatMap_cons, compare_utf8EncodeChar_append, ih,
        List.compare_cons_cons]

/-! ## Strings -/

theorem compare_eq_lt_iff_lt {l₁ l₂ : List Char} : compare l₁ l₂ = .lt ↔ l₁ < l₂ := by
  induction l₁ generalizing l₂ with
  | nil => cases l₂ <;> simp
  | cons c l₁ ih =>
    cases l₂ with
    | nil => simp
    | cons d l₂ =>
      have below : compare c d = .lt ↔ c < d := compareOfLessAndEq_eq_lt
      have same : compare c d = .eq ↔ c = d := Std.LawfulEqOrd.compare_eq_iff_eq
      rw [List.compare_cons_cons, Ordering.then_eq_lt, ih, below, same, List.cons_lt_cons_iff]

/-- Strings compare as their lists of characters. -/
theorem compare_eq_compare_toList (s t : String) : compare s t = compare s.toList t.toList := by
  have below : compare s.toList t.toList = .lt ↔ s < t := compare_eq_lt_iff_lt
  have same : compare s.toList t.toList = .eq ↔ s = t := by
    rw [Std.LawfulEqOrd.compare_eq_iff_eq, String.toList_inj]
  change compareOfLessAndEq s t = _
  unfold compareOfLessAndEq
  split_ifs with smaller equal
  · exact (below.mpr smaller).symm
  · exact (same.mpr equal).symm
  · cases compared : compare s.toList t.toList
    · exact absurd (below.mp compared) smaller
    · exact absurd (same.mp compared) equal
    · rfl

/-- Strings compare as their UTF-8 bytes. -/
theorem compare_eq_compare_utf8Bytes (s t : String) :
    compare s t = compare (utf8Bytes s) (utf8Bytes t) := by
  rw [utf8Bytes_eq_flatMap, utf8Bytes_eq_flatMap, compare_flatMap_utf8EncodeChar,
    compare_eq_compare_toList]

example : compare "z" "é" = compare (utf8Bytes "z") (utf8Bytes "é") := by decide

end TermDictionary
