import TermDictionary.Term.Quoted
import Mathlib

/-!
# Quoted lexical forms are unambiguous

The quoted form of a lexical form is a double quote, the characters of the form each written
by `Quoted.escape`, and a double quote. Escaping turns a double quote, a backslash, a line
feed and a carriage return into a backslash pair and keeps every other character, so:

* no line break is ever written raw (`lineBreak_not_mem_encode`);
* a double quote inside the written form is always the second half of a backslash pair
  (`encode_eq_append_quote`), and what comes before such a pair ends with an even run of
  backslashes (`encode_ends_even`), so every inner quote follows an odd run of backslashes;
* stripping the outer quotes and reading the pairs back gives the lexical form, so two
  lexical forms never share a quoted form (`quote_is_unambiguous`).
-/

namespace TermDictionary

namespace Quoted

/-- The characters written with a backslash. -/
theorem needsEscape_iff {c : Char} :
    needsEscape c = true ↔ c = '"' ∨ c = '\\' ∨ c = '\n' ∨ c = '\r' := by
  simp only [needsEscape, Bool.or_eq_true, beq_iff_eq, or_assoc]

/-- How one character is written, case by case. -/
theorem escape_eq (c : Char) :
    escape c =
      if c = '"' then ['\\', '"']
      else if c = '\\' then ['\\', '\\']
      else if c = '\n' then ['\\', 'n']
      else if c = '\r' then ['\\', 'r']
      else [c] := by
  by_cases escaped : needsEscape c = true
  · rcases needsEscape_iff.mp escaped with rfl | rfl | rfl | rfl <;> decide
  · obtain ⟨notQuote, notBackslash, notLineFeed, notReturn⟩ :
        c ≠ '"' ∧ c ≠ '\\' ∧ c ≠ '\n' ∧ c ≠ '\r' := by
      simpa [needsEscape_iff, not_or] using escaped
    simp [escape, escaped, notQuote, notBackslash, notLineFeed, notReturn]

theorem encode_eq_flatMap (s : List Char) : encode s = s.flatMap escape := by
  induction s with
  | nil => rfl
  | cons c rest ih => simp [encode, ih]

/-- The characters of a quoted form: the written lexical form between two double quotes. -/
theorem toList_quote (lexical : String) :
    (quote lexical).toList = '"' :: encode lexical.toList ++ ['"'] := by
  simp [quote]

/-- The letter after a backslash is never a line break. -/
theorem escapeLetter_ne_lineBreak {c : Char} (escaped : needsEscape c = true) :
    escapeLetter c ≠ '\n' ∧ escapeLetter c ≠ '\r' := by
  rcases needsEscape_iff.mp escaped with rfl | rfl | rfl | rfl <;> decide

theorem lineBreak_not_mem_escape {c d : Char} (member : d ∈ escape c) :
    d ≠ '\n' ∧ d ≠ '\r' := by
  unfold escape at member
  split at member
  · rename_i escaped
    simp only [List.mem_cons, List.not_mem_nil, or_false] at member
    rcases member with rfl | rfl
    · decide
    · exact escapeLetter_ne_lineBreak escaped
  · rename_i kept
    rw [List.mem_singleton] at member
    subst member
    constructor <;> rintro rfl <;> exact kept rfl

/-- No line feed or carriage return is written raw. -/
theorem lineBreak_not_mem_encode (s : List Char) :
    '\n' ∉ encode s ∧ '\r' ∉ encode s := by
  rw [encode_eq_flatMap, List.mem_flatMap, List.mem_flatMap]
  constructor
  · rintro ⟨c, -, member⟩
    exact (lineBreak_not_mem_escape member).1 rfl
  · rintro ⟨c, -, member⟩
    exact (lineBreak_not_mem_escape member).2 rfl

/-- Only a double quote is written as a backslash and a double quote. -/
theorem escapeLetter_eq_quote {c : Char} (escaped : needsEscape c = true)
    (letter : escapeLetter c = '"') : c = '"' := by
  revert letter
  rcases needsEscape_iff.mp escaped with rfl | rfl | rfl | rfl <;> decide

/-- A double quote in the written form is the second half of the pair written for a double
quote of the lexical form. -/
theorem encode_eq_append_quote
    (s : List Char)
    {before after : List Char}
    (written : encode s = before ++ '"' :: after) :
    ∃ first rest, s = first ++ '"' :: rest ∧ before = encode first ++ ['\\'] ∧
      after = encode rest := by
  induction s generalizing before with
  | nil => simp [encode] at written
  | cons c more ih =>
    by_cases escaped : needsEscape c = true
    · -- The pair for `c` is a backslash and its letter; the quote is that letter or later.
      have pair : encode (c :: more) = '\\' :: escapeLetter c :: encode more := by
        simp [encode, escape, escaped]
      rw [pair] at written
      rcases before with _ | ⟨backslash, _ | ⟨letter, earlier⟩⟩
      · simp at written
      · simp only [List.cons_append, List.nil_append, List.cons.injEq] at written
        obtain ⟨rfl, isQuote, rfl⟩ := written
        exact ⟨[], more, by rw [escapeLetter_eq_quote escaped isQuote]; rfl, rfl, rfl⟩
      · simp only [List.cons_append, List.cons.injEq] at written
        obtain ⟨rfl, rfl, tail⟩ := written
        obtain ⟨first, rest, rfl, rfl, rfl⟩ := ih tail
        refine ⟨c :: first, rest, rfl, ?_, rfl⟩
        simp [encode, escape, escaped]
    · have kept : encode (c :: more) = c :: encode more := by
        simp [encode, escape, escaped]
      rw [kept] at written
      rcases before with _ | ⟨same, earlier⟩
      · simp only [List.nil_append, List.cons.injEq] at written
        obtain ⟨rfl, -⟩ := written
        exact absurd (by decide) escaped
      · simp only [List.cons_append, List.cons.injEq] at written
        obtain ⟨rfl, tail⟩ := written
        obtain ⟨first, rest, rfl, rfl, rfl⟩ := ih tail
        refine ⟨c :: first, rest, rfl, ?_, rfl⟩
        simp [encode, escape, escaped]

theorem escape_ne_nil (c : Char) : escape c ≠ [] := by
  unfold escape
  split <;> simp

/-- The last character written for a character is a backslash only when it was one. -/
theorem getLast?_escape_ne {c : Char} (notBackslash : c ≠ '\\') :
    (escape c).getLast? ≠ some '\\' := by
  rw [escape_eq]
  split_ifs <;> simp_all

/-- A double quote followed by a written form ends with an even run of backslashes. -/
theorem encode_ends_even (s : List Char) :
    ∃ lead pairs, '"' :: encode s = lead ++ List.replicate (2 * pairs) '\\' ∧
      lead.getLast? ≠ some '\\' := by
  induction s using List.reverseRecOn with
  | nil => exact ⟨['"'], 0, rfl, by decide⟩
  | append_singleton s c ih =>
    obtain ⟨lead, pairs, written, ends⟩ := ih
    by_cases backslash : c = '\\'
    · -- A backslash is written as two, which lengthens the run by one pair.
      subst backslash
      refine ⟨lead, pairs + 1, ?_, ends⟩
      rw [encode_append, ← List.cons_append, written, Nat.mul_succ, List.replicate_add,
        List.append_assoc]
      rfl
    · refine ⟨'"' :: encode (s ++ [c]), 0, by simp, ?_⟩
      have lastWritten : ('"' :: encode (s ++ [c])).getLast? = (escape c).getLast? := by
        rw [encode_append, ← List.cons_append, encode, encode, List.append_nil,
          List.getLast?_append_of_ne_nil _ (escape_ne_nil c)]
      rw [lastWritten]
      exact getLast?_escape_ne backslash

/-- Every double quote strictly inside a quoted form follows an odd run of backslashes. -/
theorem inner_quote_escaped
    (lexical : String)
    {before after : List Char}
    (split : (quote lexical).toList = before ++ '"' :: after)
    (notFirst : before ≠ [])
    (notLast : after ≠ []) :
    ∃ lead run, before = lead ++ List.replicate run '\\' ∧ run % 2 = 1 ∧
      lead.getLast? ≠ some '\\' := by
  rw [toList_quote] at split
  obtain ⟨opening, earlier, rfl⟩ := List.exists_cons_of_ne_nil notFirst
  simp only [List.cons_append, List.cons.injEq] at split
  obtain ⟨rfl, inner⟩ := split
  -- The quote is not the closing one, so it lies inside the written form.
  obtain ⟨later, last, rfl⟩ := (List.eq_nil_or_concat after).resolve_left notLast
  have written : encode lexical.toList = earlier ++ '"' :: later := by
    have regrouped : earlier ++ '"' :: later.concat last = (earlier ++ '"' :: later) ++ [last] := by
      simp
    rw [regrouped] at inner
    exact (List.append_inj' inner rfl).1
  obtain ⟨first, -, -, rfl, -⟩ := encode_eq_append_quote lexical.toList written
  obtain ⟨lead, pairs, evenRun, ends⟩ := encode_ends_even first
  refine ⟨lead, 2 * pairs + 1, ?_, by omega, ends⟩
  rw [List.replicate_succ', ← List.append_assoc, ← evenRun]
  rfl

/-- Stripping the outer quotes and reading the backslash pairs back gives the lexical form. -/
theorem decode?_strip_quote (lexical : String) :
    decode? ((quote lexical).toList.drop 1).dropLast = some lexical.toList := by
  rw [toList_quote, List.cons_append, List.drop_one, List.tail_cons, List.dropLast_concat,
    decode?_encode]

/-- Distinct lexical forms have distinct quoted forms. -/
theorem quote_injective {lexical other : String} (same : quote other = quote lexical) :
    other = lexical := by
  have decoded := decode?_strip_quote other
  rw [same, decode?_strip_quote, Option.some.injEq] at decoded
  exact String.toList_inj.mp decoded.symm

/-- A lexical form is quoted as a double quote, each character escaped, and a double quote:
a double quote or a backslash gets a backslash before it, a line feed and a carriage return
become `\n` and `\r`, and every other character stands for itself. No line break is written
raw, every double quote strictly inside follows an odd run of backslashes, and stripping the
outer quotes and reading the pairs back gives the form again, so distinct forms are quoted
differently. -/
theorem quote_is_unambiguous (lexical : String) :
    (quote lexical).toList =
        '"' :: lexical.toList.flatMap (fun c =>
          if c = '"' then ['\\', '"']
          else if c = '\\' then ['\\', '\\']
          else if c = '\n' then ['\\', 'n']
          else if c = '\r' then ['\\', 'r']
          else [c]) ++ ['"'] ∧
      '\n' ∉ (quote lexical).toList ∧ '\r' ∉ (quote lexical).toList ∧
      (∀ before after, (quote lexical).toList = before ++ '"' :: after → before ≠ [] →
        after ≠ [] →
        ∃ lead run, before = lead ++ List.replicate run '\\' ∧ run % 2 = 1 ∧
          lead.getLast? ≠ some '\\') ∧
      decode? ((quote lexical).toList.drop 1).dropLast = some lexical.toList ∧
      ∀ other, quote other = quote lexical → other = lexical := by
  have spelled : escape = fun c =>
      if c = '"' then ['\\', '"']
      else if c = '\\' then ['\\', '\\']
      else if c = '\n' then ['\\', 'n']
      else if c = '\r' then ['\\', 'r']
      else [c] :=
    funext escape_eq
  obtain ⟨noLineFeed, noCarriageReturn⟩ := lineBreak_not_mem_encode lexical.toList
  refine ⟨by rw [toList_quote, encode_eq_flatMap, spelled], ?_, ?_,
    fun before after split notFirst notLast =>
      inner_quote_escaped lexical split notFirst notLast,
    decode?_strip_quote lexical, fun other same => quote_injective same⟩
  · simpa [toList_quote] using noLineFeed
  · simpa [toList_quote] using noCarriageReturn

example : quote "say \"hi\"\\\n" = "\"say \\\"hi\\\"\\\\\\n\"" := by decide

end Quoted

end TermDictionary
