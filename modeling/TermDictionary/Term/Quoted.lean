/-!
# Quoted lexical forms

A literal's lexical form is shown between double quotes, with a backslash before a double
quote or a backslash, and line feed and carriage return written as `\n` and `\r`. Every other
character, tab, NUL and all of Unicode included, stands for itself.

`Quoted.encode` writes the inside of the quotes and `Quoted.decode?` reads it back; reading
accepts exactly what writing produces (`decode?_eq_some_iff`), so two lexical forms never
share a quoted form.
-/

namespace TermDictionary

namespace Quoted

/-- The characters that cannot stand for themselves inside the quotes. -/
def needsEscape (c : Char) : Bool :=
  c == '"' || c == '\\' || c == '\n' || c == '\r'

/-- The letter written after a backslash for a character that needs one. -/
def escapeLetter (c : Char) : Char :=
  if c = '\n' then 'n' else if c = '\r' then 'r' else c

/-- The character that a backslash and a letter stand for, if the pair is one that
`encode` writes. -/
def unescape? (c : Char) : Option Char :=
  if c = '"' then some '"'
  else if c = '\\' then some '\\'
  else if c = 'n' then some '\n'
  else if c = 'r' then some '\r'
  else none

/-- How one character is written inside the quotes. -/
def escape (c : Char) : List Char :=
  if needsEscape c then ['\\', escapeLetter c] else [c]

/-- The inside of the quotes for a lexical form. -/
def encode : List Char → List Char
  | [] => []
  | c :: rest => escape c ++ encode rest

/-- Reads the inside of the quotes back; a bare quote, backslash, line feed or carriage
return, or a backslash before a letter that `encode` never writes, is refused. -/
def decode? : List Char → Option (List Char)
  | [] => some []
  | c :: rest =>
    if c = '\\' then
      match rest with
      | [] => none
      | letter :: more =>
        match unescape? letter, decode? more with
        | some d, some tail => some (d :: tail)
        | _, _ => none
    else if needsEscape c then none
    else (decode? rest).map (c :: ·)

/-- A lexical form in double quotes. -/
def quote (lexical : String) : String :=
  String.ofList ('"' :: encode lexical.toList ++ ['"'])

theorem unescape?_escapeLetter {c : Char} (h : needsEscape c = true) :
    unescape? (escapeLetter c) = some c := by
  simp only [needsEscape, Bool.or_eq_true, beq_iff_eq] at h
  rcases h with ((h | h) | h) | h <;> subst h <;> decide

theorem decode?_cons_of_ne {c : Char} (rest : List Char) (h : c ≠ '\\') :
    decode? (c :: rest) = if needsEscape c then none else (decode? rest).map (c :: ·) := by
  cases rest <;> simp [decode?, h]

theorem decode?_backslash_cons (letter : Char) (more : List Char) :
    decode? ('\\' :: letter :: more) = (unescape? letter).bind fun d =>
      (decode? more).map (d :: ·) := by
  simp only [decode?, if_true]
  cases unescape? letter <;> cases decode? more <;> rfl

@[simp] theorem encode_append (s t : List Char) : encode (s ++ t) = encode s ++ encode t := by
  induction s with
  | nil => rfl
  | cons c rest ih => simp [encode, ih]

/-- Reading what `encode` writes gives the lexical form back. -/
@[simp] theorem decode?_encode (s : List Char) : decode? (encode s) = some s := by
  induction s with
  | nil => rfl
  | cons c rest ih =>
    by_cases h : needsEscape c = true
    · simp [encode, escape, h, decode?_backslash_cons, unescape?_escapeLetter h, ih]
    · have hb : c ≠ '\\' := by
        intro hc
        simp [hc, needsEscape] at h
      simp [encode, escape, h, decode?_cons_of_ne _ hb, ih]

theorem unescape?_eq_some {letter c : Char} (h : unescape? letter = some c) :
    needsEscape c = true ∧ escapeLetter c = letter := by
  unfold unescape? at h
  split at h
  · cases h; subst_vars; decide
  split at h
  · cases h; subst_vars; decide
  split at h
  · cases h; subst_vars; decide
  split at h
  · cases h; subst_vars; decide
  cases h

/-- Whatever `decode?` accepts is what `encode` writes for the result. -/
theorem eq_encode_of_decode? : (t : List Char) → {s : List Char} → decode? t = some s →
    t = encode s
  | [], s, h => by
    simp only [decode?, Option.some.injEq] at h
    subst h
    rfl
  | c :: rest, s, h => by
    by_cases hc : c = '\\'
    · subst hc
      match rest, h with
      | [], h => simp [decode?] at h
      | letter :: more, h =>
        rw [decode?_backslash_cons] at h
        obtain ⟨d, hd, h⟩ := Option.bind_eq_some_iff.1 h
        obtain ⟨tail, htail, rfl⟩ := Option.map_eq_some_iff.1 h
        obtain ⟨hn, hl⟩ := unescape?_eq_some hd
        rw [eq_encode_of_decode? more htail]
        simp [encode, escape, hn, hl]
    · by_cases hn : needsEscape c = true
      · simp [decode?_cons_of_ne _ hc, hn] at h
      · simp only [decode?_cons_of_ne _ hc, hn, if_false, Bool.false_eq_true] at h
        obtain ⟨tail, htail, rfl⟩ := Option.map_eq_some_iff.1 h
        simp [encode, escape, hn, eq_encode_of_decode? rest htail]

/-- Reading accepts exactly the texts that writing produces. -/
theorem decode?_eq_some_iff {t s : List Char} : decode? t = some s ↔ t = encode s :=
  ⟨eq_encode_of_decode? t, fun h => h ▸ decode?_encode s⟩

example : quote "a\"b\\c\nd\re\tf" = "\"a\\\"b\\\\c\\nd\\re\tf\"" := by decide

end Quoted

end TermDictionary
