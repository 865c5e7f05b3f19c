import TermDictionary.Proofs.Reserved

/-!
# Validating a reserved table

A list of reserved IRIs is judged entry by entry. The documented rule judges the entry at a
position against the entries before it (`ReservedTable.faultAt`): its id must be an IRI id
with a value from 1 to 63, no earlier entry may have the same id as a 64-bit number, and no
earlier entry may have the same IRI, checked in that order. The list is refused with the fault
of the first position at fault, and accepted as a table of exactly its entries when no
position is at fault (`validation_matches_reference`).

Validation keeps the entries seen so far in an accumulator, so its proof follows that
recursion (`firstFault_eq_some_iff`): an entry at fault ends the run with its own fault, and
an entry without one moves to the accumulator. Once accepted, a table has no IRI and no id
twice, so its look-ups find the one entry with the IRI or the id asked for
(`idOf?_of_mem`, `classOf_of_mem`).
-/

namespace TermDictionary

namespace ReservedTable

/-- The fault of an entry at a position of a list, as the documented rule judges it against
the entries before that position. -/
def faultAt (entries : List ReservedIri) (index : Nat) (entry : ReservedIri) :
    Option ReservedError :=
  if entry.id.kind ≠ .iri ∨ entry.id.value = 0 ∨ 64 ≤ entry.id.value then
    some (.outOfRange entry.id entry.iri)
  else if ∃ seen ∈ entries.take index, seen.id.toRaw = entry.id.toRaw then
    some (.duplicateId entry.id)
  else if ∃ seen ∈ entries.take index, seen.iri = entry.iri then
    some (.duplicateIri entry.iri)
  else none

end ReservedTable

namespace ReservedError

/-- Judging an entry after the entries before its position is the documented rule. -/
theorem check?_take (entries : List ReservedIri) (index : Nat) (entry : ReservedIri) :
    check? (entries.take index) entry = ReservedTable.faultAt entries index entry := by
  -- The three conditions of the check are the documented ones, in the same order.
  have outOfRange : (!entry.idInRange) = true ↔
      (entry.id.kind ≠ .iri ∨ entry.id.value = 0 ∨ 64 ≤ entry.id.value) := by
    simp only [Bool.not_eq_true', ReservedIri.idInRange, TermKind.firstValue,
      decide_eq_false_iff_not, not_and, ne_eq, Nat.pos_iff_ne_zero, Nat.not_lt]
    tauto
  have seenId : (entries.take index).any (fun seen => seen.id == entry.id) = true ↔
      ∃ seen ∈ entries.take index, seen.id.toRaw = entry.id.toRaw := by
    simp only [List.any_eq_true, beq_iff_eq]
    exact exists_congr fun seen => and_congr_right fun _ =>
      ⟨congrArg TermId.toRaw, TermId.toRaw_injective⟩
  have seenIri : (entries.take index).any (fun seen => seen.iri == entry.iri) = true ↔
      ∃ seen ∈ entries.take index, seen.iri = entry.iri := by
    simp
  simp only [check?, ReservedTable.faultAt, outOfRange, seenId, seenIri]

/-- Validation answers the fault of the first pending entry at fault, judged after the
earlier entries and the pending entries before it. -/
theorem firstFault_eq_some_iff
    {earlier pending : List ReservedIri}
    {fault : ReservedError} :
    firstFault earlier pending = some fault ↔
      ∃ index, ∃ inside : index < pending.length,
        check? (earlier ++ pending.take index) pending[index] = some fault ∧
          ∀ before (below : before < index),
            check? (earlier ++ pending.take before) pending[before] = none := by
  induction pending generalizing earlier with
  | nil => simp [firstFault]
  | cons entry rest ih =>
    cases judged : check? earlier entry with
    | some found =>
      -- The first entry is at fault: only its own position can answer.
      simp only [firstFault, judged, Option.some.injEq]
      constructor
      · rintro rfl
        exact ⟨0, Nat.zero_lt_succ _, by simpa using judged, fun _ below => absurd below
          (Nat.not_lt_zero _)⟩
      · rintro ⟨index, inside, atFault, accepted⟩
        cases index with
        | zero => simpa [judged] using atFault
        | succ index =>
          have firstAccepted := accepted 0 (Nat.succ_pos index)
          simp [judged] at firstAccepted
    | none =>
      -- The first entry is accepted and joins the entries judged against.
      simp only [firstFault, judged]
      rw [ih]
      constructor
      · rintro ⟨index, inside, atFault, accepted⟩
        refine ⟨index + 1, Nat.succ_lt_succ inside, by simpa using atFault, ?_⟩
        intro before below
        cases before with
        | zero => simpa using judged
        | succ before => simpa using accepted before (Nat.lt_of_succ_lt_succ below)
      · rintro ⟨index, inside, atFault, accepted⟩
        cases index with
        | zero => simp [judged] at atFault
        | succ index =>
          refine ⟨index, Nat.lt_of_succ_lt_succ inside, by simpa using atFault, ?_⟩
          intro before below
          simpa using accepted (before + 1) (Nat.succ_lt_succ below)

end ReservedError

namespace ReservedTable

variable (table : ReservedTable)

/-- An entry's IRI finds that entry's id. -/
theorem idOf?_of_mem {entry : ReservedIri} (member : entry ∈ table.entries) :
    table.idOf? entry.iri = some entry.id := by
  have found : table.entries.find? (fun candidate => candidate.iri == entry.iri) = some entry :=
    (KindTable.find?_key_eq_some_iff ReservedIri.iri table.iris_nodup).mpr ⟨member, rfl⟩
  simp [idOf?, found]

/-- An IRI that no entry has finds no id. -/
theorem idOf?_of_forall_ne
    {iri : String}
    (absent : ∀ entry ∈ table.entries, entry.iri ≠ iri) :
    table.idOf? iri = none := by
  have missing : table.entries.find? (fun candidate => candidate.iri == iri) = none := by
    rw [List.find?_eq_none]
    intro entry member
    simpa using absent entry member
  simp [idOf?, missing]

/-- A list is refused exactly with the fault of its first position at fault. -/
theorem ofEntries?_eq_error_iff_faultAt {entries : List ReservedIri} {fault : ReservedError} :
    ofEntries? entries = .error fault ↔
      ∃ index, ∃ inside : index < entries.length,
        faultAt entries index entries[index] = some fault ∧
          ∀ before (below : before < index), faultAt entries before entries[before] = none := by
  simp only [ofEntries?_eq_error_iff, ReservedError.firstFault_eq_some_iff, List.nil_append,
    ReservedError.check?_take]

/-- A list with no position at fault is accepted as the table of its entries. -/
theorem exists_ofEntries?_eq_ok
    {entries : List ReservedIri}
    (noFault : ∀ index (inside : index < entries.length),
      faultAt entries index entries[index] = none) :
    ∃ table, ofEntries? entries = .ok table ∧ table.entries = entries := by
  cases accepted : ofEntries? entries with
  | error fault =>
    obtain ⟨index, inside, atFault, -⟩ := ofEntries?_eq_error_iff_faultAt.mp accepted
    rw [noFault index inside] at atFault
    cases atFault
  | ok table => exact ⟨table, rfl, entries_of_ofEntries? accepted⟩

/-- Ids of a table are distinct as 64-bit numbers. -/
theorem rawIds_nodup : (table.entries.map (·.id.toRaw)).Nodup := by
  have distinct := table.ids_nodup.map (fun _ _ same => TermId.toRaw_injective same)
  rwa [List.map_map] at distinct

/-- Validating a list of reserved IRIs follows the documented rule. The list is refused exactly
with the fault of its first position at fault. When no position is at fault, it is accepted as
a table of exactly its entries, in order, with no IRI and no id twice; an IRI finds the id of
the entry with that IRI, and no id when no entry has it; a datatype id finds the class of the
entry with exactly that id, or `other` when that entry marks no class or no entry has it. -/
theorem validation_matches_reference (entries : List ReservedIri) :
    (∀ fault, ofEntries? entries = .error fault ↔
      ∃ index, ∃ inside : index < entries.length,
        faultAt entries index entries[index] = some fault ∧
          ∀ before (below : before < index), faultAt entries before entries[before] = none) ∧
    ((∀ index (inside : index < entries.length), faultAt entries index entries[index] = none) →
      ∃ table, ofEntries? entries = .ok table ∧ table.entries = entries ∧
        table.size = entries.length ∧
        (entries.map (·.iri)).Nodup ∧ (entries.map (·.id.toRaw)).Nodup ∧
        (∀ iri, (∀ entry ∈ entries, entry.iri = iri → table.idOf? iri = some entry.id) ∧
          ((∀ entry ∈ entries, entry.iri ≠ iri) → table.idOf? iri = none)) ∧
        (∀ datatype, (∀ entry ∈ entries, entry.id.toRaw = datatype.toRaw →
            table.classOf datatype = entry.datatypeClass.getD .other) ∧
          ((∀ entry ∈ entries, entry.id.toRaw ≠ datatype.toRaw) →
            table.classOf datatype = .other))) := by
  refine ⟨fun fault => ofEntries?_eq_error_iff_faultAt, fun noFault => ?_⟩
  obtain ⟨table, accepted, rfl⟩ := exists_ofEntries?_eq_ok noFault
  refine ⟨table, accepted, rfl, rfl, table.iris_nodup, table.rawIds_nodup, ?_, ?_⟩
  · intro iri
    refine ⟨?_, table.idOf?_of_forall_ne⟩
    rintro entry member rfl
    exact table.idOf?_of_mem member
  · intro datatype
    refine ⟨?_, ?_⟩
    · intro entry member sameRaw
      rw [← TermId.toRaw_injective sameRaw]
      exact table.classOf_of_mem member
    · intro absent
      exact table.classOf_of_forall_ne fun entry member same => absent entry member
        (congrArg TermId.toRaw same)

end ReservedTable

end TermDictionary
