import TermDictionary.Proofs.Interning

/-!
# The dictionary only grows

No request removes or changes a record. After any request every table begins with the
entries it had, no next value is smaller, no byte is given back and the reserved IRIs stay
(`Store.Grows`); only an interning of a new term changes the dictionary at all. Along a run,
then, every id keeps its record, and since every reachable dictionary is coherent, looking
up that record's view keeps answering the id. An id that interning has answered once is the
answer of every later look-up and interning of the same view (`append_only`).
-/

namespace TermDictionary
namespace Store

/-- A later dictionary grows out of an earlier one: each of its tables begins with the
entries of the earlier one, no next value is smaller, no fewer bytes are in use, and the
reserved IRIs are the same. -/
structure Grows (store later : Store) : Prop where
  /-- Each table keeps its entries, in order, at its front. -/
  entries_prefix : ∀ kind, (store.table kind).entries <+: (later.table kind).entries
  /-- No next value is smaller. -/
  next_le : ∀ kind, (store.table kind).next ≤ (later.table kind).next
  /-- No byte is given back. -/
  used_le : store.budget.used ≤ later.budget.used
  /-- The reserved IRIs stay. -/
  reserved_eq : later.reserved = store.reserved

namespace Grows

theorem refl (store : Store) : store.Grows store :=
  ⟨fun _ => List.prefix_refl _, fun _ => Nat.le_refl _, Nat.le_refl _, rfl⟩

theorem trans
    {store middle later : Store}
    (first : store.Grows middle)
    (second : middle.Grows later) :
    store.Grows later where
  entries_prefix kind := (first.entries_prefix kind).trans (second.entries_prefix kind)
  next_le kind := Nat.le_trans (first.next_le kind) (second.next_le kind)
  used_le := Nat.le_trans first.used_le second.used_le
  reserved_eq := second.reserved_eq.trans first.reserved_eq

theorem mem_entries
    {store later : Store}
    (grows : store.Grows later)
    {kind : TermKind}
    {entry : TermId × kind.Record}
    (member : entry ∈ (store.table kind).entries) :
    entry ∈ (later.table kind).entries :=
  (grows.entries_prefix kind).subset member

end Grows

theorem Insertion.grows {store : Store} (step : Insertion store) : store.Grows step.after where
  entries_prefix := step.forall_table_after
    (motive := fun kind table => (store.table kind).entries <+: table.entries)
    (fun _ _ => List.prefix_refl _) (List.prefix_append _ _)
  next_le := step.forall_table_after
    (motive := fun kind table => (store.table kind).next ≤ table.next)
    (fun _ _ => Nat.le_refl _) (Nat.le_succ _)
  used_le := Nat.le_add_right _ _
  reserved_eq := step.reserved_after

/-- Every request leaves a dictionary that grows out of the one it was put to. -/
theorem grows_exec (store : Store) (request : Request) : store.Grows (store.exec request).2 := by
  rcases exec_cases store request with unchanged | ⟨step, -, stepped⟩
  · rw [unchanged]
    exact .refl store
  · rw [stepped]
    exact step.grows

theorem grows_run (store : Store) (requests : List Request) :
    store.Grows (store.run requests) := by
  induction requests generalizing store with
  | nil => exact .refl store
  | cons request rest ih => exact (grows_exec store request).trans (ih _)

/-- A request that interns nothing leaves the dictionary exactly as it was. -/
theorem exec_of_ne_intern
    (store : Store)
    {request : Request}
    (notIntern : ∀ kind view allocation, request ≠ .intern kind view allocation) :
    (store.exec request).2 = store := by
  rcases exec_cases store request with unchanged | ⟨step, interned, -⟩
  · exact unchanged
  · exact absurd interned (notIntern _ _ _)

/-- An interning answers an id exactly when it succeeds with that id and the dictionary
it leaves. -/
theorem intern_of_exec_eq_issued
    {store : Store}
    {kind : TermKind}
    {view : kind.View}
    {allocation : Allocation}
    {id : TermId}
    (issued : (store.exec (.intern kind view allocation)).1 = .issued id) :
    store.intern kind view allocation =
      (.ok id, (store.exec (.intern kind view allocation)).2) := by
  cases interned : store.intern kind view allocation with
  | mk result after =>
    cases result with
    | error error => simp [exec, interned] at issued
    | ok answer =>
      simp only [exec, interned, Reply.issued.injEq] at issued ⊢
      rw [issued]

/-- In a coherent dictionary, the id an interning answers is stored with the view's record
in the dictionary it leaves. -/
theorem Coherent.mem_of_intern_eq_ok
    {store after : Store}
    (coherent : store.Coherent)
    {kind : TermKind}
    {view : kind.View}
    {allocation : Allocation}
    {id : TermId}
    (interned : store.intern kind view allocation = (.ok id, after)) :
    (id, kind.toRecord view) ∈ (after.table kind).entries := by
  cases found : store.find? kind view with
  | some held =>
    rw [intern_of_find?_eq_some found, Prod.mk.injEq, Except.ok.injEq] at interned
    obtain ⟨rfl, rfl⟩ := interned
    exact coherent.find?_eq_some_iff.mp found
  | none =>
    rw [intern_of_find?_eq_none found] at interned
    obtain ⟨-, -, -, -, rfl, rfl⟩ := insert_eq_ok_iff.mp interned
    rw [table_withRecord_self]
    exact KindTable.mem_entries_push.mpr (.inr rfl)

/-- Along every run from a reachable dictionary, each id of a kind stays among the kind's
ids, resolves to the same record before and after, and the record's view is found under it
both times; no next value and no count of bytes in use ever falls. An id that interning a
view has answered is what every later look-up of the view finds and every later interning of
it answers, without a change. Every request other than an interning, the look-ups, resolves,
counts, lists, statistics and erasures among them, leaves the dictionary as it was. -/
theorem append_only
    {store : Store}
    (reachable : store.Reachable)
    (requests : List Request)
    (kind : TermKind) :
    (∀ id ∈ store.ids kind, id ∈ (store.run requests).ids kind ∧
      ∃ record, store.resolve kind id = .ok record ∧
        (store.run requests).resolve kind id = .ok record ∧
        store.find? kind (kind.recordView record) = some id ∧
        (store.run requests).find? kind (kind.recordView record) = some id) ∧
    (store.table kind).next ≤ ((store.run requests).table kind).next ∧
    store.budget.used ≤ (store.run requests).budget.used ∧
    (∀ view allocation id, (store.exec (.intern kind view allocation)).1 = .issued id →
      ((store.exec (.intern kind view allocation)).2.run requests).find? kind view = some id ∧
      ∀ later, ((store.exec (.intern kind view allocation)).2.run requests).intern kind view later =
        (.ok id, (store.exec (.intern kind view allocation)).2.run requests)) ∧
    ∀ request, (∀ kind view allocation, request ≠ .intern kind view allocation) →
      (store.exec request).2 = store := by
  have grows := grows_run store requests
  have coherent := reachable.coherent
  have laterCoherent := (reachable.run requests).coherent
  refine ⟨?_, grows.next_le kind, grows.used_le, ?_,
    fun _ notIntern => exec_of_ne_intern store notIntern⟩
  · intro id member
    obtain ⟨record, stored⟩ := (KindTable.mem_ids_iff _ _).mp member
    have kept := grows.mem_entries stored
    exact ⟨(KindTable.mem_ids_iff _ _).mpr ⟨record, kept⟩, record,
      coherent.resolve_eq_ok_iff.mpr stored, laterCoherent.resolve_eq_ok_iff.mpr kept,
      coherent.find?_recordView stored, laterCoherent.find?_recordView kept⟩
  · intro view allocation id issued
    -- The interned record sits in the dictionary the interning left, and every later
    -- dictionary keeps it.
    have stored := coherent.mem_of_intern_eq_ok (intern_of_exec_eq_issued issued)
    have kept := (grows_run _ requests).mem_entries stored
    have afterCoherent :=
      ((Reachable.exec (.intern kind view allocation) reachable).run requests).coherent
    have found := afterCoherent.find?_eq_some_iff.mpr kept
    exact ⟨found, intern_of_find?_eq_some found⟩

/-- Along a run that interns one IRI into the standard dictionary, the dictionary only grows. -/
theorem append_only_in_standard_run :
    let requests : List Request := [.intern .iri "http://example.org/a" .granted]
    (preloaded {}).Reachable ∧
    ((∀ id ∈ (preloaded {}).ids .iri, id ∈ ((preloaded {}).run requests).ids .iri ∧
        ∃ record, (preloaded {}).resolve .iri id = .ok record ∧
          ((preloaded {}).run requests).resolve .iri id = .ok record ∧
          (preloaded {}).find? .iri (TermKind.iri.recordView record) = some id ∧
          ((preloaded {}).run requests).find? .iri (TermKind.iri.recordView record) = some id) ∧
      ((preloaded {}).table .iri).next ≤ (((preloaded {}).run requests).table .iri).next ∧
      (preloaded {}).budget.used ≤ ((preloaded {}).run requests).budget.used ∧
      (∀ view allocation id, ((preloaded {}).exec (.intern .iri view allocation)).1 = .issued id →
        (((preloaded {}).exec (.intern .iri view allocation)).2.run requests).find? .iri view =
          some id ∧
        ∀ later, (((preloaded {}).exec (.intern .iri view allocation)).2.run requests).intern
          .iri view later =
          (.ok id, ((preloaded {}).exec (.intern .iri view allocation)).2.run requests)) ∧
      ∀ request, (∀ kind view allocation, request ≠ .intern kind view allocation) →
        ((preloaded {}).exec request).2 = preloaded {}) := by
  intro requests
  have reachable : (preloaded {}).Reachable :=
    .build (show Store.build {} = .ok (preloaded {}) from rfl)
  exact ⟨reachable, append_only reachable requests .iri⟩

end Store
end TermDictionary
