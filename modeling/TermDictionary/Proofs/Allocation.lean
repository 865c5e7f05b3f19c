import TermDictionary.Proofs.Interning

/-!
# Contiguous allocation of ids

Each kind hands out the values of its ids in order, from its first value on, one value per
new record; reserved IRIs sit below the first IRI value. So in every reachable dictionary the
ids of a table that carry a value from the first value on carry exactly the values up to the
table's next value, each once and in the order they were stored, and the next value never
passes 2^48, one more than the largest value an id holds (`Store.Contiguous`).

Along a run, the ids stored anew in a kind's table are counted by `Store.insertions`: the n-th
of them carries the kind's first value plus n - 1, whatever hits, refusals, reserved IRIs and
requests on other kinds come between (`ids_are_contiguous`).
-/

namespace TermDictionary

namespace KindTable

/-- The ids a table has handed out itself, in the order they were stored: those from the
kind's first value on. -/
def minted {α : Type} (kind : TermKind) (table : KindTable α) : List TermId :=
  (table.entries.map Prod.fst).filter fun id => kind.firstValue ≤ id.value

end KindTable

namespace Store

/-- The ids a table handed out carry exactly the values from the kind's first value up to
its next value, in order, and the next value is at most 2^48. -/
structure Contiguous (store : Store) : Prop where
  /-- The handed-out ids carry the values from the first value on, in order. -/
  minted_values : ∀ kind, ((store.table kind).minted kind).map TermId.value =
    List.range' kind.firstValue ((store.table kind).next - kind.firstValue)
  /-- The next value is not below the first value. -/
  firstValue_le_next : ∀ kind, kind.firstValue ≤ (store.table kind).next
  /-- The next value is at most one past the largest value. -/
  next_le : ∀ kind, (store.table kind).next ≤ 2 ^ 48

/-- A built dictionary has handed out no id itself: reserved IRIs lie below the first IRI
value. -/
theorem minted_preloaded (config : StoreConfig) (kind : TermKind) :
    ((preloaded config).table kind).minted kind = [] := by
  rw [KindTable.minted, List.filter_eq_nil_iff]
  intro id member
  obtain ⟨entry, entryMember, rfl⟩ := List.mem_map.mp member
  obtain ⟨rfl, reserved, reservedMember, isReserved⟩ := reserved_of_mem_preloaded entryMember
  have below := (config.reserved.id_kind_value reservedMember).2.2
  rw [isReserved, decide_eq_true_eq, Nat.not_le]
  exact below

theorem contiguous_preloaded (config : StoreConfig) : (preloaded config).Contiguous := by
  constructor
  · intro kind
    rw [minted_preloaded, next_preloaded, Nat.sub_self]
    rfl
  · intro kind
    exact Nat.le_of_eq (next_preloaded config kind).symm
  · intro kind
    rw [next_preloaded]
    cases kind <;> decide

theorem Contiguous.after {store : Store} (contiguous : store.Contiguous) (step : Insertion store) :
    step.after.Contiguous := by
  have fits := step.fits
  have first := contiguous.firstValue_le_next step.kind
  constructor
  · refine step.forall_table_after (motive := fun kind table =>
      (table.minted kind).map TermId.value =
        List.range' kind.firstValue (table.next - kind.firstValue))
      (fun kind _ => contiguous.minted_values kind) ?_
    -- The new id carries the next value, the first value not yet handed out.
    have counted : step.kind.firstValue ≤ step.id.value := by
      rw [step.value_id]
      exact first
    have count : (store.table step.kind).next + 1 - step.kind.firstValue =
        ((store.table step.kind).next - step.kind.firstValue) + 1 := by
      omega
    simp only [KindTable.minted, KindTable.entries_push, KindTable.next_push, List.map_append,
      List.filter_append, List.map_cons, List.map_nil, List.filter_cons, counted,
      decide_true, if_true, List.filter_nil]
    rw [count, List.range'_concat, ← contiguous.minted_values step.kind, KindTable.minted,
      step.value_id]
    congr 2
    omega
  · refine step.forall_table_after (motive := fun kind table => kind.firstValue ≤ table.next)
      (fun kind _ => contiguous.firstValue_le_next kind) ?_
    rw [KindTable.next_push]
    exact Nat.le_succ_of_le first
  · refine step.forall_table_after (motive := fun _ table => table.next ≤ 2 ^ 48)
      (fun kind _ => contiguous.next_le kind) ?_
    rw [KindTable.next_push]
    exact fits

/-- Every reachable dictionary hands out its ids contiguously. -/
theorem Reachable.contiguous {store : Store} (reachable : store.Reachable) : store.Contiguous :=
  reachable.induction_on_insertions (fun config _ => contiguous_preloaded config)
    (fun _ step _ contiguous => contiguous.after step)

/-! ## Insertions along a run -/

/-- The id a request stores anew in the table of a kind: interning a term of that kind that
the dictionary does not hold, unless it is refused. -/
def storedId? (store : Store) (kind : TermKind) : Request → Option TermId
  | .intern interned view allocation =>
    if interned = kind then
      match store.find? interned view, (store.intern interned view allocation).1 with
      | none, .ok id => some id
      | _, _ => none
    else none
  | _ => none

/-- The ids that requests store anew in the table of a kind, in order. -/
def insertions (store : Store) (kind : TermKind) : List Request → List TermId
  | [] => []
  | request :: rest =>
    (store.storedId? kind request).toList ++ (store.exec request).2.insertions kind rest

/-- A request either stores nothing and changes nothing, or makes an insertion, and stores an
id in the table of a kind exactly when the insertion is of that kind. -/
theorem storedId?_cases (store : Store) (kind : TermKind) (request : Request) :
    (store.storedId? kind request = none ∧ (store.exec request).2 = store) ∨
      ∃ step : Insertion store, (store.exec request).2 = step.after ∧
        store.storedId? kind request = if step.kind = kind then some step.id else none := by
  cases request with
  | intern interned view allocation =>
    cases found : store.find? interned view with
    | some id =>
      left
      constructor
      · by_cases same : interned = kind <;> simp [storedId?, found, same]
      · simp [exec, intern, found]
    | none =>
      cases inserted : store.insert interned (interned.toRecord view) allocation with
      | mk result after =>
      cases result with
      | error error =>
        -- A refused insertion answers the dictionary it was given.
        have unchanged := insert_of_fst_eq_error
          (show (store.insert interned (interned.toRecord view) allocation).1 = .error error by
            rw [inserted])
        rw [inserted] at unchanged
        left
        constructor
        · by_cases same : interned = kind <;> simp [storedId?, intern, found, inserted, same]
        · simp [exec, intern, found, inserted, unchanged]
      | ok id =>
        obtain ⟨fits, room, affordable, rfl, rfl, rfl⟩ := insert_eq_ok_iff.mp inserted
        right
        refine ⟨⟨interned, view, found, fits, room, affordable⟩, ?_, ?_⟩
        · simp [exec, intern, found, inserted, Insertion.after, Insertion.id, Insertion.record]
        · by_cases same : interned = kind <;>
            simp [storedId?, intern, found, inserted, same, Insertion.id, Insertion.record]
  | _ =>
    -- Every other request leaves the dictionary as it was.
    refine .inl ⟨rfl, (exec_cases store _).resolve_right ?_⟩
    rintro ⟨step, mismatch, -⟩
    cases mismatch

/-- Along any run, the ids stored anew in a kind's table carry consecutive values from the
table's next value on, are of the kind, and move the next value on by their number. -/
theorem insertions_consecutive (store : Store) (kind : TermKind) (requests : List Request) :
    (store.insertions kind requests).map TermId.value =
        List.range' (store.table kind).next (store.insertions kind requests).length ∧
      (∀ id ∈ store.insertions kind requests, id.kind = kind) ∧
      ((store.run requests).table kind).next =
        (store.table kind).next + (store.insertions kind requests).length := by
  induction requests generalizing store with
  | nil => simp [insertions]
  | cons request rest ih =>
    rcases storedId?_cases store kind request with ⟨nothing, unchanged⟩ | ⟨step, stepped, stored⟩
    · obtain ⟨values, kinds, next⟩ := ih (store.exec request).2
      rw [unchanged] at values kinds next
      simp only [insertions, nothing, Option.toList_none, List.nil_append, run_cons, unchanged]
      exact ⟨values, kinds, next⟩
    · obtain ⟨values, kinds, next⟩ := ih (store.exec request).2
      rw [stepped] at values kinds next
      simp only [insertions, stored, run_cons, stepped]
      by_cases same : step.kind = kind
      · -- The insertion is into this kind: its id carries the next value, which moves on.
        subst same
        rw [step.table_after_self, KindTable.next_push] at values next
        simp only [if_true, Option.toList_some, List.singleton_append]
        refine ⟨?_, ?_, ?_⟩
        · rw [List.map_cons, values, step.value_id, List.length_cons, List.range'_succ]
        · intro id member
          rcases List.mem_cons.mp member with rfl | later
          · exact step.kind_id
          · exact kinds id later
        · rw [next, List.length_cons]
          omega
      · rw [step.table_after_of_ne (Ne.symm same)] at values next
        simp only [same, if_false, Option.toList_none, List.nil_append]
        exact ⟨values, kinds, next⟩

/-- In every run from a built dictionary, each kind hands out its ids contiguously: the n-th
id stored anew carries the kind's first value plus n - 1 and the kind, whatever hits,
refusals, reserved IRIs and other kinds come between; the next value is the first value plus
their number and at most 2^48, so it never overflows and no minted value is cut; the kind's
ids from the first value on carry each value below the next value exactly once; no id
appears twice; and every reserved IRI id has a value from 1 to 63, so no id stored anew
equals it. -/
theorem ids_are_contiguous
    {config : StoreConfig}
    {initial : Store}
    (built : Store.build config = .ok initial)
    (requests : List Request)
    (kind : TermKind) :
    (initial.insertions kind requests).map TermId.value =
        List.range' kind.firstValue (initial.insertions kind requests).length ∧
    (∀ id ∈ initial.insertions kind requests, id.kind = kind) ∧
    ((initial.run requests).table kind).next =
        kind.firstValue + (initial.insertions kind requests).length ∧
    ((initial.run requests).table kind).next ≤ 2 ^ 48 ∧
    List.Perm
      ((((initial.run requests).ids kind).filter fun id => kind.firstValue ≤ id.value).map
        TermId.value)
      (List.range' kind.firstValue (((initial.run requests).table kind).next - kind.firstValue)) ∧
    ((initial.run requests).ids kind).Nodup ∧
    (∀ entry ∈ config.reserved.entries, 0 < entry.id.value ∧
      entry.id.value < TermKind.iri.firstValue ∧ entry.id ∉ initial.insertions .iri requests) := by
  have reachable := (Reachable.build built).run requests
  have contiguous := reachable.contiguous
  have coherent := reachable.coherent
  obtain ⟨rfl, -⟩ := build_eq_ok_iff.mp built
  have consecutive := insertions_consecutive (preloaded config) kind requests
  have iriConsecutive := insertions_consecutive (preloaded config) .iri requests
  rw [next_preloaded] at consecutive iriConsecutive
  obtain ⟨values, kinds, next⟩ := consecutive
  refine ⟨values, kinds, next, contiguous.next_le kind, ?_, ?_, ?_⟩
  · rw [← contiguous.minted_values kind, KindTable.minted]
    exact ((List.mergeSort_perm _ _).filter _).map _
  · exact (List.mergeSort_perm _ _).nodup_iff.mpr (coherent.bijective kind).ids_nodup
  · intro entry member
    obtain ⟨-, positive, below⟩ := config.reserved.id_kind_value member
    refine ⟨positive, below, fun stored => ?_⟩
    -- Every id stored anew carries a value from the first IRI value on.
    have valueMember : entry.id.value ∈
        (((preloaded config).insertions .iri requests).map TermId.value) :=
      List.mem_map_of_mem stored
    rw [iriConsecutive.1, List.mem_range'_1] at valueMember
    have notBelow := valueMember.1
    simp only [TermKind.firstValue] at notBelow
    omega

/-- Interning two IRIs, one of them twice, around a variable, into the standard dictionary
hands out IRI ids contiguously. -/
theorem ids_are_contiguous_in_standard_run :
    let requests : List Request := [.intern .iri "http://example.org/a" .granted,
      .intern .var "x" .granted, .intern .iri "http://example.org/a" .granted]
    Store.build {} = .ok (preloaded {}) ∧
    ((preloaded {}).insertions .iri requests).map TermId.value =
        List.range' TermKind.iri.firstValue ((preloaded {}).insertions .iri requests).length ∧
    (∀ id ∈ (preloaded {}).insertions .iri requests, id.kind = .iri) ∧
    (((preloaded {}).run requests).table .iri).next =
        TermKind.iri.firstValue + ((preloaded {}).insertions .iri requests).length ∧
    (((preloaded {}).run requests).table .iri).next ≤ 2 ^ 48 ∧
    List.Perm
      (((((preloaded {}).run requests).ids .iri).filter
        fun id => TermKind.iri.firstValue ≤ id.value).map TermId.value)
      (List.range' TermKind.iri.firstValue
        ((((preloaded {}).run requests).table .iri).next - TermKind.iri.firstValue)) ∧
    (((preloaded {}).run requests).ids .iri).Nodup ∧
    (∀ entry ∈ ({} : StoreConfig).reserved.entries, 0 < entry.id.value ∧
      entry.id.value < TermKind.iri.firstValue ∧
      entry.id ∉ (preloaded {}).insertions .iri requests) := by
  intro requests
  have built : Store.build {} = .ok (preloaded {}) := rfl
  exact ⟨built, ids_are_contiguous built requests .iri⟩

end Store

end TermDictionary
