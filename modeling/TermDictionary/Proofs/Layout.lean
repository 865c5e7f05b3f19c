import TermDictionary.Proofs.Growth

/-!
# Issued ids follow the layout

An id that a dictionary builds itself has no spare bits, and a class tag only when it is a
literal id, where the tag is one of the twelve class tags (`TermId.WellFormed`). The ids of a
reserved table, though, are handed out as they are given, and validating a table looks only
at the kind and the value of each id. A table may therefore carry an IRI id with spare bits
set, and every dictionary built from it issues that id (`spare_bits_reach_issued_ids`).

When the reserved ids follow the layout themselves (`ReservedTable.WellLaid`), as those of the
standard table and of the empty one do, every table of every dictionary run from such a table
holds well-formed ids with distinct values (`KindTable.WellLaid`). An id of a kind is then
fixed by its value, and its short text, which shows the kind and the value only, tells it
apart from every other issued id (`issued_ids_follow_layout`). The literal, variable and
blank-node tables hold only ids that the dictionary built itself, so they keep these facts
whatever the reserved table (`Reachable.tableWellLaid`).
-/

namespace TermDictionary

namespace TermId

/-- An id follows the documented layout: no spare bits, and a class tag only on a literal id,
where it is one of the twelve class tags. -/
def WellFormed (x : TermId) : Prop :=
  x.spare = 0 ∧ x.classTag < 12 ∧ (x.kind ≠ .literal → x.classTag = 0)

instance (x : TermId) : Decidable x.WellFormed :=
  inferInstanceAs (Decidable (_ ∧ _ ∧ _))

theorem wellFormed_make (kind : TermKind) (value : Nat) (fits : value < 2 ^ 48) :
    (make kind value fits).WellFormed :=
  ⟨rfl, show 0 < 12 by decide, fun _ => rfl⟩

theorem wellFormed_literal (value : Nat) (cls : DatatypeClass) (fits : value < 2 ^ 48) :
    (literal value cls fits).WellFormed :=
  ⟨rfl, cls.tag_lt, fun notLiteral => absurd rfl notLiteral⟩

/-- Well-formed ids of the same kind other than literal ids are told apart by their values. -/
theorem eq_of_value_eq
    {x y : TermId}
    (wellFormed : x.WellFormed)
    (otherWellFormed : y.WellFormed)
    (sameKind : x.kind = y.kind)
    (notLiteral : x.kind ≠ .literal)
    (sameValue : x.value = y.value) :
    x = y := by
  have noTag := wellFormed.2.2 notLiteral
  have otherNoTag := otherWellFormed.2.2 (sameKind ▸ notLiteral)
  exact ext sameKind (noTag.trans otherNoTag.symm) (wellFormed.1.trans otherWellFormed.1.symm)
    sameValue

end TermId

namespace TermKind

/-- The name of a kind is fixed by its first character, whatever follows it. -/
theorem eq_of_name_append_eq
    {kind other : TermKind}
    {rest otherRest : String}
    (same : kind.name ++ rest = other.name ++ otherRest) :
    kind = other := by
  have heads := congrArg (fun text => text.toList.head?) same
  cases kind <;> cases other <;> simp [name, String.toList_append] at heads ⊢

end TermKind

namespace TermId

/-- The short text of an id shows its kind and its value and nothing else: two ids have the
same text exactly when they have the same kind and the same value. -/
theorem display_eq_display_iff {x y : TermId} :
    x.display = y.display ↔ x.kind = y.kind ∧ x.value = y.value := by
  constructor
  · intro same
    simp only [display, String.append_assoc] at same
    have sameKind := TermKind.eq_of_name_append_eq same
    rw [sameKind, String.append_right_inj, String.append_right_inj] at same
    exact ⟨sameKind, Nat.repr_injective same⟩
  · rintro ⟨sameKind, sameValue⟩
    simp only [display, sameKind, sameValue]

end TermId

namespace ReservedTable

/-- A reserved table whose ids follow the layout: with no class tag and no spare bits, each
is the IRI id that `TermId.make` gives its value. -/
def WellLaid (table : ReservedTable) : Prop :=
  ∀ entry ∈ table.entries, entry.id.WellFormed

instance (table : ReservedTable) : Decidable table.WellLaid :=
  inferInstanceAs (Decidable (∀ entry ∈ table.entries, entry.id.WellFormed))

theorem wellLaid_standard : standard.WellLaid := by
  decide

theorem wellLaid_empty : empty.WellLaid :=
  fun _ member => absurd member List.not_mem_nil

/-- The ids of a well-laid table carry distinct values. -/
theorem WellLaid.values_nodup {table : ReservedTable} (laidOut : table.WellLaid) :
    (table.entries.map fun entry => entry.id.value).Nodup := by
  refine List.Nodup.map_on ?_ (List.Nodup.of_map (·.id) table.ids_nodup)
  intro entry member other otherMember sameValue
  obtain ⟨iri, -, -⟩ := table.id_kind_value member
  obtain ⟨otherIri, -, -⟩ := table.id_kind_value otherMember
  have sameId : entry.id = other.id :=
    TermId.eq_of_value_eq (laidOut entry member) (laidOut other otherMember)
      (iri.trans otherIri.symm) (by rw [iri]; decide) sameValue
  exact List.inj_on_of_nodup_map table.ids_nodup member otherMember sameId

end ReservedTable

namespace KindTable

variable {α : Type}

/-- A table whose ids follow the layout and carry distinct values. -/
structure WellLaid (table : KindTable α) : Prop where
  /-- Every id follows the layout. -/
  wellFormed : ∀ entry ∈ table.entries, entry.1.WellFormed
  /-- No two ids carry the same value. -/
  values_nodup : (table.entries.map fun entry => entry.1.value).Nodup

theorem wellLaid_empty (first : Nat) : (empty first : KindTable α).WellLaid :=
  ⟨fun _ member => absurd member List.not_mem_nil, List.nodup_nil⟩

/-- A well-formed id with a value above every stored one keeps a table well laid. -/
theorem WellLaid.push
    {table : KindTable α}
    (laidOut : table.WellLaid)
    {id : TermId}
    {record : α}
    (wellFormed : id.WellFormed)
    (above : ∀ entry ∈ table.entries, entry.1.value < id.value) :
    (table.push id record).WellLaid := by
  have valueNew : id.value ∉ table.entries.map fun entry => entry.1.value := by
    intro member
    obtain ⟨entry, entryMember, same⟩ := List.mem_map.mp member
    have below := above entry entryMember
    omega
  constructor
  · intro entry member
    rcases mem_entries_push.mp member with old | rfl
    · exact laidOut.wellFormed entry old
    · exact wellFormed
  · rw [entries_push, List.map_append, List.map_singleton]
    exact laidOut.values_nodup.append (List.nodup_singleton _)
      (List.disjoint_singleton.mpr valueNew)

/-- In a well-laid table an id is fixed by its value. -/
theorem WellLaid.id_eq
    {table : KindTable α}
    (laidOut : table.WellLaid)
    {id other : TermId}
    {record otherRecord : α}
    (member : (id, record) ∈ table.entries)
    (otherMember : (other, otherRecord) ∈ table.entries)
    (sameValue : id.value = other.value) :
    id = other := by
  have same := List.inj_on_of_nodup_map laidOut.values_nodup member otherMember sameValue
  exact congrArg Prod.fst same

end KindTable

namespace Store

/-- A minted id follows the layout. -/
theorem wellFormed_mint
    (store : Store)
    (value : Nat)
    (fits : value < 2 ^ 48)
    (kind : TermKind)
    (record : kind.Record) :
    (store.mint value fits kind record).WellFormed := by
  cases kind with
  | literal => exact TermId.wellFormed_literal ..
  | var => exact TermId.wellFormed_make ..
  | blank => exact TermId.wellFormed_make ..
  | iri => exact TermId.wellFormed_make ..

/-- The table of a kind can be trusted to be well laid: it holds no reserved IRIs, or the
reserved IRIs follow the layout. -/
def LaidOutKind (store : Store) (kind : TermKind) : Prop :=
  kind ≠ .iri ∨ store.reserved.WellLaid

theorem tableWellLaid_preloaded
    (config : StoreConfig)
    {kind : TermKind}
    (trusted : (preloaded config).LaidOutKind kind) :
    ((preloaded config).table kind).WellLaid := by
  by_cases isIri : kind = .iri
  · subst isIri
    have laidOut : config.reserved.WellLaid := trusted.resolve_left (fun notIri => notIri rfl)
    show (preloaded config).iris.WellLaid
    rw [preloaded_iris]
    constructor
    · intro entry member
      obtain ⟨reserved, reservedMember, rfl⟩ := List.mem_map.mp member
      exact laidOut reserved reservedMember
    · simpa [Function.comp_def] using laidOut.values_nodup
  · rw [table_preloaded_of_ne config isIri]
    exact KindTable.wellLaid_empty _

/-- An insertion into a coherent dictionary keeps every well-laid table well laid: the minted
id is well formed and its value, the next value, lies above every stored one. -/
theorem Coherent.tableWellLaid_after
    {store : Store}
    (coherent : store.Coherent)
    (step : Insertion store)
    {kind : TermKind}
    (laidOut : (store.table kind).WellLaid) :
    (step.after.table kind).WellLaid := by
  refine step.forall_table_after
    (motive := fun kind table => (store.table kind).WellLaid → table.WellLaid)
    (fun _ _ unchanged => unchanged) ?_ kind laidOut
  intro pushedLaidOut
  refine pushedLaidOut.push (wellFormed_mint ..) ?_
  intro entry member
  rw [Insertion.value_id]
  exact coherent.value_lt_next step.kind entry member

/-- In every reachable dictionary each table that holds no reserved IRIs, and the IRI table
too when the reserved IRIs follow the layout, is well laid. -/
theorem Reachable.tableWellLaid
    {store : Store}
    (reachable : store.Reachable)
    {kind : TermKind}
    (trusted : store.LaidOutKind kind) :
    (store.table kind).WellLaid := by
  have everyTable : ∀ kind, store.LaidOutKind kind → (store.table kind).WellLaid := by
    refine @Reachable.induction_on_insertions
      (fun store => ∀ kind, store.LaidOutKind kind → (store.table kind).WellLaid) ?_ ?_ store
      reachable
    · intro config _ kind trusted
      exact tableWellLaid_preloaded config trusted
    · intro store step stepReachable laidOut kind trusted
      -- The reserved IRIs, and with them the trust in each table, do not change.
      rw [LaidOutKind, Insertion.reserved_after] at trusted
      exact stepReachable.coherent.tableWellLaid_after step (laidOut kind trusted)
  exact everyTable kind trusted

/-- A reachable dictionary whose reserved IRIs follow the layout issues well-formed ids, fixed
by their kind and value and told apart by their short texts. -/
theorem Reachable.issued_ids_distinct
    {store : Store}
    (reachable : store.Reachable)
    (reservedLaidOut : store.reserved.WellLaid) :
    (∀ kind, ∀ id ∈ store.ids kind, id.kind = kind ∧ id.WellFormed) ∧
    (∀ kind, ∀ id ∈ store.ids kind, ∀ other ∈ store.ids kind, id.value = other.value →
      id = other) ∧
    (∀ kind kind', ∀ id ∈ store.ids kind, ∀ other ∈ store.ids kind',
      id.display = other.display → id = other) := by
  have coherent := reachable.coherent
  have laidOut : ∀ kind, (store.table kind).WellLaid :=
    fun kind => reachable.tableWellLaid (.inr reservedLaidOut)
  have layout : ∀ kind, ∀ id ∈ store.ids kind, id.kind = kind ∧ id.WellFormed := by
    intro kind id member
    obtain ⟨record, stored⟩ := (KindTable.mem_ids_iff _ _).mp member
    exact ⟨coherent.kind_eq kind _ stored, (laidOut kind).wellFormed _ stored⟩
  have byValue : ∀ kind, ∀ id ∈ store.ids kind, ∀ other ∈ store.ids kind,
      id.value = other.value → id = other := by
    intro kind id member other otherMember sameValue
    obtain ⟨record, stored⟩ := (KindTable.mem_ids_iff _ _).mp member
    obtain ⟨otherRecord, otherStored⟩ := (KindTable.mem_ids_iff _ _).mp otherMember
    exact (laidOut kind).id_eq stored otherStored sameValue
  refine ⟨layout, byValue, ?_⟩
  intro kind kind' id member other otherMember sameText
  obtain ⟨sameKind, sameValue⟩ := TermId.display_eq_display_iff.mp sameText
  -- Equal texts give equal kinds, so both ids sit in the same table.
  have otherKind : kind' = kind := by
    rw [← (layout kind' other otherMember).1, ← sameKind, (layout kind id member).1]
  subst otherKind
  exact byValue kind' id member other otherMember sameValue

/-- For every dictionary built from a reserved table whose ids follow the layout (the standard
and the empty table among them) and every run of requests, every id the dictionary issues,
reserved or answered by interning, carries its kind and follows the layout: no spare bits, no
class tag unless it is a literal id, and then one of the twelve class tags. No two issued ids
of one kind share a value, and distinct issued ids have distinct short texts. -/
theorem issued_ids_follow_layout
    {config : StoreConfig}
    {initial : Store}
    (built : Store.build config = .ok initial)
    (laidOut : config.reserved.WellLaid)
    (requests : List Request) :
    (∀ kind, ∀ id ∈ (initial.run requests).ids kind, id.kind = kind ∧ id.WellFormed) ∧
    (∀ kind view allocation id after,
      (initial.run requests).intern kind view allocation = (.ok id, after) →
        id.kind = kind ∧ id.WellFormed) ∧
    (∀ kind, ∀ id ∈ (initial.run requests).ids kind,
      ∀ other ∈ (initial.run requests).ids kind, id.value = other.value → id = other) ∧
    (∀ kind kind', ∀ id ∈ (initial.run requests).ids kind,
      ∀ other ∈ (initial.run requests).ids kind', id.display = other.display →
        id = other) := by
  have initialReachable : initial.Reachable := .build built
  -- No request changes the reserved IRIs, so they follow the layout all along the run.
  have reservedLaidOut : ∀ later, (initial.run later).reserved.WellLaid := by
    intro later
    rw [(grows_run initial later).reserved_eq, (build_eq_ok_iff.mp built).1, preloaded_reserved]
    exact laidOut
  obtain ⟨layout, byValue, byText⟩ :=
    (initialReachable.run requests).issued_ids_distinct (reservedLaidOut requests)
  refine ⟨layout, ?_, byValue, byText⟩
  intro kind view allocation id after interned
  -- The answer is held by the dictionary that the interning leaves, one request later.
  have stored := (initialReachable.run requests).coherent.mem_of_intern_eq_ok interned
  have leaves : after = initial.run (requests ++ [.intern kind view allocation]) := by
    rw [run_append, run_cons, run_nil]
    simp [exec, interned]
  rw [leaves] at stored
  exact ((initialReachable.run _).issued_ids_distinct (reservedLaidOut _)).1 kind id
    ((KindTable.mem_ids_iff _ _).mpr ⟨_, stored⟩)

/-- The standard dictionary, after a literal typed by a reserved datatype, issues ids that
follow the layout. -/
theorem issued_ids_follow_layout_in_standard_run :
    Store.build {} = .ok (preloaded {}) ∧ ({} : StoreConfig).reserved.WellLaid ∧
    ((∀ kind, ∀ id ∈ ((preloaded {}).run
        [.intern .literal ⟨"42", TermId.make .iri 5 (by decide), none⟩ .granted]).ids kind,
        id.kind = kind ∧ id.WellFormed) ∧
      (∀ kind view allocation id after, ((preloaded {}).run
          [.intern .literal ⟨"42", TermId.make .iri 5 (by decide), none⟩ .granted]).intern kind
            view allocation = (.ok id, after) → id.kind = kind ∧ id.WellFormed) ∧
      (∀ kind, ∀ id ∈ ((preloaded {}).run
          [.intern .literal ⟨"42", TermId.make .iri 5 (by decide), none⟩ .granted]).ids kind,
        ∀ other ∈ ((preloaded {}).run
          [.intern .literal ⟨"42", TermId.make .iri 5 (by decide), none⟩ .granted]).ids kind,
        id.value = other.value → id = other) ∧
      (∀ kind kind', ∀ id ∈ ((preloaded {}).run
          [.intern .literal ⟨"42", TermId.make .iri 5 (by decide), none⟩ .granted]).ids kind,
        ∀ other ∈ ((preloaded {}).run
          [.intern .literal ⟨"42", TermId.make .iri 5 (by decide), none⟩ .granted]).ids kind',
        id.display = other.display → id = other)) := by
  have built : Store.build {} = .ok (preloaded {}) := rfl
  exact ⟨built, ReservedTable.wellLaid_standard, issued_ids_follow_layout built
    ReservedTable.wellLaid_standard _⟩

/-- A reserved table whose one IRI id carries a spare bit (value 5) passes validation, and the
dictionary built from it issues that id as it is, spare bit and all. -/
theorem spare_bits_reach_issued_ids :
    ∃ table, ReservedTable.ofEntries? [⟨TermId.ofRaw 9223653511831486469, "http://a", none⟩] =
        .ok table ∧
      ∃ store, Store.build { reserved := table } = .ok store ∧
        (∀ allocation, store.intern .iri "http://a" allocation =
          (.ok (TermId.ofRaw 9223653511831486469), store)) ∧
        TermId.ofRaw 9223653511831486469 ∈ store.ids .iri ∧
        (TermId.ofRaw 9223653511831486469).value = 5 ∧
        (TermId.ofRaw 9223653511831486469).spare = 1 := by
  refine ⟨⟨[⟨TermId.ofRaw 9223653511831486469, "http://a", none⟩], by decide⟩, rfl,
    preloaded _, rfl, fun _ => rfl, ?_, by decide, by decide⟩
  exact (KindTable.mem_ids_iff _ _).mpr ⟨"http://a", by decide⟩

end Store

end TermDictionary
