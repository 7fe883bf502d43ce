/-
The consistency of a store. The two tables of a store say the same of its names: an entry stands
under its own identifier, and a name leads to an entry that has the name. Nothing else is asked of
a store, so a consistent store need not have come about by writes. A write keeps a store consistent
whatever the replaced entry was called and wherever the names led, and it changes one identifier and
at most two names. So behind any calls a name never leads to an identifier without an entry.

A name leads to the written identifier behind a write only if it is the written name: in a
consistent store any other name that led there is the name of the replaced entry, and that one is
given up.
-/

import ActionDirectory.Proofs.Handles

namespace ActionDirectory

namespace Store

variable {store : Store} {entry : Entry} {name : String}

/-! ### Consistent stores -/

/-- Entries stand under their own identifiers, the empty text is not a name, and every name leads to
an entry that has the name. -/
structure Consistent (store : Store) : Prop where
  own : ∀ id entry, store.lookup id = some entry → entry.id = id
  named : store.owner? "" = none
  leads : ∀ name id, store.owner? name = some id →
    ∃ entry, store.lookup id = some entry ∧ entry.name? = some name

theorem consistent_empty : Store.empty.Consistent where
  own _ _ found := nomatch found
  named := rfl
  leads _ _ led := nomatch led

/-- A name is found exactly if it leads to an identifier, and what is found stands under that
identifier and has the name. -/
structure FindsNamed (store : Store) : Prop where
  present : ∀ name id, store.owner? name = some id → ∃ entry, store.find name = some entry
  led : ∀ name entry, store.find name = some entry → store.owner? name = some entry.id
  named : ∀ name entry, store.find name = some entry → entry.name? = some name

theorem Consistent.findsNamed (consistent : store.Consistent) : store.FindsNamed := by
  have found : ∀ name id entry, store.owner? name = some id → store.lookup id = some entry →
      store.find name = some entry := by
    intro name id entry led registered
    rw [find, led]
    exact registered
  have origin : ∀ name entry, store.find name = some entry →
      ∃ id, store.owner? name = some id ∧ store.lookup id = some entry :=
    fun name entry => Option.bind_eq_some_iff.1
  refine ⟨fun name id led => ?_, fun name entry same => ?_, fun name entry same => ?_⟩
  · obtain ⟨entry, registered, -⟩ := consistent.leads name id led
    exact ⟨entry, found name id entry led registered⟩
  · obtain ⟨id, led, registered⟩ := origin name entry same
    rw [led, consistent.own id entry registered]
  · obtain ⟨id, led, registered⟩ := origin name entry same
    obtain ⟨other, alsoRegistered, named⟩ := consistent.leads name id led
    rw [registered] at alsoRegistered
    cases alsoRegistered
    exact named

/-! ### Writes -/

/-- A write gives a name up: the entry that it replaces has the name, and the name leads to the
written identifier. -/
def GivesUp (store : Store) (entry : Entry) (name : String) : Prop :=
  (store.lookup entry.id).bind Entry.name? = some name ∧ store.owner? name = some entry.id

/-- The names that lead to the written identifier are given up. -/
theorem Consistent.givesUp (consistent : store.Consistent)
    (led : store.owner? name = some entry.id) : store.GivesUp entry name := by
  obtain ⟨replaced, registered, named⟩ := consistent.leads name entry.id led
  refine ⟨?_, led⟩
  rw [registered]
  exact named

theorem owner?_insert_self (store : Store) (named : entry.name? = some name) :
    (store.insert entry).store.owner? name = some entry.id := by
  rw [owner?_insert, if_pos named]

theorem owner?_insert_of_givesUp (other : entry.name? ≠ some name)
    (givesUp : store.GivesUp entry name) : (store.insert entry).store.owner? name = none := by
  rw [owner?_insert, if_neg other]
  exact if_pos givesUp

theorem owner?_insert_of_kept (other : entry.name? ≠ some name)
    (kept : ¬ store.GivesUp entry name) :
    (store.insert entry).store.owner? name = store.owner? name := by
  rw [owner?_insert, if_neg other]
  exact if_neg kept

theorem lookup_insert_self (store : Store) (entry : Entry) :
    (store.insert entry).store.lookup entry.id = some entry := by
  rw [lookup_insert, if_pos rfl]

theorem lookup_insert_other (store : Store) {id : Id} (other : id ≠ entry.id) :
    (store.insert entry).store.lookup id = store.lookup id := by
  rw [lookup_insert, if_neg other]

/-- Behind a write a name that is not the written one leads where it led before, and that is not the
written identifier. -/
theorem Consistent.owner?_of_insert (consistent : store.Consistent) {id : Id}
    (other : entry.name? ≠ some name)
    (led : (store.insert entry).store.owner? name = some id) :
    id ≠ entry.id ∧ store.owner? name = some id := by
  have kept : ¬ store.GivesUp entry name := by
    intro givesUp
    rw [owner?_insert_of_givesUp other givesUp] at led
    cases led
  rw [owner?_insert_of_kept other kept] at led
  refine ⟨?_, led⟩
  rintro rfl
  exact kept (consistent.givesUp led)

/-- A write keeps a store consistent. -/
theorem Consistent.insert (consistent : store.Consistent) (entry : Entry) :
    (store.insert entry).store.Consistent := by
  have unnamed : entry.name? ≠ some "" := fun named => (Action.name?_eq_some_iff.1 named).2 rfl
  refine ⟨fun id found registered => ?_, ?_, fun name id led => ?_⟩
  · by_cases written : id = entry.id
    · subst written
      rw [lookup_insert_self] at registered
      cases registered
      rfl
    · rw [lookup_insert_other store written] at registered
      exact consistent.own id found registered
  · refine Option.eq_none_iff_forall_ne_some.2 fun id led => ?_
    have former := (consistent.owner?_of_insert unnamed led).2
    rw [consistent.named] at former
    cases former
  · by_cases written : entry.name? = some name
    · rw [owner?_insert_self store written] at led
      cases led
      exact ⟨entry, lookup_insert_self store entry, written⟩
    · obtain ⟨other, former⟩ := consistent.owner?_of_insert written led
      rw [lookup_insert_other store other]
      exact consistent.leads name id former

/-- What a write makes of a store, and what it leaves as it was. -/
structure Places (store : Store) (entry : Entry) (inserted : Inserted) : Prop where
  consistent : inserted.store.Consistent
  former : inserted.former = store.lookup entry.id
  lookup_self : inserted.store.lookup entry.id = some entry
  lookup_other : ∀ id, id ≠ entry.id → inserted.store.lookup id = store.lookup id
  /-- The name of the entry leads to its identifier, and no other name does. -/
  owner_self : ∀ name, inserted.store.owner? name = some entry.id ↔ entry.name? = some name
  owner_given_up : ∀ name, entry.name? ≠ some name → store.GivesUp entry name →
    inserted.store.owner? name = none
  owner_other : ∀ name, entry.name? ≠ some name → ¬ store.GivesUp entry name →
    inserted.store.owner? name = store.owner? name

theorem Consistent.places_insert (consistent : store.Consistent) (entry : Entry) :
    store.Places entry (store.insert entry) where
  consistent := consistent.insert entry
  former := former_insert store entry
  lookup_self := lookup_insert_self store entry
  lookup_other _ := lookup_insert_other store
  owner_self name := by
    refine ⟨fun led => ?_, owner?_insert_self store⟩
    by_contra other
    exact (consistent.owner?_of_insert other led).1 rfl
  owner_given_up _ := owner?_insert_of_givesUp
  owner_other _ := owner?_insert_of_kept

end Store

/-! ### Calls -/

namespace Registry

variable {registry : Registry}

theorem consistent_perform (consistent : registry.store.Consistent) (call : Call) :
    (registry.perform call).registry.store.Consistent := by
  rw [registry_perform]
  cases registry.written? call with
  | none => exact consistent
  | some action => exact consistent.insert ⟨registry.serial, action⟩

/-- Calls keep the store consistent, whatever it was before. -/
theorem consistent_after (consistent : registry.store.Consistent) (calls : List Call) :
    (registry.after calls).store.Consistent := by
  induction calls generalizing registry with
  | nil => exact consistent
  | cons call rest inductionHypothesis =>
    rw [after_cons]
    exact inductionHypothesis (consistent_perform consistent call)

theorem consistent_registerAll (consistent : registry.store.Consistent) (actions : List Action) :
    (Workload.registerAll registry actions).store.Consistent := by
  induction actions generalizing registry with
  | nil => exact consistent
  | cons action rest inductionHypothesis =>
    exact inductionHypothesis (consistent.insert ⟨registry.serial, action⟩)

theorem Made.consistent {seed : List Action} (made : Made registry seed) :
    registry.store.Consistent := by
  obtain ⟨settings, rfl⟩ := made.exists_eq_registerAll
  exact @consistent_registerAll (Registry.empty settings) Store.consistent_empty seed

end Registry

/-! ### The rule -/

/-- A write to any consistent store keeps it consistent, gives the entry that it replaces, and
changes only what stands under the identifier and where two names lead: the name of the entry leads
to the identifier, and no other name does. In a consistent store a name is found if it leads
anywhere, and what is found has the name. Calls keep the store of a registry consistent, and every
new registry has a consistent store. -/
theorem writes_keep_store_consistent {store : Store} (consistent : store.Consistent)
    (entry : Entry) :
    store.Places entry (store.insert entry) ∧ store.FindsNamed ∧
      ∀ registry : Registry,
        registry.store = store ∨ (∃ seed, Registry.Made registry seed) →
          ∀ calls, (registry.after calls).store.Consistent ∧
            (registry.after calls).store.FindsNamed := by
  refine ⟨consistent.places_insert entry, consistent.findsNamed, fun registry origin calls => ?_⟩
  have begins : registry.store.Consistent := by
    rcases origin with rfl | ⟨seed, made⟩
    · exact consistent
    · exact made.consistent
  have ends := Registry.consistent_after begins calls
  exact ⟨ends, ends.findsNamed⟩

/-- The store is consistent although the name of its only entry leads nowhere, and a write of an
equal action makes the name lead to it. -/
theorem writes_keep_store_consistent_of_lost_name :
    let store : Store :=
      { byId := (∅ : Table Id Entry).insert { value := 1 } ⟨0, ⟨{ value := 1 }, "copy"⟩⟩
        byName := ∅ }
    let inserted := store.insert ⟨1, ⟨{ value := 1 }, "copy"⟩⟩
    store.Consistent ∧ store.find "copy" = none ∧
      inserted.former = some ⟨0, ⟨{ value := 1 }, "copy"⟩⟩ ∧
      inserted.store.Consistent ∧
      inserted.store.owner? "copy" = some { value := 1 } ∧
      inserted.store.find "copy" = some ⟨1, ⟨{ value := 1 }, "copy"⟩⟩ := by
  intro store inserted
  have consistent : store.Consistent := by
    refine ⟨fun id found registered => ?_, rfl, fun name id led => nomatch led⟩
    have present : store.lookup id = if id = { value := 1 } then _ else none :=
      Table.get?_insert ∅ _ id _
    rw [present] at registered
    split at registered
    next same =>
      cases registered
      exact same.symm
    next => cases registered
  obtain ⟨places, -, -⟩ := writes_keep_store_consistent consistent ⟨1, ⟨{ value := 1 }, "copy"⟩⟩
  have led := (places.owner_self "copy").2 rfl
  refine ⟨consistent, rfl, places.former, places.consistent, led, ?_⟩
  rw [Store.find, led]
  exact places.lookup_self

end ActionDirectory
