/-
Histories. The history of a registry is the list of the actions that were written to
it, the ones it was filled with first. An identifier leads to the last write under
it, and a name leads to the last write of the name, unless something was written
under the identifier of that write since.
-/

import ActionDirectory.Store
import Mathlib.Data.List.Induction

namespace ActionDirectory

/-! ### The last action of a kind -/

section Latest

variable {kind : Action → Prop} [DecidablePred kind]

/-- The last action of a kind in a history, with its position as the serial number. -/
def latest (history : List Action) (kind : Action → Prop) [DecidablePred kind] : Option Entry :=
  ((history.mapIdx Entry.mk).filter fun entry => kind entry.action).getLast?

theorem latest_concat (history : List Action) (action : Action) :
    latest (history ++ [action]) kind =
      if kind action then some ⟨history.length, action⟩ else latest history kind := by
  rw [latest, List.mapIdx_concat, List.filter_append]
  by_cases concerned : kind action
  · rw [if_pos concerned, List.filter_cons_of_pos (by exact decide_eq_true concerned),
      List.filter_nil, List.getLast?_concat]
  · rw [if_neg concerned, List.filter_cons_of_neg (by simpa using concerned), List.filter_nil,
      List.append_nil]
    rfl

/-- Actions of other kinds do not count. -/
theorem latest_append_of_absent (history : List Action) {later : List Action}
    (others : ∀ action ∈ later, ¬ kind action) :
    latest (history ++ later) kind = latest history kind := by
  induction later using List.reverseRecOn with
  | nil => rw [List.append_nil]
  | append_singleton later action inductionHypothesis =>
    rw [← List.append_assoc, latest_concat,
      if_neg (others action (List.mem_append_right _ List.mem_cons_self))]
    exact inductionHypothesis fun earlier member => others earlier (List.mem_append_left _ member)

theorem latest_eq_none {history : List Action} (absent : ∀ action ∈ history, ¬ kind action) :
    latest history kind = none :=
  latest_append_of_absent [] absent

/-- An action of a kind is the last one if no action of the kind stands behind it. -/
theorem latest_of_split {before after : List Action} {last : Action} (concerned : kind last)
    (others : ∀ action ∈ after, ¬ kind action) :
    latest (before ++ last :: after) kind = some ⟨before.length, last⟩ := by
  rw [List.append_cons, latest_append_of_absent _ others, latest_concat, if_pos concerned]

/-- A list has no item of a kind, or it splits at the last one. -/
theorem absent_or_split {Item : Type} (items : List Item) (kind : Item → Prop) :
    (∀ item ∈ items, ¬ kind item) ∨
      ∃ before last after, items = before ++ last :: after ∧ kind last ∧
        ∀ item ∈ after, ¬ kind item := by
  induction items with
  | nil => exact Or.inl fun item member => absurd member List.not_mem_nil
  | cons first rest inductionHypothesis =>
    rcases inductionHypothesis with absent | ⟨before, last, after, rfl, concerned, others⟩
    · by_cases concerned : kind first
      · exact Or.inr ⟨[], first, rest, rfl, concerned, absent⟩
      · exact Or.inl (List.forall_mem_cons.2 ⟨concerned, absent⟩)
    · exact Or.inr ⟨first :: before, last, after, rfl, concerned, others⟩

theorem latest_eq_none_iff {history : List Action} :
    latest history kind = none ↔ ∀ action ∈ history, ¬ kind action := by
  refine ⟨fun nothing => ?_, latest_eq_none⟩
  rcases absent_or_split history kind with absent | ⟨before, last, after, rfl, concerned, others⟩
  · exact absent
  · rw [latest_of_split concerned others] at nothing
    cases nothing

/-- The last action of a kind stands at its position, and none of the kind behind it. -/
theorem split_of_latest {history : List Action} {entry : Entry}
    (found : latest history kind = some entry) :
    ∃ before after, history = before ++ entry.action :: after ∧ entry.serial = before.length ∧
      kind entry.action ∧ ∀ action ∈ after, ¬ kind action := by
  rcases absent_or_split history kind with absent | ⟨before, last, after, rfl, concerned, others⟩
  · rw [latest_eq_none absent] at found
    cases found
  · rw [latest_of_split concerned others] at found
    cases found
    exact ⟨before, after, rfl, rfl, concerned, others⟩

theorem serial_lt_of_latest {history : List Action} {entry : Entry}
    (found : latest history kind = some entry) : entry.serial < history.length := by
  obtain ⟨before, after, rfl, position, -, -⟩ := split_of_latest found
  rw [position, List.length_append, List.length_cons]
  omega

/-- A further action of a kind stands behind the history. -/
theorem exists_latest_append (history : List Action) {later : List Action}
    (concerned : ∃ action ∈ later, kind action) :
    ∃ entry, latest (history ++ later) kind = some entry ∧ history.length ≤ entry.serial := by
  rcases absent_or_split later kind with absent | ⟨before, last, after, rfl, lastKind, others⟩
  · obtain ⟨action, member, actionKind⟩ := concerned
    exact absurd actionKind (absent action member)
  · rw [← List.append_assoc, latest_of_split lastKind others, List.length_append]
    exact ⟨_, rfl, Nat.le_add_right _ _⟩

theorem kind_of_latest {history : List Action} {entry : Entry}
    (found : latest history kind = some entry) : kind entry.action := by
  obtain ⟨before, after, -, -, concerned, -⟩ := split_of_latest found
  exact concerned

/-- The last action of a kind is the last one of those of the kind. -/
theorem latest_map_action (history : List Action) :
    (latest history kind).map Entry.action =
      (history.filter fun action => kind action).getLast? := by
  induction history using List.reverseRecOn with
  | nil => rfl
  | append_singleton history action inductionHypothesis =>
    rw [latest_concat, List.filter_append]
    by_cases concerned : kind action
    · rw [if_pos concerned, List.filter_cons_of_pos (by exact decide_eq_true concerned),
        List.filter_nil, List.getLast?_concat]
      rfl
    · rw [if_neg concerned, List.filter_cons_of_neg (by simpa using concerned), List.filter_nil,
        List.append_nil, inductionHypothesis]

/-- If the last action of either of two kinds is of the other kind too, it is one write. -/
theorem latest_unique {other : Action → Prop} [DecidablePred other] {history : List Action}
    {first second : Entry} (firstLast : latest history kind = some first)
    (secondLast : latest history other = some second) (firstOther : other first.action)
    (secondKind : kind second.action) : first = second := by
  induction history using List.reverseRecOn with
  | nil => cases firstLast
  | append_singleton history action inductionHypothesis =>
    rw [latest_concat] at firstLast secondLast
    split at firstLast
    next concerned =>
      cases firstLast
      rw [if_pos firstOther] at secondLast
      exact Option.some.inj secondLast
    next quiet =>
      split at secondLast
      next =>
        cases secondLast
        exact absurd secondKind quiet
      next => exact inductionHypothesis firstLast secondLast

end Latest

/-! ### What identifiers and names lead to -/

/-- The last write under an identifier. -/
def lastUnder (history : List Action) (id : Id) : Option Entry :=
  latest history fun action => action.id = id

/-- The last write of a name. The empty text is not a name. -/
def lastNamed (history : List Action) (name : String) : Option Entry :=
  latest history fun action => action.name? = some name

/-- The write that a name leads to: the last one of the name, as long as it is also the last one
under its identifier. -/
def holder? (history : List Action) (name : String) : Option Entry :=
  (lastNamed history name).bind fun entry =>
    if lastUnder history entry.id = some entry then some entry else none

theorem holder?_eq_some_iff {history : List Action} {name : String} {entry : Entry} :
    holder? history name = some entry ↔
      lastNamed history name = some entry ∧ lastUnder history entry.id = some entry := by
  rw [holder?, Option.bind_eq_some_iff]
  constructor
  · rintro ⟨candidate, found, current⟩
    split at current
    next last =>
      cases current
      exact ⟨found, last⟩
    next => cases current
  · rintro ⟨found, last⟩
    exact ⟨entry, found, if_pos last⟩

/-- A further write takes its name over. -/
theorem holder?_concat_of_named (history : List Action) {action : Action} {name : String}
    (named : action.name? = some name) :
    holder? (history ++ [action]) name = some ⟨history.length, action⟩ := by
  refine holder?_eq_some_iff.2 ⟨?_, ?_⟩
  · exact (latest_concat history action).trans (if_pos named)
  · exact (latest_concat history action).trans (if_pos rfl)

/-- A further write makes another name lead nowhere if the name led to what it replaces. -/
theorem holder?_concat_of_not_named (history : List Action) {action : Action} {name : String}
    (other : action.name? ≠ some name) :
    holder? (history ++ [action]) name =
      (holder? history name).bind fun entry =>
        if action.id = entry.id then none else some entry := by
  have unmoved : lastNamed (history ++ [action]) name = lastNamed history name :=
    (latest_concat history action).trans (if_neg other)
  rw [holder?, unmoved, holder?]
  cases found : lastNamed history name with
  | none => rfl
  | some entry =>
    show (if latest (history ++ [action]) _ = some entry then some entry else none) =
      (if lastUnder history entry.id = some entry then some entry else none).bind _
    rw [latest_concat]
    by_cases same : action.id = entry.id
    -- The new write is another one than what the name led to, since it does not have the name.
    · have fresh : some (Entry.mk history.length action) ≠ some entry := by
        rintro ⟨⟩
        exact other (kind_of_latest found)
      rw [if_pos same, if_neg fresh]
      split
      · exact (if_pos same).symm
      · rfl
    · rw [if_neg same]
      show (if lastUnder history entry.id = some entry then some entry else none) = _
      split
      · exact (if_neg same).symm
      · rfl

/-- The action that a name leads to is decided by the last actions, without their positions. -/
theorem holder?_map_action (history : List Action) (name : String) :
    (holder? history name).map Entry.action =
      ((lastNamed history name).map Entry.action).bind fun action =>
        if (lastUnder history action.id).map Entry.action = some action then some action
        else none := by
  rw [holder?]
  cases found : lastNamed history name with
  | none => rfl
  | some entry =>
    show (if lastUnder history entry.id = some entry then some entry else none).map Entry.action =
      if (lastUnder history entry.id).map Entry.action = some entry.action then some entry.action
      else none
    by_cases current : lastUnder history entry.id = some entry
    · rw [if_pos current, current]
      exact (if_pos rfl).symm
    -- An equal write under the identifier would have the name, and would be the last one of it.
    · have other : (lastUnder history entry.id).map Entry.action ≠ some entry.action := by
        intro same
        obtain ⟨last, under, equal⟩ := Option.map_eq_some_iff.1 same
        have named : last.action.name? = some name := equal ▸ kind_of_latest found
        exact current (latest_unique under found named rfl ▸ under)
      rw [if_neg current, if_neg other]
      rfl

theorem holder?_eq_none {history : List Action} {name : String}
    (absent : ∀ action ∈ history, action.name? ≠ some name) : holder? history name = none := by
  rw [holder?, lastNamed, latest_eq_none absent]
  rfl

/-- The last write of a name is what the name leads to, if nothing was written under its
identifier since. -/
theorem holder?_of_kept {before after : List Action} {last : Action} {name : String}
    (named : last.name? = some name) (others : ∀ action ∈ after, action.name? ≠ some name)
    (kept : ∀ action ∈ after, action.id ≠ last.id) :
    holder? (before ++ last :: after) name = some ⟨before.length, last⟩ :=
  holder?_eq_some_iff.2 ⟨latest_of_split named others, latest_of_split rfl kept⟩

/-- A name leads nowhere, if something was written under the identifier of its last write
since. -/
theorem holder?_of_replaced {before after : List Action} {last : Action} {name : String}
    (named : last.name? = some name) (others : ∀ action ∈ after, action.name? ≠ some name)
    (replaced : ∃ action ∈ after, action.id = last.id) :
    holder? (before ++ last :: after) name = none := by
  refine Option.eq_none_iff_forall_ne_some.2 fun entry leads => ?_
  obtain ⟨candidate, current⟩ := holder?_eq_some_iff.1 leads
  cases (latest_of_split named others).symm.trans candidate
  -- The last write under the identifier stands behind the last one of the name.
  rcases absent_or_split after fun action => action.id = last.id with
    absent | ⟨between, later, rest, rfl, concerned, quiet⟩
  · obtain ⟨action, member, same⟩ := replaced
    exact absent action member same
  · rw [← List.cons_append, ← List.append_assoc] at current
    have position := congrArg Entry.serial
      (Option.some.inj ((latest_of_split concerned quiet).symm.trans current))
    simp at position

end ActionDirectory
