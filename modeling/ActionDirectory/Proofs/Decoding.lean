/-
What texts can give out. Parsing and all decoders end in the registry: whatever action
they give is the one that the registry has under its identifier at that moment. For the
single values this is read off their definitions. A list or a map is read element by
element, so it takes an induction along the tokens, and an object is read by a reader of
members, which keeps what each of its steps keeps.
-/

import ActionDirectory.Proofs.Interleaving
import ActionDirectory.Wire.Collection
import ActionDirectory.Wire.Notification
import ActionDirectory.Wire.Plain

namespace ActionDirectory

open Json

/-! ### Results of steps -/

section Steps

variable {Problem Value Further : Type} {outcome : Except Problem Value}

theorem exists_of_bind_eq_ok {next : Value → Except Problem Further} {found : Further}
    (successful : outcome.bind next = .ok found) :
    ∃ value, outcome = .ok value ∧ next value = .ok found := by
  cases outcome with
  | error problem => cases successful
  | ok value => exact ⟨value, rfl, successful⟩

theorem exists_of_map_eq_ok {change : Value → Further} {found : Further}
    (successful : outcome.map change = .ok found) :
    ∃ value, outcome = .ok value ∧ change value = found := by
  cases outcome with
  | error problem => cases successful
  | ok value => exact ⟨value, rfl, Except.ok.inj successful⟩

end Steps

namespace Registry

/-- A registry holds an action if it is the one under its identifier. -/
def Holds (registry : Registry) (action : Action) : Prop :=
  registry.actionUnder action.id = some action

variable {registry : Registry} {history : List Action} {action : Action}

theorem Reflects.actionUnder_eq_some_iff (reflects : registry.Reflects history) {id : Id} :
    registry.actionUnder id = some action ↔ registry.Holds action ∧ action.id = id := by
  constructor
  · intro registered
    obtain ⟨entry, found, rfl⟩ := Option.map_eq_some_iff.1 registered
    obtain rfl : entry.action.id = id := (reflects.mem_of_lookup found).2
    exact ⟨registered, rfl⟩
  · rintro ⟨held, rfl⟩
    exact held

theorem Reflects.holds_of_require (reflects : registry.Reflects history) {id : Id} {entry : Entry}
    (registered : registry.require id = .ok entry) : registry.Holds entry.action := by
  rw [require] at registered
  split at registered
  next found present =>
    cases registered
    have own : entry.action.id = id := (reflects.mem_of_lookup present).2
    rw [Holds, actionUnder, own, present]
    rfl
  next => cases registered

theorem Reflects.holds_of_find (reflects : registry.Reflects history) {name : String}
    {entry : Entry} (found : registry.find name = some entry) : registry.Holds entry.action := by
  have present : registry.lookup entry.action.id = some entry := reflects.lookup_of_find found
  rw [Holds, actionUnder, present]
  rfl

/-- What a text names is registered. -/
theorem Reflects.holds_of_parse (reflects : registry.Reflects history) {text : String}
    (parsed : registry.parse text = .ok action) : registry.Holds action := by
  rw [parse] at parsed
  split at parsed
  next entry found =>
    cases parsed
    exact reflects.holds_of_find found
  next =>
    split at parsed
    next id _ =>
      obtain ⟨entry, registered, rfl⟩ := exists_of_map_eq_ok parsed
      exact reflects.holds_of_require registered
    next => cases parsed

end Registry

namespace Wire

variable {registry : Registry} {history : List Action} {action : Action}

/-! ### Single actions -/

theorem holds_of_resolve (reflects : registry.Reflects history) {id : Id}
    (resolved : resolve registry id = .ok action) : registry.Holds action := by
  rw [resolve] at resolved
  split at resolved
  next entry registered =>
    cases resolved
    exact reflects.holds_of_require registered
  next => cases resolved

theorem holds_of_readAction (reflects : registry.Reflects history) {token : Token}
    (read : readAction registry token = .ok action) : registry.Holds action := by
  obtain ⟨id, -, resolved⟩ := exists_of_bind_eq_ok read
  exact holds_of_resolve reflects resolved

theorem holds_of_readKey (reflects : registry.Reflects history) {token : Token}
    (read : readKey registry token = .ok action) : registry.Holds action := by
  have within : ∀ body closed, readKey.within registry body closed = .ok action →
      registry.Holds action := by
    intro body closed read
    rw [readKey.within] at read
    split at read
    next => cases read
    next numeral rest _ =>
      obtain ⟨id, -, resolved⟩ := exists_of_bind_eq_ok read
      split at resolved
      next => exact holds_of_resolve reflects resolved
      next => cases resolved
  unfold readKey at read
  split at read
  next => exact within _ _ read
  next => exact within _ _ read
  next => cases read

theorem eq_of_complete {Value : Type} {value found : Value} {rest : List Token}
    (completed : complete (value, rest) = .ok found) : value = found := by
  cases rest with
  | nil => exact Except.ok.inj completed
  | cons token rest => cases completed

theorem holds_of_decodeAction (reflects : registry.Reflects history) {text : List Char}
    (decoded : decodeAction registry text = .ok action) : registry.Holds action := by
  rw [decodeAction] at decoded
  split at decoded
  next => cases decoded
  next token rest _ =>
    obtain ⟨found, read, completed⟩ := exists_of_bind_eq_ok decoded
    exact eq_of_complete completed ▸ holds_of_readAction reflects read

theorem holds_of_decodeOptional (reflects : registry.Reflects history) {text : List Char}
    (decoded : decodeOptional registry text = .ok (some action)) : registry.Holds action := by
  rw [decodeOptional] at decoded
  split at decoded
  next => cases decoded
  next => cases eq_of_complete decoded
  next token rest _ =>
    obtain ⟨found, read, completed⟩ := exists_of_bind_eq_ok decoded
    cases eq_of_complete completed
    exact holds_of_readAction reflects read

theorem holds_of_decodePlain (reflects : registry.Reflects history) {plain : Plain}
    (decoded : decodePlain registry plain = .ok action) : registry.Holds action := by
  obtain ⟨id, -, resolved⟩ := exists_of_bind_eq_ok decoded
  exact holds_of_resolve reflects resolved

/-! ### Lists and maps -/

theorem holds_of_readElements (reflects : registry.Reflects history) {tokens : List Token}
    {found : List Action × List Token} (read : readElements registry tokens = .ok found) :
    ∀ action ∈ found.1, registry.Holds action := by
  induction tokens using readElements.induct generalizing found with
  | case1 => cases read
  | case2 token =>
    obtain ⟨_, -, failed⟩ := exists_of_bind_eq_ok read
    cases failed
  | case3 token more inductionHypothesis =>
    obtain ⟨first, readFirst, read⟩ := exists_of_bind_eq_ok read
    obtain ⟨others, readOthers, rfl⟩ := exists_of_map_eq_ok read
    exact List.forall_mem_cons.2
      ⟨holds_of_readAction reflects readFirst, inductionHypothesis readOthers⟩
  | case4 token rest =>
    obtain ⟨only, readOnly, rfl⟩ := exists_of_map_eq_ok read
    exact List.forall_mem_cons.2
      ⟨holds_of_readAction reflects readOnly, fun _ member => absurd member List.not_mem_nil⟩
  | case5 token head tail notComma notClose =>
    rw [readElements] at read
    · obtain ⟨_, -, failed⟩ := exists_of_bind_eq_ok read
      cases failed
    all_goals assumption

theorem holds_of_decodeList (reflects : registry.Reflects history) {text : List Char}
    {actions : List Action} (decoded : decodeList registry text = .ok actions) :
    ∀ action ∈ actions, registry.Holds action := by
  rw [decodeList] at decoded
  split at decoded
  next => cases decoded
  next =>
    cases eq_of_complete decoded
    exact fun _ member => absurd member List.not_mem_nil
  next =>
    obtain ⟨found, read, completed⟩ := exists_of_bind_eq_ok decoded
    exact eq_of_complete completed ▸ holds_of_readElements reflects read
  next => cases decoded

theorem holds_of_readPairs (reflects : registry.Reflects history) {tokens : List Token}
    {found : List (Action × Int) × List Token} (read : readPairs registry tokens = .ok found) :
    ∀ member ∈ found.1, registry.Holds member.1 := by
  induction tokens using readPairs.induct generalizing found with
  | case1 => cases read
  | case2 key value more inductionHypothesis =>
    obtain ⟨first, readFirst, read⟩ := exists_of_bind_eq_ok read
    obtain ⟨number, -, read⟩ := exists_of_bind_eq_ok read
    obtain ⟨others, readOthers, rfl⟩ := exists_of_map_eq_ok read
    exact List.forall_mem_cons.2
      ⟨holds_of_readKey reflects readFirst, inductionHypothesis readOthers⟩
  | case3 key value rest =>
    obtain ⟨only, readOnly, read⟩ := exists_of_bind_eq_ok read
    obtain ⟨number, -, rfl⟩ := exists_of_map_eq_ok read
    exact List.forall_mem_cons.2
      ⟨holds_of_readKey reflects readOnly, fun _ member => absurd member List.not_mem_nil⟩
  | case4 key value tail =>
    rw [readPairs] at read
    · obtain ⟨_, -, read⟩ := exists_of_bind_eq_ok read
      obtain ⟨_, -, failed⟩ := exists_of_bind_eq_ok read
      cases failed
    all_goals assumption
  | case5 key tail =>
    rw [readPairs] at read
    · obtain ⟨_, -, failed⟩ := exists_of_bind_eq_ok read
      cases failed
    all_goals assumption

/-- A key of a map is the assigned one or was there before. -/
theorem key_of_mem_assign {key : Action} {value : Int} {map : List (Action × Int)}
    {member : Action × Int} (present : member ∈ assign key value map) :
    member.1 = key ∨ ∃ former ∈ map, former.1 = member.1 := by
  induction map with
  | nil =>
    cases List.mem_singleton.1 present
    exact Or.inl rfl
  | cons head rest inductionHypothesis =>
    rw [assign] at present
    split at present
    next =>
      rcases List.mem_cons.1 present with rfl | former
      · exact Or.inl rfl
      · exact Or.inr ⟨member, former, rfl⟩
    next =>
      rcases List.mem_cons.1 present with rfl | former
      · exact Or.inr ⟨head, List.mem_cons_self, rfl⟩
      · exact Or.inr ⟨member, List.mem_cons_of_mem _ former, rfl⟩
    next =>
      rcases List.mem_cons.1 present with rfl | later
      · exact Or.inr ⟨member, List.mem_cons_self, rfl⟩
      · rcases inductionHypothesis later with same | ⟨former, there, same⟩
        · exact Or.inl same
        · exact Or.inr ⟨former, List.mem_cons_of_mem _ there, same⟩

/-- The keys of an ordered map are among those that it was made from. -/
theorem key_of_mem_ordered {members : List (Action × Int)} {member : Action × Int}
    (present : member ∈ ordered members) : ∃ former ∈ members, former.1 = member.1 := by
  induction members using List.reverseRecOn generalizing member with
  | nil => cases present
  | append_singleton members last inductionHypothesis =>
    rw [ordered, List.foldl_append] at present
    rcases key_of_mem_assign present with same | ⟨former, there, same⟩
    · exact ⟨last, List.mem_append_right _ List.mem_cons_self, same.symm⟩
    · obtain ⟨earlier, member, same'⟩ := inductionHypothesis there
      exact ⟨earlier, List.mem_append_left _ member, same'.trans same⟩

theorem holds_of_decodeMap (reflects : registry.Reflects history) {text : List Char}
    {members : List (Action × Int)} (decoded : decodeMap registry text = .ok members) :
    ∀ member ∈ members, registry.Holds member.1 := by
  rw [decodeMap] at decoded
  split at decoded
  next => cases decoded
  next =>
    cases eq_of_complete decoded
    exact fun _ member => absurd member List.not_mem_nil
  next =>
    obtain ⟨found, read, completed⟩ := exists_of_bind_eq_ok decoded
    intro member present
    rw [← eq_of_complete completed] at present
    obtain ⟨former, there, same⟩ := key_of_mem_ordered present
    exact same ▸ holds_of_readPairs reflects read former there
  next => cases decoded

/-! ### Notifications -/

section Object

variable {State : Type} {reader : Reader State} {keeps : State → Prop}

theorem keeps_of_readMember
    (step : ∀ state key take, reader state key = .take take → keeps state →
      ∀ token next, take token = .ok next → keeps next)
    {state next : State} {key : String} {tokens rest : List Token} (start : keeps state)
    (read : readMember reader state key tokens = .ok (next, rest)) : keeps next := by
  unfold readMember at read
  split at read
  next => cases read
  next take handled =>
    split at read
    next value tail =>
      obtain ⟨found, taken, same⟩ := exists_of_map_eq_ok read
      cases same
      exact step state key take handled start value _ taken
    next => cases read
  next =>
    split at read
    next =>
      split at read
      next =>
        cases read
        exact start
      next => cases read
    next => cases read

/-- What every member that is taken keeps, a reader of an object keeps. -/
theorem keeps_of_readMembers
    (step : ∀ state key take, reader state key = .take take → keeps state →
      ∀ token next, take token = .ok next → keeps next)
    {state final : State} {tokens rest : List Token} (start : keeps state)
    (read : readMembers reader state tokens = .ok (final, rest)) : keeps final := by
  induction state, tokens using readMembers.induct reader with
  | case1 state =>
    rw [readMembers] at read
    cases read
  | case2 state token tail unknown =>
    rw [readMembers, unknown] at read
    cases read
  | case3 state token tail key known refusal refused =>
    rw [readMembers_cons reader state known, refused] at read
    cases read
  | case4 state token tail key known next more member inductionHypothesis =>
    rw [readMembers_cons reader state known, member] at read
    exact inductionHypothesis (keeps_of_readMember step start member) read
  | case5 state token tail key known next after member =>
    rw [readMembers_cons reader state known, member] at read
    cases read
    exact keeps_of_readMember step start member
  | case6 state token tail key known next others notComma notClose member =>
    rw [readMembers_cons reader state known, member] at read
    simp only [Except.bind] at read
    cases read

theorem keeps_of_readObject
    (step : ∀ state key take, reader state key = .take take → keeps state →
      ∀ token next, take token = .ok next → keeps next)
    {state final : State} {tokens rest : List Token} (start : keeps state)
    (read : readObject reader state tokens = .ok (final, rest)) : keeps final := by
  unfold readObject at read
  split at read
  next =>
    cases read
    exact start
  next => exact keeps_of_readMembers step start read

end Object

theorem holds_of_notificationReader (reflects : registry.Reflects history)
    {state next : PartialNotification} {key : String}
    {take : Token → Except Refusal PartialNotification}
    (handled : notificationReader registry state key = .take take)
    (start : ∀ action, state.action = some action → registry.Holds action) {token : Token}
    (taken : take token = .ok next) :
    ∀ action, next.action = some action → registry.Holds action := by
  rw [notificationReader] at handled
  split at handled
  next =>
    split at handled
    next => cases handled
    next =>
      cases handled
      obtain ⟨path, -, rfl⟩ := exists_of_map_eq_ok taken
      exact start
  next =>
    split at handled
    next =>
      split at handled
      next => cases handled
      next =>
        cases handled
        obtain ⟨read, successful, rfl⟩ := exists_of_map_eq_ok taken
        intro action same
        cases same
        exact holds_of_readAction reflects successful
    next => cases handled

theorem holds_of_readNotificationList (reflects : registry.Reflects history)
    {tokens : List Token} {found : Notification × List Token}
    (read : readNotificationList registry tokens = .ok found) :
    registry.Holds found.1.action := by
  unfold readNotificationList at read
  split at read
  next => cases read
  next => cases read
  next =>
    obtain ⟨path, -, read⟩ := exists_of_bind_eq_ok read
    split at read
    next => cases read
    next =>
      obtain ⟨action, successful, read⟩ := exists_of_bind_eq_ok read
      split at read
      next =>
        cases read
        exact holds_of_readAction reflects successful
      next => cases read
    next => cases read

theorem holds_of_decodeNotification (reflects : registry.Reflects history) {text : List Char}
    {notification : Notification} (decoded : decodeNotification registry text = .ok notification) :
    registry.Holds notification.action := by
  rw [decodeNotification] at decoded
  split at decoded
  next => cases decoded
  next =>
    obtain ⟨found, read, decoded⟩ := exists_of_bind_eq_ok decoded
    obtain ⟨whole, made, completed⟩ := exists_of_bind_eq_ok decoded
    have holds : ∀ action, found.1.action = some action → registry.Holds action :=
      @keeps_of_readObject _ _
        (fun fields => ∀ action, fields.action = some action → registry.Holds action)
        (fun _ _ _ handled start _ _ taken =>
          holds_of_notificationReader reflects handled start taken)
        _ _ _ _ (fun _ missing => by cases missing) read
    rw [PartialNotification.whole] at made
    split at made
    next path action _ present =>
      cases made
      exact eq_of_complete completed ▸ holds action present
    next => cases made
    next => cases made
  next =>
    obtain ⟨found, read, completed⟩ := exists_of_bind_eq_ok decoded
    exact eq_of_complete completed ▸ holds_of_readNotificationList reflects read
  next => cases decoded

end Wire

end ActionDirectory
