/-
Texts of actions are read back. A text carries identifiers only, so whoever reads it gets,
in the place of each action that was written, the action that the registry has under its
identifier now, and that action is equal to the written one. This holds for an action by
itself and for all that actions stand in: values that may be missing, lists, the keys of
maps, and notifications with any path.

What was written is first turned into its tokens, and the decoders are then run over these
tokens. Between any two parts of a text stands a mark that ends a number, so the parts do
not run into each other.
-/

import ActionDirectory.Proofs.JsonText
import ActionDirectory.Proofs.Recovery

namespace ActionDirectory

open Json

/-! ### Single actions -/

namespace Registry

/-- The action that a registry has under the identifier of an action, and the action itself if
there is none. -/
def current (registry : Registry) (action : Action) : Action :=
  (registry.actionUnder action.id).getD action

variable {registry : Registry} {history : List Action} {action : Action}

theorem actionUnder_eq_current (known : registry.contains action.id = true) :
    registry.actionUnder action.id = some (registry.current action) := by
  obtain ⟨entry, found⟩ := Option.isSome_iff_exists.1 known
  rw [current, actionUnder, found]
  rfl

/-- Whoever holds an action sees it under the name of the last registration. -/
theorem current_register (registry : Registry) {held : Action} (action : Action)
    (same : held.id = action.id) : (registry.register action).registry.current held = action := by
  rw [current, actionUnder, lookup_register, if_pos same]
  rfl

theorem Reflects.id_current (reflects : registry.Reflects history)
    (known : registry.contains action.id = true) : (registry.current action).id = action.id := by
  obtain ⟨entry, found⟩ := Option.isSome_iff_exists.1 known
  rw [current, actionUnder, found]
  exact (reflects.mem_of_lookup found).2

end Registry

namespace Wire

variable {registry : Registry} {history : List Action} {action : Action}

/-- The token of a written integer. -/
def integerToken (value : Int) : Token :=
  .number (.ofInt value)

theorem resolve_id (known : registry.contains action.id = true) :
    resolve registry action.id = .ok (registry.current action) := by
  obtain ⟨entry, found⟩ := Option.isSome_iff_exists.1 known
  rw [resolve, Registry.require, Registry.current, Registry.actionUnder, found]
  rfl

/-- The identifier that an integer is, or the refusal of an integer that is none. -/
def idOf (value : Int) : Except Refusal Id :=
  match Id.ofInt? value with
  | some id => .ok id
  | none => .error (.data (.invalidValue value .int32))

theorem idOf_value (id : Id) : idOf id.value = .ok id := by
  rw [idOf, id.ofInt?_value]

/-- A written integer of up to 64 bits is read as it is. -/
theorem readId_ofInt {value : Int} (lower : -9223372036854775808 ≤ value)
    (upper : value < 18446744073709551616) : readId (integerToken value) = idOf value := by
  have same : integer? (integerToken value) = some value := Numeral.integer?_ofInt lower upper
  rw [readId, same]
  rfl

theorem readId_integerToken (id : Id) : readId (integerToken id.value) = .ok id := by
  have lower := id.lower
  have upper := id.upper
  rw [readId_ofInt (by omega) (by omega), idOf_value]

/-- A written identifier is resolved. -/
theorem readAction_integer (registry : Registry) (id : Id) :
    readAction registry (integerToken id.value) = resolve registry id := by
  rw [readAction, readId_integerToken]
  rfl

theorem readAction_integerToken (known : registry.contains action.id = true) :
    readAction registry (integerToken action.id.value) = .ok (registry.current action) :=
  (readAction_integer registry action.id).trans (resolve_id known)

/-- A written identifier in quotes is resolved. -/
theorem readKey_quoted (registry : Registry) (id : Id) :
    readKey registry (.quoted (Decimal.signed id.value)) = resolve registry id := by
  have scanned : Numeral.scan? (Decimal.signed id.value) = some (.ofInt id.value, []) := by
    rw [← List.append_nil (Decimal.signed id.value)]
    exact Numeral.scan?_signed id.value trivial
  have read : readId (.number (.ofInt id.value)) = .ok id := readId_integerToken id
  rw [readKey, readKey.within, scanned]
  simp only [read]
  rfl

theorem readKey_wire (known : registry.contains action.id = true) :
    readKey registry (.quoted action.wire) = .ok (registry.current action) :=
  (readKey_quoted registry action.id).trans (resolve_id known)

theorem readInt64_integerToken {value : Int}
    (fits : -9223372036854775808 ≤ value ∧ value ≤ 9223372036854775807) :
    readInt64 (integerToken value) = .ok value := by
  have same : integer? (integerToken value) = some value :=
    Numeral.integer?_ofInt fits.1 (by omega)
  rw [readInt64, same]
  exact if_pos fits

theorem readText_quoted (text : String) :
    readText (.quoted (text.toList.flatMap escape)) = .ok text := by
  rw [readText, denoted?_escape]

theorem tokens_wire (action : Action) {rest : List Char} (ends : EndsNumber rest) :
    tokens (action.wire ++ rest) = integerToken action.id.value :: tokens rest :=
  tokens_signed action.id.value ends

theorem tokens_signed_alone (value : Int) :
    tokens (Decimal.signed value) = [integerToken value] := by
  have nothing : EndsNumber [] := trivial
  rw [← List.append_nil (Decimal.signed value), tokens_signed value nothing, tokens_nil]
  rfl

theorem tokens_wire_alone (action : Action) :
    tokens action.wire = [integerToken action.id.value] :=
  tokens_signed_alone action.id.value

theorem decodeAction_wire (known : registry.contains action.id = true) :
    decodeAction registry action.wire = .ok (registry.current action) := by
  rw [decodeAction, tokens_wire_alone]
  simp only [readAction_integerToken known]
  rfl

theorem decodeOptional_writeOptional (registry : Registry) (value : Option Action)
    (known : ∀ action, value = some action → registry.contains action.id = true) :
    decodeOptional registry (writeOptional value) = .ok (value.map registry.current) := by
  cases value with
  | none =>
    have null : tokens (writeOptional none) = [.null] := by
      rw [writeOptional, tokens_of_next rfl, tokens_nil]
    rw [decodeOptional, null]
    rfl
  | some action =>
    rw [writeOptional, decodeOptional, tokens_wire_alone]
    show (readAction registry (integerToken action.id.value)).bind _ = _
    rw [readAction_integerToken (known action rfl)]
    rfl

/-! ### Items between marks -/

/-- The tokens of items with a comma between any two of them and a closing mark behind the
last. -/
def punctuated (close : Token) : List (List Token) → List Token
  | [] => [close]
  | [item] => item ++ [close]
  | item :: rest => item ++ .comma :: punctuated close rest

/-- Items that are read token by token are so in a separated text, whatever comes behind the closing
mark. -/
theorem tokens_separated_append {Item : Type} {write : Item → List Char}
    {image : Item → List Token} {items : List Item}
    (read : ∀ item ∈ items, ∀ rest, EndsNumber rest →
      tokens (write item ++ rest) = image item ++ tokens rest)
    {tail : List Char} {close : Token} {behind : List Token} (ends : EndsNumber tail)
    (closed : tokens tail = close :: behind) :
    tokens (separated (items.map write) ++ tail) =
      punctuated close (items.map image) ++ behind := by
  induction items with
  | nil => exact closed
  | cons item items inductionHypothesis =>
    have first := read item List.mem_cons_self
    have others := inductionHypothesis fun other member =>
      read other (List.mem_cons_of_mem _ member)
    cases items with
    | nil =>
      show tokens (write item ++ tail) = image item ++ [close] ++ behind
      rw [first tail ends, closed, List.append_assoc]
      rfl
    | cons next items =>
      have comma : EndsNumber (',' :: (separated ((next :: items).map write) ++ tail)) :=
        endsNumber_of_mark (by decide) _
      show tokens (write item ++ ',' :: separated ((next :: items).map write) ++ tail) =
        image item ++ .comma :: punctuated close ((next :: items).map image) ++ behind
      rw [List.append_assoc, List.cons_append, first _ comma, tokens_of_next rfl, others,
        List.append_assoc, List.cons_append]

theorem tokens_separated {Item : Type} {write : Item → List Char} {image : Item → List Token}
    (read : ∀ item rest, EndsNumber rest → tokens (write item ++ rest) = image item ++ tokens rest)
    {tail : List Char} {close : Token} (ends : EndsNumber tail) (closed : tokens tail = [close])
    (items : List Item) :
    tokens (separated (items.map write) ++ tail) = punctuated close (items.map image) := by
  have whole := tokens_separated_append (fun item (_ : item ∈ items) => read item) ends closed
  rw [whole, List.append_nil]

/-- The first item stands in front, whatever else follows. -/
theorem exists_punctuated_eq_append (close : Token) (item : List Token)
    (items : List (List Token)) :
    ∃ behind, punctuated close (item :: items) = item ++ behind := by
  cases items with
  | nil => exact ⟨_, rfl⟩
  | cons next items => exact ⟨_, rfl⟩

theorem exists_punctuated_eq_cons (close first : Token) (others : List Token)
    (items : List (List Token)) :
    ∃ behind, punctuated close ((first :: others) :: items) = first :: behind := by
  obtain ⟨behind, same⟩ := exists_punctuated_eq_append close (first :: others) items
  exact ⟨others ++ behind, same⟩

/-! ### Lists -/

theorem readElements_punctuated (action : Action) (actions : List Action)
    (known : ∀ element ∈ action :: actions, registry.contains element.id = true) :
    readElements registry (punctuated .closeBracket
        ((action :: actions).map fun element => [integerToken element.id.value])) =
      .ok ((action :: actions).map registry.current, []) := by
  induction actions generalizing action with
  | nil =>
    show readElements registry [integerToken action.id.value, .closeBracket] = _
    rw [readElements, readAction_integerToken (known action List.mem_cons_self)]
    rfl
  | cons next actions inductionHypothesis =>
    show readElements registry (integerToken action.id.value :: .comma :: punctuated .closeBracket
      ((next :: actions).map fun element => [integerToken element.id.value])) = _
    rw [readElements, readAction_integerToken (known action List.mem_cons_self),
      inductionHypothesis next fun element member => known element (List.mem_cons_of_mem _ member)]
    rfl

theorem tokens_writeList (actions : List Action) :
    tokens (writeList actions) = .openBracket :: punctuated .closeBracket
      (actions.map fun action => [integerToken action.id.value]) := by
  have close : EndsNumber [']'] := endsNumber_of_mark (by decide) []
  have closed : tokens [']'] = [.closeBracket] := by
    rw [tokens_of_next rfl, tokens_nil]
  have elements : tokens (separated (actions.map Action.wire) ++ [']']) = punctuated .closeBracket
      (actions.map fun action => [integerToken action.id.value]) :=
    tokens_separated (fun action _ ends => tokens_wire action ends) close closed actions
  rw [writeList, tokens_of_next rfl, elements]

/-- A text with the tokens of a list of registered actions is read as the list. -/
theorem decodeList_of_tokens {text : List Char} {actions : List Action}
    (known : ∀ action ∈ actions, registry.contains action.id = true)
    (read : tokens text = .openBracket :: punctuated .closeBracket
      (actions.map fun action => [integerToken action.id.value])) :
    decodeList registry text = .ok (actions.map registry.current) := by
  rw [decodeList, read]
  cases actions with
  | nil => rfl
  | cons action actions =>
    have elements := readElements_punctuated action actions known
    -- The decoder tells an empty list by its first token, so that token has to be seen.
    obtain ⟨behind, same⟩ := exists_punctuated_eq_cons .closeBracket
      (integerToken action.id.value) [] (actions.map fun action => [integerToken action.id.value])
    rw [List.map_cons, same] at elements ⊢
    show (readElements registry (integerToken action.id.value :: behind)).bind complete = _
    rw [elements]
    rfl

theorem decodeList_writeList (actions : List Action)
    (known : ∀ action ∈ actions, registry.contains action.id = true) :
    decodeList registry (writeList actions) = .ok (actions.map registry.current) :=
  decodeList_of_tokens known (tokens_writeList actions)

/-! ### Maps -/

/-- What a map from actions to integers of 64 signed bits lists: each action once, in ascending
order. -/
structure IsMap (members : List (Action × Int)) : Prop where
  ascending : members.Pairwise fun first second => first.1.order second.1 = .lt
  fits : ∀ member ∈ members,
    -9223372036854775808 ≤ member.2 ∧ member.2 ≤ 9223372036854775807

/-- The tokens of a written member. -/
def memberTokens (member : Action × Int) : List Token :=
  [.quoted member.1.wire, .colon, integerToken member.2]

theorem tokens_writeMember (member : Action × Int) {rest : List Char} (ends : EndsNumber rest) :
    tokens (writeMember member ++ rest) = memberTokens member ++ tokens rest := by
  have escaped : member.1.wire.flatMap escape = member.1.wire := flatMap_escape_signed _
  have split : writeMember member ++ rest =
      quote member.1.wire ++ ':' :: (Decimal.signed member.2 ++ rest) := by
    rw [writeMember, quote, escaped]
    simp
  rw [split, tokens_quote, escaped, tokens_of_next rfl, tokens_signed member.2 ends]
  rfl

theorem readPairs_punctuated (member : Action × Int) (members : List (Action × Int))
    (known : ∀ pair ∈ member :: members, registry.contains pair.1.id = true)
    (fits : ∀ pair ∈ member :: members,
      -9223372036854775808 ≤ pair.2 ∧ pair.2 ≤ 9223372036854775807) :
    readPairs registry (punctuated .closeBrace ((member :: members).map memberTokens)) =
      .ok ((member :: members).map fun pair => (registry.current pair.1, pair.2), []) := by
  induction members generalizing member with
  | nil =>
    show readPairs registry
      [.quoted member.1.wire, .colon, integerToken member.2, .closeBrace] = _
    rw [readPairs, readKey_wire (known member List.mem_cons_self),
      readInt64_integerToken (fits member List.mem_cons_self)]
    rfl
  | cons next members inductionHypothesis =>
    have others := inductionHypothesis next
      (fun pair present => known pair (List.mem_cons_of_mem _ present))
      fun pair present => fits pair (List.mem_cons_of_mem _ present)
    show readPairs registry (.quoted member.1.wire :: .colon :: integerToken member.2 :: .comma ::
      punctuated .closeBrace ((next :: members).map memberTokens)) = _
    rw [readPairs, readKey_wire (known member List.mem_cons_self),
      readInt64_integerToken (fits member List.mem_cons_self), others]
    rfl

theorem order_eq_lt_iff {first second : Action} :
    first.order second = .lt ↔ first.id.value < second.id.value :=
  compare_lt_iff_lt

theorem assign_of_greater {action : Action} {value : Int} {map : List (Action × Int)}
    (greater : ∀ member ∈ map, member.1.order action = .lt) :
    assign action value map = map ++ [(action, value)] := by
  induction map with
  | nil => rfl
  | cons member rest inductionHypothesis =>
    have behind : action.order member.1 = .gt :=
      compare_gt_iff_gt.2 (order_eq_lt_iff.1 (greater member List.mem_cons_self))
    rw [assign, behind]
    exact congrArg (member :: ·)
      (inductionHypothesis fun pair present => greater pair (List.mem_cons_of_mem _ present))

/-- Members in ascending order make the map that lists them. -/
theorem ordered_of_ascending {members : List (Action × Int)}
    (ascending : members.Pairwise fun first second => first.1.order second.1 = .lt) :
    ordered members = members := by
  -- The last member is put in last, and behind all others.
  induction members using List.reverseRecOn with
  | nil => rfl
  | append_singleton members last inductionHypothesis =>
    obtain ⟨before, -, greater⟩ := List.pairwise_append.1 ascending
    have front : members.foldl (fun map member => assign member.1 member.2 map) [] = members :=
      inductionHypothesis before
    rw [ordered, List.foldl_append, front]
    exact assign_of_greater fun member present => greater member present last List.mem_cons_self

theorem tokens_writeMap (members : List (Action × Int)) :
    tokens (writeMap members) =
      .openBrace :: punctuated .closeBrace (members.map memberTokens) := by
  have close : EndsNumber ['\x7d'] := endsNumber_of_mark (by decide) []
  have closed : tokens ['\x7d'] = [.closeBrace] := by
    rw [tokens_of_next rfl, tokens_nil]
  rw [writeMap, tokens_of_next rfl,
    tokens_separated (fun member _ ends => tokens_writeMember member ends) close closed members]

/-- The current names change no identifier, so the members keep their order. -/
theorem IsMap.current {members : List (Action × Int)} (map : IsMap members)
    (reflects : registry.Reflects history)
    (known : ∀ member ∈ members, registry.contains member.1.id = true) :
    IsMap (members.map fun member => (registry.current member.1, member.2)) where
  ascending := by
    refine List.pairwise_map.2 (map.ascending.imp_of_mem fun first second less => ?_)
    rw [order_eq_lt_iff] at less ⊢
    rw [reflects.id_current (known _ first), reflects.id_current (known _ second)]
    exact less
  fits := List.forall_mem_map.2 map.fits

/-- A text with the tokens of members under registered actions is read as the ordered map of the
members. -/
theorem decodeMap_of_tokens {text : List Char} {members : List (Action × Int)}
    (known : ∀ member ∈ members, registry.contains member.1.id = true)
    (fits : ∀ member ∈ members,
      -9223372036854775808 ≤ member.2 ∧ member.2 ≤ 9223372036854775807)
    (read : tokens text = .openBrace :: punctuated .closeBrace (members.map memberTokens)) :
    decodeMap registry text =
      .ok (ordered (members.map fun member => (registry.current member.1, member.2))) := by
  rw [decodeMap, read]
  cases members with
  | nil => rfl
  | cons member members =>
    have pairs := readPairs_punctuated member members known fits
    obtain ⟨behind, same⟩ := exists_punctuated_eq_cons .closeBrace (.quoted member.1.wire)
      [.colon, integerToken member.2] (members.map memberTokens)
    rw [List.map_cons, memberTokens, same] at pairs ⊢
    show (readPairs registry (.quoted member.1.wire :: behind)).bind _ = _
    rw [pairs]
    rfl

theorem decodeMap_writeMap (reflects : registry.Reflects history) {members : List (Action × Int)}
    (map : IsMap members) (known : ∀ member ∈ members, registry.contains member.1.id = true) :
    decodeMap registry (writeMap members) =
      .ok (members.map fun member => (registry.current member.1, member.2)) := by
  rw [decodeMap_of_tokens known map.fits (tokens_writeMap members),
    ordered_of_ascending (map.current reflects known).ascending]

/-! ### Notifications -/

theorem tokens_wire_notification (notification : Notification) :
    tokens notification.wire =
      [.openBrace, .quoted ("path".toList.flatMap escape), .colon,
        .quoted (notification.path.toList.flatMap escape), .comma,
        .quoted ("action".toList.flatMap escape), .colon,
        integerToken notification.action.id.value, .closeBrace] := by
  have close : EndsNumber ['\x7d'] := endsNumber_of_mark (by decide) []
  rw [Notification.wire, tokens_of_next rfl, tokens_quote, tokens_of_next rfl, tokens_quote,
    tokens_of_next rfl, tokens_quote, tokens_of_next rfl, tokens_wire _ close,
    tokens_of_next rfl, tokens_nil]

theorem readMember_path (path : String) (rest : List Token) :
    readMember (notificationReader registry) {} "path"
        (.colon :: .quoted (path.toList.flatMap escape) :: rest) =
      .ok ({ path := some path }, rest) := by
  rw [readMember, notificationReader, if_pos rfl]
  simp only [Option.isSome_none, Bool.false_eq_true, if_false, readText_quoted]
  rfl

theorem readMember_action (known : registry.contains action.id = true)
    (fields : PartialNotification) (missing : fields.action = none) (rest : List Token) :
    readMember (notificationReader registry) fields "action"
        (.colon :: integerToken action.id.value :: rest) =
      .ok ({ fields with action := some (registry.current action) }, rest) := by
  have other : ¬ "action" = "path" := by decide
  rw [readMember, notificationReader, if_neg other, if_pos rfl]
  simp only [missing, Option.isSome_none, Bool.false_eq_true, if_false,
    readAction_integerToken known]
  rfl

theorem decodeNotification_wire (path : String)
    (known : registry.contains action.id = true) :
    decodeNotification registry (Notification.wire ⟨path, action⟩) =
      .ok ⟨path, registry.current action⟩ := by
  have pathKey : key? (.quoted ("path".toList.flatMap escape)) = some "path" :=
    denoted?_escape "path"
  have actionKey : key? (.quoted ("action".toList.flatMap escape)) = some "action" :=
    denoted?_escape "action"
  rw [decodeNotification, tokens_wire_notification]
  simp only [readObject]
  rw [readMembers_cons _ _ pathKey, readMember_path]
  simp only [Except.bind]
  rw [readMembers_cons _ _ actionKey, readMember_action known _ rfl]
  rfl

/-! ### The rule -/

/-- What was written of registered actions is read back, with the same identifiers in the same
places and with the names that the registry has for them. -/
structure RoundTrips (registry : Registry) : Prop where
  current : ∀ action : Action, registry.contains action.id = true →
    registry.actionUnder action.id = some (registry.current action) ∧
      (registry.current action).same action = true
  action : ∀ action : Action, registry.contains action.id = true →
    decodeAction registry action.wire = .ok (registry.current action)
  optional : ∀ value : Option Action,
    (∀ action, value = some action → registry.contains action.id = true) →
      decodeOptional registry (writeOptional value) = .ok (value.map registry.current)
  list : ∀ actions : List Action, (∀ action ∈ actions, registry.contains action.id = true) →
    decodeList registry (writeList actions) = .ok (actions.map registry.current)
  map : ∀ members, IsMap members →
    (∀ member ∈ members, registry.contains member.1.id = true) →
      decodeMap registry (writeMap members) =
        .ok (members.map fun member => (registry.current member.1, member.2))
  notification : ∀ (path : String) (action : Action), registry.contains action.id = true →
    decodeNotification registry (Notification.wire ⟨path, action⟩) =
      .ok ⟨path, registry.current action⟩

theorem roundTrips_of_reflects (reflects : registry.Reflects history) : RoundTrips registry where
  current _ known :=
    ⟨Registry.actionUnder_eq_current known, decide_eq_true (reflects.id_current known)⟩
  action _ known := decodeAction_wire known
  optional value known := decodeOptional_writeOptional registry value known
  list actions known := decodeList_writeList actions known
  map _ map known := decodeMap_writeMap reflects map known
  notification path _ known := decodeNotification_wire path known

end Wire

/-- The shared registry comes about in every environment, and at every moment it reads back through
each of its handles what was written of actions that are registered then, whenever these actions
were obtained and whatever they were called. -/
theorem registered_actions_round_trip (environment : Environment) :
    ∃ origin records, Registry.shared environment = .ok (origin, records) ∧
      Registry.Made origin Catalog.actions ∧
        ∀ uses handle registry,
          ((Handles.ofRegistry origin).after uses).view? handle = some registry →
            Wire.RoundTrips registry := by
  obtain ⟨origin, records, started, made⟩ := Registry.exists_shared environment
  refine ⟨origin, records, started, made, fun uses handle registry seen => ?_⟩
  exact Wire.roundTrips_of_reflects (Handles.reflects_written made.reflects seen)

/-- An action that was renamed after it had been obtained is read back with its new name. -/
theorem registered_actions_round_trip_after_renaming :
    ∃ origin records registry,
      Registry.shared { policy := .text "strict" } = .ok (origin, records) ∧
      ((Handles.ofRegistry origin).after
        [.call 0 (.register ⟨{ value := -3 }, "late"⟩)]).view? 0 = some registry ∧
      Wire.decodeAction registry ['-', '3'] = .ok ⟨{ value := -3 }, "late"⟩ ∧
      Wire.decodeOptional registry ['n', 'u', 'l', 'l'] = .ok none ∧
      Wire.decodeList registry ['[', '-', '3', ',', '-', '3', ']'] =
        .ok [⟨{ value := -3 }, "late"⟩, ⟨{ value := -3 }, "late"⟩] ∧
      Wire.decodeMap registry (Wire.writeMap
          [(⟨{ value := -3 }, "commit_completed"⟩, -9223372036854775808)]) =
        .ok [(⟨{ value := -3 }, "late"⟩, -9223372036854775808)] ∧
      Wire.decodeNotification registry
          (Notification.wire ⟨"a\"\n", ⟨{ value := -3 }, "commit_completed"⟩⟩) =
        .ok ⟨"a\"\n", ⟨{ value := -3 }, "late"⟩⟩ := by
  obtain ⟨origin, records, started, -, all⟩ :=
    registered_actions_round_trip { policy := .text "strict" }
  let registry := (origin.register ⟨{ value := -3 }, "late"⟩).registry
  have trips : Wire.RoundTrips registry :=
    all [.call 0 (.register ⟨{ value := -3 }, "late"⟩)] 0 registry rfl
  have known : registry.contains { value := -3 } = true := Registry.contains_register origin _
  have renamed : ∀ name, registry.current ⟨{ value := -3 }, name⟩ = ⟨{ value := -3 }, "late"⟩ :=
    fun name => Registry.current_register origin ⟨{ value := -3 }, "late"⟩ rfl
  have single : Wire.IsMap [(⟨{ value := -3 }, "commit_completed"⟩, -9223372036854775808)] :=
    ⟨List.pairwise_singleton _ _, by decide⟩
  refine ⟨origin, records, registry, started, rfl, ?_, ?_, ?_, ?_, ?_⟩
  · rw [← renamed "commit_completed"]
    exact trips.action ⟨{ value := -3 }, "commit_completed"⟩ known
  · exact trips.optional none fun _ missing => by cases missing
  · have read := trips.list [⟨{ value := -3 }, "commit_completed"⟩, ⟨{ value := -3 }, ""⟩]
      (List.forall_mem_cons.2 ⟨known, List.forall_mem_singleton.2 known⟩)
    rw [List.map_cons, List.map_singleton, renamed, renamed] at read
    exact read
  · have read := trips.map _ single (List.forall_mem_singleton.2 known)
    rw [List.map_singleton, renamed] at read
    exact read
  · rw [← renamed "commit_completed"]
    exact trips.notification "a\"\n" ⟨{ value := -3 }, "commit_completed"⟩ known

end ActionDirectory
