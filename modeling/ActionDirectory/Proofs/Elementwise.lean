/-
Lists and maps of identifiers, with whatever blanks the text has. A decoder goes through the
elements of a list and the members of a map from left to right and asks for one identifier after
the other. So it succeeds exactly if all of them are registered, and else the first one that is not
is the reason, whatever stands behind it in the text. A list gives an action for each of its
elements. A map gives one member for each identifier, and of several values of an identifier the
last one counts.
-/

import ActionDirectory.Proofs.OrderedMap
import ActionDirectory.Proofs.SpacedText

namespace ActionDirectory

open Json

/-! ### Held actions -/

namespace Registry

variable {registry : Registry} {history : List Action} {id : Id}

/-- The action that a registry has under an identifier. If there is none it does not matter which
one it is. -/
def held (registry : Registry) (id : Id) : Action :=
  registry.current ⟨id, ""⟩

theorem actionUnder_eq_held (known : registry.contains id = true) :
    registry.actionUnder id = some (registry.held id) :=
  @actionUnder_eq_current registry ⟨id, ""⟩ known

theorem Reflects.id_held (reflects : registry.Reflects history)
    (known : registry.contains id = true) : (registry.held id).id = id :=
  @Reflects.id_current registry history ⟨id, ""⟩ reflects known

end Registry

namespace Wire

variable {registry : Registry} {history : List Action} {frame : Frame}

/-! ### Registered and free identifiers -/

theorem resolve_of_known {id : Id} (known : registry.contains id = true) :
    resolve registry id = .ok (registry.held id) :=
  @resolve_id registry ⟨id, ""⟩ known

theorem resolve_of_free {id : Id} (free : registry.contains id = false) :
    resolve registry id = .error (.data (.failed (.unknownId id))) := by
  have missing : registry.lookup id = none := by
    rwa [Registry.contains, Option.isSome_eq_false_iff, Option.isNone_iff_eq_none] at free
  rw [resolve, Registry.require, missing]

/-- All items have registered identifiers, or there is a first one that has not. -/
theorem known_or_first_free {Item : Type} (registry : Registry) (id : Item → Id)
    (items : List Item) :
    (∀ item ∈ items, registry.contains (id item) = true) ∨
      ∃ front free others, items = front ++ free :: others ∧
        (∀ item ∈ front, registry.contains (id item) = true) ∧
          registry.contains (id free) = false := by
  cases found : items.find? fun item => !registry.contains (id item) with
  | none =>
    refine Or.inl fun item member => ?_
    simpa using List.find?_eq_none.1 found item member
  | some free =>
    obtain ⟨missing, front, others, split, known⟩ := List.find?_eq_some_iff_append.1 found
    refine Or.inr ⟨front, free, others, split, fun item member => ?_, by simpa using missing⟩
    simpa using known item member

/-! ### Lists -/

theorem readElements_of_refused {token : Token} {refusal : Refusal}
    (refused : readAction registry token = .error refusal) (behind : List Token) :
    readElements registry (token :: behind) = .error refusal := by
  unfold readElements
  split
  case h_1 same => cases same
  all_goals
    rename_i same
    cases same
    rw [refused]
    rfl

/-- The first element that is not registered is the reason, whatever texts stand behind it. -/
theorem readElements_of_free {front : List (Spaced Id)} {free : Spaced Id}
    (known : ∀ element ∈ front, registry.contains element.item = true)
    (missing : registry.contains free.item = false) (others : List (List Char))
    (tail : List Char) :
    readElements registry
        (tokens (separated (front.map elementText ++ elementText free :: others) ++ ']' :: tail)) =
      .error (.data (.failed (.unknownId free.item))) := by
  have closes : ']' ∈ [',', ']', '\x7d'] := by decide
  -- The elements in front are read one by one until the free one is the first that is left.
  induction front with
  | nil =>
    obtain ⟨rest, ends, split⟩ := exists_separated_cons closes (elementText free) others tail
    rw [List.map_nil, List.nil_append, split, tokens_elementText free ends]
    refine readElements_of_refused ?_ _
    rw [readAction_integer, resolve_of_free missing]
  | cons element front inductionHypothesis =>
    have now := known element List.mem_cons_self
    have later := inductionHypothesis fun item member => known item (List.mem_cons_of_mem _ member)
    have comma : EndsNumber (',' :: (separated (front.map elementText ++ elementText free :: others)
        ++ ']' :: tail)) := endsNumber_of_mark (by decide) _
    rw [List.map_cons, List.cons_append, separated_cons_append, List.append_assoc,
      List.cons_append, tokens_elementText element comma, tokens_of_next rfl, readElements, later,
      readAction_integer, resolve_of_known now]
    rfl

/-- A reason to refuse the elements is one to refuse the list. The list is not taken for an empty
one, since a closing mark is no element. -/
theorem decodeList_of_refused {text : List Char} {elements : List Token} {reason : Reason}
    (read : tokens text = .openBracket :: elements)
    (refused : readElements registry elements = .error (.data reason)) :
    decodeList registry text = .error (.data reason) := by
  rw [decodeList, read]
  split
  next same => cases same
  next same =>
    cases same
    have malformed : readAction registry .closeBracket = .error .malformed := rfl
    rw [readElements_of_refused malformed] at refused
    cases refused
  next same =>
    cases same
    rw [refused]
    rfl
  next notOpen same =>
    cases same
    exact (notOpen rfl).elim

theorem decodeList_of_free {front : List (Spaced Id)} {free : Spaced Id}
    (known : ∀ element ∈ front, registry.contains element.item = true)
    (missing : registry.contains free.item = false) (others : List (List Char)) :
    decodeList registry (frame.text '[' ']' (front.map elementText ++ elementText free :: others)) =
      .error (.data (.failed (.unknownId free.item))) :=
  decodeList_of_refused (tokens_frame (fun _ => rfl) _)
    (readElements_of_free known missing others frame.behind.text)

theorem decodeList_of_known {elements : List (Spaced Id)}
    (known : ∀ element ∈ elements, registry.contains element.item = true) :
    decodeList registry (frame.text '[' ']' (elements.map elementText)) =
      .ok (elements.map fun element => registry.held element.item) := by
  have read : tokens (separated (elements.map elementText) ++ ']' :: frame.behind.text) =
      punctuated .closeBracket (elements.map fun element => [integerToken element.item.value]) :=
    tokens_separated (fun element _ ends => tokens_elementText element ends)
      (endsNumber_of_mark (by decide) _) (tokens_frame_end fun _ => rfl) elements
  have knownActions : ∀ action ∈ elements.map fun element => (⟨element.item, ""⟩ : Action),
      registry.contains action.id = true := List.forall_mem_map.2 known
  refine (decodeList_of_tokens knownActions ?_).trans ?_
  · rw [tokens_frame fun _ => rfl, read, List.map_map]
    rfl
  · rw [List.map_map]
    rfl

theorem exists_decodeList_iff {elements : List (Spaced Id)} :
    (∃ actions, decodeList registry (frame.text '[' ']' (elements.map elementText)) =
        .ok actions) ↔
      ∀ element ∈ elements, registry.contains element.item = true := by
  refine ⟨?_, fun known => ⟨_, decodeList_of_known known⟩⟩
  rintro ⟨actions, decoded⟩
  rcases known_or_first_free registry Spaced.item elements with
    known | ⟨front, free, others, rfl, known, missing⟩
  · exact known
  · rw [List.map_append, List.map_cons, decodeList_of_free known missing] at decoded
    cases decoded

theorem decodeList_eq_ok_iff {elements : List (Spaced Id)} {actions : List Action} :
    decodeList registry (frame.text '[' ']' (elements.map elementText)) = .ok actions ↔
      elements.map (fun element => registry.actionUnder element.item) = actions.map some := by
  have image : (∀ element ∈ elements, registry.contains element.item = true) →
      elements.map (fun element => registry.actionUnder element.item) =
        (elements.map fun element => registry.held element.item).map some := by
    intro known
    rw [List.map_map]
    exact List.map_congr_left fun element member =>
      Registry.actionUnder_eq_held (known element member)
  constructor
  · intro decoded
    have known := exists_decodeList_iff.1 ⟨actions, decoded⟩
    rw [decodeList_of_known known] at decoded
    cases decoded
    exact image known
  · intro same
    have known : ∀ element ∈ elements, registry.contains element.item = true := by
      intro element member
      have listed : registry.actionUnder element.item ∈ actions.map some :=
        same ▸ List.mem_map_of_mem member
      obtain ⟨action, -, found⟩ := List.mem_map.1 listed
      rw [Registry.contains_eq_isSome, ← found]
      rfl
    rw [decodeList_of_known known]
    rw [image known] at same
    exact congrArg Except.ok (List.map_injective_iff.2 (Option.some_injective _) same)

/-! ### Maps -/

theorem readPairs_of_refused {key : Token} {refusal : Refusal}
    (refused : readKey registry key = .error refusal) (behind : List Token) :
    readPairs registry (key :: behind) = .error refusal := by
  unfold readPairs
  split
  case h_1 same => cases same
  all_goals
    rename_i same
    cases same
    rw [refused]
    rfl

/-- The first key that is not registered is the reason, whatever stands behind it. -/
theorem readPairs_of_free {front : List KeyedValue} {free : Spaced Id}
    (known : ∀ member ∈ front, registry.contains member.key.item = true)
    (missing : registry.contains free.item = false) (behind : List Char)
    (others : List (List Char)) (tail : List Char) :
    readPairs registry (tokens (separated
        (front.map KeyedValue.text ++ (keyText free ++ behind) :: others) ++ '\x7d' :: tail)) =
      .error (.data (.failed (.unknownId free.item))) := by
  have closes : '\x7d' ∈ [',', ']', '\x7d'] := by decide
  induction front with
  | nil =>
    obtain ⟨rest, -, split⟩ := exists_separated_cons closes (keyText free ++ behind) others tail
    rw [List.map_nil, List.nil_append, split, List.append_assoc, tokens_keyText]
    refine readPairs_of_refused ?_ _
    rw [readKey_quoted, resolve_of_free missing]
  | cons member front inductionHypothesis =>
    have now := known member List.mem_cons_self
    have later := inductionHypothesis fun item present =>
      known item (List.mem_cons_of_mem _ present)
    have comma : EndsNumber (',' :: (separated (front.map KeyedValue.text ++
        (keyText free ++ behind) :: others) ++ '\x7d' :: tail)) :=
      endsNumber_of_mark (by decide) _
    rw [List.map_cons, List.cons_append, separated_cons_append, List.append_assoc,
      List.cons_append, tokens_memberText member comma, tokens_of_next rfl]
    show readPairs registry (.quoted (Decimal.signed member.key.item.value) :: .colon ::
      integerToken member.value.item :: .comma :: _) = _
    rw [readPairs, later, readKey_quoted, resolve_of_known now,
      readInt64_integerToken member.fits]
    rfl

theorem decodeMap_of_refused {text : List Char} {members : List Token} {reason : Reason}
    (read : tokens text = .openBrace :: members)
    (refused : readPairs registry members = .error (.data reason)) :
    decodeMap registry text = .error (.data reason) := by
  rw [decodeMap, read]
  split
  next same => cases same
  next same =>
    cases same
    have malformed : readKey registry .closeBrace = .error .malformed := rfl
    rw [readPairs_of_refused malformed] at refused
    cases refused
  next same =>
    cases same
    rw [refused]
    rfl
  next notOpen same =>
    cases same
    exact (notOpen rfl).elim

theorem decodeMap_of_free {front : List KeyedValue} {free : Spaced Id}
    (known : ∀ member ∈ front, registry.contains member.key.item = true)
    (missing : registry.contains free.item = false) (behind : List Char)
    (others : List (List Char)) :
    decodeMap registry (frame.text '\x7b' '\x7d'
        (front.map KeyedValue.text ++ (keyText free ++ behind) :: others)) =
      .error (.data (.failed (.unknownId free.item))) :=
  decodeMap_of_refused (tokens_frame (fun _ => rfl) _)
    (readPairs_of_free known missing behind others frame.behind.text)

/-- The members that a map is made from, in the order of the text. -/
def pairs (registry : Registry) (members : List KeyedValue) : List (Action × Int) :=
  members.map fun member => (registry.held member.key.item, member.value.item)

theorem decodeMap_of_known {members : List KeyedValue}
    (known : ∀ member ∈ members, registry.contains member.key.item = true) :
    decodeMap registry (frame.text '\x7b' '\x7d' (members.map KeyedValue.text)) =
      .ok (ordered (pairs registry members)) := by
  have read : tokens (separated (members.map KeyedValue.text) ++ '\x7d' :: frame.behind.text) =
      punctuated .closeBrace (members.map fun member =>
        memberTokens (⟨member.key.item, ""⟩, member.value.item)) :=
    tokens_separated (fun member _ ends => tokens_memberText member ends)
      (endsNumber_of_mark (by decide) _) (tokens_frame_end fun _ => rfl) members
  have knownPairs : ∀ pair ∈ members.map fun member =>
      ((⟨member.key.item, ""⟩, member.value.item) : Action × Int),
      registry.contains pair.1.id = true := List.forall_mem_map.2 known
  refine (decodeMap_of_tokens knownPairs ?_ ?_).trans ?_
  · exact List.forall_mem_map.2 fun member _ => member.fits
  · rw [tokens_frame fun _ => rfl, read, List.map_map]
    rfl
  · rw [List.map_map]
    rfl

theorem exists_decodeMap_iff {members : List KeyedValue} :
    (∃ map, decodeMap registry (frame.text '\x7b' '\x7d' (members.map KeyedValue.text)) = .ok map) ↔
      ∀ member ∈ members, registry.contains member.key.item = true := by
  refine ⟨?_, fun known => ⟨_, decodeMap_of_known known⟩⟩
  rintro ⟨map, decoded⟩
  rcases known_or_first_free registry (fun member => member.key.item) members with
    known | ⟨front, free, others, rfl, known, missing⟩
  · exact known
  · rw [List.map_append, List.map_cons, KeyedValue.text, decodeMap_of_free known missing] at decoded
    cases decoded

/-- A map has one member for each identifier in ascending order. Its value is the one of the last
member with the identifier. -/
structure KeepsLast (registry : Registry) (members : List KeyedValue) (map : List (Action × Int)) :
    Prop where
  ascends : Ascends map
  keys : ∀ id, (∃ pair ∈ map, pair.1.id = id) ↔ ∃ member ∈ members, member.key.item = id
  values : ∀ action value, (action, value) ∈ map ↔
    ∃ before member after, members = before ++ member :: after ∧
      registry.actionUnder member.key.item = some action ∧ member.value.item = value ∧
        ∀ later ∈ after, later.key.item ≠ member.key.item

section Known

variable {members : List KeyedValue} {action : Action} {value : Int}
  (reflects : registry.Reflects history)
  (known : ∀ member ∈ members, registry.contains member.key.item = true)

include reflects known

theorem mem_ordered_pairs_iff :
    (action, value) ∈ ordered (pairs registry members) ↔
      ∃ before member after, members = before ++ member :: after ∧
        registry.actionUnder member.key.item = some action ∧ member.value.item = value ∧
          ∀ later ∈ after, later.key.item ≠ member.key.item := by
  have coherent : ∀ first ∈ pairs registry members, ∀ second ∈ pairs registry members,
      first.1.id = second.1.id → first.1 = second.1 := by
    refine List.forall_mem_map.2 fun first firstIn => List.forall_mem_map.2 ?_
    intro second secondIn same
    rw [reflects.id_held (known first firstIn), reflects.id_held (known second secondIn)] at same
    exact congrArg registry.held same
  rw [mem_ordered_iff coherent]
  -- A split of the pairs comes from a split of the members, since the registry keeps identifiers.
  constructor
  · rintro ⟨before, after, split, others⟩
    obtain ⟨front, rest, rfl, rfl, pairsRest⟩ := List.map_eq_append_iff.1 split
    obtain ⟨member, behind, rfl, same, rfl⟩ := List.map_eq_cons_iff.1 pairsRest
    cases same
    have knownMember := known member (List.mem_append_right _ List.mem_cons_self)
    refine ⟨front, member, behind, rfl, Registry.actionUnder_eq_held knownMember, rfl, ?_⟩
    intro later present same
    exact others _ (List.mem_map_of_mem present) (by rw [same])
  · rintro ⟨before, member, after, rfl, under, rfl, others⟩
    have knownMember := known member (List.mem_append_right _ List.mem_cons_self)
    rw [Registry.actionUnder_eq_held knownMember] at under
    cases under
    refine ⟨pairs registry before, pairs registry after, List.map_append, ?_⟩
    refine List.forall_mem_map.2 fun later present same => others later present ?_
    have knownLater := known later
      (List.mem_append_right _ (List.mem_cons_of_mem _ present))
    rwa [reflects.id_held knownLater, reflects.id_held knownMember] at same

theorem keepsLast_ordered : KeepsLast registry members (ordered (pairs registry members)) where
  ascends := ascends_ordered _
  keys id := by
    constructor
    · rintro ⟨⟨action, value⟩, present, rfl⟩
      obtain ⟨before, member, after, rfl, under, -, -⟩ :=
        (mem_ordered_pairs_iff reflects known).1 present
      exact ⟨member, List.mem_append_right _ List.mem_cons_self,
        (reflects.actionUnder_eq_some_iff.1 under).2.symm⟩
    · rintro ⟨member, present, rfl⟩
      rcases absent_or_split members fun other => other.key.item = member.key.item with
        absent | ⟨before, last, after, rfl, same, others⟩
      · exact absurd rfl (absent member present)
      · have knownLast := known last (List.mem_append_right _ List.mem_cons_self)
        refine ⟨(registry.held last.key.item, last.value.item), ?_,
          (reflects.id_held knownLast).trans same⟩
        refine (mem_ordered_pairs_iff reflects known).2 ⟨before, last, after, rfl,
          Registry.actionUnder_eq_held knownLast, rfl, fun later behind equal => ?_⟩
        exact others later behind (equal.trans same)
  values _ _ := mem_ordered_pairs_iff reflects known

end Known

/-! ### The rule -/

/-- Lists and maps of identifiers are read in the order of their texts. They are accepted if all
identifiers are registered, and else refused for the first one that is not, whatever stands behind
it: the further elements and members may be any texts, and so may what follows a refused key. -/
structure ReadsInOrder (registry : Registry) : Prop where
  listAccepted : ∀ (frame : Frame) (elements : List (Spaced Id)),
    (∃ actions, decodeList registry (frame.text '[' ']' (elements.map elementText)) =
        .ok actions) ↔
      ∀ element ∈ elements, registry.contains element.item = true
  list : ∀ (frame : Frame) (elements : List (Spaced Id)) actions,
    decodeList registry (frame.text '[' ']' (elements.map elementText)) = .ok actions ↔
      elements.map (fun element => registry.actionUnder element.item) = actions.map some
  listRefused : ∀ (frame : Frame) (front : List (Spaced Id)) (free : Spaced Id) others,
    (∀ element ∈ front, registry.contains element.item = true) →
    registry.contains free.item = false →
      decodeList registry
          (frame.text '[' ']' (front.map elementText ++ elementText free :: others)) =
        .error (.data (.failed (.unknownId free.item)))
  mapAccepted : ∀ (frame : Frame) (members : List KeyedValue),
    (∃ map, decodeMap registry (frame.text '\x7b' '\x7d' (members.map KeyedValue.text)) = .ok map) ↔
      ∀ member ∈ members, registry.contains member.key.item = true
  map : ∀ (frame : Frame) (members : List KeyedValue) map,
    decodeMap registry (frame.text '\x7b' '\x7d' (members.map KeyedValue.text)) = .ok map →
      KeepsLast registry members map
  mapRefused : ∀ (frame : Frame) (front : List KeyedValue) (free : Spaced Id) behind others,
    (∀ member ∈ front, registry.contains member.key.item = true) →
    registry.contains free.item = false →
      decodeMap registry (frame.text '\x7b' '\x7d'
          (front.map KeyedValue.text ++ (keyText free ++ behind) :: others)) =
        .error (.data (.failed (.unknownId free.item)))

theorem readsInOrder_of_reflects (reflects : registry.Reflects history) :
    ReadsInOrder registry where
  listAccepted _ _ := exists_decodeList_iff
  list _ _ _ := decodeList_eq_ok_iff
  listRefused _ _ _ others known missing := decodeList_of_free known missing others
  mapAccepted _ _ := exists_decodeMap_iff
  map _ members map decoded := by
    have known := exists_decodeMap_iff.1 ⟨map, decoded⟩
    rw [decodeMap_of_known known] at decoded
    cases decoded
    exact keepsLast_ordered reflects known
  mapRefused _ _ _ behind others known missing := decodeMap_of_free known missing behind others

end Wire

/-- The shared registry comes about in every environment, and at every moment lists and maps of
identifiers are read from each of its handles in the order of their texts. The reason for which one
is refused is displayed as the failure to find the identifier. -/
theorem identifiers_are_read_in_order (environment : Environment) :
    ∃ origin records, Registry.shared environment = .ok (origin, records) ∧
      Registry.Made origin Catalog.actions ∧
        (∀ uses handle registry,
          ((Handles.ofRegistry origin).after uses).view? handle = some registry →
            Wire.ReadsInOrder registry) ∧
        ∀ id, (Wire.Reason.failed (.unknownId id)).message =
          "unknown event action id: " ++ Id.text id := by
  obtain ⟨origin, records, started, made⟩ := Registry.exists_shared environment
  refine ⟨origin, records, started, made, fun uses handle registry seen => ?_, fun id => rfl⟩
  exact Wire.readsInOrder_of_reflects (Handles.reflects_written made.reflects seen)

/-- A renamed action is listed twice with blanks between, an identifier that is not registered is
the reason before a word that means nothing, and a repeated key has its last value. -/
theorem identifiers_are_read_in_order_after_renaming :
    ∃ origin records registry,
      Registry.shared { policy := .text "strict" } = .ok (origin, records) ∧
      ((Handles.ofRegistry origin).after
        [.call 0 (.register ⟨{ value := -3 }, "late"⟩)]).view? 0 = some registry ∧
      Wire.decodeList registry ['[', ' ', '-', '3', '\n', ',', '-', '3', ']'] =
        .ok [⟨{ value := -3 }, "late"⟩, ⟨{ value := -3 }, "late"⟩] ∧
      Wire.decodeList registry ['[', '-', '3', ',', '7', '3', ',', 'n', 'u', ']'] =
        .error (.data (.failed (.unknownId { value := 73 }))) ∧
      (∃ map, Wire.decodeMap registry ['\x7b', '"', '-', '3', '"', ':', '5', ',', '"', '-', '3',
          '"', ' ', ':', '-', '1', '\x7d'] = .ok map ∧
        Wire.Ascends map ∧ (⟨{ value := -3 }, "late"⟩, -1) ∈ map) ∧
      Wire.decodeMap registry ['\x7b', '"', '7', '3', '"', ':', ':', '\x7d'] =
        .error (.data (.failed (.unknownId { value := 73 }))) := by
  obtain ⟨origin, records, started, made, all, -⟩ :=
    identifiers_are_read_in_order { policy := .text "strict" }
  let registry := (origin.register ⟨{ value := -3 }, "late"⟩).registry
  have inOrder : Wire.ReadsInOrder registry :=
    all [.call 0 (.register ⟨{ value := -3 }, "late"⟩)] 0 registry rfl
  have reflects : registry.Reflects (Catalog.actions ++ [⟨{ value := -3 }, "late"⟩]) :=
    made.reflects.register _
  have under : registry.actionUnder { value := -3 } = some ⟨{ value := -3 }, "late"⟩ := by
    rw [Registry.actionUnder, Registry.lookup_register, if_pos rfl]
    rfl
  have known : registry.contains { value := -3 } = true := Registry.contains_register origin _
  have free : registry.contains { value := 73 } = false := by
    rw [Registry.contains, (reflects.lookup_eq_none_iff { value := 73 }).2 (by decide)]
    rfl
  refine ⟨origin, records, registry, started, rfl, ?_, ?_, ?_, ?_⟩
  · refine (inOrder.list {} [⟨⟨[' '], List.forall_mem_singleton.2 rfl⟩, { value := -3 },
      ⟨['\n'], List.forall_mem_singleton.2 rfl⟩⟩,
      { item := { value := -3 } }] _).2 ?_
    simp only [List.map_cons, List.map_nil, under]
  · exact inOrder.listRefused {} [{ item := { value := -3 } }] { item := { value := 73 } }
      [['n', 'u']] (List.forall_mem_singleton.2 known) free
  · let members : List Wire.KeyedValue :=
      [⟨{ item := { value := -3 } }, { item := 5 }, by decide⟩,
        ⟨⟨.none, { value := -3 }, ⟨[' '], List.forall_mem_singleton.2 rfl⟩⟩, { item := -1 },
          by decide⟩]
    obtain ⟨map, decoded⟩ := (inOrder.mapAccepted {} members).2
      (List.forall_mem_cons.2 ⟨known, List.forall_mem_singleton.2 known⟩)
    have keepsLast := inOrder.map {} members map decoded
    refine ⟨map, decoded, keepsLast.ascends, (keepsLast.values _ _).2 ?_⟩
    exact ⟨[_], _, [], rfl, under, rfl, fun later present => absurd present List.not_mem_nil⟩
  · exact inOrder.mapRefused {} [] { item := { value := 73 } } [':', ':'] []
      (fun member present => absurd present List.not_mem_nil) free

end ActionDirectory
