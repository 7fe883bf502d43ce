/-
Words for the policy. A policy can be given by a word alone, by a variable of the environment,
by a document of TOML and by an object of JSON. All four take the same words and make the same
policy of a word. If a word spells no policy, the environment is recorded as ignored, the two
texts are refused, and each of them quotes the word as it was given.

In a document and in an object other things stand beside the word. Nothing else decides the
policy, so what is read without the word differs from what is read with it in the policy only.
-/

import ActionDirectory.Proofs.JsonObject
import ActionDirectory.Proofs.TomlDocument
import ActionDirectory.Settings.Environment
import ActionDirectory.Settings.Toml

namespace ActionDirectory

open Json Wire Toml

/-! ### Failures of words -/

namespace Policy

variable {word : String}

theorem eq_invalid_of_ofWord {failure : Failure} (misspelled : ofWord word = .error failure) :
    failure = invalid word := by
  rw [ofWord] at misspelled
  split at misspelled
  next => cases misspelled
  next =>
    split at misspelled
    next => cases misspelled
    next => exact (Except.error.inj misspelled).symm

/-- The failure quotes the word as it was given. -/
theorem message_invalid (word : String) : (invalid word).message =
    "configuration error: Invalid duplicate policy '" ++ word ++
      "'. Must be one of: replace, reject" := by
  have front : "configuration error: " ++ "Invalid duplicate policy '" =
      "configuration error: Invalid duplicate policy '" := by decide +kernel
  show "configuration error: " ++ ("Invalid duplicate policy '" ++ word ++ _) = _
  rw [← String.append_assoc, ← String.append_assoc, front]

end Policy

namespace Settings

/-! ### Words among other things -/

/-- A text is read with a word for the policy: what the text stands for without the word is `rest`,
and nothing in front of the word is at fault if `clear` holds. -/
structure DecidedBy {Problem : Type} (word : String) (clear : Prop)
    (rest : Except Refusal Settings) (report : Refusal → Problem)
    (read : Except Problem Settings) : Prop where
  /-- The policy is the one that the word spells. -/
  taken : ∀ policy, Policy.ofWord word = .ok policy →
    read = (rest.map fun other => { other with policy }).mapError report
  /-- The text is refused, and for the word unless something in front of it is at fault. -/
  refused : ∀ failure, Policy.ofWord word = .error failure →
    ∃ refusal, read = .error (report refusal) ∧ (clear → refusal = .data (.failed failure))

/-- The policy of a word that stands in a text. -/
def policyOfWord (word : String) : Except Refusal Policy :=
  (Policy.ofWord word).mapError fun failure => .data (.failed failure)

/-- What is read in front of a word leads to the word, and that leads to what is behind it. -/
theorem DecidedBy.of_front {Problem State : Type} {word : String} {clear : Prop}
    {report : Refusal → Problem} {front : Except Refusal State}
    {behind : State → Except Refusal Settings} (begins : clear → ∃ state, front = .ok state) :
    DecidedBy word clear (front.bind behind) report
      ((front.bind fun state => (policyOfWord word).bind fun policy =>
        (behind state).map fun other => { other with policy }).mapError report) := by
  refine ⟨fun policy spelled => ?_, fun failure misspelled => ?_⟩
  · rw [policyOfWord, spelled]
    cases front with
    | error refusal => rfl
    | ok state => rfl
  · rw [policyOfWord, misspelled]
    cases front with
    | error refusal =>
      refine ⟨refusal, rfl, fun holds => ?_⟩
      obtain ⟨state, found⟩ := begins holds
      cases found
    | ok state => exact ⟨_, rfl, fun _ => rfl⟩

variable {word : String} {policy : Policy}

/-! ### Documents -/

theorem ofParts_append (settings : Settings) (before after : Parts) :
    ofParts settings (before ++ after) =
      (ofParts settings before).bind fun next => ofParts next after := by
  induction before generalizing settings with
  | nil => rfl
  | cons part before inductionHypothesis =>
    obtain ⟨key, node⟩ := part
    rw [List.cons_append, ofParts, ofParts]
    split
    next =>
      cases policyOf node with
      | error refusal => rfl
      | ok policy => exact inductionHypothesis _
    next =>
      split
      next =>
        cases flagOf node with
        | error refusal => rfl
        | ok flag => exact inductionHypothesis _
      next =>
        split
        next => exact inductionHypothesis _
        next => rfl

/-- Parts under other keys neither look at the policy nor change it. -/
theorem ofParts_with_policy {parts : Parts} (absent : ∀ part ∈ parts, part.1 ≠ policyKey)
    (settings : Settings) (policy : Policy) :
    ofParts { settings with policy } parts =
      (ofParts settings parts).map fun other => { other with policy } := by
  induction parts generalizing settings with
  | nil => rfl
  | cons part parts inductionHypothesis =>
    obtain ⟨key, node⟩ := part
    have other : key ≠ policyKey := absent (key, node) List.mem_cons_self
    have others := inductionHypothesis fun part later => absent part (List.mem_cons_of_mem _ later)
    rw [ofParts, ofParts, if_neg other, if_neg other]
    split
    next =>
      cases flagOf node with
      | error refusal => rfl
      | ok flag => exact others { settings with warnsOnOverwrite := flag }
    next =>
      split
      next => exact others settings
      next => rfl

/-- In front of the word, values are only passed over. -/
theorem ofParts_of_sound {parts : Parts}
    (absent : ∀ part ∈ parts, part.1 ≠ policyKey ∧ part.1 ≠ warningKey)
    (sound : Node.areSound parts = true) (settings : Settings) :
    ofParts settings parts = .ok settings := by
  induction parts with
  | nil => rfl
  | cons part parts inductionHypothesis =>
    obtain ⟨key, node⟩ := part
    rw [Node.areSound, Bool.and_eq_true] at sound
    obtain ⟨notPolicy, notWarning⟩ := absent (key, node) List.mem_cons_self
    rw [ofParts, if_neg notPolicy, if_neg notWarning, if_pos sound.1]
    exact inductionHypothesis (fun part member => absent part (List.mem_cons_of_mem _ member))
      sound.2

theorem areSound_append {before after : Parts} :
    Node.areSound (before ++ after) = (Node.areSound before && Node.areSound after) := by
  induction before with
  | nil => simp [Node.areSound]
  | cons part before inductionHypothesis =>
    rw [List.cons_append, Node.areSound, Node.areSound, inductionHypothesis, Bool.and_assoc]

theorem policyOf_string (word : String) : policyOf (.leaf (.string word)) = policyOfWord word := by
  rw [policyOf, policyOfWord]
  cases Policy.ofWord word with
  | error failure => rfl
  | ok policy => rfl

/-- A document whose policy is a word. -/
theorem decidedBy_ofToml {text : String} {parts : Parts}
    (document : document? text.toList = some parts)
    (given : Parts.get? parts policyKey = some (.leaf (.string word))) :
    DecidedBy word (Node.areSound parts = true) (ofParts {} (Parts.erase parts policyKey))
      tomlFailure (ofToml text) := by
  have ascends := ascending_of_document? document
  obtain ⟨before, after, rfl, absent⟩ := ascends.split_of_get? given
  have absentBefore : ∀ part ∈ before, part.1 ≠ policyKey := fun part member =>
    absent part (List.mem_append_left _ member)
  have absentAfter : ∀ part ∈ after, part.1 ≠ policyKey := fun part member =>
    absent part (List.mem_append_right _ member)
  -- The key of the warnings comes behind that of the policy.
  have notWarning : ∀ part ∈ before, part.1 ≠ warningKey := by
    intro part member same
    have less : part.1 < policyKey :=
      (List.pairwise_append.1 ascends).2.2 part member _ List.mem_cons_self
    rw [same] at less
    exact absurd less (by decide)
  have begins : Node.areSound (before ++ (policyKey, Node.leaf (.string word)) :: after) = true →
      ∃ state, ofParts {} before = .ok state := by
    intro sound
    rw [areSound_append, Bool.and_eq_true] at sound
    exact ⟨{}, ofParts_of_sound
      (fun part member => ⟨absentBefore part member, notWarning part member⟩) sound.1 {}⟩
  have whole : ofToml text = ((ofParts {} before).bind fun state =>
      (policyOfWord word).bind fun policy =>
        (ofParts state after).map fun other => { other with policy }).mapError tomlFailure := by
    rw [ofToml, readToml, document]
    show (ofParts {} _).mapError tomlFailure = _
    rw [ofParts_append]
    refine congrArg (Except.mapError tomlFailure) (congrArg _ (funext fun state => ?_))
    rw [ofParts, if_pos rfl, policyOf_string]
    exact congrArg _ (funext fun policy => ofParts_with_policy absentAfter state policy)
  rw [whole, Parts.erase_of_split absent, ofParts_append]
  exact DecidedBy.of_front begins

/-! ### Objects -/

theorem takesTokens_reader : Reader.TakesTokens reader := by
  intro fields key read token next handled taken
  have text : ∀ word, readText token = .ok word → Place.enter [] token = .done := by
    intro word found
    cases token with
    | quoted body => rfl
    | _ => cases found
  have flag : ∀ value, readFlag token = .ok value → Place.enter [] token = .done := by
    intro value found
    cases token with
    | boolean value => rfl
    | _ => cases found
  rw [reader] at handled
  split at handled
  next =>
    split at handled
    next => cases handled
    next =>
      cases handled
      obtain ⟨policy, spelled, -⟩ := exists_of_map_eq_ok taken
      obtain ⟨word, found, -⟩ := exists_of_bind_eq_ok spelled
      exact text word found
  next =>
    split at handled
    next =>
      split at handled
      next => cases handled
      next =>
        cases handled
        obtain ⟨value, found, -⟩ := exists_of_map_eq_ok taken
        exact flag value found
    next => cases handled

/-- The settings that the members of an object stand for. -/
def ofMembers (members : List Member) : Except Refusal Settings :=
  (takeMembers reader {} members).map Partial.whole

theorem ofJson_of_tokens {text : List Char} {members : List Member}
    (object : tokens text = objectTokens members) : ofJson text = ofMembers members := by
  rw [ofJson, object, objectTokens, ofMembers]
  show (readObject reader {} _).bind _ = _
  rw [readObject_punctuated takesTokens_reader]
  cases takeMembers reader {} members with
  | error refusal => rfl
  | ok found => rfl

/-- A member under another key neither looks at the policy nor changes it. -/
theorem takeMember_with_policy {member : Member} (other : member.key ≠ policyKey)
    (fields : Partial) (policy : Option Policy) :
    takeMember reader { fields with policy } member =
      (takeMember reader fields member).map fun found => { found with policy } := by
  obtain ⟨body, key, value, denotes, whole⟩ := member
  rw [takeMember, takeMember, readMember, readMember, reader, reader, if_neg other, if_neg other]
  by_cases warning : key = warningKey
  · rw [if_pos warning, if_pos warning]
    cases fields.warnsOnOverwrite with
    | some value => rfl
    | none =>
      cases value with
      | nil => cases whole
      | cons token rest =>
        show (((readFlag token).map _).map _).map _ = ((((readFlag token).map _).map _).map _).map _
        cases readFlag token with
        | error refusal => rfl
        | ok flag => rfl
  · rw [if_neg warning, if_neg warning]
    simp only [whole]
    rfl

theorem takeMembers_with_policy {members : List Member}
    (absent : ∀ member ∈ members, member.key ≠ policyKey) (fields : Partial)
    (policy : Option Policy) :
    takeMembers reader { fields with policy } members =
      (takeMembers reader fields members).map fun found => { found with policy } := by
  induction members generalizing fields with
  | nil => rfl
  | cons member members inductionHypothesis =>
    rw [takeMembers_cons, takeMembers_cons,
      takeMember_with_policy (absent member List.mem_cons_self)]
    cases takeMember reader fields member with
    | error refusal => rfl
    | ok next =>
      have others : ∀ other ∈ members, other.key ≠ policyKey := fun other later =>
        absent other (List.mem_cons_of_mem _ later)
      exact inductionHypothesis others next

/-- Members under other keys leave the policy as it is. -/
theorem policy_of_takeMembers {members : List Member} {fields found : Partial}
    (absent : ∀ member ∈ members, member.key ≠ policyKey)
    (taken : takeMembers reader fields members = .ok found) : found.policy = fields.policy := by
  have same := takeMembers_with_policy absent fields fields.policy
  rw [taken] at same
  have kept : found = { found with policy := fields.policy } := Except.ok.inj same
  rw [kept]

theorem readPolicy_quoted {body : List Char} {word : String} (denotes : denoted? body = some word) :
    readPolicy (.quoted body) = policyOfWord word := by
  rw [readPolicy, readText, denotes]
  exact policyOf_string word

theorem takeMember_policy {member : Member} (own : member.key = policyKey)
    (given : member.IsText word) {fields : Partial} (missing : fields.policy = none) :
    takeMember reader fields member =
      (policyOfWord word).map fun policy => { fields with policy := some policy } := by
  obtain ⟨body, value, denotes⟩ := given
  have handled : reader fields member.key = .take fun token =>
      (readPolicy token).map fun policy => { fields with policy := some policy } := by
    rw [reader, if_pos own, missing]
    rfl
  rw [takeMember_of_take handled value, readPolicy_quoted denotes]

/-- An object whose policy is a word. -/
theorem decidedBy_ofJson {text : List Char} {before after : List Member} {member : Member}
    (object : tokens text = objectTokens (before ++ member :: after))
    (own : member.key = policyKey) (given : member.IsText word)
    (absent : ∀ other ∈ before ++ after, other.key ≠ policyKey) :
    DecidedBy word (∃ found, takeMembers reader {} before = .ok found)
      (ofMembers (before ++ after)) id (ofJson text) := by
  have absentBefore : ∀ other ∈ before, other.key ≠ policyKey := fun other earlier =>
    absent other (List.mem_append_left _ earlier)
  have absentAfter : ∀ other ∈ after, other.key ≠ policyKey := fun other later =>
    absent other (List.mem_append_right _ later)
  have rest : ofMembers (before ++ after) = (takeMembers reader {} before).bind fun state =>
      (takeMembers reader state after).map Partial.whole := by
    rw [ofMembers, takeMembers_append]
    cases takeMembers reader {} before with
    | error refusal => rfl
    | ok state => rfl
  have whole : ofJson text = ((takeMembers reader {} before).bind fun state =>
      (policyOfWord word).bind fun policy =>
        ((takeMembers reader state after).map Partial.whole).map fun other =>
          { other with policy }).mapError id := by
    rw [ofJson_of_tokens object, ofMembers, takeMembers_append]
    cases front : takeMembers reader {} before with
    | error refusal => rfl
    | ok state =>
      have missing : state.policy = none := policy_of_takeMembers absentBefore front
      show (takeMembers reader state (member :: after)).map _ = Except.mapError id
        ((policyOfWord word).bind _)
      rw [takeMembers_cons, takeMember_policy own given missing]
      cases policyOfWord word with
      | error refusal => rfl
      | ok policy =>
        show (takeMembers reader { state with policy := some policy } after).map _ =
          Except.mapError id (((takeMembers reader state after).map _).map _)
        rw [takeMembers_with_policy absentAfter]
        cases takeMembers reader state after with
        | error refusal => rfl
        | ok found => rfl
  rw [whole, rest]
  exact DecidedBy.of_front fun holds => holds

/-! ### The environment -/

/-- A variable that is set to a text decides about the policy, and the first record tells what
it decided. -/
theorem overlay_of_word {environment : Environment} (base : Settings)
    (given : environment.policy.text? = some word) :
    (overlay base environment).1.policy = (overlayPolicy base.policy word).1 ∧
      ∃ others, (overlay base environment).2 = (overlayPolicy base.policy word).2 :: others := by
  rw [overlay, given]
  exact ⟨rfl, _, rfl⟩

/-! ### All routes -/

/-- Wherever the word is given for the policy, it is taken for this policy. -/
structure WordTaken (word : String) (policy : Policy) : Prop where
  environment : ∀ (base : Settings) (environment : Environment),
    environment.policy.text? = some word → (overlay base environment).1.policy = policy
  /-- A document whose policy is the word stands for what it would stand for without the word, but
  with this policy. -/
  document : ∀ (text : String) (parts : Parts), document? text.toList = some parts →
    Parts.get? parts policyKey = some (.leaf (.string word)) →
    ofToml text = ((ofParts {} (Parts.erase parts policyKey)).map fun other =>
      { other with policy }).mapError tomlFailure
  line : ∀ literal, quoted? literal = some (word.toList, []) →
    ofToml (String.ofList (lineOf policyKey.toList literal)) = .ok { policy }
  /-- So does an object. -/
  object : ∀ (text : List Char) (before : List Member) (member : Member) (after : List Member),
    tokens text = objectTokens (before ++ member :: after) → member.key = policyKey →
    member.IsText word → (∀ other ∈ before ++ after, other.key ≠ policyKey) →
    ofJson text = (ofMembers (before ++ after)).map fun other => { other with policy }
  member : ∀ literal body, body? literal = some (body, []) → denoted? body = some word →
    ofJson (objectText policyKey literal) = .ok { policy }

/-- Wherever the word is given for the policy, it is refused by this failure. -/
structure WordRefused (word : String) (failure : Failure) : Prop where
  /-- The failure quotes the word as it was given. -/
  message : failure.message = "configuration error: Invalid duplicate policy '" ++ word ++
    "'. Must be one of: replace, reject"
  environment : ∀ (base : Settings) (environment : Environment),
    environment.policy.text? = some word → (overlay base environment).1.policy = base.policy ∧
      ∃ record others, (overlay base environment).2 = record :: others ∧ record.level = .warn ∧
        record.message = "Ignoring EVENT_ACTION_DUPLICATE_POLICY: " ++ failure.message
  /-- A document is refused for the word, unless a number in it is one that nothing can
  represent. -/
  document : ∀ (text : String) (parts : Parts), document? text.toList = some parts →
    Parts.get? parts policyKey = some (.leaf (.string word)) →
    ∃ refusal, ofToml text = .error refusal ∧ (Node.areSound parts = true →
      refusal = .configuration ("Failed to parse TOML: " ++ failure.message))
  line : ∀ literal, quoted? literal = some (word.toList, []) →
    ofToml (String.ofList (lineOf policyKey.toList literal)) =
      .error (.configuration ("Failed to parse TOML: " ++ failure.message))
  /-- An object is refused for the word, unless it is refused for a member in front of it. -/
  object : ∀ (text : List Char) (before : List Member) (member : Member) (after : List Member),
    tokens text = objectTokens (before ++ member :: after) → member.key = policyKey →
    member.IsText word → (∀ other ∈ before ++ after, other.key ≠ policyKey) →
    ∃ refusal, ofJson text = .error refusal ∧
      ((∃ found, takeMembers reader {} before = .ok found) →
        ∃ reason, refusal = .data reason ∧ reason.message = failure.message)
  member : ∀ literal body, body? literal = some (body, []) → denoted? body = some word →
    ∃ reason, ofJson (objectText policyKey literal) = .error (.data reason) ∧
      reason.message = failure.message

/-- The document of a line whose literal denotes the word. -/
theorem document?_line {literal : List Char} (denotes : quoted? literal = some (word.toList, [])) :
    document? (String.ofList (lineOf policyKey.toList literal)).toList =
      some [(policyKey, .leaf (.string word))] := by
  have bare : ∀ character ∈ policyKey.toList, isBare character = true :=
    List.all_eq_true.1 (by decide +kernel)
  have read := document?_lineOf (by decide) bare denotes
  rw [String.ofList_toList, String.ofList_toList] at read
  rw [String.toList_ofList]
  exact read

/-- The object of one member whose literal denotes the word. -/
theorem decidedBy_objectText {literal body : List Char} (closed : body? literal = some (body, []))
    (denotes : denoted? body = some word) :
    DecidedBy word (∃ found, takeMembers reader {} [] = .ok found) (ofMembers []) id
      (ofJson (objectText policyKey literal)) := by
  have object : tokens (objectText policyKey literal) =
      objectTokens ([] ++ Member.ofText policyKey body :: []) := tokens_objectText policyKey closed
  exact decidedBy_ofJson object rfl ⟨body, rfl, denotes⟩ nofun

theorem WordTaken.of_ofWord (spelled : Policy.ofWord word = .ok policy) :
    WordTaken word policy where
  environment base environment given := by
    rw [(overlay_of_word base given).1, overlayPolicy, spelled]
  document text parts document given := (decidedBy_ofToml document given).taken policy spelled
  line literal denotes := (decidedBy_ofToml (document?_line denotes) rfl).taken policy spelled
  object text before member after object own given absent := by
    rw [(decidedBy_ofJson object own given absent).taken policy spelled]
    cases ofMembers (before ++ after) with
    | error refusal => rfl
    | ok other => rfl
  member literal body closed denotes := (decidedBy_objectText closed denotes).taken policy spelled

theorem WordRefused.of_ofWord {failure : Failure}
    (misspelled : Policy.ofWord word = .error failure) : WordRefused word failure where
  message := by rw [Policy.eq_invalid_of_ofWord misspelled, Policy.message_invalid]
  environment base environment given := by
    obtain ⟨kept, others, records⟩ := overlay_of_word base given
    rw [overlayPolicy, misspelled] at kept records
    exact ⟨kept, _, others, records, rfl, rfl⟩
  document text parts document given := by
    obtain ⟨refusal, read, same⟩ := (decidedBy_ofToml document given).refused failure misspelled
    refine ⟨_, read, fun sound => ?_⟩
    rw [same sound]
    rfl
  line literal denotes := by
    obtain ⟨refusal, read, same⟩ :=
      (decidedBy_ofToml (document?_line denotes) rfl).refused failure misspelled
    rw [read, same rfl]
    rfl
  object text before member after object own given absent := by
    obtain ⟨refusal, read, same⟩ :=
      (decidedBy_ofJson object own given absent).refused failure misspelled
    exact ⟨refusal, read, fun front => ⟨_, same front, rfl⟩⟩
  member literal body closed denotes := by
    obtain ⟨refusal, read, same⟩ :=
      (decidedBy_objectText closed denotes).refused failure misspelled
    rw [same ⟨_, rfl⟩] at read
    exact ⟨_, read, rfl⟩

end Settings

/-- A word for the policy is taken on all four routes, for one policy, or refused on all four, for
one failure: by itself, in the environment, in a document and in an object. -/
theorem policy_word_means_the_same_everywhere (word : String) :
    (∃ policy, Policy.ofWord word = .ok policy ∧ Settings.WordTaken word policy) ∨
      ∃ failure, Policy.ofWord word = .error failure ∧ Settings.WordRefused word failure := by
  cases decided : Policy.ofWord word with
  | ok policy => exact Or.inl ⟨policy, rfl, Settings.WordTaken.of_ofWord decided⟩
  | error failure => exact Or.inr ⟨failure, rfl, Settings.WordRefused.of_ofWord decided⟩

/-- Capitals, blanks and escapes are taken on each route, and an unknown word is quoted with its
blank. -/
theorem policy_word_means_the_same_everywhere_with_blanks :
    Settings.ofToml "duplicate_policy = ' STRICT\t'" = .ok { policy := .reject } ∧
      Settings.ofJson "\x7b\"duplicate_policy\":\"\\u0020STRICT\\t\"\x7d".toList =
        .ok { policy := .reject } ∧
      (Settings.overlay {} { policy := .text " STRICT\t" }).1.policy = .reject ∧
      Settings.ofToml "duplicate_policy = 'Merge '" = .error (.configuration
        ("Failed to parse TOML: configuration error: Invalid duplicate policy 'Merge '. " ++
          "Must be one of: replace, reject")) := by
  have spelled : Policy.ofWord " STRICT\t" = .ok .reject := by decide +kernel
  have misspelled : Policy.ofWord "Merge " = .error (Policy.invalid "Merge ") := by decide +kernel
  have taken : Settings.WordTaken " STRICT\t" .reject := by
    rcases policy_word_means_the_same_everywhere " STRICT\t" with
      ⟨policy, decided, taken⟩ | ⟨failure, decided, -⟩
    · rw [spelled] at decided
      cases decided
      exact taken
    · rw [spelled] at decided
      cases decided
  have refused : Settings.WordRefused "Merge " (Policy.invalid "Merge ") := by
    rcases policy_word_means_the_same_everywhere "Merge " with
      ⟨policy, decided, -⟩ | ⟨failure, decided, refused⟩
    · rw [misspelled] at decided
      cases decided
    · rw [misspelled] at decided
      cases decided
      exact refused
  refine ⟨?_, ?_, ?_, ?_⟩
  · exact taken.line "' STRICT\t'".toList (by decide +kernel)
  · have text : "\x7b\"duplicate_policy\":\"\\u0020STRICT\\t\"\x7d".toList =
        objectText Settings.policyKey "\\u0020STRICT\\t\"".toList := by decide +kernel
    rw [text]
    exact taken.member _ "\\u0020STRICT\\t".toList (by decide +kernel) (by decide +kernel)
  · exact taken.environment {} { policy := .text " STRICT\t" } rfl
  · exact (refused.line "'Merge '".toList (by decide +kernel)).trans (by decide +kernel)

end ActionDirectory
