/-
Settings and objects. The members of an object come in any order, and between the two that matter
others may stand with any values. What is read depends on the values under the two keys only: none
stands for the default, a single one has to mean something, and two are refused. So the order does
not matter, nor do the members under other keys, how often they are repeated and what is nested in
them.

The same settings can be given by position in a list and by statements of a document. All three
forms take the same two values and make the same settings of them.
-/

import ActionDirectory.Proofs.DocumentSettings
import ActionDirectory.Proofs.JsonValues

namespace ActionDirectory

open Json Wire

namespace Settings

/-! ### Values and what they mean -/

/-- A text means a policy if it is a quoted text that denotes a word for the policy. -/
def PolicyText (text : List Char) (policy : Policy) : Prop :=
  ∃ glyphs word, text = quotedText glyphs ∧ denoted? (glyphs.flatMap Glyph.text) = some word ∧
    Policy.ofWord word = .ok policy

/-- A text means a truth value if it is the word of it. -/
def FlagText (text : List Char) (flag : Bool) : Prop :=
  text = (Flag.word flag).toList

/-- What is given by the values under one key: nothing by none, and the meaning of a single one.
Two values give nothing that could be taken. -/
inductive Stated {Value : Type} (means : List Char → Value → Prop) :
    List (List Char) → Option Value → Prop
  | missing : Stated means [] none
  | single {text : List Char} {value : Value} (own : means text value) :
    Stated means [text] (some value)

/-- Settings that are given by the values for the policy and for the flag, with the defaults for
what is not given. -/
def Follow (policies flags : List (List Char)) (settings : Settings) : Prop :=
  ∃ policy flag, Stated PolicyText policies policy ∧ Stated FlagText flags flag ∧
    settings = { policy := policy.getD .replace, warnsOnOverwrite := flag.getD true }

section Stated

variable {Value : Type} {means : List Char → Value → Prop} {texts others : List (List Char)}
  {given : Option Value}

theorem stated_none_iff : Stated means texts none ↔ texts = [] := by
  refine ⟨fun stated => ?_, ?_⟩
  · cases stated
    rfl
  · rintro rfl
    exact .missing

theorem stated_nil_iff : Stated means [] given ↔ given = none := by
  refine ⟨fun stated => ?_, ?_⟩
  · cases stated
    rfl
  · rintro rfl
    exact .missing

theorem stated_append_singleton_iff {text : List Char} :
    Stated means (texts ++ [text]) given ↔
      texts = [] ∧ ∃ value, means text value ∧ given = some value := by
  constructor
  · intro stated
    generalize whole : texts ++ [text] = all at stated
    cases stated with
    | missing => exact absurd whole (by simp)
    | single own =>
      obtain ⟨rfl, same⟩ := List.append_eq_singleton_iff.1 whole |>.resolve_right (by simp)
      cases same
      exact ⟨rfl, _, own, rfl⟩
  · rintro ⟨rfl, value, own, rfl⟩
    exact .single own

theorem exists_stated_iff : (∃ given, Stated means texts given) ↔
    texts.length ≤ 1 ∧ ∀ text ∈ texts, ∃ value, means text value := by
  constructor
  · rintro ⟨given, stated⟩
    cases stated with
    | missing => exact ⟨Nat.zero_le 1, nofun⟩
    | single own => exact ⟨le_rfl, List.forall_mem_singleton.2 ⟨_, own⟩⟩
  · rintro ⟨short, meant⟩
    match texts, short with
    | [], _ => exact ⟨none, .missing⟩
    | [text], _ =>
      obtain ⟨value, own⟩ := meant text List.mem_cons_self
      exact ⟨some value, .single own⟩

/-- The order of the values does not matter, for there is at most one. -/
theorem Stated.perm (stated : Stated means texts given) (same : others.Perm texts) :
    Stated means others given := by
  cases stated with
  | missing =>
    rw [same.eq_nil]
    exact .missing
  | single own =>
    rw [List.perm_singleton.1 same]
    exact .single own

end Stated

theorem Follow.perm_iff {policies flags otherPolicies otherFlags : List (List Char)}
    {settings : Settings} (samePolicies : otherPolicies.Perm policies)
    (sameFlags : otherFlags.Perm flags) :
    Follow otherPolicies otherFlags settings ↔ Follow policies flags settings := by
  constructor
  · rintro ⟨policy, flag, policyStated, flagStated, whole⟩
    exact ⟨policy, flag, policyStated.perm samePolicies.symm, flagStated.perm sameFlags.symm, whole⟩
  · rintro ⟨policy, flag, policyStated, flagStated, whole⟩
    exact ⟨policy, flag, policyStated.perm samePolicies, flagStated.perm sameFlags, whole⟩

/-! ### Single values -/

/-- A value is read by its first token, and taken for what it means. -/
structure ReadsBy {Value : Type} (read : Token → Except Refusal Value)
    (means : List Char → Value → Prop) : Prop where
  taken : ∀ {text value}, means text value →
    ∃ token, tokens text = [token] ∧ read token = .ok value
  meant : ∀ {text first others value}, IsValue text → tokens text = first :: others →
    read first = .ok value → means text value

/-- A value that means nothing is refused. -/
theorem ReadsBy.exists_refusal {Value : Type} {read : Token → Except Refusal Value}
    {means : List Char → Value → Prop} (reads : ReadsBy read means) {text : List Char}
    (isValue : IsValue text) (meaningless : ∀ value, ¬ means text value) :
    ∃ first others refusal, tokens text = first :: others ∧ first ≠ .closeBracket ∧
      read first = .error refusal := by
  obtain ⟨first, others, begins, notClosing⟩ := isValue.isWhole.exists_eq_cons
  cases outcome : read first with
  | error refusal => exact ⟨first, others, refusal, begins, notClosing, outcome⟩
  | ok value => exact absurd (reads.meant isValue begins outcome) (meaningless value)

theorem readsBy_readPolicy : ReadsBy readPolicy PolicyText := by
  refine ⟨?_, ?_⟩
  · rintro text policy ⟨glyphs, word, rfl, denotes, spelled⟩
    refine ⟨_, (HasTokens.quoted glyphs).tokens_eq, ?_⟩
    rw [readPolicy_quoted denotes, policyOfWord, mapError_eq_ok_iff]
    exact spelled
  · intro text first others policy isValue begins read
    obtain ⟨word, found, -⟩ := exists_of_bind_eq_ok read
    cases first with
    | quoted body =>
      obtain ⟨glyphs, rfl, rfl⟩ := isValue.exists_glyphs begins
      cases denotes : denoted? (glyphs.flatMap Glyph.text) with
      | none =>
        rw [readText, denotes] at found
        cases found
      | some word =>
        rw [readPolicy_quoted denotes, policyOfWord, mapError_eq_ok_iff] at read
        exact ⟨glyphs, word, rfl, denotes, read⟩
    | _ => cases found

theorem readsBy_readFlag : ReadsBy readFlag FlagText := by
  refine ⟨?_, ?_⟩
  · rintro text flag rfl
    exact ⟨_, (HasTokens.flag flag).tokens_eq, rfl⟩
  · intro text first others flag isValue begins read
    cases first with
    | boolean value =>
      cases read
      exact isValue.eq_word begins
    | _ => cases read

/-! ### Objects -/

/-- The values of the members under a key. -/
def valuesUnder (key : String) (members : List WrittenMember) : List (List Char) :=
  (members.filter fun member => member.name = key).map fun member => member.value.item

section Members

variable {key : String} {member : WrittenMember} {members : List WrittenMember}

theorem valuesUnder_append_self (own : member.name = key) :
    valuesUnder key (members ++ [member]) = valuesUnder key members ++ [member.value.item] := by
  simp [valuesUnder, own]

theorem valuesUnder_append_other (other : member.name ≠ key) :
    valuesUnder key (members ++ [member]) = valuesUnder key members := by
  simp [valuesUnder, other]

/-- A member that may be taken once changes the state by what its value means. -/
theorem takeMember_once_iff {State Value : Type} {reader : Reader State} {state next : State}
    {read : Token → Except Refusal Value} {means : List Char → Value → Prop}
    (reads : ReadsBy read means) {given : Option Value} {reason : Reason} {store : Value → State}
    (handled : reader state member.name = if given.isSome then .reject reason
      else .take fun token => (read token).map store) :
    takeMember reader state member.member = .ok next ↔
      given = none ∧ ∃ value, means member.value.item value ∧ next = store value := by
  obtain ⟨first, others, begins, -⟩ := member.isValue.isWhole.exists_eq_cons
  cases given with
  | some former =>
    refine ⟨fun taken => ?_, nofun⟩
    have refused : reader state member.member.key = .reject reason := handled
    rw [takeMember, readMember, refused] at taken
    cases taken
  | none =>
    have takes : reader state member.member.key = .take fun token => (read token).map store :=
      handled
    rw [takeMember_of_take takes begins, and_iff_right rfl]
    constructor
    · intro taken
      obtain ⟨value, found, rfl⟩ := exists_of_map_eq_ok taken
      exact ⟨value, reads.meant member.isValue begins found, rfl⟩
    · rintro ⟨value, own, rfl⟩
      obtain ⟨token, alone, found⟩ := reads.taken own
      cases begins.symm.trans alone
      rw [found]
      rfl

theorem takeMember_policy_iff (own : member.name = policyKey) {fields next : Partial} :
    takeMember reader fields member.member = .ok next ↔
      fields.policy = none ∧ ∃ policy, PolicyText member.value.item policy ∧
        next = { fields with policy := some policy } := by
  have handled : reader fields member.name = if fields.policy.isSome
      then .reject (.duplicateField member.name)
      else .take fun token =>
        (readPolicy token).map fun policy => { fields with policy := some policy } := by
    rw [reader, if_pos own]
  exact takeMember_once_iff readsBy_readPolicy handled

theorem takeMember_flag_iff (own : member.name = warningKey) {fields next : Partial} :
    takeMember reader fields member.member = .ok next ↔
      fields.warnsOnOverwrite = none ∧ ∃ flag, FlagText member.value.item flag ∧
        next = { fields with warnsOnOverwrite := some flag } := by
  have notPolicy : member.name ≠ policyKey := fun same => policyKey_ne_warningKey (same ▸ own)
  have handled : reader fields member.name = if fields.warnsOnOverwrite.isSome
      then .reject (.duplicateField member.name)
      else .take fun token =>
        (readFlag token).map fun flag => { fields with warnsOnOverwrite := some flag } := by
    rw [reader, if_neg notPolicy, if_pos own]
  exact takeMember_once_iff readsBy_readFlag handled

/-- Members under other keys are passed over, whatever their values are. -/
theorem takeMember_other (notPolicy : member.name ≠ policyKey)
    (notWarning : member.name ≠ warningKey) (fields : Partial) :
    takeMember reader fields member.member = .ok fields := by
  have handled : reader fields member.member.key = .ignore := by
    show reader fields member.name = _
    rw [reader, if_neg notPolicy, if_neg notWarning]
  have whole := member.member.whole
  rw [takeMember, readMember, handled]
  simp only [whole]
  rfl

/-- What has been read of members is what the values under the two keys state. -/
structure ReadFrom (members : List WrittenMember) (fields : Partial) : Prop where
  policy : Stated PolicyText (valuesUnder policyKey members) fields.policy
  flag : Stated FlagText (valuesUnder warningKey members) fields.warnsOnOverwrite

theorem readFrom_iff {fields : Partial} : ReadFrom members fields ↔
    Stated PolicyText (valuesUnder policyKey members) fields.policy ∧
      Stated FlagText (valuesUnder warningKey members) fields.warnsOnOverwrite :=
  ⟨fun read => ⟨read.policy, read.flag⟩, fun both => ⟨both.1, both.2⟩⟩

theorem readFrom_nil_iff {fields : Partial} : ReadFrom [] fields ↔ fields = {} := by
  obtain ⟨policy, flag⟩ := fields
  rw [readFrom_iff, Partial.mk.injEq]
  exact and_congr stated_nil_iff stated_nil_iff

/-- One more member is taken exactly if it states something that has not been stated. -/
theorem readFrom_append_singleton_iff {fields : Partial} :
    ReadFrom (members ++ [member]) fields ↔
      ∃ front, ReadFrom members front ∧ takeMember reader front member.member = .ok fields := by
  by_cases own : member.name = policyKey
  · have notWarning : member.name ≠ warningKey := fun same =>
      policyKey_ne_warningKey (own ▸ same)
    rw [readFrom_iff, valuesUnder_append_self own, valuesUnder_append_other notWarning,
      stated_append_singleton_iff]
    constructor
    · rintro ⟨⟨missing, policy, means, given⟩, flag⟩
      refine ⟨{ fields with policy := none }, ⟨stated_none_iff.2 missing, flag⟩, ?_⟩
      exact (takeMember_policy_iff own).2 ⟨rfl, policy, means, by rw [← given]⟩
    · rintro ⟨front, ⟨before, flag⟩, taken⟩
      obtain ⟨missing, policy, means, rfl⟩ := (takeMember_policy_iff own).1 taken
      rw [missing, stated_none_iff] at before
      exact ⟨⟨before, policy, means, rfl⟩, flag⟩
  · by_cases flagged : member.name = warningKey
    · rw [readFrom_iff, valuesUnder_append_other own, valuesUnder_append_self flagged,
        stated_append_singleton_iff]
      constructor
      · rintro ⟨policy, missing, flag, means, given⟩
        refine ⟨{ fields with warnsOnOverwrite := none }, ⟨policy, stated_none_iff.2 missing⟩, ?_⟩
        exact (takeMember_flag_iff flagged).2 ⟨rfl, flag, means, by rw [← given]⟩
      · rintro ⟨front, ⟨policy, before⟩, taken⟩
        obtain ⟨missing, flag, means, rfl⟩ := (takeMember_flag_iff flagged).1 taken
        rw [missing, stated_none_iff] at before
        exact ⟨policy, before, flag, means, rfl⟩
    · rw [readFrom_iff, valuesUnder_append_other own, valuesUnder_append_other flagged,
        ← readFrom_iff]
      constructor
      · intro read
        exact ⟨fields, read, takeMember_other own flagged fields⟩
      · rintro ⟨front, read, taken⟩
        rw [takeMember_other own flagged] at taken
        cases taken
        exact read

/-- The members of an object are taken one after the other, and give what their values state. -/
theorem takeMembers_eq_ok_iff {fields : Partial} :
    takeMembers reader {} (members.map WrittenMember.member) = .ok fields ↔
      ReadFrom members fields := by
  -- What is done with a member depends on those in front of it, so the last one is split off.
  induction members using List.reverseRecOn generalizing fields with
  | nil =>
    rw [readFrom_nil_iff]
    show Except.ok {} = Except.ok fields ↔ _
    rw [Except.ok.injEq, eq_comm]
  | append_singleton members member inductionHypothesis =>
    rw [readFrom_append_singleton_iff, List.map_append, List.map_singleton,
      takeMembers_append_singleton]
    constructor
    · intro taken
      obtain ⟨front, before, last⟩ := exists_of_bind_eq_ok taken
      exact ⟨front, inductionHypothesis.1 before, last⟩
    · rintro ⟨front, before, last⟩
      rw [inductionHypothesis.2 before]
      exact last

end Members

/-- An object is read as what the values under the two keys state. -/
theorem ofJson_object_iff {text : List Char} {members : List WrittenMember} {settings : Settings}
    (object : IsObject text members) : ofJson text = .ok settings ↔
      Follow (valuesUnder policyKey members) (valuesUnder warningKey members) settings := by
  rw [ofJson_of_tokens object.tokens_eq, ofMembers]
  constructor
  · intro read
    obtain ⟨fields, taken, rfl⟩ := exists_of_map_eq_ok read
    obtain ⟨policy, flag⟩ := takeMembers_eq_ok_iff.1 taken
    exact ⟨_, _, policy, flag, rfl⟩
  · rintro ⟨policy, flag, policyStated, flagStated, rfl⟩
    have readFrom : ReadFrom members ⟨policy, flag⟩ := ⟨policyStated, flagStated⟩
    rw [takeMembers_eq_ok_iff.2 readFrom]
    rfl

/-! ### Lists -/

/-- A policy in front is taken, and then the flag is read. -/
theorem readList_of_policy {token : Token} {policy : Policy} (read : readPolicy token = .ok policy)
    (rest : List Token) : readList (token :: rest) =
      match rest with
      | .closeBracket :: rest => .ok ({ policy }, rest)
      | .comma :: flag :: rest =>
        (readFlag flag).bind fun flag =>
          match rest with
          | .closeBracket :: rest => .ok ({ policy, warnsOnOverwrite := flag }, rest)
          | _ => .error .malformed
      | _ => .error .malformed := by
  have notClosing : token = .closeBracket → False := by
    rintro rfl
    cases read
  rw [readList.eq_3 _ _ notClosing, read]
  rfl

section Elements

variable {texts : List (List Char)} {settings : Settings}

theorem readList_of_follow (follow : Follow (texts.take 1) (texts.drop 1) settings) :
    readList (punctuated .closeBracket (texts.map tokens)) = .ok (settings, []) := by
  obtain ⟨policy, flag, policyStated, flagStated, rfl⟩ := follow
  cases texts with
  | nil =>
    cases policyStated
    cases flagStated
    rfl
  | cons first rest =>
    cases policyStated with
    | single means =>
      obtain ⟨token, alone, read⟩ := readsBy_readPolicy.taken means
      change Stated FlagText rest flag at flagStated
      cases flagStated with
      | missing =>
        show readList (tokens first ++ [.closeBracket]) = _
        rw [alone]
        exact readList_of_policy read _
      | single means =>
        obtain ⟨flagToken, flagAlone, flagRead⟩ := readsBy_readFlag.taken means
        show readList (tokens first ++ .comma :: (tokens _ ++ [.closeBracket])) = _
        rw [alone, flagAlone]
        refine (readList_of_policy read _).trans ?_
        show (readFlag flagToken).bind _ = _
        rw [flagRead]
        rfl

/-- A list that is read states settings by position. -/
theorem exists_follow_of_readList (values : ∀ text ∈ texts, IsValue text)
    {found : Settings × List Token}
    (read : readList (punctuated .closeBracket (texts.map tokens)) = .ok found) :
    ∃ settings, Follow (texts.take 1) (texts.drop 1) settings := by
  cases texts with
  | nil => exact ⟨_, none, none, .missing, .missing, rfl⟩
  | cons first rest =>
    by_cases meant : ∃ policy, PolicyText first policy
    · obtain ⟨policy, means⟩ := meant
      obtain ⟨token, alone, policyRead⟩ := readsBy_readPolicy.taken means
      cases rest with
      | nil => exact ⟨_, some policy, none, .single means, .missing, rfl⟩
      | cons second others =>
        change readList (tokens first ++ .comma :: punctuated .closeBracket
          (tokens second :: others.map tokens)) = _ at read
        rw [alone] at read
        by_cases flagMeant : ∃ flag, FlagText second flag
        · obtain ⟨flag, flagMeans⟩ := flagMeant
          cases others with
          | nil => exact ⟨_, some policy, some flag, .single means, .single flagMeans, rfl⟩
          | cons third others =>
            obtain ⟨flagToken, flagAlone, flagRead⟩ := readsBy_readFlag.taken flagMeans
            rw [flagAlone] at read
            have behind := (readList_of_policy policyRead _).symm.trans read
            change (readFlag flagToken).bind _ = _ at behind
            rw [flagRead] at behind
            cases behind
        · obtain ⟨flagToken, more, refusal, begins, -, refused⟩ :=
            readsBy_readFlag.exists_refusal
              (values second (List.mem_cons_of_mem _ List.mem_cons_self)) (not_exists.1 flagMeant)
          obtain ⟨rest, same⟩ := exists_punctuated_eq_append .closeBracket (tokens second)
            (others.map tokens)
          rw [same, begins] at read
          have behind := (readList_of_policy policyRead _).symm.trans read
          change (readFlag flagToken).bind _ = _ at behind
          rw [refused] at behind
          cases behind
    · obtain ⟨token, others, refusal, begins, notClosing, refused⟩ :=
        readsBy_readPolicy.exists_refusal (values first List.mem_cons_self)
          (not_exists.1 meant)
      obtain ⟨behind, same⟩ := exists_punctuated_eq_append .closeBracket (tokens first)
        (rest.map tokens)
      rw [List.map_cons, same, begins, List.cons_append, readList.eq_3 _ _ notClosing,
        refused] at read
      cases read

/-- A list is read as what its elements state by position. -/
theorem ofJson_list_iff {text : List Char} {elements : List (Spaced (List Char))}
    (list : IsList text elements) : ofJson text = .ok settings ↔
      Follow ((elements.map Spaced.item).take 1) ((elements.map Spaced.item).drop 1) settings := by
  have values : ∀ text ∈ elements.map Spaced.item, IsValue text :=
    List.forall_mem_map.2 list.values
  have read : ofJson text = (readList (punctuated .closeBracket
      ((elements.map Spaced.item).map tokens))).bind complete := by
    rw [ofJson, list.tokens_eq, List.map_map]
    rfl
  have taken : ∀ {settings}, Follow ((elements.map Spaced.item).take 1)
      ((elements.map Spaced.item).drop 1) settings → ofJson text = .ok settings := by
    intro settings follow
    rw [read, readList_of_follow follow]
    rfl
  refine ⟨fun successful => ?_, taken⟩
  obtain ⟨found, listed, -⟩ := exists_of_bind_eq_ok (read.symm.trans successful)
  obtain ⟨stated, follow⟩ := exists_follow_of_readList values listed
  cases (taken follow).symm.trans successful
  exact follow

end Elements

/-! ### Documents -/

/-- A member of an object and a statement of a document have the same value: both are missing, both
are texts that denote one word, or both are one truth value. -/
inductive SameValue : List (List Char) → Option Toml.Node → Prop
  | missing : SameValue [] none
  | word {glyphs : List Glyph} {word : String}
    (denotes : denoted? (glyphs.flatMap Glyph.text) = some word) :
    SameValue [quotedText glyphs] (some (.leaf (.string word)))
  | flag (flag : Bool) : SameValue [(Flag.word flag).toList] (some (.leaf (.boolean flag)))

theorem quotedText_ne_word (glyphs : List Glyph) (flag : Bool) :
    quotedText glyphs ≠ (Flag.word flag).toList := by
  intro same
  have tokensSame := (HasTokens.quoted glyphs).tokens_eq.symm.trans
    ((congrArg tokens same).trans (HasTokens.flag flag).tokens_eq)
  cases tokensSame

theorem policyText_quotedText_iff {glyphs : List Glyph} {word : String} {policy : Policy}
    (denotes : denoted? (glyphs.flatMap Glyph.text) = some word) :
    PolicyText (quotedText glyphs) policy ↔ Policy.ofWord word = .ok policy := by
  refine ⟨?_, fun spelled => ⟨glyphs, word, rfl, denotes, spelled⟩⟩
  rintro ⟨others, other, same, otherDenotes, spelled⟩
  have body : glyphs.flatMap Glyph.text = others.flatMap Glyph.text :=
    List.append_cancel_right (List.cons.inj same).2
  rw [← body, denotes] at otherDenotes
  cases otherDenotes
  exact spelled

theorem flagText_word_iff {flag other : Bool} :
    FlagText (Flag.word flag).toList other ↔ flag = other := by
  refine ⟨fun written => ?_, ?_⟩
  · have tokensSame := (HasTokens.flag flag).tokens_eq.symm.trans
      ((congrArg tokens written).trans (HasTokens.flag other).tokens_eq)
    cases tokensSame
    rfl
  · rintro rfl
    rfl

section Same

variable {Value : Type} {setting : Setting Value} {means : List Char → Value → Prop}
  {fallback value : Value} {values : List (List Char)} {node : Option Toml.Node}

/-- A setting is given by a value as it is by the same value of the other language, if both make
the same of a value that is there. -/
theorem given_iff (same : SameValue values node)
    (agree : ∀ {text node}, SameValue [text] (some node) →
      (setting.accept node = some (.ok value) ↔ means text value)) :
    setting.Given fallback node value ↔
      ∃ given, Stated means values given ∧ value = given.getD fallback := by
  constructor
  · intro given
    cases given with
    | missing =>
      cases same
      exact ⟨none, .missing, rfl⟩
    | accepted accepts =>
      cases same with
      | word denotes => exact ⟨some value, .single ((agree (.word denotes)).1 accepts), rfl⟩
      | flag flag => exact ⟨some value, .single ((agree (.flag flag)).1 accepts), rfl⟩
  · rintro ⟨given, stated, rfl⟩
    cases stated with
    | missing =>
      cases same
      exact .missing
    | single own =>
      cases same with
      | word denotes => exact .accepted ((agree (.word denotes)).2 own)
      | flag flag => exact .accepted ((agree (.flag flag)).2 own)

end Same

theorem accept_policy_iff {text : List Char} {node : Toml.Node} {policy : Policy}
    (same : SameValue [text] (some node)) :
    policySetting.accept node = some (.ok policy) ↔ PolicyText text policy := by
  cases same with
  | word denotes =>
    rw [policyText_quotedText_iff denotes]
    exact Option.some_inj
  | flag flag =>
    refine ⟨nofun, ?_⟩
    rintro ⟨glyphs, word, written, -⟩
    exact absurd written.symm (quotedText_ne_word glyphs flag)

theorem accept_flag_iff {text : List Char} {node : Toml.Node} {flag : Bool}
    (same : SameValue [text] (some node)) :
    flagSetting.accept node = some (.ok flag) ↔ FlagText text flag := by
  cases same with
  | word denotes => exact ⟨nofun, fun written => absurd written (quotedText_ne_word _ flag)⟩
  | flag own =>
    rw [flagText_word_iff]
    show some (Except.ok own) = some (Except.ok flag) ↔ _
    rw [Option.some_inj, Except.ok.injEq]

/-- A document that gives the same two values is read as the object is. -/
theorem ofToml_eq_ok_iff {text : String} {parts : Toml.Parts} (valid : IsDocument text parts)
    {policies flags : List (List Char)} {settings : Settings}
    (samePolicy : SameValue policies (Toml.Parts.get? parts policyKey))
    (sameFlag : SameValue flags (Toml.Parts.get? parts warningKey)) :
    ofToml text = .ok settings ↔ Follow policies flags settings := by
  rw [(followsValues_of_isDocument valid).taken, given_iff samePolicy accept_policy_iff,
    given_iff sameFlag accept_flag_iff]
  constructor
  · rintro ⟨⟨policy, policyStated, samePolicy⟩, flag, flagStated, sameFlag⟩
    refine ⟨policy, flag, policyStated, flagStated, ?_⟩
    rw [← samePolicy, ← sameFlag]
  · rintro ⟨policy, flag, policyStated, flagStated, rfl⟩
    exact ⟨⟨policy, policyStated, rfl⟩, flag, flagStated, rfl⟩

/-! ### The rule -/

/-- The members of an object in another order, with more or fewer members under other keys. -/
inductive Rearranged : List WrittenMember → List WrittenMember → Prop
  | reordered {members others : List WrittenMember} (same : others.Perm members) :
    Rearranged members others
  | inserted (before after : List WrittenMember) {member : WrittenMember}
    (notPolicy : member.name ≠ policyKey) (notWarning : member.name ≠ warningKey) :
    Rearranged (before ++ after) (before ++ member :: after)
  | removed (before after : List WrittenMember) {member : WrittenMember}
    (notPolicy : member.name ≠ policyKey) (notWarning : member.name ≠ warningKey) :
    Rearranged (before ++ member :: after) (before ++ after)
  | trans {members between others : List WrittenMember} (first : Rearranged members between)
    (second : Rearranged between others) : Rearranged members others

theorem Rearranged.perm_valuesUnder {members others : List WrittenMember}
    (rearranged : Rearranged members others) {key : String}
    (known : key = policyKey ∨ key = warningKey) :
    (valuesUnder key others).Perm (valuesUnder key members) := by
  have passed : ∀ (before after : List WrittenMember) {member : WrittenMember},
      member.name ≠ policyKey → member.name ≠ warningKey →
        valuesUnder key (before ++ member :: after) = valuesUnder key (before ++ after) := by
    intro before after member notPolicy notWarning
    have other : member.name ≠ key := by
      rcases known with rfl | rfl
      · exact notPolicy
      · exact notWarning
    simp [valuesUnder, other]
  induction rearranged with
  | reordered same => exact (same.filter _).map _
  | inserted before after notPolicy notWarning => rw [passed before after notPolicy notWarning]
  | removed before after notPolicy notWarning => rw [passed before after notPolicy notWarning]
  | trans first second firstSame secondSame => exact secondSame.trans firstSame

/-- An object is read for the values under two keys only. -/
structure FollowsMembers (text : List Char) (members : List WrittenMember) : Prop where
  /-- Neither key occurs twice, and what stands under them means something. -/
  accepted : (∃ settings, ofJson text = .ok settings) ↔
    ((valuesUnder policyKey members).length ≤ 1 ∧
      ∀ value ∈ valuesUnder policyKey members, ∃ policy, PolicyText value policy) ∧
    (valuesUnder warningKey members).length ≤ 1 ∧
      ∀ value ∈ valuesUnder warningKey members, ∃ flag, FlagText value flag
  /-- The settings are what the values mean, and the defaults for missing ones. -/
  taken : ∀ settings, ofJson text = .ok settings ↔
    Follow (valuesUnder policyKey members) (valuesUnder warningKey members) settings
  rearranged : ∀ other others, IsObject other others → Rearranged members others →
    ∀ settings, ofJson other = .ok settings ↔ ofJson text = .ok settings
  /-- A list has the policy first and the flag second. -/
  listed : ∀ list elements, IsList list elements →
    (elements.map Spaced.item).take 1 = valuesUnder policyKey members →
    (elements.map Spaced.item).drop 1 = valuesUnder warningKey members →
    ∀ settings, ofJson list = .ok settings ↔ ofJson text = .ok settings
  document : ∀ document parts, IsDocument document parts →
    SameValue (valuesUnder policyKey members) (Toml.Parts.get? parts policyKey) →
    SameValue (valuesUnder warningKey members) (Toml.Parts.get? parts warningKey) →
    ∀ settings, ofToml document = .ok settings ↔ ofJson text = .ok settings

end Settings

/-- Settings from an object follow the values under two of its keys: there are settings exactly if
neither key occurs twice, the policy is missing or a text that spells one, and the flag is missing
or a truth value. Then the settings are these, with the defaults for what is missing. So it makes no
difference in which order the members stand and what stands under other keys, and a list with the
same elements and a document with the same values have the same settings. -/
theorem object_settings_follow_two_values {text : List Char} {members : List WrittenMember}
    (object : IsObject text members) : Settings.FollowsMembers text members where
  accepted := by
    rw [← Settings.exists_stated_iff, ← Settings.exists_stated_iff]
    constructor
    · rintro ⟨settings, read⟩
      obtain ⟨policy, flag, policyStated, flagStated, -⟩ :=
        (Settings.ofJson_object_iff object).1 read
      exact ⟨⟨policy, policyStated⟩, flag, flagStated⟩
    · rintro ⟨⟨policy, policyStated⟩, flag, flagStated⟩
      exact ⟨_, (Settings.ofJson_object_iff object).2
        ⟨policy, flag, policyStated, flagStated, rfl⟩⟩
  taken settings := Settings.ofJson_object_iff object
  rearranged other others otherObject rearranged settings := by
    rw [Settings.ofJson_object_iff otherObject, Settings.ofJson_object_iff object]
    exact Settings.Follow.perm_iff (rearranged.perm_valuesUnder (Or.inl rfl))
      (rearranged.perm_valuesUnder (Or.inr rfl))
  listed list elements isList samePolicy sameFlag settings := by
    rw [Settings.ofJson_list_iff isList, samePolicy, sameFlag, Settings.ofJson_object_iff object]
  document document parts valid samePolicy sameFlag settings := by
    rw [Settings.ofToml_eq_ok_iff valid samePolicy sameFlag, Settings.ofJson_object_iff object]

set_option maxRecDepth 20000 in
/-- Members under another key are repeated and hold a known key, a number and half of a pair of
surrogates, and the key of the policy is written with an escape. -/
theorem object_settings_follow_two_values_among_others :
    let text := ("\x7b \"x\":\x7b\"duplicate_policy\":[-0.5E+3, null ]\x7d," ++
      "\n\"warn_on_overwrite\" :false,\"x\":\"\\ud800\"," ++
      "\"duplicate\\u005fpolicy\": \"\\tStrict\" \x7d ").toList
    let other := ("\x7b\"duplicate\\u005fpolicy\": \"\\tStrict\" ," ++
      "\n\"warn_on_overwrite\" :false\x7d").toList
    let list := "[\"\\tStrict\",false]".toList
    let document := "duplicate_policy = '\tStrict'\nwarn_on_overwrite = false"
    ∃ members others elements parts, IsObject text members ∧ IsObject other others ∧
      Settings.Rearranged members others ∧ IsList list elements ∧
      Settings.IsDocument document parts ∧
      Settings.ofJson text = .ok { policy := .reject, warnsOnOverwrite := false } ∧
      Settings.ofJson other = .ok { policy := .reject, warnsOnOverwrite := false } ∧
      Settings.ofJson list = .ok { policy := .reject, warnsOnOverwrite := false } ∧
      Settings.ofToml document = .ok { policy := .reject, warnsOnOverwrite := false } := by
  intro text other list document
  let blank : Gap := ⟨[' '], List.forall_mem_singleton.2 rfl⟩
  let number : NumberText :=
    ⟨true, ⟨0, []⟩, fun _ => rfl, some ⟨5, []⟩, some ⟨true, .plus, ⟨3, []⟩⟩⟩
  have array : IsValue "[-0.5E+3, null ]".toList :=
    .array .none
      [{ item := number.text },
        { before := blank
          item := ['n', 'u', 'l', 'l']
          behind := blank }]
      (List.forall_mem_cons.2 ⟨.number number, List.forall_mem_singleton.2 .null⟩)
  have nested : IsValue "\x7b\"duplicate_policy\":[-0.5E+3, null ]\x7d".toList :=
    .object .none
      [({ item := "duplicate_policy".toList.pmap .plain (List.all_eq_true.1 rfl) },
        { item := "[-0.5E+3, null ]".toList })]
      (List.forall_mem_singleton.2 array)
  let unknown : WrittenMember :=
    { key := { before := blank, item := [.plain 'x' rfl] }
      name := "x"
      denotes := rfl
      value := { item := _ }
      isValue := nested }
  let again : WrittenMember :=
    { key := { item := [.plain 'x' rfl] }
      name := "x"
      denotes := rfl
      value := { item := _ }
      isValue := .quoted [.code 'd' '8' '0' '0' rfl] }
  let warning : WrittenMember :=
    { key :=
        { before := ⟨['\n'], List.forall_mem_singleton.2 rfl⟩
          item := "warn_on_overwrite".toList.pmap .plain (List.all_eq_true.1 rfl)
          behind := blank }
      name := Settings.warningKey
      denotes := rfl
      value := { item := _ }
      isValue := .flag false }
  let word : List Glyph := .letter 't' rfl :: "Strict".toList.pmap .plain (List.all_eq_true.1 rfl)
  let policy : WrittenMember :=
    { key :=
        { item := "duplicate".toList.pmap .plain (List.all_eq_true.1 rfl) ++
            .code '0' '0' '5' 'f' rfl :: "policy".toList.pmap .plain (List.all_eq_true.1 rfl) }
      name := Settings.policyKey
      denotes := rfl
      value := { before := blank, item := _, behind := blank }
      isValue := .quoted word }
  have object : IsObject text [unknown, warning, again, policy] :=
    ⟨{ behind := blank }, rfl⟩
  have otherObject : IsObject other [policy, warning] := ⟨{}, rfl⟩
  have rearranged : Settings.Rearranged [unknown, warning, again, policy] [policy, warning] := by
    have otherKey : "x" ≠ Settings.policyKey ∧ "x" ≠ Settings.warningKey := by decide
    refine .trans (.removed [] _ otherKey.1 otherKey.2) ?_
    refine .trans (.removed [warning] [policy] otherKey.1 otherKey.2) ?_
    exact .reordered (.swap _ _ _)
  have isList : IsList list [{ item := policy.value.item }, { item := warning.value.item }] :=
    ⟨⟨{}, rfl⟩,
      List.forall_mem_cons.2 ⟨policy.isValue, List.forall_mem_singleton.2 warning.isValue⟩⟩
  have read : Toml.Expression.ofDocument?
      "duplicate_policy = '\tStrict'\nwarn_on_overwrite = false".toList =
      some [.assignment ["duplicate_policy"] (.scalar (.string "\tStrict")),
        .assignment ["warn_on_overwrite"] (.scalar (.boolean false))] := rfl
  have valid : Settings.IsDocument document _ :=
    Settings.IsDocument.of_expressions read rfl <| List.forall_mem_cons.2
      ⟨.string _, List.forall_mem_singleton.2 (.boolean _)⟩
  have policies : Settings.valuesUnder Settings.policyKey [unknown, warning, again, policy] =
      [quotedText word] := rfl
  have flags : Settings.valuesUnder Settings.warningKey [unknown, warning, again, policy] =
      [(Flag.word false).toList] := rfl
  have denotes : denoted? (word.flatMap Glyph.text) = some "\tStrict" := rfl
  have spelled : Policy.ofWord "\tStrict" = .ok .reject := by decide +kernel
  have follows := object_settings_follow_two_values object
  have taken := (follows.taken { policy := .reject, warnsOnOverwrite := false }).2
    ⟨some .reject, some false, policies ▸ .single ⟨word, _, rfl, denotes, spelled⟩,
      flags ▸ .single rfl, rfl⟩
  refine ⟨_, _, _, _, object, otherObject, rearranged, isList, valid, taken, ?_, ?_, ?_⟩
  · exact (follows.rearranged _ _ otherObject rearranged _).2 taken
  · exact (follows.listed _ _ isList policies.symm flags.symm _).2 taken
  · exact (follows.document _ _ valid (policies ▸ .word denotes) (flags ▸ .flag false) _).2 taken

end ActionDirectory
