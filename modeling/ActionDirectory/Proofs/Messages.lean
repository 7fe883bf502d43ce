/-
Messages of failures. A message is a fixed opening and a detail behind it. The detail may hold any
text, also one that looks like another message, but no opening is the beginning of another one, so
the message tells the kind of its failure. Behind a given opening the detail tells the rest: a
decimal text tells its identifier, and where an identifier and a text stand in one detail, a blank
follows the identifier and there is none in it.

A decoder passes the message of a failure on as its reason. The messages of all other reasons have
openings of their own, so a reason that reads like a failure is the failure.
-/

import ActionDirectory.Proofs.Elementwise
import ActionDirectory.Proofs.PolicyWords

namespace ActionDirectory

open Wire

/-! ### Openings -/

/-- The fixed text that the message of a failure begins with. -/
def Failure.opening : Failure → String
  | unknownId _ => "unknown event action id: "
  | unknownName _ => "unknown event action name: "
  | duplicateId _ _ => "event action id "
  | configuration _ => "configuration error: "

/-- What follows the opening. -/
def Failure.detail : Failure → String
  | unknownId id => id.text
  | unknownName name => name
  | duplicateId id existing => id.text ++ (" already registered as '" ++ existing ++ "'")
  | configuration reason => reason

theorem Failure.message_eq (failure : Failure) :
    failure.message = failure.opening ++ failure.detail := by
  have regroup : ∀ first second third fourth fifth : String,
      first ++ second ++ third ++ fourth ++ fifth =
        first ++ (second ++ (third ++ fourth ++ fifth)) := by
    intro first second third fourth fifth
    simp only [String.append_assoc]
  cases failure with
  | duplicateId id existing => exact regroup _ _ _ _ _
  | _ => rfl

/-- The fixed text that the message of a reason begins with. -/
def Wire.Reason.opening : Reason → String
  | invalidType _ _ => "invalid type: "
  | invalidValue _ _ => "invalid value: integer `"
  | missingField _ => "missing field `"
  | duplicateField _ => "duplicate field `"
  | invalidLength _ _ _ => "invalid length "
  | failed failure => failure.opening

/-- A text begins with another one. -/
def Begins (front text : String) : Prop :=
  front.toList <+: text.toList

theorem begins_append (front rest : String) : Begins front (front ++ rest) := by
  rw [Begins, String.toList_append]
  exact List.prefix_append _ _

theorem Begins.append {front text : String} (begins : Begins front text) (rest : String) :
    Begins front (text ++ rest) :=
  List.IsPrefix.trans begins (begins_append text rest)

theorem Failure.begins_message (failure : Failure) : Begins failure.opening failure.message := by
  have begins := begins_append failure.opening failure.detail
  rwa [← failure.message_eq] at begins

theorem Wire.Reason.begins_message (reason : Reason) : Begins reason.opening reason.message := by
  cases reason with
  | failed failure => exact failure.begins_message
  | missingField name => exact (begins_append _ _).append _
  | duplicateField name => exact (begins_append _ _).append _
  | invalidType found expected => exact ((begins_append _ _).append _).append _
  | invalidValue value expected => exact ((begins_append _ _).append _).append _
  | invalidLength length expected fields =>
    exact (((((begins_append _ _).append _).append _).append _).append _).append _

def openings : List String :=
  ["unknown event action id: ", "unknown event action name: ", "event action id ",
    "configuration error: ", "invalid type: ", "invalid value: integer `", "missing field `",
    "duplicate field `", "invalid length "]

theorem Wire.Reason.opening_mem (reason : Reason) : reason.opening ∈ openings := by
  cases reason with
  | failed failure => cases failure <;> simp [opening, Failure.opening, openings]
  | _ => simp [opening, openings]

/-- No opening is the beginning of another one. -/
theorem eq_of_begins_of_mem_openings : ∀ first ∈ openings, ∀ second ∈ openings,
    Begins first second → first = second := by
  unfold Begins
  decide +kernel

theorem Wire.Reason.opening_eq_of_message_eq {first second : Reason}
    (same : first.message = second.message) : first.opening = second.opening := by
  have front := first.begins_message
  rw [same] at front
  rcases List.prefix_or_prefix_of_prefix front second.begins_message with shorter | longer
  · exact eq_of_begins_of_mem_openings _ first.opening_mem _ second.opening_mem shorter
  · exact (eq_of_begins_of_mem_openings _ second.opening_mem _ first.opening_mem longer).symm

/-! ### Details -/

theorem Id.text_injective {first second : Id} (same : first.text = second.text) :
    first = second :=
  Id.ext_value (Decimal.signed_injective (String.ofList_injective same))

/-- There is no blank in the text of an identifier, so the text ends where a blank follows. -/
theorem Id.takeWhile_text (id : Id) (rest : List Char) :
    (id.text.toList ++ ' ' :: rest).takeWhile (fun character => character ≠ ' ') =
      id.text.toList := by
  have visible : ∀ character ∈ id.text.toList, decide (character ≠ ' ') = true := by
    intro character member
    rw [text, Decimal.text, String.toList_ofList] at member
    refine decide_eq_true ?_
    rintro rfl
    rcases Decimal.isDigit_or_minus_of_mem_signed member with digit | minus
    · exact absurd digit (by decide)
    · exact absurd minus (by decide)
  rw [List.takeWhile_append_of_pos visible]
  simp

/-- The detail about a taken identifier falls into its parts at the first blank. -/
theorem Failure.detail_duplicateId_injective {first second : Id} {existing other : String}
    (same : (duplicateId first existing).detail = (duplicateId second other).detail) :
    first = second ∧ existing = other := by
  have split : ∀ (id : Id) (existing : String), (duplicateId id existing).detail.toList =
      id.text.toList ++ ' ' :: ("already registered as '".toList ++ (existing ++ "'").toList) := by
    intro id existing
    simp [detail]
  have characters := congrArg String.toList same
  rw [split, split] at characters
  have front := congrArg (List.takeWhile fun character => character ≠ ' ') characters
  rw [first.takeWhile_text, second.takeWhile_text] at front
  have ids : first = second := Id.text_injective (String.toList_inj.1 front)
  subst ids
  have behind := List.append_cancel_left (List.cons.inj (List.append_cancel_left characters)).2
  exact ⟨rfl, (String.append_left_inj _).1 (String.toList_inj.1 behind)⟩

/-! ### Failures by their messages -/

/-- The opening and the detail tell a failure. -/
theorem Failure.eq_of_parts {first second : Failure} (opening : first.opening = second.opening)
    (detail : first.detail = second.detail) : first = second := by
  cases first <;> cases second
  case unknownId.unknownId id other => rw [Id.text_injective detail]
  case unknownName.unknownName name other => rw [show name = other from detail]
  case duplicateId.duplicateId id existing other another =>
    obtain ⟨rfl, rfl⟩ := Failure.detail_duplicateId_injective detail
    rfl
  case configuration.configuration reason other => rw [show reason = other from detail]
  all_goals exact absurd opening (by simp [Failure.opening])

theorem Failure.message_injective {first second : Failure}
    (same : first.message = second.message) : first = second := by
  have opening : first.opening = second.opening :=
    @Reason.opening_eq_of_message_eq (.failed first) (.failed second) same
  rw [first.message_eq, second.message_eq, opening] at same
  exact Failure.eq_of_parts opening ((String.append_right_inj _).1 same)

/-- A reason that reads like a failure passes the failure on. -/
theorem Wire.Reason.eq_failed_of_message_eq {reason : Reason} {failure : Failure}
    (same : reason.message = failure.message) : reason = .failed failure := by
  cases reason with
  | failed other => rw [Failure.message_injective same]
  | _ =>
    have opening := @Reason.opening_eq_of_message_eq _ (.failed failure) same
    cases failure <;> exact absurd opening (by simp [Reason.opening, Failure.opening])

theorem Wire.Reason.message_eq_iff {reason : Reason} {failure : Failure} :
    reason.message = failure.message ↔ reason = .failed failure := by
  refine ⟨Reason.eq_failed_of_message_eq, ?_⟩
  rintro rfl
  rfl

/-- The message of a failure that is passed on is the one of no other failure. -/
theorem Failure.message_failed_eq_iff {passed failure : Failure} :
    (Reason.failed passed).message = failure.message ↔ failure = passed := by
  rw [Reason.message_eq_iff, Reason.failed.injEq, eq_comm]

/-! ### Refused values -/

/-- An identifier that is read and not registered is passed on, whatever stands behind it. -/
theorem Wire.decodeAction_of_free {registry : Registry} {text : List Char} {token : Json.Token}
    {rest : List Json.Token} {id : Id} (begins : Json.tokens text = token :: rest)
    (read : readId token = .ok id) (free : registry.contains id = false) :
    decodeAction registry text = .error (.data (.failed (.unknownId id))) := by
  rw [decodeAction, begins]
  show ((readId token).bind (resolve registry)).bind _ = _
  rw [read]
  show (resolve registry id).bind _ = _
  rw [resolve_of_free free]
  rfl

theorem Policy.invalid_injective {word other : String} (same : invalid word = invalid other) :
    word = other := by
  rw [invalid, invalid, Failure.configuration.injEq, String.append_left_inj,
    String.append_right_inj] at same
  exact same

/-! ### The rule -/

/-- Two failures have one message only if they are one failure, whatever identifiers and texts they
carry. A reason of a decoder has the message of a failure only if it passes that failure on. So the
reason for which an identifier is not decoded tells the identifier, and the reason for which a word
for the policy is refused tells the word. -/
theorem message_tells_failure :
    (∀ first second : Failure, first.message = second.message ↔ first = second) ∧
      (∀ (reason : Reason) (failure : Failure),
        reason.message = failure.message ↔ reason = .failed failure) ∧
      (∀ (registry : Registry) (text : List Char) (token : Json.Token) (rest : List Json.Token)
          (id : Id), Json.tokens text = token :: rest → readId token = .ok id →
        registry.contains id = false →
          ∃ reason, decodeAction registry text = .error (.data reason) ∧
            ∀ failure : Failure, reason.message = failure.message ↔ failure = .unknownId id) ∧
      ∀ (word : String) (literal body : List Char), Json.body? literal = some (body, []) →
        Json.denoted? body = some word → (∀ policy, Policy.ofWord word ≠ .ok policy) →
          ∃ reason,
            Settings.ofJson (objectText Settings.policyKey literal) = .error (.data reason) ∧
              (∀ failure : Failure,
                reason.message = failure.message ↔ failure = Policy.invalid word) ∧
              ∀ other : String, reason.message = (Policy.invalid other).message ↔ other = word := by
  refine ⟨fun first second => ⟨Failure.message_injective, congrArg _⟩,
    fun reason failure => Reason.message_eq_iff, ?_, ?_⟩
  · intro registry text token rest id begins read free
    exact ⟨_, decodeAction_of_free begins read free, fun _ => Failure.message_failed_eq_iff⟩
  · intro word literal body closed denotes misspelled
    cases decided : Policy.ofWord word with
    | ok policy => exact absurd decided (misspelled policy)
    | error failure =>
      obtain ⟨reason, refused, told⟩ :=
        (Settings.WordRefused.of_ofWord decided).member literal body closed denotes
      obtain rfl : failure = Policy.invalid word := Policy.eq_invalid_of_ofWord decided
      obtain rfl : reason = .failed (Policy.invalid word) := Reason.eq_failed_of_message_eq told
      refine ⟨_, refused, fun _ => Failure.message_failed_eq_iff, fun other => ?_⟩
      rw [Failure.message_failed_eq_iff]
      exact ⟨Policy.invalid_injective, congrArg _⟩

/-- A text that holds the end of the message and its beginning once more is told apart, and so is a
refused identifier from a name with the same digits. -/
theorem message_tells_failure_of_imitation :
    (Failure.duplicateId { value := 1 } "2' already registered as '3").message ≠
        (Failure.duplicateId { value := 1 } "2").message ∧
      ∃ reason,
        Wire.decodeAction (Registry.empty {}) [' ', '7', ','] = .error (.data reason) ∧
          reason.message = (Failure.unknownId { value := 7 }).message ∧
          reason.message ≠ (Failure.unknownName "7").message := by
  obtain ⟨injective, -, identifiers, -⟩ := message_tells_failure
  refine ⟨fun same => absurd ((injective _ _).1 same) (by decide), ?_⟩
  have begins : Json.tokens [' ', '7', ','] =
      .number ⟨false, ['7'], [], none⟩ :: Json.tokens [','] := Json.tokens_of_next rfl
  obtain ⟨reason, refused, told⟩ :=
    identifiers (Registry.empty {}) _ _ _ { value := 7 } begins rfl rfl
  exact ⟨reason, refused, (told _).2 rfl, fun same => nomatch (told _).1 same⟩

end ActionDirectory
