/-
Numbers of actions. A number reaches a registry as the text of JSON, as a plain integer of
any width up to 64 bits, or as a decimal text that is no name. On all of these ways it goes
through one range check before it is looked up, so they agree with each other and with a
direct request for the identifier: about a registered identifier, about one that nothing is
registered under, and about a number that is no identifier at all. No number is cut down to
the 32 bits of an identifier.
-/

import ActionDirectory.Proofs.RoundTrip
import ActionDirectory.Wire.Plain

namespace ActionDirectory

/-! ### The native integers -/

/-- The kinds of integers of 8, 16, 32 and 64 bits. -/
def Wire.Width.native : List Width :=
  [8, 16, 32, 64].flatMap fun bits => [⟨true, bits⟩, ⟨false, bits⟩]

theorem Wire.Width.bits_le_of_mem_native {width : Width} (member : width ∈ native) :
    width.bits ≤ 64 := by
  have all : ∀ width ∈ native, width.bits ≤ 64 := by decide
  exact all width member

/-- An integer between the least signed one and the greatest unsigned one of 64 bits is one of
either kind. -/
theorem Wire.Width.exists_native_holds {value : Int} (lower : -9223372036854775808 ≤ value)
    (upper : value < 18446744073709551616) :
    ∃ width ∈ native, width.holds value = true := by
  have signed : Int.pow 2 63 = 9223372036854775808 := rfl
  have unsigned : Int.pow 2 64 = 18446744073709551616 := rfl
  rcases lt_or_ge value 9223372036854775808 with small | large
  · refine ⟨⟨true, 64⟩, by decide, ?_⟩
    show (decide (-Int.pow 2 63 ≤ value) && decide (value < Int.pow 2 63)) = true
    rw [signed, Bool.and_eq_true, decide_eq_true_iff, decide_eq_true_iff]
    exact ⟨lower, small⟩
  · refine ⟨⟨false, 64⟩, by decide, ?_⟩
    show (decide (0 ≤ value) && decide (value < Int.pow 2 64)) = true
    rw [unsigned, Bool.and_eq_true, decide_eq_true_iff, decide_eq_true_iff]
    exact ⟨by omega, upper⟩

/-! ### The ways to read a number -/

variable {registry : Registry} {value : Int}

namespace Wire

/-- A decoder of JSON takes the decimal text of an integer for the integer. -/
theorem decodeAction_signed (registry : Registry) (lower : -9223372036854775808 ≤ value)
    (upper : value < 18446744073709551616) :
    decodeAction registry (Decimal.signed value) = (idOf value).bind (resolve registry) := by
  rw [decodeAction, tokens_signed_alone]
  show (readAction registry (integerToken value)).bind (fun action => complete (action, [])) = _
  rw [readAction, readId_ofInt lower upper]
  cases (idOf value).bind (resolve registry) <;> rfl

theorem decodePlain_integer (registry : Registry) {width : Width} (narrow : width.bits ≤ 64)
    (value : Int) :
    decodePlain registry (.integer width value) = (idOf value).bind (resolve registry) := by
  rw [decodePlain, Plain.id, if_pos narrow]
  rfl

end Wire

/-- A text that is no name is parsed as a number. -/
theorem Registry.parse_text (unnamed : registry.find (Decimal.text value) = none) :
    registry.parse (Decimal.text value) =
      match Id.ofInt? value with
      | some id => (registry.require id).map Entry.action
      | none => .error (.unknownName (Decimal.text value)) := by
  have read : Decimal.signed? (Decimal.text value).toList = some value := by
    rw [Decimal.text, String.toList_ofList, Decimal.signed?_signed]
  rw [Registry.parse, unnamed, read]
  rfl

/-- What a number is read as: decoders of JSON and of plain integers read it alike, and so does the
parser, which has failures of its own, unless the decimal text is a name. -/
structure ReadsNumber (registry : Registry) (value : Int) (decoded : Except Wire.Refusal Action)
    (parsed : Except Failure Action) : Prop where
  json : Wire.decodeAction registry (Decimal.signed value) = decoded
  plain : ∀ width ∈ Wire.Width.native, width.holds value = true →
    Wire.decodePlain registry (.integer width value) = decoded
  parse : registry.find (Decimal.text value) = none →
    registry.parse (Decimal.text value) = parsed

namespace ReadsNumber

/-- All ways to read a number go through one range check and then ask for the identifier. -/
theorem of_range_check (registry : Registry) (lower : -9223372036854775808 ≤ value)
    (upper : value < 18446744073709551616) :
    ReadsNumber registry value ((Wire.idOf value).bind (Wire.resolve registry))
      (match Id.ofInt? value with
      | some id => (registry.require id).map Entry.action
      | none => .error (.unknownName (Decimal.text value))) where
  json := Wire.decodeAction_signed registry lower upper
  plain _ member _ :=
    Wire.decodePlain_integer registry (Wire.Width.bits_le_of_mem_native member) value
  parse unnamed := Registry.parse_text unnamed

/-- A number that is an identifier is read as what a request for the identifier answers. -/
theorem of_id (registry : Registry) (id : Id) :
    ReadsNumber registry id.value (Wire.resolve registry id)
      ((registry.require id).map Entry.action) := by
  have lower := id.lower
  have upper := id.upper
  have readings : ReadsNumber registry id.value _ _ :=
    of_range_check registry (by omega) (by omega)
  rwa [Wire.idOf_value, id.ofInt?_value] at readings

theorem of_out_of_range (registry : Registry) (lower : -9223372036854775808 ≤ value)
    (upper : value < 18446744073709551616) (outside : value < -2147483648 ∨ 2147483647 < value) :
    ReadsNumber registry value (.error (.data (.invalidValue value .int32)))
      (.error (.unknownName (Decimal.text value))) := by
  have readings := of_range_check registry lower upper
  rwa [Wire.idOf, Id.ofInt?_eq_none_iff.2 outside] at readings

end ReadsNumber

/-! ### The rule -/

/-- In every environment and at every later moment, whatever was registered, all ways to read an
integer of up to 64 bits from the shared registry agree. Some native integer holds it. If it is an
identifier, they all give the registered action, or they all tell that nothing is registered under
the identifier. If it is none, the decoders refuse its value, and the parser does not know the name
that its decimal text would be. -/
theorem number_readings_agree (environment : Environment) :
    ∃ origin records, Registry.shared environment = .ok (origin, records) ∧
      Registry.Made origin Catalog.actions ∧
        ∀ uses handle registry,
          ((Handles.ofRegistry origin).after uses).view? handle = some registry →
            ∀ value, -9223372036854775808 ≤ value → value < 18446744073709551616 →
              (∃ width ∈ Wire.Width.native, width.holds value = true) ∧
              (-2147483648 ≤ value ∧ value ≤ 2147483647 →
                ∃ id : Id, id.value = value ∧
                  ((∃ entry, registry.require id = .ok entry ∧ entry.id = id ∧
                      ReadsNumber registry value (.ok entry.action) (.ok entry.action)) ∨
                    registry.require id = .error (.unknownId id) ∧
                      ReadsNumber registry value (.error (.data (.failed (.unknownId id))))
                        (.error (.unknownId id)))) ∧
              (value < -2147483648 ∨ 2147483647 < value →
                ReadsNumber registry value (.error (.data (.invalidValue value .int32)))
                  (.error (.unknownName (Decimal.text value)))) := by
  obtain ⟨origin, records, started, made⟩ := Registry.exists_shared environment
  refine ⟨origin, records, started, made, fun uses handle registry seen value lower upper =>
    ⟨Wire.Width.exists_native_holds lower upper, fun fits => ?_,
      ReadsNumber.of_out_of_range registry lower upper⟩⟩
  have reflects : registry.Reflects _ := Handles.reflects_written made.reflects seen
  let id : Id := ⟨value, fits.1, fits.2⟩
  have readings : ReadsNumber registry value _ _ := ReadsNumber.of_id registry id
  refine ⟨id, rfl, ?_⟩
  cases found : registry.lookup id with
  | some entry =>
    have required : registry.require id = .ok entry := by
      rw [Registry.require, found]
    rw [Wire.resolve, required] at readings
    exact Or.inl ⟨entry, required, (reflects.mem_of_lookup found).2, readings⟩
  | none =>
    have missing : registry.require id = .error (.unknownId id) := by
      rw [Registry.require, found]
    rw [Wire.resolve, missing] at readings
    exact Or.inr ⟨missing, readings⟩

/-- A negative identifier is renamed and read, a free one is unknown, and a number that has the same
32 lowest bits as the negative one is refused. -/
theorem number_readings_agree_after_renaming :
    ∃ origin records registry,
      Registry.shared { policy := .text "strict" } = .ok (origin, records) ∧
      ((Handles.ofRegistry origin).after
        [.call 0 (.register ⟨{ value := -3 }, "late"⟩)]).view? 0 = some registry ∧
      ReadsNumber registry (-3) (.ok ⟨{ value := -3 }, "late"⟩) (.ok ⟨{ value := -3 }, "late"⟩) ∧
      ReadsNumber registry 73 (.error (.data (.failed (.unknownId { value := 73 }))))
        (.error (.unknownId { value := 73 })) ∧
      registry.find (Decimal.text 4294967293) = none ∧
      ReadsNumber registry 4294967293 (.error (.data (.invalidValue 4294967293 .int32)))
        (.error (.unknownName (Decimal.text 4294967293))) := by
  obtain ⟨origin, records, started, made, all⟩ :=
    number_readings_agree { policy := .text "strict" }
  let registry := (origin.register ⟨{ value := -3 }, "late"⟩).registry
  have readings := all [.call 0 (.register ⟨{ value := -3 }, "late"⟩)] 0 registry rfl
  have reflects : registry.Reflects (Catalog.actions ++ [⟨{ value := -3 }, "late"⟩]) :=
    made.reflects.register _
  have renamed : registry.require { value := -3 } =
      .ok ⟨origin.serial, ⟨{ value := -3 }, "late"⟩⟩ := by
    rw [Registry.require, Registry.lookup_register, if_pos rfl]
  have free : registry.require { value := 73 } = .error (.unknownId { value := 73 }) := by
    rw [Registry.require, (reflects.lookup_eq_none_iff { value := 73 }).2 (by decide)]
  refine ⟨origin, records, registry, started, rfl, ?_, ?_, ?_, ?_⟩
  · obtain ⟨id, same, result⟩ := (readings (-3) (by decide) (by decide)).2.1 (by decide)
    have own : id = { value := -3 } := Id.ext_value same
    subst own
    rcases result with ⟨entry, required, -, reads⟩ | ⟨missing, -⟩
    · cases renamed.symm.trans required
      exact reads
    · cases renamed.symm.trans missing
  · obtain ⟨id, same, result⟩ := (readings 73 (by decide) (by decide)).2.1 (by decide)
    have own : id = { value := 73 } := Id.ext_value same
    subst own
    rcases result with ⟨entry, required, -, -⟩ | ⟨-, reads⟩
    · cases free.symm.trans required
    · exact reads
  · rw [reflects.find]
    decide
  · exact (readings 4294967293 (by decide) (by decide)).2.2 (by decide)

end ActionDirectory
