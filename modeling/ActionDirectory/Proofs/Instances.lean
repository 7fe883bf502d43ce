/-
Instances. What a registry gives out is an instance: the action that one write, or one place
of the table, has brought, and not merely an action that is equal to it. The source of what
stands under an identifier is the last write of the identifier, and it is told here by the
moments of a run, without the serial numbers that the registry hands out. Two instances have
one serial number exactly if they have one source, for a registry numbers what is brought in
the order in which it is brought. So a write that repeats an action makes another instance,
no reading does, and what a registry refuses becomes none.
-/

import ActionDirectory.Proofs.FirstWriter
import ActionDirectory.Proofs.Recovery
import ActionDirectory.Session

namespace ActionDirectory

variable {origin registry view : Registry} {seed : List Action} {uses : List Use}

/-! ### Sources -/

/-- Where an instance comes from: a place of the table that the registry was filled with, or a
moment of the run, which is the number of the uses before it. -/
inductive Source where
  | seeded (place : Nat)
  | written (moment : Nat)
deriving DecidableEq, Repr

/-- The action that the table has at a place, or that the use at a moment offers. -/
def Source.argument? (seed : List Action) (uses : List Use) : Source → Option Action
  | .seeded place => seed[place]?
  | .written moment =>
    match uses[moment]? with
    | some (.call _ call) => call.offered?
    | _ => none

/-- The actions of a table, each with its place. -/
def seeded (seed : List Action) : List (Source × Action) :=
  seed.zipIdx.map fun placed => (.seeded placed.2, placed.1)

/-- The actions that uses write from a moment on, each with the moment of its write. -/
def Handles.sourced (handles : Handles) (moment : Nat) : List Use → List (Source × Action)
  | [] => []
  | use :: rest =>
    ((handles.written? use).toList.map fun action => (.written moment, action)) ++
      (handles.use use).sourced (moment + 1) rest

/-- All actions that a table and uses have brought to a registry, in their order. -/
def provenance (origin : Registry) (seed : List Action) (uses : List Use) :
    List (Source × Action) :=
  seeded seed ++ (Handles.ofRegistry origin).sourced 0 uses

/-- The source of what stands under an identifier: the last one that brought an action under it. -/
def lastSource (brought : List (Source × Action)) (id : Id) : Option Source :=
  (brought.filter fun pair => pair.2.id = id).getLast?.map Prod.fst

theorem lastSource_concat_self (brought : List (Source × Action)) (source : Source)
    (action : Action) : lastSource (brought ++ [(source, action)]) action.id = some source := by
  rw [lastSource, List.filter_append, List.filter_cons_of_pos (by exact decide_eq_true rfl),
    List.filter_nil, List.getLast?_concat]
  rfl

/-- The serial number of what stands under an identifier is the position of its source. -/
theorem lastSource_of_lastUnder {brought : List (Source × Action)} {id : Id} {entry : Entry}
    (current : lastUnder (brought.map Prod.snd) id = some entry) :
    ∃ source, lastSource brought id = some source ∧
      brought[entry.serial]? = some (source, entry.action) := by
  obtain ⟨before, after, split, position, concerned, others⟩ := split_of_latest current
  obtain ⟨front, back, rfl, rfl, tail⟩ := List.map_eq_append_iff.1 split
  obtain ⟨⟨source, action⟩, rest, rfl, rfl, rfl⟩ := List.map_eq_cons_iff.1 tail
  refine ⟨source, ?_, ?_⟩
  · have quiet : rest.filter (fun pair => pair.2.id = id) = [] := by
      refine List.filter_eq_nil_iff.2 fun pair member => ?_
      simpa using others pair.2 (List.mem_map_of_mem member)
    rw [lastSource, List.filter_append,
      List.filter_cons_of_pos (by exact decide_eq_true concerned), quiet, List.getLast?_concat]
    rfl
  · rw [position, List.length_map, List.getElem?_append_right (Nat.le_refl _), Nat.sub_self]
    rfl

theorem map_action_seeded (seed : List Action) : (seeded seed).map Prod.snd = seed := by
  rw [seeded, List.map_map]
  exact List.zipIdx_map_fst 0 seed

theorem nodup_seeded (seed : List Action) : ((seeded seed).map Prod.fst).Nodup := by
  have places : (seeded seed).map Prod.fst = (List.range' 0 seed.length).map Source.seeded := by
    rw [seeded, List.map_map, ← List.zipIdx_map_snd, List.map_map]
    rfl
  rw [places]
  exact List.Nodup.map (fun _ _ same => Source.seeded.inj same) List.nodup_range'

/-- A seeded action is the one at its place. -/
theorem exists_of_mem_seeded {seed : List Action} {pair : Source × Action}
    (member : pair ∈ seeded seed) :
    ∃ place, pair.1 = .seeded place ∧ seed[place]? = some pair.2 := by
  obtain ⟨⟨action, place⟩, placed, rfl⟩ := List.mem_map.1 member
  exact ⟨place, rfl, List.mem_zipIdx_iff_getElem?.1 placed⟩

/-- A call gives out what it writes, and writes what it offers. One that writes nothing offers
nothing or fails. -/
theorem Registry.written?_cases (registry : Registry) (call : Call) :
    (registry.written? call = none ∧
        (call.offered? = none ∨ ∃ failure, (registry.perform call).reply = .failed failure)) ∨
      ∃ action, registry.written? call = some action ∧ call.offered? = some action ∧
        (registry.perform call).reply = .entry ⟨registry.serial, action⟩ := by
  cases call with
  | register action => exact Or.inr ⟨action, rfl, rfl, rfl⟩
  | tryRegister action =>
    rcases registry.tryRegister_cases action with ⟨existing, -, -, refused⟩ | ⟨-, accepted⟩
    · simp [Registry.written?, Registry.perform, refused]
    · simp [Registry.written?, Registry.perform, accepted, Registry.wrote, Call.offered?,
        Registry.register]
  | require id => simp [Registry.written?, Call.offered?]
  | lookup | find | contains | isEmpty | settings | entries => exact Or.inl ⟨rfl, Or.inl rfl⟩

/-- A call that fails writes nothing. -/
theorem Registry.written?_of_failed (registry : Registry) {call : Call} {failure : Failure}
    (failed : (registry.perform call).reply = .failed failure) : registry.written? call = none := by
  rcases registry.written?_cases call with ⟨silent, -⟩ | ⟨action, -, -, replied⟩
  · exact silent
  · rw [failed] at replied
    cases replied

namespace Handles

variable {handles : Handles}

theorem sourced_append (handles : Handles) (moment : Nat) (first second : List Use) :
    handles.sourced moment (first ++ second) =
      handles.sourced moment first ++
        (handles.after first).sourced (moment + first.length) second := by
  induction first generalizing handles moment with
  | nil => rfl
  | cons use rest inductionHypothesis =>
    rw [List.cons_append, sourced, inductionHypothesis, sourced, List.append_assoc,
      List.length_cons, Nat.add_assoc, Nat.add_comm 1]
    rfl

theorem map_action_sourced (handles : Handles) (moment : Nat) (uses : List Use) :
    (handles.sourced moment uses).map Prod.snd = handles.written uses := by
  induction uses generalizing handles moment with
  | nil => rfl
  | cons use rest inductionHypothesis =>
    rw [sourced, List.map_append, inductionHypothesis, List.map_map, written]
    congr 1
    exact List.map_id _

/-- What is written at a moment is written by the use at that moment. -/
theorem exists_of_mem_sourced {moment : Nat} {uses : List Use} {pair : Source × Action}
    (member : pair ∈ handles.sourced moment uses) :
    ∃ before use later, uses = before ++ use :: later ∧
      pair.1 = .written (moment + before.length) ∧
      (handles.after before).written? use = some pair.2 := by
  induction uses generalizing handles moment with
  | nil => cases member
  | cons use rest inductionHypothesis =>
    rcases List.mem_append.1 member with now | later
    · obtain ⟨action, wrote, rfl⟩ := List.mem_map.1 now
      exact ⟨[], use, rest, rfl, rfl, Option.mem_toList.1 wrote⟩
    · obtain ⟨before, other, behind, rfl, source, wrote⟩ := inductionHypothesis later
      refine ⟨use :: before, other, behind, rfl, ?_, wrote⟩
      rw [source, List.length_cons, Nat.add_assoc, Nat.add_comm 1]

theorem nodup_sourced (handles : Handles) (moment : Nat) (uses : List Use) :
    ((handles.sourced moment uses).map Prod.fst).Nodup := by
  induction uses generalizing handles moment with
  | nil => exact List.nodup_nil
  | cons use rest inductionHypothesis =>
    rw [sourced, List.map_append, List.map_map]
    cases handles.written? use with
    | none => exact inductionHypothesis _ _
    | some action =>
      refine List.nodup_cons.2 ⟨fun again => ?_, inductionHypothesis _ _⟩
      obtain ⟨pair, member, same⟩ := List.mem_map.1 again
      obtain ⟨before, -, -, -, source, -⟩ := exists_of_mem_sourced member
      have moments := Source.written.inj (source.symm.trans same)
      omega

end Handles

/-! ### Provenance -/

theorem map_action_provenance (origin : Registry) (seed : List Action) (uses : List Use) :
    (provenance origin seed uses).map Prod.snd =
      seed ++ (Handles.ofRegistry origin).written uses := by
  rw [provenance, List.map_append, map_action_seeded, Handles.map_action_sourced]

theorem provenance_append (origin : Registry) (seed : List Action) (first second : List Use) :
    provenance origin seed (first ++ second) =
      provenance origin seed first ++
        ((Handles.ofRegistry origin).after first).sourced first.length second := by
  rw [provenance, provenance, Handles.sourced_append, Nat.zero_add, List.append_assoc]

/-- Nothing is brought twice. -/
theorem nodup_provenance (origin : Registry) (seed : List Action) (uses : List Use) :
    ((provenance origin seed uses).map Prod.fst).Nodup := by
  rw [provenance, List.map_append]
  refine List.Nodup.append (nodup_seeded seed) (Handles.nodup_sourced _ _ _) ?_
  intro source ofSeed ofUses
  obtain ⟨placed, placedMember, rfl⟩ := List.mem_map.1 ofSeed
  obtain ⟨wrote, wroteMember, same⟩ := List.mem_map.1 ofUses
  obtain ⟨place, seededSource, -⟩ := exists_of_mem_seeded placedMember
  obtain ⟨before, -, -, -, writtenSource, -⟩ := Handles.exists_of_mem_sourced wroteMember
  rw [seededSource, writtenSource] at same
  cases same

/-- Whatever is brought stands in the table at its place or is written by the use at its moment. -/
theorem mem_provenance_cases {source : Source} {action : Action}
    (member : (source, action) ∈ provenance origin seed uses) :
    (∃ place, source = .seeded place ∧ seed[place]? = some action) ∨
      ∃ before use later, uses = before ++ use :: later ∧ source = .written before.length ∧
        ((Handles.ofRegistry origin).after before).written? use = some action := by
  rcases List.mem_append.1 member with ofSeed | ofUses
  · exact Or.inl (exists_of_mem_seeded ofSeed)
  · obtain ⟨before, use, later, split, moment, wrote⟩ := Handles.exists_of_mem_sourced ofUses
    rw [Nat.zero_add] at moment
    exact Or.inr ⟨before, use, later, split, moment, wrote⟩

/-- What is brought is the argument of its source. -/
theorem argument?_of_mem_provenance {source : Source} {action : Action}
    (member : (source, action) ∈ provenance origin seed uses) :
    source.argument? seed uses = some action := by
  rcases mem_provenance_cases member with
    ⟨place, rfl, placed⟩ | ⟨before, use, later, rfl, rfl, wrote⟩
  · exact placed
  · rw [Source.argument?, List.getElem?_append_right (Nat.le_refl _), Nat.sub_self,
      List.getElem?_cons_zero]
    cases use with
    | clone handle => cases wrote
    | call handle call =>
      obtain ⟨view, -, viewWrote⟩ := Option.bind_eq_some_iff.1 wrote
      rcases view.written?_cases call with ⟨silent, -⟩ | ⟨other, otherWrote, offers, -⟩
      · rw [viewWrote] at silent
        cases silent
      · exact offers.trans (otherWrote.symm.trans viewWrote)

/-! ### What is handed out -/

/-- An entry that a call gives out in the course of uses of a registry. -/
structure Handout (origin : Registry) (uses : List Use) where
  before : List Use
  handle : Nat
  call : Call
  later : List Use
  split : uses = before ++ .call handle call :: later
  view : Registry
  seen : ((Handles.ofRegistry origin).after before).view? handle = some view
  entry : Entry
  given : entry ∈ (view.perform call).reply.given

namespace Handout

/-- The uses up to the call that gives the entry out. -/
def upTo (handout : Handout origin uses) : List Use :=
  handout.before ++ [.call handout.handle handout.call]

/-- The source of the entry: the last one, up to the call, of those under its identifier. -/
def source? (handout : Handout origin uses) (seed : List Action) : Option Source :=
  lastSource (provenance origin seed handout.upTo) handout.entry.id

/-- What is written behind the call. -/
def writtenSince (handout : Handout origin uses) : List Action :=
  ((Handles.ofRegistry origin).after handout.upTo).written handout.later

variable (handout : Handout origin uses)

theorem uses_eq : uses = handout.upTo ++ handout.later := by
  rw [upTo, List.append_assoc]
  exact handout.split

theorem written?_use : ((Handles.ofRegistry origin).after handout.before).written?
    (.call handout.handle handout.call) = handout.view.written? handout.call := by
  rw [Handles.written?, handout.seen]
  rfl

theorem provenance_uses (seed : List Action) : provenance origin seed uses =
    provenance origin seed handout.upTo ++
      ((Handles.ofRegistry origin).after handout.upTo).sourced handout.upTo.length handout.later :=
  (congrArg (provenance origin seed) handout.uses_eq).trans (provenance_append _ _ _ _)

theorem provenance_upTo (seed : List Action) : provenance origin seed handout.upTo =
    provenance origin seed handout.before ++
      (handout.view.written? handout.call).toList.map
        fun action => (.written handout.before.length, action) := by
  rw [upTo, provenance_append, Handles.sourced, handout.written?_use, Handles.sourced,
    List.append_nil]

theorem written_upTo : (Handles.ofRegistry origin).written handout.upTo =
    (Handles.ofRegistry origin).written handout.before ++
      (handout.view.written? handout.call).toList := by
  rw [upTo, Handles.written_append, Handles.written, handout.written?_use, Handles.written,
    List.append_nil]

/-- The entry is the last one under its identifier when it is given out. -/
theorem lastUnder_upTo (made : Registry.Made origin seed) :
    lastUnder (seed ++ (Handles.ofRegistry origin).written handout.upTo) handout.entry.id =
      some handout.entry := by
  have reflects := Handles.reflects_written made.reflects handout.seen
  rw [written_upTo, ← List.append_assoc, ← (reflects.perform handout.call).lookup]
  exact reflects.lookup_of_given handout.given

/-- The serial number of the entry is the position of its source. -/
theorem exists_source (made : Registry.Made origin seed) :
    ∃ source, handout.source? seed = some source ∧
      (provenance origin seed uses)[handout.entry.serial]? =
        some (source, handout.entry.action) := by
  have current := handout.lastUnder_upTo made
  rw [← map_action_provenance] at current
  obtain ⟨source, last, position⟩ := lastSource_of_lastUnder current
  refine ⟨source, last, ?_⟩
  obtain ⟨inside, -⟩ := List.getElem?_eq_some_iff.1 position
  rw [handout.provenance_uses, List.getElem?_append_left inside]
  exact position

/-- What a call offers is the source of what it gives out. -/
theorem source?_of_offered (offers : handout.call.offered?.isSome) (seed : List Action) :
    handout.source? seed = some (.written handout.before.length) := by
  have given := handout.given
  rcases handout.view.written?_cases handout.call with ⟨-, silent | ⟨failure, failed⟩⟩ |
    ⟨action, wrote, -, replied⟩
  · rw [silent] at offers
    cases offers
  · rw [failed] at given
    cases given
  · rw [replied] at given
    rw [source?, List.mem_singleton.1 given, provenance_upTo, wrote]
    exact lastSource_concat_self _ _ _

/-- The history at the end of the uses is the one up to the call and what is written since. -/
theorem reflects_later (made : Registry.Made origin seed) {other : Nat}
    (seenLater : ((Handles.ofRegistry origin).after uses).view? other = some registry) :
    registry.Reflects
      (seed ++ (Handles.ofRegistry origin).written handout.upTo ++ handout.writtenSince) := by
  have reflects := Handles.reflects_written made.reflects seenLater
  rwa [handout.uses_eq, Handles.written_append, ← List.append_assoc] at reflects

/-- The entry stands under its identifier as long as nothing is written there. -/
theorem lookup_of_kept (made : Registry.Made origin seed) {other : Nat}
    (seenLater : ((Handles.ofRegistry origin).after uses).view? other = some registry)
    (kept : ∀ action ∈ handout.writtenSince, action.id ≠ handout.entry.id) :
    registry.lookup handout.entry.id = some handout.entry := by
  rw [(handout.reflects_later made seenLater).lookup, lastUnder, latest_append_of_absent _ kept]
  exact handout.lastUnder_upTo made

/-- Another entry stands under the identifier as soon as something is written there. -/
theorem lookup_of_replaced (made : Registry.Made origin seed) {other : Nat}
    (seenLater : ((Handles.ofRegistry origin).after uses).view? other = some registry)
    (replaced : ∃ action ∈ handout.writtenSince, action.id = handout.entry.id) :
    ∃ found, registry.lookup handout.entry.id = some found ∧
      (Session.relate handout.entry found).sameWrite = false := by
  obtain ⟨found, last, behind⟩ := exists_latest_append
    (seed ++ (Handles.ofRegistry origin).written handout.upTo) replaced
  have inside := serial_lt_of_latest (handout.lastUnder_upTo made)
  refine ⟨found, ((handout.reflects_later made seenLater).lookup _).trans last, ?_⟩
  exact decide_eq_false (Nat.ne_of_lt (Nat.lt_of_lt_of_le inside behind))

/-- Entries stem from one write exactly if they have one source. -/
theorem sameWrite_iff (made : Registry.Made origin seed) (first second : Handout origin uses) :
    (Session.relate first.entry second.entry).sameWrite = true ↔
      first.source? seed = second.source? seed := by
  obtain ⟨firstSource, firstLast, firstPosition⟩ := first.exists_source made
  obtain ⟨secondSource, secondLast, secondPosition⟩ := second.exists_source made
  rw [firstLast, secondLast, Option.some_inj]
  constructor
  · intro same
    rw [of_decide_eq_true same, secondPosition] at firstPosition
    exact (congrArg Prod.fst (Option.some.inj firstPosition)).symm
  · rintro rfl
    -- A source occurs at one position only.
    obtain ⟨inside, -⟩ := List.getElem?_eq_some_iff.1 firstPosition
    rw [← List.length_map Prod.fst] at inside
    refine decide_eq_true ((List.getElem?_inj inside (nodup_provenance origin seed uses)).1 ?_)
    rw [List.getElem?_map, List.getElem?_map, firstPosition, secondPosition]
    rfl

/-- What fails is the source of nothing that is given out at any time. -/
theorem source?_ne_of_failed (made : Registry.Made origin seed) (handout : Handout origin uses)
    {before later : List Use} {handle : Nat} {call : Call} {failure : Failure}
    (split : uses = before ++ .call handle call :: later)
    (seen : ((Handles.ofRegistry origin).after before).view? handle = some view)
    (failed : (view.perform call).reply = .failed failure) :
    handout.source? seed ≠ some (.written before.length) := by
  intro same
  obtain ⟨source, last, position⟩ := handout.exists_source made
  cases same.symm.trans last
  rcases mem_provenance_cases (List.mem_of_getElem? position) with
    ⟨place, other, -⟩ | ⟨others, use, behind, otherSplit, sameMoment, wrote⟩
  · cases other
  · obtain ⟨rfl, sameRest⟩ :=
      List.append_inj (split.symm.trans otherSplit) (Source.written.inj sameMoment)
    cases (List.cons.inj sameRest).1
    rw [Handles.written?, seen, Option.bind_some, view.written?_of_failed failed] at wrote
    cases wrote

end Handout

/-! ### What is held -/

namespace Session

variable {session : Session} {number : Nat} {entry : Entry}

theorem output_advance {output : Output} (given : session.outputs[number]? = some output)
    (step : Option Step) : (session.advance step).1.outputs[number]? = some output := by
  obtain ⟨inside, -⟩ := Array.getElem?_eq_some_iff.1 given
  show (session.outputs.push _)[number]? = _
  rw [Array.getElem?_push, if_neg (Nat.ne_of_lt inside)]
  exact given

/-- A step whose answer depends only on what an earlier step gave is answered alike, whatever steps
come in between. -/
theorem answer_of_output {output : Output} {asked : Step} {answer : Answer}
    (answers : ∀ session : Session, session.outputs[number]? = some output →
      (session.effect asked).answer = answer)
    (given : session.outputs[number]? = some output) (steps : List (Option Step)) :
    (session.run (steps ++ [some asked])).getLast?.map Report.answer = some answer := by
  induction steps generalizing session with
  | nil => exact congrArg some (answers session given)
  | cons step rest inductionHypothesis =>
    obtain ⟨report, last, answered⟩ :=
      Option.map_eq_some_iff.1 (inductionHypothesis (output_advance given step))
    rw [List.cons_append, run, List.getLast?_cons, last]
    exact congrArg some answered

theorem entry?_eq_some_iff : session.entry? number = some entry ↔
    session.outputs[number]? = some (.entry entry) := by
  unfold entry?
  split
  next found output => simp [output]
  next other => exact ⟨nofun, fun output => absurd output (other entry)⟩

/-- Whoever asks for what an earlier step gave gets it as it was given. -/
theorem answer_held (held : session.entry? number = some entry) (steps : List (Option Step)) :
    (session.run (steps ++ [some (.held number)])).getLast?.map Report.answer =
      some (.held entry.action) := by
  refine answer_of_output (fun later given => ?_) (entry?_eq_some_iff.1 held) steps
  have known : later.entry? number = some entry := entry?_eq_some_iff.2 given
  simp only [effect, known]

end Session

/-! ### The rule -/

/-- Whatever is given out through any handle of a registry has a source, which is a place of the
table or an accepted write, and is the argument of its source; what a write gives out has that write
as its source. It is what stands under its identifier until something is written there again, and
never again afterwards. Two entries are one instance exactly if they have one source. A refused
write changes nothing and is the source of nothing that is given out at any time. What a session
gave out stays as it was, whatever steps come afterwards. -/
theorem instances_have_sources (made : Registry.Made origin seed) (uses : List Use) :
    (∀ handout : Handout origin uses,
        (∃ source, handout.source? seed = some source ∧
          source.argument? seed uses = some handout.entry.action) ∧
        (handout.call.offered?.isSome →
          handout.source? seed = some (.written handout.before.length)) ∧
        ∀ handle view, ((Handles.ofRegistry origin).after uses).view? handle = some view →
          ((∀ action ∈ handout.writtenSince, action.id ≠ handout.entry.id) →
            view.lookup handout.entry.id = some handout.entry) ∧
          ((∃ action ∈ handout.writtenSince, action.id = handout.entry.id) →
            ∃ found, view.lookup handout.entry.id = some found ∧
              (Session.relate handout.entry found).sameWrite = false)) ∧
      (∀ first second : Handout origin uses,
        (Session.relate first.entry second.entry).sameWrite = true ↔
          first.source? seed = second.source? seed) ∧
      (∀ before handle view action failure later,
        uses = before ++ .call handle (.tryRegister action) :: later →
          ((Handles.ofRegistry origin).after before).view? handle = some view →
            (view.perform (.tryRegister action)).reply = .failed failure →
              (view.perform (.tryRegister action)).registry = view ∧
                ∀ handout : Handout origin uses,
                  handout.source? seed ≠ some (.written before.length)) ∧
      ∀ session number entry, Session.entry? session number = some entry →
        ∀ steps, (session.run (steps ++ [some (.held number)])).getLast?.map Report.answer =
          some (.held entry.action) := by
  refine ⟨fun handout => ⟨?_, fun offers => handout.source?_of_offered offers seed,
      fun handle view seen =>
        ⟨handout.lookup_of_kept made seen, handout.lookup_of_replaced made seen⟩⟩,
    Handout.sameWrite_iff made, ?_,
    fun session number entry held steps => Session.answer_held held steps⟩
  · obtain ⟨source, last, position⟩ := handout.exists_source made
    exact ⟨source, last, argument?_of_mem_provenance (List.mem_of_getElem? position)⟩
  · intro before handle view action failure later split seen failed
    refine ⟨?_, fun handout => handout.source?_ne_of_failed made split seen failed⟩
    rw [Registry.registry_perform, view.written?_of_failed failed]

/-- A seeded action is refused once and then registered again as it was: the entry is equal to the
former one but another instance, and the name leads to it. -/
theorem instances_have_sources_of_repeated_write :
    let copy : Action := ⟨{ value := 1 }, "copy"⟩
    let uses : List Use := [.clone 0, .call 1 (.lookup { value := 1 }), .call 0 (.tryRegister copy),
      .call 1 (.register copy), .call 0 (.find "copy")]
    ∃ origin, Registry.Made origin [copy] ∧
      ∃ seeded again found : Handout origin uses,
        seeded.source? [copy] = some (.seeded 0) ∧ again.source? [copy] = some (.written 3) ∧
        found.call = .find "copy" ∧ found.source? [copy] = some (.written 3) ∧
        seeded.entry.action = again.entry.action ∧
        (Session.relate seeded.entry again.entry).sameWrite = false ∧
        (Session.relate again.entry found.entry).sameWrite = true ∧
        ∀ handout : Handout origin uses, handout.source? [copy] ≠ some (.written 2) := by
  intro copy uses
  let origin := ((Registry.empty { policy := .reject }).register copy).registry
  have made : Registry.Made origin [copy] :=
    @Registry.Made.filled [copy] { policy := .reject } origin _ rfl
  obtain ⟨-, instances, refusals, -⟩ := instances_have_sources made uses
  let seeded : Handout origin uses := ⟨uses.take 1, 1, .lookup { value := 1 }, uses.drop 2, rfl, _,
    rfl, ⟨0, copy⟩, List.mem_cons_self⟩
  let again : Handout origin uses := ⟨uses.take 3, 1, .register copy, uses.drop 4, rfl, _, rfl,
    ⟨1, copy⟩, List.mem_cons_self⟩
  let found : Handout origin uses := ⟨uses.take 4, 0, .find "copy", [], rfl, _, rfl, ⟨1, copy⟩,
    List.mem_cons_self⟩
  refine ⟨origin, made, seeded, again, found, rfl, rfl, rfl, rfl, rfl, ?_,
    (instances again found).2 rfl, (refusals (uses.take 2) 0 _ copy _ (uses.drop 3) rfl rfl rfl).2⟩
  rw [Bool.eq_false_iff, Ne, instances]
  decide

end ActionDirectory
