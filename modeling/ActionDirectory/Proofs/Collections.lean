/-
Collections of actions against each other. Equality, hash and order of actions look at the
identifier only, so which of several actions under one identifier a collection keeps, and where it
puts them, shows in their names. A stable sort keeps all of them, in the order in which they were
listed. A tree and a hash set keep the one that was listed first. The least action is the first of
the sorted list and the greatest is its last.

Each collection is described by facts that leave no choice: a stable sort by the order and by what
stands under each identifier, and a set by the strict order and by the first action under each
identifier. Two collections with the same facts are equal.
-/

import ActionDirectory.Action.Collection
import ActionDirectory.Proofs.FirstWriter
import ActionDirectory.Proofs.Snapshot
import Mathlib.Data.Finset.Card
import Mathlib.Data.List.Destutter

namespace ActionDirectory

/-! ### Equality, order and hash -/

theorem Action.same_iff {first second : Action} :
    first.same second = true ↔ first.id = second.id :=
  decide_eq_true_iff

theorem Action.order_eq_eq_iff {first second : Action} :
    first.order second = .eq ↔ first.id = second.id := by
  rw [order, compare_eq_iff_eq]
  exact ⟨Id.ext_value, congrArg Id.value⟩

theorem Action.hashed_eq_iff {first second : Action} :
    first.hashed = second.hashed ↔ first.id = second.id :=
  ⟨Id.ext_value, congrArg Id.value⟩

theorem id_of_firstUnder {actions : List Action} {id : Id} {first : Action}
    (found : firstUnder actions id = some first) : first.id = id := by
  rw [firstUnder] at found
  simpa using List.find?_some found

theorem firstUnder_cons (first : Action) (rest : List Action) (id : Id) :
    firstUnder (first :: rest) id = if first.id = id then some first else firstUnder rest id := by
  rw [← List.singleton_append, firstUnder_append, firstUnder_singleton]
  split <;> rfl

namespace Collection

variable {actions arranged kept next : List Action} {action offered : Action}

/-! ### Stable sorting -/

/-- The actions under an identifier, in the order of the list. -/
def under (actions : List Action) (id : Id) : List Action :=
  actions.filter fun action => action.id = id

theorem mem_under {id : Id} : action ∈ under actions id ↔ action ∈ actions ∧ action.id = id := by
  rw [under, List.mem_filter, decide_eq_true_iff]

theorem under_cons_self (first : Action) (rest : List Action) :
    under (first :: rest) first.id = first :: under rest first.id :=
  List.filter_cons_of_pos (decide_eq_true rfl)

theorem under_cons_other {first : Action} {id : Id} (other : first.id ≠ id) (rest : List Action) :
    under (first :: rest) id = under rest id :=
  List.filter_cons_of_neg (by simpa using other)

theorem head?_under (actions : List Action) (id : Id) :
    (under actions id).head? = firstUnder actions id :=
  List.head?_filter

/-- No action has a smaller identifier than an earlier one. -/
def Ascends (actions : List Action) : Prop :=
  actions.Pairwise fun first second => first.id.value ≤ second.id.value

/-- What a sort is to do that keeps equal actions in the order of the list. -/
structure StablySorts (actions arranged : List Action) : Prop where
  arrangement : arranged.Perm actions
  ascends : Ascends arranged
  keepsOrder : ∀ id, under arranged id = under actions id

/-- The order and what stands under each identifier decide a list. -/
theorem Ascends.eq_of_under (ascends : Ascends actions) {others : List Action}
    (othersAscend : Ascends others) (same : ∀ id, under actions id = under others id) :
    actions = others := by
  induction actions generalizing others with
  | nil =>
    cases others with
    | nil => rfl
    | cons second others =>
      have missing := same second.id
      rw [under_cons_self] at missing
      cases missing
  | cons first actions inductionHypothesis =>
    have member : first ∈ others :=
      (mem_under.1 (same first.id ▸ mem_under.2 ⟨List.mem_cons_self, rfl⟩)).1
    cases others with
    | nil => cases member
    | cons second others =>
      have otherMember : second ∈ first :: actions :=
        (mem_under.1 (same second.id ▸ mem_under.2 ⟨List.mem_cons_self, rfl⟩)).1
      obtain ⟨least, restAscends⟩ := List.pairwise_cons.1 ascends
      obtain ⟨otherLeast, othersRestAscend⟩ := List.pairwise_cons.1 othersAscend
      have le : first.id.value ≤ second.id.value := by
        rcases List.mem_cons.1 otherMember with rfl | later
        · exact Int.le_refl _
        · exact least second later
      have ge : second.id.value ≤ first.id.value := by
        rcases List.mem_cons.1 member with rfl | later
        · exact Int.le_refl _
        · exact otherLeast first later
      have sameId : first.id = second.id := Id.ext_value (Int.le_antisymm le ge)
      have heads := same first.id
      rw [under_cons_self, sameId, under_cons_self] at heads
      obtain ⟨rfl, tails⟩ := List.cons.inj heads
      refine congrArg (first :: ·) (inductionHypothesis restAscends othersRestAscend fun id => ?_)
      by_cases own : first.id = id
      · exact own ▸ tails
      · have rest := same id
        rwa [under_cons_other own, under_cons_other own] at rest

theorem sorted_perm (actions : List Action) : (sorted actions).Perm actions :=
  List.mergeSort_perm _ _

theorem ascends_sorted (actions : List Action) : Ascends (sorted actions) :=
  Action.ascends_mergeSort id actions

theorem under_sorted (actions : List Action) (id : Id) :
    under (sorted actions) id = under actions id := by
  have equalIds : (under actions id).Pairwise fun first second =>
      (first.order second).isLE = true := by
    refine List.pairwise_of_forall_mem_list fun first firstIn second secondIn => ?_
    rw [Action.isLE_order_iff, (mem_under.1 firstIn).2, (mem_under.1 secondIn).2]
  -- Actions of one identifier are in order already, so the sort does not move them.
  have within : (under actions id).Sublist (sorted actions) :=
    List.sublist_mergeSort Action.isLE_order_trans Action.isLE_order_total equalIds
      List.filter_sublist
  have kept : (under actions id).Sublist (under (sorted actions) id) := by
    have filtered := within.filter fun action => action.id = id
    rwa [List.filter_eq_self.2 fun action member => decide_eq_true (mem_under.1 member).2]
      at filtered
  have sameLength : (under (sorted actions) id).length = (under actions id).length :=
    ((sorted_perm actions).filter _).length_eq
  exact (kept.eq_of_length sameLength.symm).symm

theorem stablySorts_sorted (actions : List Action) : StablySorts actions (sorted actions) where
  arrangement := sorted_perm actions
  ascends := ascends_sorted actions
  keepsOrder := under_sorted actions

/-- There is one stable sort. -/
theorem stablySorts_iff : StablySorts actions arranged ↔ arranged = sorted actions := by
  constructor
  · intro sorts
    refine sorts.ascends.eq_of_under (ascends_sorted actions) fun id => ?_
    rw [sorts.keepsOrder, under_sorted]
  · rintro rfl
    exact stablySorts_sorted actions

/-! ### The first action under each identifier -/

/-- What a set is to keep of a list of actions. -/
structure KeepsFirst (actions kept : List Action) : Prop where
  ascends : kept.Pairwise fun first second => first.id.value < second.id.value
  mem_iff : ∀ action, action ∈ kept ↔ firstUnder actions action.id = some action

theorem KeepsFirst.unique {others : List Action} (keeps : KeepsFirst actions kept)
    (othersKeep : KeepsFirst actions others) : kept = others := by
  refine eq_of_perm_of_ascends keeps.ascends othersKeep.ascends ?_
  rw [List.perm_ext_iff_of_nodup (nodup_of_ascends keeps.ascends)
    (nodup_of_ascends othersKeep.ascends)]
  exact fun action => (keeps.mem_iff action).trans (othersKeep.mem_iff action).symm

theorem KeepsFirst.length_eq (keeps : KeepsFirst actions kept) :
    kept.length = (actions.map Action.id).toFinset.card := by
  have ids : (kept.map Action.id).toFinset = (actions.map Action.id).toFinset := by
    ext id
    rw [List.mem_toFinset, List.mem_toFinset, List.mem_map, List.mem_map]
    constructor
    · rintro ⟨action, member, rfl⟩
      exact ⟨action, List.mem_of_find?_eq_some ((keeps.mem_iff action).1 member), rfl⟩
    · rintro ⟨action, member, rfl⟩
      obtain ⟨first, found⟩ : ∃ first, firstUnder actions action.id = some first := by
        rw [← Option.ne_none_iff_exists', Ne, firstUnder_eq_none_iff]
        exact fun absent => absent action member rfl
      have own : first.id = action.id := id_of_firstUnder found
      exact ⟨first, (keeps.mem_iff first).2 (own ▸ found), own⟩
  rw [← ids, List.toFinset_card_of_nodup (nodup_ids_of_ascends keeps.ascends), List.length_map]

/-- One more action is kept if its identifier is new. -/
theorem mem_iff_concat {last : Action}
    (mem_iff : ∀ action, action ∈ kept ↔ firstUnder actions action.id = some action)
    (step : ∀ action, action ∈ next ↔
      action ∈ kept ∨ action = last ∧ ∀ member ∈ kept, member.id ≠ last.id) (action : Action) :
    action ∈ next ↔ firstUnder (actions ++ [last]) action.id = some action := by
  have fresh : (∀ member ∈ kept, member.id ≠ last.id) ↔ firstUnder actions last.id = none := by
    constructor
    · intro others
      by_contra taken
      obtain ⟨first, found⟩ := Option.ne_none_iff_exists'.1 taken
      have own : first.id = last.id := id_of_firstUnder found
      exact others first ((mem_iff first).2 (own ▸ found)) own
    · intro free member present same
      rw [← same, (mem_iff member).1 present] at free
      cases free
  rw [step, mem_iff, fresh, firstUnder_append, firstUnder_singleton, Option.or_eq_some_iff]
  refine or_congr_right ?_
  constructor
  · rintro ⟨rfl, free⟩
    exact ⟨free, if_pos rfl⟩
  · rintro ⟨free, found⟩
    obtain ⟨same, equal⟩ := Option.ite_none_right_eq_some.1 found
    exact ⟨(Option.some.inj equal).symm, same ▸ free⟩

/-! ### Trees -/

theorem mem_of_mem_plant (present : action ∈ plant kept offered) :
    action = offered ∨ action ∈ kept := by
  induction kept with
  | nil => exact Or.inl (List.mem_singleton.1 present)
  | cons first rest inductionHypothesis =>
    rw [plant] at present
    split at present
    next => exact List.mem_cons.1 present
    next => exact Or.inr present
    next =>
      rcases List.mem_cons.1 present with rfl | later
      · exact Or.inr List.mem_cons_self
      · exact (inductionHypothesis later).imp_right (List.mem_cons_of_mem first)

theorem ascends_plant
    (ascends : kept.Pairwise fun first second => first.id.value < second.id.value)
    (offered : Action) :
    (plant kept offered).Pairwise fun first second => first.id.value < second.id.value := by
  induction kept with
  | nil => exact List.pairwise_singleton _ _
  | cons first rest inductionHypothesis =>
    obtain ⟨above, restAscends⟩ := List.pairwise_cons.1 ascends
    rw [plant]
    split
    next less =>
      have below : offered.id.value < first.id.value := compare_lt_iff_lt.1 less
      refine List.pairwise_cons.2 ⟨List.forall_mem_cons.2 ⟨below, fun other present => ?_⟩, ascends⟩
      exact Int.lt_trans below (above other present)
    next => exact ascends
    next greater =>
      have below : first.id.value < offered.id.value := compare_gt_iff_gt.1 greater
      refine List.pairwise_cons.2 ⟨fun other present => ?_, inductionHypothesis restAscends⟩
      rcases mem_of_mem_plant present with rfl | former
      · exact below
      · exact above other former

/-- A tree takes an action in if its identifier is new. -/
theorem mem_plant_iff
    (ascends : kept.Pairwise fun first second => first.id.value < second.id.value) :
    action ∈ plant kept offered ↔
      action ∈ kept ∨ action = offered ∧ ∀ member ∈ kept, member.id ≠ offered.id := by
  induction kept with
  | nil => simp [plant]
  | cons first rest inductionHypothesis =>
    obtain ⟨above, restAscends⟩ := List.pairwise_cons.1 ascends
    rw [plant]
    split
    next less =>
      have below : offered.id.value < first.id.value := compare_lt_iff_lt.1 less
      have others : ∀ member ∈ first :: rest, member.id ≠ offered.id := by
        refine List.forall_mem_cons.2 ⟨(Id.ne_of_lt below).symm, fun member present => ?_⟩
        exact (Id.ne_of_lt (Int.lt_trans below (above member present))).symm
      rw [List.mem_cons, or_comm]
      exact or_congr_right (and_iff_left others).symm
    next equal =>
      have same : first.id = offered.id := (Action.order_eq_eq_iff.1 equal).symm
      exact (or_iff_left fun both => both.2 first List.mem_cons_self same).symm
    next greater =>
      have below : first.id.value < offered.id.value := compare_gt_iff_gt.1 greater
      rw [List.mem_cons, inductionHypothesis restAscends, List.mem_cons, or_assoc,
        List.forall_mem_cons, and_iff_right (Id.ne_of_lt below)]

theorem keepsFirst_tree (actions : List Action) : KeepsFirst actions (tree actions) := by
  induction actions using List.reverseRecOn with
  | nil => exact ⟨List.Pairwise.nil, fun action => by simp [tree, firstUnder]⟩
  | append_singleton actions last inductionHypothesis =>
    have grown : tree (actions ++ [last]) = plant (tree actions) last := List.foldl_append
    rw [grown]
    obtain ⟨ascends, mem_iff⟩ := inductionHypothesis
    exact ⟨ascends_plant ascends last, mem_iff_concat mem_iff fun action => mem_plant_iff ascends⟩

/-! ### Hash sets -/

/-- A hash set takes an action in if its identifier is new. -/
theorem offer_cases (members : List Action) (offered : Action) :
    (offer members offered = members ∧ ∃ member ∈ members, member.id = offered.id) ∨
      offer members offered = offered :: members ∧
        ∀ member ∈ members, member.id ≠ offered.id := by
  have known : (members.any fun member => member.hashed = offered.hashed && member.same offered) =
      true ↔ ∃ member ∈ members, member.id = offered.id := by
    simp only [List.any_eq_true, Bool.and_eq_true, decide_eq_true_iff, Action.hashed_eq_iff,
      Action.same_iff, and_self]
  rw [offer]
  split
  next found => exact Or.inl ⟨rfl, known.1 found⟩
  next missing => exact Or.inr ⟨rfl, by simpa using mt known.2 missing⟩

theorem mem_offer_iff : action ∈ offer kept offered ↔
    action ∈ kept ∨ action = offered ∧ ∀ member ∈ kept, member.id ≠ offered.id := by
  rcases offer_cases kept offered with ⟨same, member, present, known⟩ | ⟨grown, others⟩
  · rw [same]
    exact (or_iff_left fun both => both.2 member present known).symm
  · rw [grown, List.mem_cons, or_comm, and_iff_left others]

theorem nodup_offer (distinct : (kept.map Action.id).Nodup) (offered : Action) :
    ((offer kept offered).map Action.id).Nodup := by
  rcases offer_cases kept offered with ⟨same, -⟩ | ⟨grown, others⟩
  · rwa [same]
  · rw [grown, List.map_cons, List.nodup_cons, List.mem_map]
    exact ⟨fun ⟨member, present, same⟩ => others member present same, distinct⟩

/-- A hash set has no identifier twice and keeps the first action under each. -/
theorem hashSet_members (actions : List Action) :
    ((hashSet actions).map Action.id).Nodup ∧
      ∀ action, action ∈ hashSet actions ↔ firstUnder actions action.id = some action := by
  induction actions using List.reverseRecOn with
  | nil => exact ⟨List.nodup_nil, fun action => by simp [hashSet, firstUnder]⟩
  | append_singleton actions last inductionHypothesis =>
    obtain ⟨distinct, mem_iff⟩ := inductionHypothesis
    have grown : hashSet (actions ++ [last]) = offer (hashSet actions) last := List.foldl_append
    rw [grown]
    exact ⟨nodup_offer distinct last, mem_iff_concat mem_iff fun action => mem_offer_iff⟩

/-- In whatever order a hash set is listed, the sorted list is the same. -/
theorem keepsFirst_sorted_hashSet {listed : List Action} (listing : listed.Perm (hashSet actions)) :
    KeepsFirst actions (sorted listed) := by
  obtain ⟨distinct, mem_iff⟩ := hashSet_members actions
  have same : (sorted listed).Perm (hashSet actions) := (sorted_perm listed).trans listing
  have sortedDistinct : (sorted listed).Pairwise fun first second => first.id ≠ second.id :=
    List.pairwise_map.1 ((same.map Action.id).nodup_iff.2 distinct)
  refine ⟨((ascends_sorted listed).and sortedDistinct).imp fun both => ?_, fun action => ?_⟩
  · exact Int.lt_iff_le_and_ne.2 ⟨both.1, fun equal => both.2 (Id.ext_value equal)⟩
  · rw [same.mem_iff, mem_iff]

/-! ### Runs of equal identifiers -/

/-- The first action of each run of actions with one identifier. -/
def firstsOfRuns (actions : List Action) : List Action :=
  actions.destutter fun first second => first.id ≠ second.id

theorem mem_destutter_iff {first : Action} {rest : List Action}
    (ascends : Ascends (first :: rest)) :
    action ∈ rest.destutter' (fun first second => first.id ≠ second.id) first ↔
      firstUnder (first :: rest) action.id = some action := by
  induction rest generalizing first with
  | nil =>
    rw [List.destutter'_nil, List.mem_singleton, firstUnder_singleton,
      Option.ite_none_right_eq_some]
    exact ⟨fun same => same ▸ ⟨rfl, rfl⟩, fun found => (Option.some.inj found.2).symm⟩
  | cons second rest inductionHypothesis =>
    obtain ⟨least, restAscends⟩ := List.pairwise_cons.1 ascends
    by_cases same : first.id = second.id
    · -- The second action is passed over, and it is the first of no identifier.
      have skipped : firstUnder (first :: second :: rest) action.id =
          firstUnder (first :: rest) action.id := by
        rw [firstUnder_cons, firstUnder_cons, firstUnder_cons, ← same]
        split <;> rfl
      have fewer : Ascends (first :: rest) :=
        ascends.sublist ((List.sublist_cons_self second rest).cons_cons first)
      rw [List.destutter'_cons_neg _ (not_not.2 same), skipped]
      exact inductionHypothesis fewer
    · have less : first.id.value < second.id.value :=
        Int.lt_iff_le_and_ne.2 ⟨least second List.mem_cons_self, fun equal =>
          same (Id.ext_value equal)⟩
      have others : ∀ later ∈ second :: rest, later.id ≠ first.id := by
        refine List.forall_mem_cons.2 ⟨(Id.ne_of_lt less).symm, fun later present => ?_⟩
        exact (Id.ne_of_lt (Int.lt_of_lt_of_le less
          ((List.pairwise_cons.1 restAscends).1 later present))).symm
      rw [List.destutter'_cons_pos _ same, List.mem_cons, inductionHypothesis restAscends,
        firstUnder_cons first]
      by_cases own : first.id = action.id
      · rw [if_pos own, Option.some_inj, eq_comm, or_iff_left]
        rw [← own, firstUnder_eq_none_iff.2 others]
        exact nofun
      · rw [if_neg own, or_iff_right]
        rintro rfl
        exact own rfl

theorem StablySorts.keepsFirst (sorts : StablySorts actions arranged) :
    KeepsFirst actions (firstsOfRuns arranged) := by
  have ascends : Ascends (firstsOfRuns arranged) :=
    sorts.ascends.sublist (List.destutter_sublist _ arranged)
  refine ⟨?_, fun action => ?_⟩
  · have distinct := List.isChain_destutter (fun first second : Action => first.id ≠ second.id)
      arranged
    have neighbours : (firstsOfRuns arranged).IsChain fun first second =>
        first.id.value < second.id.value := by
      rw [List.isChain_iff_forall_rel_of_append_cons_cons] at distinct ⊢
      intro first second before after split
      rw [Ascends, split, List.pairwise_append, List.pairwise_cons] at ascends
      refine Int.lt_iff_le_and_ne.2 ⟨ascends.2.1.1 second List.mem_cons_self, fun equal => ?_⟩
      exact distinct split (Id.ext_value equal)
    have : IsTrans Action fun first second => first.id.value < second.id.value :=
      ⟨fun _ _ _ => Int.lt_trans⟩
    exact neighbours.pairwise
  · rw [← head?_under, ← sorts.keepsOrder, head?_under]
    cases arranged with
    | nil => simp [firstsOfRuns, firstUnder]
    | cons first rest => exact mem_destutter_iff sorts.ascends

/-! ### The least and the greatest action -/

/-- The first of the actions with the least identifier. -/
structure IsFirstLeast (actions : List Action) (least : Action) : Prop where
  le : ∀ action ∈ actions, least.id.value ≤ action.id.value
  first : (under actions least.id).head? = some least

/-- The last of the actions with the greatest identifier. -/
structure IsLastGreatest (actions : List Action) (greatest : Action) : Prop where
  le : ∀ action ∈ actions, action.id.value ≤ greatest.id.value
  last : (under actions greatest.id).getLast? = some greatest

theorem IsFirstLeast.unique {first second : Action} (least : IsFirstLeast actions first)
    (other : IsFirstLeast actions second) : first = second := by
  have firstIn := (mem_under.1 (List.mem_of_head? least.first)).1
  have secondIn := (mem_under.1 (List.mem_of_head? other.first)).1
  have same : first.id = second.id :=
    Id.ext_value (Int.le_antisymm (least.le second secondIn) (other.le first firstIn))
  have found := least.first
  rw [same, other.first] at found
  exact (Option.some.inj found).symm

theorem IsLastGreatest.unique {first second : Action} (greatest : IsLastGreatest actions first)
    (other : IsLastGreatest actions second) : first = second := by
  have firstIn := (mem_under.1 (List.mem_of_getLast? greatest.last)).1
  have secondIn := (mem_under.1 (List.mem_of_getLast? other.last)).1
  have same : first.id = second.id :=
    Id.ext_value (Int.le_antisymm (other.le first firstIn) (greatest.le second secondIn))
  have found := greatest.last
  rw [same, other.last] at found
  exact (Option.some.inj found).symm

theorem under_concat (actions : List Action) (last : Action) (id : Id) :
    under (actions ++ [last]) id = under actions id ++ if last.id = id then [last] else [] := by
  rw [under, List.filter_append, List.filter_cons, List.filter_nil]
  exact congrArg _ (if_congr decide_eq_true_iff rfl rfl)

theorem under_eq_nil_iff {id : Id} :
    under actions id = [] ↔ ∀ action ∈ actions, action.id ≠ id := by
  simp [under]

/-- An action is offered to the least of the actions before it. -/
theorem IsFirstLeast.concat {least : Action} (isLeast : IsFirstLeast actions least)
    (offered : Action) :
    IsFirstLeast (actions ++ [offered]) (if offered.order least = .lt then offered else least) := by
  split
  next less =>
    have below : offered.id.value < least.id.value := compare_lt_iff_lt.1 less
    have above : ∀ action ∈ actions, offered.id.value < action.id.value := fun action member =>
      Int.lt_of_lt_of_le below (isLeast.le action member)
    have fresh : under actions offered.id = [] :=
      under_eq_nil_iff.2 fun action member => (Id.ne_of_lt (above action member)).symm
    refine ⟨fun action member => ?_, by rw [under_concat, fresh, if_pos rfl]; rfl⟩
    rcases List.mem_append.1 member with earlier | last
    · exact Int.le_of_lt (above action earlier)
    · exact List.mem_singleton.1 last ▸ Int.le_refl _
  next notLess =>
    have above : least.id.value ≤ offered.id.value :=
      Int.not_lt.1 fun less => notLess (compare_lt_iff_lt.2 less)
    refine ⟨fun action member => ?_, ?_⟩
    · rcases List.mem_append.1 member with earlier | last
      · exact isLeast.le action earlier
      · exact List.mem_singleton.1 last ▸ above
    · rw [under_concat, List.head?_append, isLeast.first, Option.some_or]

/-- The greatest of the actions before an action is offered to it. -/
theorem IsLastGreatest.concat {greatest : Action} (isGreatest : IsLastGreatest actions greatest)
    (offered : Action) :
    IsLastGreatest (actions ++ [offered])
      (if offered.order greatest = .lt then greatest else offered) := by
  split
  next less =>
    have below : offered.id.value < greatest.id.value := compare_lt_iff_lt.1 less
    refine ⟨fun action member => ?_, ?_⟩
    · rcases List.mem_append.1 member with earlier | last
      · exact isGreatest.le action earlier
      · exact List.mem_singleton.1 last ▸ Int.le_of_lt below
    · rw [under_concat, if_neg (Id.ne_of_lt below), List.append_nil]
      exact isGreatest.last
  next notLess =>
    have above : greatest.id.value ≤ offered.id.value :=
      Int.not_lt.1 fun less => notLess (compare_lt_iff_lt.2 less)
    refine ⟨fun action member => ?_, by rw [under_concat, if_pos rfl, List.getLast?_concat]⟩
    rcases List.mem_append.1 member with earlier | last
    · exact Int.le_trans (isGreatest.le action earlier) above
    · exact List.mem_singleton.1 last ▸ Int.le_refl _

theorem under_singleton (action : Action) : under [action] action.id = [action] :=
  under_cons_self action []

theorem isFirstLeast_of_least? {least : Action} (found : least? actions = some least) :
    IsFirstLeast actions least := by
  cases actions with
  | nil => cases found
  | cons first rest =>
    cases found
    induction rest using List.reverseRecOn with
    | nil => exact ⟨fun action member => List.mem_singleton.1 member ▸ Int.le_refl _, by
        rw [List.foldl_nil, under_singleton]; rfl⟩
    | append_singleton rest last inductionHypothesis =>
      rw [List.foldl_append, ← List.cons_append]
      exact inductionHypothesis.concat last

theorem isLastGreatest_of_greatest? {greatest : Action}
    (found : greatest? actions = some greatest) : IsLastGreatest actions greatest := by
  cases actions with
  | nil => cases found
  | cons first rest =>
    cases found
    induction rest using List.reverseRecOn with
    | nil => exact ⟨fun action member => List.mem_singleton.1 member ▸ Int.le_refl _, by
        rw [List.foldl_nil, under_singleton]; rfl⟩
    | append_singleton rest last inductionHypothesis =>
      rw [List.foldl_append, ← List.cons_append]
      exact inductionHypothesis.concat last

theorem StablySorts.isFirstLeast (sorts : StablySorts actions arranged) {least : Action}
    (begins : arranged.head? = some least) : IsFirstLeast actions least := by
  obtain ⟨rest, rfl⟩ := List.head?_eq_some_iff.1 begins
  refine ⟨fun action member => ?_, ?_⟩
  · rcases List.mem_cons.1 (sorts.arrangement.mem_iff.2 member) with rfl | later
    · exact Int.le_refl _
    · exact (List.pairwise_cons.1 sorts.ascends).1 action later
  · rw [← sorts.keepsOrder, under_cons_self]
    rfl

theorem StablySorts.isLastGreatest (sorts : StablySorts actions arranged) {greatest : Action}
    (ends : arranged.getLast? = some greatest) : IsLastGreatest actions greatest := by
  obtain ⟨front, rfl⟩ := List.getLast?_eq_some_iff.1 ends
  refine ⟨fun action member => ?_, ?_⟩
  · rcases List.mem_append.1 (sorts.arrangement.mem_iff.2 member) with earlier | last
    · exact (List.pairwise_append.1 sorts.ascends).2.2 action earlier greatest List.mem_cons_self
    · exact List.mem_singleton.1 last ▸ Int.le_refl _
  · rw [← sorts.keepsOrder, under_concat, if_pos rfl, List.getLast?_concat]

theorem StablySorts.least?_eq_head? (sorts : StablySorts actions arranged) :
    least? actions = arranged.head? := by
  cases actions with
  | nil => rw [sorts.arrangement.eq_nil]; rfl
  | cons first rest =>
    cases arranged with
    | nil => exact absurd sorts.arrangement.symm.eq_nil (List.cons_ne_nil _ _)
    | cons least others =>
      exact congrArg some ((isFirstLeast_of_least? rfl).unique (sorts.isFirstLeast rfl))

theorem StablySorts.greatest?_eq_getLast? (sorts : StablySorts actions arranged) :
    greatest? actions = arranged.getLast? := by
  cases actions with
  | nil => rw [sorts.arrangement.eq_nil]; rfl
  | cons first rest =>
    obtain rfl | ⟨front, greatest, rfl⟩ := List.eq_nil_or_concat' arranged
    · exact absurd sorts.arrangement.symm.eq_nil (List.cons_ne_nil _ _)
    · have ends : (front ++ [greatest]).getLast? = some greatest := List.getLast?_concat
      rw [ends]
      exact congrArg some ((isLastGreatest_of_greatest? rfl).unique (sorts.isLastGreatest ends))

end Collection

/-! ### The rule -/

open Collection in
/-- However often identifiers repeat in a list of actions: the sort is the one that keeps equal
actions in the order of the list. A tree and a hash set, in whatever order the set is listed, keep
the first of each run of equal actions of the sorted list; there is one for each identifier, and it
is the first action of the list under this identifier. The least action is the first of the sorted
list and the greatest is its last. Actions are equal exactly if their order is, and exactly if they
are hashed alike. -/
theorem collections_agree (actions : List Action) :
    (∀ arranged, StablySorts actions arranged ↔ arranged = sorted actions) ∧
      tree actions = firstsOfRuns (sorted actions) ∧
      (∀ listed, listed.Perm (hashSet actions) → sorted listed = firstsOfRuns (sorted actions)) ∧
      KeepsFirst actions (firstsOfRuns (sorted actions)) ∧
      (firstsOfRuns (sorted actions)).length = (actions.map Action.id).toFinset.card ∧
      least? actions = (sorted actions).head? ∧
      greatest? actions = (sorted actions).getLast? ∧
      ∀ first second : Action,
        (first.same second = true ↔ first.order second = .eq) ∧
          (first.same second = true ↔ first.hashed = second.hashed) := by
  have sorts := stablySorts_sorted actions
  have keeps := sorts.keepsFirst
  refine ⟨fun arranged => stablySorts_iff, (keepsFirst_tree actions).unique keeps,
    fun listed listing => (keepsFirst_sorted_hashSet listing).unique keeps, keeps,
    keeps.length_eq, sorts.least?_eq_head?, sorts.greatest?_eq_getLast?, fun first second => ?_⟩
  rw [Action.same_iff, Action.order_eq_eq_iff, Action.hashed_eq_iff]
  exact ⟨Iff.rfl, Iff.rfl⟩

open Collection in
/-- Of two actions under an identifier the set keeps the first one, and the greatest action is the
second one. -/
theorem collections_agree_of_repeated_actions :
    let actions : List Action := [⟨{ value := 2 }, "b"⟩, ⟨{ value := -1 }, ""⟩,
      ⟨{ value := 2 }, "a"⟩, ⟨{ value := -1 }, "x"⟩]
    sorted actions = [⟨{ value := -1 }, ""⟩, ⟨{ value := -1 }, "x"⟩, ⟨{ value := 2 }, "b"⟩,
        ⟨{ value := 2 }, "a"⟩] ∧
      tree actions = [⟨{ value := -1 }, ""⟩, ⟨{ value := 2 }, "b"⟩] ∧
      sorted [⟨{ value := 2 }, "b"⟩, ⟨{ value := -1 }, ""⟩] = tree actions ∧
      least? actions = some ⟨{ value := -1 }, ""⟩ ∧
      greatest? actions = some ⟨{ value := 2 }, "a"⟩ := by
  intro actions
  obtain ⟨stable, grown, listed, -, -, least, greatest, -⟩ := collections_agree actions
  have arranged : [⟨{ value := -1 }, ""⟩, ⟨{ value := -1 }, "x"⟩, ⟨{ value := 2 }, "b"⟩,
      ⟨{ value := 2 }, "a"⟩] = sorted actions := by
    refine (stable _).1 ⟨by decide, by unfold Ascends; decide, fun id => ?_⟩
    by_cases low : id = { value := -1 }
    · subst low
      rfl
    · by_cases high : id = { value := 2 }
      · subst high
        rfl
      · simp [actions, under, Ne.symm low, Ne.symm high]
  refine ⟨arranged.symm, ?_, ?_, ?_, ?_⟩
  · rw [grown, ← arranged]
    rfl
  · rw [grown]
    exact listed _ (by decide)
  · rw [least, ← arranged]
    rfl
  · rw [greatest, ← arranged]
    rfl

end ActionDirectory
