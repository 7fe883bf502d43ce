/-
Ordered maps against the members that they are made from. A map is made by one assignment after the
other, and an assignment puts a member in its place or replaces the value that stands there. So the
map ascends strictly by identifiers, and it has exactly the members behind which their identifier
does not occur again.
-/

import ActionDirectory.Proofs.RoundTrip

namespace ActionDirectory.Wire

/-! ### One assignment -/

/-- A map has its members in strictly ascending order of the identifiers. -/
def Ascends (map : List (Action × Int)) : Prop :=
  map.Pairwise fun first second => first.1.id.value < second.1.id.value

variable {action : Action} {value : Int} {map members : List (Action × Int)} {pair : Action × Int}

theorem Ascends.assign (ascends : Ascends map) (action : Action) (value : Int) :
    Ascends (assign action value map) := by
  induction map with
  | nil => exact List.pairwise_singleton _ _
  | cons member rest inductionHypothesis =>
    obtain ⟨above, ascendsRest⟩ := List.pairwise_cons.1 ascends
    rw [Wire.assign]
    split
    next less =>
      have below : action.id.value < member.1.id.value := order_eq_lt_iff.1 less
      refine List.pairwise_cons.2 ⟨List.forall_mem_cons.2 ⟨below, fun other present => ?_⟩, ascends⟩
      exact Int.lt_trans below (above other present)
    next => exact List.pairwise_cons.2 ⟨above, ascendsRest⟩
    next greater =>
      have below : member.1.id.value < action.id.value := compare_gt_iff_gt.1 greater
      refine List.pairwise_cons.2 ⟨fun other present => ?_, inductionHypothesis ascendsRest⟩
      rcases key_of_mem_assign present with same | ⟨former, there, same⟩
      · rw [same]
        exact below
      · rw [← same]
        exact above former there

/-- An assignment replaces the member under its identifier and keeps the others. -/
theorem mem_assign_iff (ascends : Ascends map)
    (coherent : ∀ member ∈ map, member.1.id = action.id → member.1 = action) :
    pair ∈ assign action value map ↔
      pair = (action, value) ∨ pair ∈ map ∧ pair.1.id ≠ action.id := by
  induction map with
  | nil => simp [assign]
  | cons member rest inductionHypothesis =>
    obtain ⟨above, ascendsRest⟩ := List.pairwise_cons.1 ascends
    rw [assign]
    split
    next less =>
      have below : action.id.value < member.1.id.value := order_eq_lt_iff.1 less
      have others : ∀ other ∈ member :: rest, other.1.id ≠ action.id := by
        refine List.forall_mem_cons.2 ⟨(Id.ne_of_lt below).symm, fun other present => ?_⟩
        exact (Id.ne_of_lt (Int.lt_trans below (above other present))).symm
      rw [List.mem_cons]
      exact or_congr_right (and_iff_left_of_imp (others pair)).symm
    next equal =>
      have same : member.1.id = action.id := Id.ext_value (compare_eq_iff_eq.1 equal).symm
      have others : ∀ other ∈ rest, other.1.id ≠ action.id := fun other present =>
        same ▸ (Id.ne_of_lt (above other present)).symm
      rw [coherent member List.mem_cons_self same, List.mem_cons, List.mem_cons, or_and_right]
      refine or_congr_right ?_
      rw [and_iff_left_of_imp (others pair), or_iff_right]
      rintro ⟨rfl, other⟩
      exact other same
    next greater =>
      have below : member.1.id.value < action.id.value := compare_gt_iff_gt.1 greater
      have other : pair = member → pair.1.id ≠ action.id := by
        rintro rfl
        exact Id.ne_of_lt below
      have coherentRest : ∀ member ∈ rest, member.1.id = action.id → member.1 = action :=
        fun member present => coherent member (List.mem_cons_of_mem _ present)
      rw [List.mem_cons, inductionHypothesis ascendsRest coherentRest, List.mem_cons, or_and_right,
        and_iff_left_of_imp other]
      exact or_left_comm

/-! ### All assignments -/

theorem ordered_concat (members : List (Action × Int)) (last : Action × Int) :
    ordered (members ++ [last]) = assign last.1 last.2 (ordered members) :=
  List.foldl_append

theorem ascends_ordered (members : List (Action × Int)) : Ascends (ordered members) := by
  induction members using List.reverseRecOn with
  | nil => exact List.Pairwise.nil
  | append_singleton members last inductionHypothesis =>
    rw [ordered_concat]
    exact inductionHypothesis.assign last.1 last.2

/-- Where equal identifiers mean equal actions, the ordered map of members has those behind which
the identifier does not occur again. -/
theorem mem_ordered_iff
    (coherent : ∀ first ∈ members, ∀ second ∈ members,
      first.1.id = second.1.id → first.1 = second.1) :
    pair ∈ ordered members ↔
      ∃ before after, members = before ++ pair :: after ∧
        ∀ later ∈ after, later.1.id ≠ pair.1.id := by
  -- The last member is assigned last, so it stays, and takes the place of those of its identifier.
  induction members using List.reverseRecOn with
  | nil => simp [ordered]
  | append_singleton members last inductionHypothesis =>
    have coherentFront : ∀ first ∈ members, ∀ second ∈ members,
        first.1.id = second.1.id → first.1 = second.1 := fun first firstIn second secondIn =>
      coherent first (List.mem_append_left _ firstIn) second (List.mem_append_left _ secondIn)
    have coherentLast : ∀ member ∈ ordered members, member.1.id = last.1.id →
        member.1 = last.1 := by
      intro member present same
      obtain ⟨former, there, equal⟩ := key_of_mem_ordered present
      rw [← equal] at same ⊢
      exact coherent former (List.mem_append_left _ there) last
        (List.mem_append_right _ List.mem_cons_self) same
    rw [ordered_concat, mem_assign_iff (ascends_ordered members) coherentLast,
      inductionHypothesis coherentFront]
    constructor
    · rintro (rfl | ⟨⟨before, after, rfl, others⟩, other⟩)
      · exact ⟨members, [], rfl, fun later present => absurd present List.not_mem_nil⟩
      · refine ⟨before, after ++ [last], by rw [List.append_assoc, List.cons_append], ?_⟩
        exact List.forall_mem_append.2 ⟨others, List.forall_mem_singleton.2 other.symm⟩
    · rintro ⟨before, after, split, others⟩
      rcases List.eq_nil_or_concat' after with rfl | ⟨between, final, rfl⟩
      · cases (List.append_inj' split rfl).2
        exact Or.inl rfl
      · rw [← List.cons_append, ← List.append_assoc] at split
        obtain ⟨rfl, same⟩ := List.append_inj' split rfl
        cases same
        obtain ⟨othersBetween, other⟩ := List.forall_mem_append.1 others
        exact Or.inr ⟨⟨before, between, rfl, othersBetween⟩,
          (List.forall_mem_singleton.1 other).symm⟩

end ActionDirectory.Wire
