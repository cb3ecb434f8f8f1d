import BeaconChain.StateRoots
import BeaconChain.Proofs.BlockRoots

/-! What `state_root_at_slot` answers. The head state's `state_roots` and the forwards iterator
hold, at a skipped slot, the root of the state skipped forward to that slot, which is what
`state_at_slot` returns. The fast path instead answers the head state's own root for every slot
from the head block on, so past the head block it names a state at the head block's slot. -/

namespace BeaconChain.StateView

variable {spec : EthSpec} (chain : StateView spec)

theorem forwardsStateRootsIterator_cons {startSlot : Nat} (reached : startSlot ≤ chain.tree.slot chain.head) :
    chain.forwardsStateRootsIterator startSlot =
      (⟨chain.tree.rootAt chain.head startSlot, startSlot⟩, startSlot) ::
        chain.forwardsStateRootsIterator (startSlot + 1) := by
  unfold forwardsStateRootsIterator
  rw [show chain.tree.slot chain.head + 1 - startSlot = (chain.tree.slot chain.head + 1 - (startSlot + 1)) + 1
    by omega, List.range_succ_eq_map]
  simp only [List.map_cons, List.map_map, Nat.add_zero, Function.comp_def, Nat.add_assoc, Nat.add_comm 1]

/-- From and until a slot no later than the head, the iterator yields that slot's state root. -/
theorem forwardsIterStateRootsUntil_self {slot : Nat} (reached : slot ≤ chain.tree.slot chain.head) :
    chain.forwardsIterStateRootsUntil slot slot = [(⟨chain.tree.rootAt chain.head slot, slot⟩, slot)] := by
  rw [forwardsIterStateRootsUntil, forwardsStateRootsIterator_cons chain reached]
  by_cases next : slot + 1 ≤ chain.tree.slot chain.head
  · rw [forwardsStateRootsIterator_cons chain next]
    simp
  · simp [forwardsStateRootsIterator, show chain.tree.slot chain.head + 1 - (slot + 1) = 0 by omega]

/-- `state_at_slot` returns the state the head's chain passes through at `slot`: the head
state, the head state skipped forward, or the stored state of an earlier slot. -/
theorem stateAtSlot_eq (slot : Nat) :
    chain.stateAtSlot slot .completed true = .ok ⟨chain.tree.rootAt chain.head slot, slot⟩ := by
  unfold stateAtSlot
  dsimp only
  split
  · next same =>
    have same := Nat.compare_eq_eq.mp same
    simp only [ChainView.headState_slot] at same
    simp [BeaconState.root, same, BlockTree.rootAt_self]
  · next later =>
    have later := Nat.compare_eq_gt.mp later
    simp only [ChainView.headState_slot] at later
    rw [BlockTree.rootAt_of_le (Nat.le_of_lt later)]
    rfl
  · next earlier =>
    have earlier := Nat.compare_eq_lt.mp earlier
    simp only [ChainView.headState_slot] at earlier
    simp [forwardsIterStateRootsUntil_self chain (Nat.le_of_lt earlier)]

/-- Test chain: the chain of `everySlotView`, with no gap in the freezer. -/
def everySlotStateView : StateView EthSpec.minimal := { ChainView.everySlotView with historicStateLimits := (0, 0) }

variable {chain} in
/-- Whatever its skip and store outcomes, `state_at_slot` only returns the state the head's chain
passes through at the slot. -/
theorem stateAtSlot_eq_ok {slot : Nat} {skip : SkipOutcome} {stored : Bool} {root : StateRoot}
    (loaded : chain.stateAtSlot slot skip stored = .ok root) : root = ⟨chain.tree.rootAt chain.head slot, slot⟩ := by
  unfold stateAtSlot at loaded
  dsimp only at loaded
  split at loaded
  · next same =>
    have same := Nat.compare_eq_eq.mp same
    simp only [ChainView.headState_slot] at same
    cases loaded
    simp [BeaconState.root, same, BlockTree.rootAt_self]
  · next later =>
    have later := Nat.compare_eq_gt.mp later
    simp only [ChainView.headState_slot] at later
    cases skip <;> cases loaded
    rw [BlockTree.rootAt_of_le (Nat.le_of_lt later)]
    rfl
  · next earlier =>
    have earlier := Nat.compare_eq_lt.mp earlier
    simp only [ChainView.headState_slot] at earlier
    cases stored <;> simp [forwardsIterStateRootsUntil_self chain (Nat.le_of_lt earlier)] at loaded
    exact loaded.symm

/-- Outside the freezer's gap, `state_root_at_slot` answers the root of the state the head's
chain passes through at the request or at the head block's slot, whichever is earlier. -/
theorem stateRootAtSlot_eq {currentSlot requestSlot : Nat} (clock : chain.clock = some currentSlot)
    (pos : 0 < requestSlot) (reached : requestSlot ≤ currentSlot)
    (available : ¬(chain.historicStateLimits.1 < requestSlot ∧ requestSlot < chain.historicStateLimits.2)) :
    chain.stateRootAtSlot requestSlot =
      .ok (some ⟨chain.tree.rootAt chain.head requestSlot, min requestSlot (chain.tree.slot chain.head)⟩) := by
  unfold stateRootAtSlot
  simp only [ChainView.slot, clock, gt_iff_lt, Nat.not_lt.mpr reached, if_false, Nat.pos_iff_ne_zero.mp pos,
    available]
  by_cases afterHead : chain.tree.slot chain.head ≤ requestSlot
  · simp [stateRootFastLookup, afterHead, BeaconState.root, BlockTree.rootAt_of_le afterHead]
  · have below : min requestSlot (chain.tree.slot chain.head) = requestSlot := by omega
    by_cases window : requestSlot < chain.tree.slot chain.head ∧
        chain.tree.slot chain.head ≤ requestSlot + spec.slotsPerHistoricalRoot
    · simp [stateRootFastLookup, afterHead, BeaconState.getStateRoot, window, below]
    · simp [stateRootFastLookup, afterHead, BeaconState.getStateRoot, window, below,
        forwardsIterStateRootsUntil_self chain (Nat.le_of_not_le afterHead)]

/-- The chain of the minimal spec with a block at every slot, the block at slot `r` having root
`r`, headed at slot 5 with the wall clock at slot 7 and no gap in the freezer. -/
def lateHeadView : StateView EthSpec.minimal :=
  { ChainView.everySlotView with head := 5, clock := some 7, oldestBlockSlot := 0, historicStateLimits := (0, 0) }

/-- For every request after genesis and up to the wall clock, outside the freezer's gap,
`state_root_at_slot` names the state of the head's chain at the request or at the head block's
slot, whichever is earlier, while `state_at_slot` returns the state at the request; the two
agree exactly when the request is at or before the head block's slot. -/
theorem stateRootAtSlot_matches_stateAtSlot_iff {currentSlot requestSlot : Nat} (clock : chain.clock = some currentSlot)
    (pos : 0 < requestSlot) (reached : requestSlot ≤ currentSlot)
    (available : ¬(chain.historicStateLimits.1 < requestSlot ∧ requestSlot < chain.historicStateLimits.2)) :
    chain.stateRootAtSlot requestSlot =
        .ok (some ⟨chain.tree.rootAt chain.head requestSlot, min requestSlot (chain.tree.slot chain.head)⟩) ∧
      chain.stateAtSlot requestSlot .completed true = .ok ⟨chain.tree.rootAt chain.head requestSlot, requestSlot⟩ ∧
      (chain.stateRootAtSlot requestSlot = (chain.stateAtSlot requestSlot .completed true).map some ↔
        requestSlot ≤ chain.tree.slot chain.head) := by
  have answered := stateRootAtSlot_eq chain clock pos reached available
  refine ⟨answered, stateAtSlot_eq chain requestSlot, ?_⟩
  rw [answered, stateAtSlot_eq]
  simp only [Except.map, Except.ok.injEq, Option.some.injEq, StateRoot.mk.injEq, true_and]
  omega

theorem stateRootAtSlot_matches_stateAtSlot_iff_after_head :
    lateHeadView.clock = some 7 ∧ 0 < 6 ∧ 6 ≤ 7 ∧
      ¬(lateHeadView.historicStateLimits.1 < 6 ∧ 6 < lateHeadView.historicStateLimits.2) ∧
      lateHeadView.stateRootAtSlot 6 = .ok (some ⟨lateHeadView.tree.rootAt lateHeadView.head 6, min 6 (lateHeadView.tree.slot lateHeadView.head)⟩) ∧
      lateHeadView.stateAtSlot 6 .completed true = .ok ⟨lateHeadView.tree.rootAt lateHeadView.head 6, 6⟩ ∧
      (lateHeadView.stateRootAtSlot 6 = (lateHeadView.stateAtSlot 6 .completed true).map some ↔
        6 ≤ lateHeadView.tree.slot lateHeadView.head) :=
  ⟨rfl, by decide, by decide, by decide,
    stateRootAtSlot_matches_stateAtSlot_iff lateHeadView rfl (by decide) (by decide) (by decide)⟩

/-- Slot 6 is skipped after the head block at slot 5: `state_root_at_slot` answers the root of
the head state at slot 5, while `state_at_slot` skips that state forward to slot 6. -/
theorem stateRootAtSlot_names_head_state_after_head :
    lateHeadView.stateRootAtSlot 6 = .ok (some ⟨5, 5⟩) ∧ lateHeadView.stateAtSlot 6 .completed true = .ok ⟨5, 6⟩ := by
  decide

end BeaconChain.StateView
