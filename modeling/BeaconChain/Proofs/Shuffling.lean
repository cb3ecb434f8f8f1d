import BeaconChain.Shuffling

/-! `shuffling_is_compatible` compares the two chains at the pivot slot, the attester shuffling's
decision slot from target epoch two on; at target epoch one it can report chains that fork inside
epoch zero incompatible. The memo of `filter_op_pool_attestation` keeps exactly what the direct
check keeps. -/

namespace BeaconChain

variable {spec : EthSpec} {tree : BlockTree spec} {forkChoice : ForkChoice}

/-- A walk through fork choice that reaches back to `pivot` stops at the chain's latest block at
or before `pivot`. -/
theorem ForkChoice.find_iterBlockRootsFrom {pivot fuel : Nat} {root : Root} (enough : tree.slot root < fuel)
    (reaches : ∀ slot, pivot ≤ slot → forkChoice.containsBlock (tree.rootAt root slot) = true) :
    (forkChoice.iterBlockRootsFrom tree fuel root).find? (fun entry => entry.2 ≤ pivot) =
      some (tree.rootAt root pivot, tree.slot (tree.rootAt root pivot)) := by
  induction fuel generalizing root with
  | zero => omega
  | succ fuel ih =>
    have held : forkChoice.containsBlock root = true := by
      by_cases reached : tree.slot root ≤ pivot
      · simpa [BlockTree.rootAt_of_le reached] using reaches pivot le_rfl
      · simpa [BlockTree.rootAt_self] using reaches (tree.slot root) (by omega)
    by_cases reached : tree.slot root ≤ pivot
    · simp [iterBlockRootsFrom, held, reached, BlockTree.rootAt_of_le reached]
    · have lower := tree.parent_slot_lt root (by omega)
      have parentReaches : ∀ slot, pivot ≤ slot → forkChoice.containsBlock (tree.rootAt (tree.parent root) slot) = true := by
        intro slot above
        by_cases before : slot < tree.slot root
        · rw [← BlockTree.rootAt_of_lt before]
          exact reaches slot above
        · have atParent : tree.rootAt (tree.parent root) slot = tree.parent root :=
            BlockTree.rootAt_of_le (by omega : tree.slot (tree.parent root) ≤ slot)
          have := reaches (tree.slot root - 1) (by omega)
          rwa [BlockTree.rootAt_of_lt (by omega : tree.slot root - 1 < tree.slot root),
            BlockTree.rootAt_of_le (by omega : tree.slot (tree.parent root) ≤ tree.slot root - 1), ← atParent] at this
      simp only [iterBlockRootsFrom, held, if_true, reached, show tree.slot root ≠ 0 by omega, if_false,
        List.find?_cons, decide_False]
      rw [ih (by omega) parentReaches, BlockTree.rootAt_of_lt (by omega : pivot < tree.slot root)]

theorem ForkChoice.find_iterBlockRoots {pivot : Nat} {root : Root}
    (reaches : ∀ slot, pivot ≤ slot → forkChoice.containsBlock (tree.rootAt root slot) = true) :
    (forkChoice.iterBlockRoots tree root).find? (fun entry => entry.2 ≤ pivot) =
      some (tree.rootAt root pivot, tree.slot (tree.rootAt root pivot)) :=
  find_iterBlockRootsFrom (Nat.lt_succ_self _) reaches

/-- The pivot slot of a previous- or current-epoch target lies in the state's `block_roots`
window, which spans at least three epochs. -/
theorem pivot_mem_window {slot targetEpoch : Nat} (late : 2 ≤ spec.epoch slot)
    (target : targetEpoch = spec.epoch slot - 1 ∨ targetEpoch = spec.epoch slot)
    (window : 3 * spec.slotsPerEpoch ≤ spec.slotsPerHistoricalRoot) :
    spec.endSlot (targetEpoch - 2) < slot ∧ slot ≤ spec.endSlot (targetEpoch - 2) + spec.slotsPerHistoricalRoot := by
  have first : spec.slotsPerEpoch ≤ spec.startSlot (targetEpoch - 2 + 1) := by
    simpa [EthSpec.startSlot] using spec.startSlot_mono (Nat.le_add_left 1 (targetEpoch - 2))
  have started : spec.startSlot (targetEpoch - 2 + 1) ≤ slot :=
    Nat.le_trans (spec.startSlot_mono (by omega)) (spec.startSlot_epoch_le slot)
  have ends := spec.lt_startSlot_epoch_succ slot
  have threeEpochs : spec.startSlot (spec.epoch slot + 1) ≤ spec.startSlot (targetEpoch - 2 + 1) + 3 * spec.slotsPerEpoch := by
    have := spec.startSlot_mono (show spec.epoch slot + 1 ≤ targetEpoch - 2 + 1 + 3 by omega)
    simpa [EthSpec.startSlot, Nat.add_mul, Nat.mul_comm 3] using this
  have := spec.slotsPerEpoch_pos
  simp only [EthSpec.endSlot]
  omega

/-- Past the first epochs, for a previous- or current-epoch target and a block whose chain
fork choice holds back to the pivot slot, `shuffling_is_compatible` compares the two chains'
latest blocks at or before the pivot slot. -/
theorem shufflingIsCompatible_eq {blockRoot : Root} {targetEpoch : Nat} {state : BeaconState}
    (late : 1 + minSeedLookahead ≤ state.currentEpoch spec)
    (target : targetEpoch = state.previousEpoch spec ∨ targetEpoch = state.currentEpoch spec)
    (window : 3 * spec.slotsPerEpoch ≤ spec.slotsPerHistoricalRoot)
    (reaches : ∀ slot, spec.endSlot (targetEpoch - (1 + minSeedLookahead)) ≤ slot →
      forkChoice.containsBlock (tree.rootAt blockRoot slot) = true) :
    shufflingIsCompatible tree forkChoice blockRoot targetEpoch state =
      decide (tree.rootAt blockRoot (spec.endSlot (targetEpoch - 2)) =
        tree.rootAt state.latestBlockRoot (spec.endSlot (targetEpoch - 2))) := by
  simp only [BeaconState.currentEpoch, BeaconState.previousEpoch, minSeedLookahead] at late target reaches
  have inWindow := pivot_mem_window late target window
  have stateRoot : state.getBlockRoot tree (spec.endSlot (targetEpoch - 2)) =
      some (tree.rootAt state.latestBlockRoot (spec.endSlot (targetEpoch - 2))) :=
    BeaconState.getBlockRoot_eq_some.mpr ⟨inWindow, rfl⟩
  simp only [shufflingIsCompatible, BeaconState.currentEpoch, BeaconState.previousEpoch, minSeedLookahead,
    Nat.not_lt.mpr late, if_false, target, true_or, or_true, if_true, stateRoot,
    ForkChoice.find_iterBlockRoots reaches]

/-- From a target epoch of two on, the pivot slot is the attester shuffling's decision slot. -/
theorem endSlot_eq_attesterShufflingDecisionSlot {targetEpoch : Nat} (two : 2 ≤ targetEpoch) :
    spec.endSlot (targetEpoch - 2) = BeaconState.attesterShufflingDecisionSlot spec targetEpoch := by
  simp only [EthSpec.endSlot, BeaconState.attesterShufflingDecisionSlot, show targetEpoch - 2 + 1 = targetEpoch - 1 by omega]

/-- Past the first epochs, for a previous- or current-epoch target of at least two and a block
whose chain fork choice holds back to the pivot slot, `shuffling_is_compatible` holds exactly
when the attester shuffling's decision block is the same on the block's chain and on the
state's. -/
theorem shufflingIsCompatible_iff_same_decision_block {blockRoot : Root} {targetEpoch : Nat} {state : BeaconState}
    (late : 1 + minSeedLookahead ≤ state.currentEpoch spec)
    (target : targetEpoch = state.previousEpoch spec ∨ targetEpoch = state.currentEpoch spec)
    (two : 2 ≤ targetEpoch) (window : 3 * spec.slotsPerEpoch ≤ spec.slotsPerHistoricalRoot)
    (reaches : ∀ slot, spec.endSlot (targetEpoch - (1 + minSeedLookahead)) ≤ slot →
      forkChoice.containsBlock (tree.rootAt blockRoot slot) = true) :
    shufflingIsCompatible tree forkChoice blockRoot targetEpoch state = true ↔
      tree.rootAt blockRoot (BeaconState.attesterShufflingDecisionSlot spec targetEpoch) =
        tree.rootAt state.latestBlockRoot (BeaconState.attesterShufflingDecisionSlot spec targetEpoch) := by
  rw [shufflingIsCompatible_eq late target window reaches, ← endSlot_eq_attesterShufflingDecisionSlot two,
    decide_eq_true_iff]

/-- Genesis, block 5 on it, block 6 on genesis beside block 5, and block 16 on block 5, each at
the slot of its root. -/
def epochZeroFork : BlockTree EthSpec.minimal where
  slot := id
  parent := fun root => if root = 16 then 5 else 0
  finalizedEpoch := fun _ => 0
  parent_slot_lt := fun root pos => by by_cases top : root = 16 <;> simp_all
  finalized_start_le := fun _ => Nat.zero_le _

/-- Fork choice holding all four blocks. -/
def epochZeroForkChoice : ForkChoice := ⟨[16, 6, 5, 0], ⟨0, 0⟩⟩

theorem shufflingIsCompatible_iff_same_decision_block_at_current_epoch :
    1 + minSeedLookahead ≤ (BeaconState.ofBlock epochZeroFork 16).currentEpoch EthSpec.minimal ∧
      (2 = (BeaconState.ofBlock epochZeroFork 16).previousEpoch EthSpec.minimal ∨
        2 = (BeaconState.ofBlock epochZeroFork 16).currentEpoch EthSpec.minimal) ∧ 2 ≤ 2 ∧
      3 * EthSpec.minimal.slotsPerEpoch ≤ EthSpec.minimal.slotsPerHistoricalRoot ∧
      (∀ slot, EthSpec.minimal.endSlot (2 - (1 + minSeedLookahead)) ≤ slot →
        epochZeroForkChoice.containsBlock (epochZeroFork.rootAt 6 slot) = true) ∧
      (shufflingIsCompatible epochZeroFork epochZeroForkChoice 6 2 (BeaconState.ofBlock epochZeroFork 16) = true ↔
        epochZeroFork.rootAt 6 (BeaconState.attesterShufflingDecisionSlot EthSpec.minimal 2) =
          epochZeroFork.rootAt (BeaconState.ofBlock epochZeroFork 16).latestBlockRoot
            (BeaconState.attesterShufflingDecisionSlot EthSpec.minimal 2)) :=
  have reaches : ∀ slot, EthSpec.minimal.endSlot (2 - (1 + minSeedLookahead)) ≤ slot →
      epochZeroForkChoice.containsBlock (epochZeroFork.rootAt 6 slot) = true := fun slot above => by
    have sixth : epochZeroFork.slot 6 ≤ slot := by
      simp only [EthSpec.endSlot, EthSpec.startSlot, EthSpec.minimal, minSeedLookahead] at above
      exact Nat.le_trans (by decide) above
    rw [BlockTree.rootAt_of_le sixth]
    decide
  ⟨by decide, by decide, le_rfl, by decide, reaches,
    shufflingIsCompatible_iff_same_decision_block (by decide) (by decide) le_rfl (by decide) reaches⟩

/-- The state of block 16 is in epoch 2 and the target is the previous epoch, 1. Its decision
block is genesis on both chains, yet the pivot is slot 7, where block 6's chain holds block 6
and the state's chain holds block 5, so the attestation is reported incompatible. -/
theorem shufflingIsCompatible_rejects_fork_inside_epoch_zero :
    2 ≤ (BeaconState.ofBlock epochZeroFork 16).currentEpoch EthSpec.minimal ∧
      1 = (BeaconState.ofBlock epochZeroFork 16).previousEpoch EthSpec.minimal ∧
      (epochZeroForkChoice.iterBlockRoots epochZeroFork 6).find? (fun entry => entry.2 ≤ EthSpec.minimal.endSlot (1 - 2)) =
        some (6, 6) ∧
      epochZeroFork.rootAt 6 (BeaconState.attesterShufflingDecisionSlot EthSpec.minimal 1) =
        epochZeroFork.rootAt 16 (BeaconState.attesterShufflingDecisionSlot EthSpec.minimal 1) ∧
      shufflingIsCompatible epochZeroFork epochZeroForkChoice 6 1 (BeaconState.ofBlock epochZeroFork 16) = false := by
  decide

/-- The memo holds, under every block root and target epoch, the answer of the direct check. -/
def FilterCache.Consistent (tree : BlockTree spec) (forkChoice : ForkChoice) (state : BeaconState)
    (filterCache : FilterCache) : Prop :=
  ∀ entry ∈ filterCache, entry.2 = shufflingIsCompatible tree forkChoice entry.1.1 entry.1.2 state

section FilterCache

variable {state : BeaconState} {filterCache : FilterCache}

/-- One memoised query answers as the direct check and keeps the memo consistent. -/
theorem filterOpPoolAttestation_eq (att : Attestation) (consistent : filterCache.Consistent tree forkChoice state) :
    (filterOpPoolAttestation tree forkChoice filterCache att state).1 =
        shufflingIsCompatible tree forkChoice att.data.beaconBlockRoot att.data.target.epoch state ∧
      (filterOpPoolAttestation tree forkChoice filterCache att state).2.Consistent tree forkChoice state := by
  unfold filterOpPoolAttestation
  dsimp only
  split
  · next compatible found =>
    obtain ⟨_, _, split, -⟩ := List.lookup_eq_some_iff.mp found
    exact ⟨consistent ((att.data.beaconBlockRoot, att.data.target.epoch), compatible) (by simp [split]), consistent⟩
  · simpa only [FilterCache.Consistent, List.mem_cons, forall_eq_or_imp, true_and] using consistent

/-- Filtering through a consistent memo keeps what the direct check keeps, in order, and leaves
the memo consistent. -/
theorem filterAttestations_eq (atts : List Attestation) (consistent : filterCache.Consistent tree forkChoice state) :
    (filterAttestations tree forkChoice state filterCache atts).1 =
        atts.filter (fun att => shufflingIsCompatible tree forkChoice att.data.beaconBlockRoot att.data.target.epoch state) ∧
      (filterAttestations tree forkChoice state filterCache atts).2.Consistent tree forkChoice state := by
  induction atts generalizing filterCache with
  | nil => exact ⟨rfl, consistent⟩
  | cons att rest ih =>
    obtain ⟨answer, stepConsistent⟩ := filterOpPoolAttestation_eq att consistent
    obtain ⟨kept, restConsistent⟩ := ih stepConsistent
    simp only [filterAttestations, List.filter_cons]
    rw [← answer, kept]
    exact ⟨by split <;> rfl, restConsistent⟩

end FilterCache

/-- Every call of `filter_op_pool_attestation` in a sequence sharing one memo from empty, for a
fixed state and fork choice, answers as `shuffling_is_compatible` on the attestation's block root
and target epoch; so the two memoised filters of `produce_block_on_state` keep exactly the
previous- and current-epoch attestations that the direct check keeps. -/
theorem filterOpPoolAttestation_memo_matches_direct (state : BeaconState) :
    (∀ before att, (filterOpPoolAttestation tree forkChoice (filterAttestations tree forkChoice state [] before).2 att
        state).1 = shufflingIsCompatible tree forkChoice att.data.beaconBlockRoot att.data.target.epoch state) ∧
    ∀ previousCandidates currentCandidates,
      produceBlockAttestations tree forkChoice state previousCandidates currentCandidates =
        (previousCandidates.filter fun att =>
            shufflingIsCompatible tree forkChoice att.data.beaconBlockRoot att.data.target.epoch state,
          currentCandidates.filter fun att =>
            shufflingIsCompatible tree forkChoice att.data.beaconBlockRoot att.data.target.epoch state) := by
  have empty : FilterCache.Consistent tree forkChoice state [] := nofun
  refine ⟨fun before att => (filterOpPoolAttestation_eq att (filterAttestations_eq before empty).2).1,
    fun previousCandidates currentCandidates => ?_⟩
  rw [produceBlockAttestations, (filterAttestations_eq previousCandidates empty).1,
    (filterAttestations_eq currentCandidates empty).1]

end BeaconChain
