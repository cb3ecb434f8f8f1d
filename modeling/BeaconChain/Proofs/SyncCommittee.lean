import BeaconChain.SyncCommittee
import BeaconChain.Proofs.StateRoots

/-! What `sync_committee_at_epoch` answers: the state the slow path loads holds the requested
period as its own or the next one, on the head's chain, so every answer is the committee of the
epoch's period on the head's chain and the slow path agrees with the head state. -/

namespace BeaconChain

variable {spec : EthSpec} {tree : BlockTree spec} {chainSpec : ChainSpec}
  {syncCommitteeOf : Nat → Root → SyncCommittee} {altairForkEpoch : Nat}

namespace ChainSpec

/-- From the fork's period on, the state at the start of the period before, or of the fork's
epoch if that is later, holds the period as its own or as the next one. -/
theorem syncCommitteePeriod_loadEpoch {period : Nat} (late : chainSpec.syncCommitteePeriod altairForkEpoch ≤ period) :
    period = chainSpec.syncCommitteePeriod (max (chainSpec.epochsPerSyncCommitteePeriod * (period - 1)) altairForkEpoch) ∨
      period = chainSpec.syncCommitteePeriod (max (chainSpec.epochsPerSyncCommitteePeriod * (period - 1)) altairForkEpoch) + 1 := by
  have pos := chainSpec.epochsPerSyncCommitteePeriod_pos
  unfold syncCommitteePeriod at late ⊢
  by_cases previous : altairForkEpoch ≤ chainSpec.epochsPerSyncCommitteePeriod * (period - 1)
  · rw [max_eq_left previous, Nat.mul_div_cancel_left _ pos]
    omega
  · rw [max_eq_right (by omega)]
    have : period - 1 ≤ altairForkEpoch / chainSpec.epochsPerSyncCommitteePeriod :=
      (Nat.le_div_iff_mul_le pos).mpr (by rw [Nat.mul_comm]; omega)
    omega

theorem syncCommitteeDecision_le_loadSlot (period : Nat) :
    (chainSpec.syncCommitteeDecision spec altairForkEpoch period).2 ≤
      spec.startSlot (max (chainSpec.epochsPerSyncCommitteePeriod * (period - 1)) altairForkEpoch) := by
  unfold syncCommitteeDecision
  dsimp only
  split_ifs
  · exact Nat.le_trans (Nat.sub_le _ 1) (spec.startSlot_mono (le_max_right _ _))
  · exact Nat.le_trans (Nat.sub_le _ 1) (spec.startSlot_mono (le_max_left _ _))

end ChainSpec

theorem BlockTree.syncCommitteeAt_rootAt {period slot : Nat} (root : Root)
    (computed : (chainSpec.syncCommitteeDecision spec altairForkEpoch period).2 ≤ slot) :
    tree.syncCommitteeAt chainSpec syncCommitteeOf altairForkEpoch period (tree.rootAt root slot) =
      tree.syncCommitteeAt chainSpec syncCommitteeOf altairForkEpoch period root := by
  unfold syncCommitteeAt
  dsimp only
  rw [tree.rootAt_rootAt root computed]

namespace BeaconState

variable {state : BeaconState} {epoch : Nat} {committee : SyncCommittee}

/-- With Altair enabled, a state knows the committee of the epoch's period exactly when it holds
that period as its own or the next, and it is past the fork; it is the committee of its chain. -/
theorem getBuiltSyncCommittee_eq_ok_iff (altair : chainSpec.altairForkEpoch = some altairForkEpoch) :
    state.getBuiltSyncCommittee tree chainSpec syncCommitteeOf epoch = .ok committee ↔
      (chainSpec.syncCommitteePeriod epoch = chainSpec.syncCommitteePeriod (state.currentEpoch spec) ∨
        chainSpec.syncCommitteePeriod epoch = chainSpec.syncCommitteePeriod (state.currentEpoch spec) + 1) ∧
      altairForkEpoch ≤ state.currentEpoch spec ∧
      committee = tree.syncCommitteeAt chainSpec syncCommitteeOf altairForkEpoch (chainSpec.syncCommitteePeriod epoch)
        state.latestBlockRoot := by
  unfold getBuiltSyncCommittee syncCommittee
  rw [altair]
  dsimp only
  by_cases forked : altairForkEpoch ≤ state.currentEpoch spec
  · split_ifs <;> simp [*, eq_comm]
  · split_ifs <;> simp [forked]

theorem getBuiltSyncCommittee_eq_error {e : BeaconStateError}
    (failed : state.getBuiltSyncCommittee tree chainSpec syncCommitteeOf epoch = .error e) :
    (∃ currentEpoch requested, e = .syncCommitteeNotKnown currentEpoch requested) ∨ e = .incorrectStateVariant := by
  unfold getBuiltSyncCommittee syncCommittee at failed
  dsimp only at failed
  split_ifs at failed <;> (try split at failed) <;> (try split_ifs at failed) <;> cases failed <;> simp

theorem getBuiltSyncCommittee_answers (altair : chainSpec.altairForkEpoch = some altairForkEpoch)
    (found : state.getBuiltSyncCommittee tree chainSpec syncCommitteeOf epoch = .ok committee) :
    chainSpec.syncCommitteePeriod altairForkEpoch ≤ chainSpec.syncCommitteePeriod epoch ∧
      committee = tree.syncCommitteeAt chainSpec syncCommitteeOf altairForkEpoch (chainSpec.syncCommitteePeriod epoch)
        state.latestBlockRoot := by
  obtain ⟨held, forked, rfl⟩ := (getBuiltSyncCommittee_eq_ok_iff altair).mp found
  have : chainSpec.syncCommitteePeriod altairForkEpoch ≤ chainSpec.syncCommitteePeriod (state.currentEpoch spec) :=
    Nat.div_le_div_right forked
  exact ⟨by omega, rfl⟩

end BeaconState

namespace StateView

variable {chain : StateView spec} {outcomes : SyncCommitteeOutcomes} {epoch : Nat}

theorem committeeFromHead_eq :
    chain.committeeFromHead chainSpec syncCommitteeOf epoch =
      .ok (chain.headState.getBuiltSyncCommittee chain.tree chainSpec syncCommitteeOf epoch).toOption := by
  unfold committeeFromHead
  cases found : chain.headState.getBuiltSyncCommittee chain.tree chainSpec syncCommitteeOf epoch with
  | ok => rfl
  | error e => rcases BeaconState.getBuiltSyncCommittee_eq_error found with ⟨_, _, rfl⟩ | rfl <;> rfl

theorem committeeFromHead_eq_some {committee : SyncCommittee} :
    chain.committeeFromHead chainSpec syncCommitteeOf epoch = .ok (some committee) ↔
      chain.headState.getBuiltSyncCommittee chain.tree chainSpec syncCommitteeOf epoch = .ok committee := by
  rw [committeeFromHead_eq]
  cases chain.headState.getBuiltSyncCommittee chain.tree chainSpec syncCommitteeOf epoch <;> simp [Except.toOption]

theorem syncCommitteeAtEpoch_eq_ok {committee : SyncCommittee}
    (answered : chain.syncCommitteeAtEpoch chainSpec syncCommitteeOf outcomes epoch = .ok committee) :
    chain.headState.getBuiltSyncCommittee chain.tree chainSpec syncCommitteeOf epoch = .ok committee ∨
      ∃ state, chain.stateForSyncCommitteePeriod chainSpec outcomes (chainSpec.syncCommitteePeriod epoch) = .ok state ∧
        state.getBuiltSyncCommittee chain.tree chainSpec syncCommitteeOf epoch = .ok committee := by
  unfold syncCommitteeAtEpoch at answered
  split_ifs at answered
  split at answered <;> try contradiction
  · next fromHead =>
    cases answered
    exact .inl (committeeFromHead_eq_some.mp fromHead)
  · split at answered <;> try contradiction
    next state loaded =>
    split at answered <;> try contradiction
    next stored =>
    cases answered
    exact .inr ⟨state, loaded, stored⟩

theorem stateForSyncCommitteePeriod_eq_ok {period : Nat} {state : BeaconState}
    (altair : chainSpec.altairForkEpoch = some altairForkEpoch)
    (loaded : chain.stateForSyncCommitteePeriod chainSpec outcomes period = .ok state) :
    let loadSlot := spec.startSlot (max (chainSpec.epochsPerSyncCommitteePeriod * (period - 1)) altairForkEpoch)
    state = { BeaconState.ofBlock chain.tree (chain.tree.rootAt chain.head loadSlot) with slot := loadSlot } := by
  unfold stateForSyncCommitteePeriod at loaded
  rw [altair] at loaded
  dsimp only at loaded
  split at loaded
  · cases loaded
  · next found =>
    cases loaded
    cases stateAtSlot_eq_ok found
    rfl

theorem getBuiltSyncCommittee_of_loaded {state : BeaconState} (altair : chainSpec.altairForkEpoch = some altairForkEpoch)
    (late : chainSpec.syncCommitteePeriod altairForkEpoch ≤ chainSpec.syncCommitteePeriod epoch)
    (loaded : chain.stateForSyncCommitteePeriod chainSpec outcomes (chainSpec.syncCommitteePeriod epoch) = .ok state) :
    state.getBuiltSyncCommittee chain.tree chainSpec syncCommitteeOf epoch =
      .ok (chain.tree.syncCommitteeAt chainSpec syncCommitteeOf altairForkEpoch (chainSpec.syncCommitteePeriod epoch)
        chain.head) := by
  cases stateForSyncCommitteePeriod_eq_ok altair loaded
  refine (BeaconState.getBuiltSyncCommittee_eq_ok_iff altair).mpr ⟨?_, ?_, ?_⟩
  · simpa only [BeaconState.currentEpoch, EthSpec.epoch_startSlot] using ChainSpec.syncCommitteePeriod_loadEpoch late
  · simpa only [BeaconState.currentEpoch, EthSpec.epoch_startSlot] using le_max_right _ _
  · exact (BlockTree.syncCommitteeAt_rootAt chain.head (ChainSpec.syncCommitteeDecision_le_loadSlot _)).symm

theorem stateForSyncCommitteePeriod_loads {headLock : Bool} (period : Nat)
    (altair : chainSpec.altairForkEpoch = some altairForkEpoch) :
    ∃ state, chain.stateForSyncCommitteePeriod chainSpec ⟨headLock, .completed, true⟩ period = .ok state := by
  unfold stateForSyncCommitteePeriod
  rw [altair]
  dsimp only
  rw [stateAtSlot_eq]
  exact ⟨_, rfl⟩

/-- `sync_committee_at_epoch`'s fast path on the head state and its slow path on the state it
loads agree: whenever the head state knows the epoch's committee, the loaded state knows the same
one. Every committee it returns is the committee of the epoch's period on the head's chain, so it
never answers for a period before the fork's; and from the fork's period on it answers whenever
it takes the head lock in time and `state_at_slot` loads its state. -/
theorem syncCommitteeAtEpoch_answers_head_chain_committee (altair : chainSpec.altairForkEpoch = some altairForkEpoch)
    (epoch : Nat) :
    (∀ committee, chain.committeeFromHead chainSpec syncCommitteeOf epoch = .ok (some committee) →
      ∀ state, chain.stateForSyncCommitteePeriod chainSpec outcomes (chainSpec.syncCommitteePeriod epoch) = .ok state →
        state.getBuiltSyncCommittee chain.tree chainSpec syncCommitteeOf epoch = .ok committee) ∧
    (∀ committee, chain.syncCommitteeAtEpoch chainSpec syncCommitteeOf outcomes epoch = .ok committee →
      chainSpec.syncCommitteePeriod altairForkEpoch ≤ chainSpec.syncCommitteePeriod epoch ∧
        committee = chain.tree.syncCommitteeAt chainSpec syncCommitteeOf altairForkEpoch
          (chainSpec.syncCommitteePeriod epoch) chain.head) ∧
    (chainSpec.syncCommitteePeriod altairForkEpoch ≤ chainSpec.syncCommitteePeriod epoch →
      outcomes = ⟨true, .completed, true⟩ →
        ∃ committee, chain.syncCommitteeAtEpoch chainSpec syncCommitteeOf outcomes epoch = .ok committee) := by
  refine ⟨fun committee fromHead state loaded => ?agree, fun committee answered => ?answer,
    fun late settled => ?complete⟩
  case agree =>
    obtain ⟨late, rfl⟩ := BeaconState.getBuiltSyncCommittee_answers altair (committeeFromHead_eq_some.mp fromHead)
    exact getBuiltSyncCommittee_of_loaded altair late loaded
  case answer =>
    rcases syncCommitteeAtEpoch_eq_ok answered with found | ⟨state, loaded, stored⟩
    · exact BeaconState.getBuiltSyncCommittee_answers altair found
    · obtain ⟨late, -⟩ := BeaconState.getBuiltSyncCommittee_answers altair stored
      exact ⟨late, Except.ok.inj (stored.symm.trans (getBuiltSyncCommittee_of_loaded altair late loaded))⟩
  case complete =>
    subst settled
    obtain ⟨state, loaded⟩ := stateForSyncCommitteePeriod_loads (chainSpec.syncCommitteePeriod epoch) altair
    unfold syncCommitteeAtEpoch
    rw [committeeFromHead_eq]
    cases chain.headState.getBuiltSyncCommittee chain.tree chainSpec syncCommitteeOf epoch with
    | ok headCommittee => exact ⟨headCommittee, rfl⟩
    | error =>
      dsimp only [Except.toOption]
      rw [loaded]
      dsimp only
      rw [getBuiltSyncCommittee_of_loaded altair late loaded]
      exact ⟨_, rfl⟩

/-- Test chain spec: Altair at epoch 2, with sync committee periods of four epochs. -/
def altairAtEpochTwo : ChainSpec := ⟨some 2, none, 4, by decide⟩

/-- Test committees, naming their period and deciding block. -/
def periodCommittee (period root : Nat) : SyncCommittee := [period, root]

theorem syncCommitteeAtEpoch_answers_head_chain_committee_next_period :
    altairAtEpochTwo.altairForkEpoch = some 2 ∧
    ((∀ committee, everySlotStateView.committeeFromHead altairAtEpochTwo periodCommittee 12 = .ok (some committee) →
      ∀ state, everySlotStateView.stateForSyncCommitteePeriod altairAtEpochTwo ⟨true, .completed, true⟩
          (altairAtEpochTwo.syncCommitteePeriod 12) = .ok state →
        state.getBuiltSyncCommittee everySlotStateView.tree altairAtEpochTwo periodCommittee 12 = .ok committee) ∧
    (∀ committee, everySlotStateView.syncCommitteeAtEpoch altairAtEpochTwo periodCommittee ⟨true, .completed, true⟩ 12 =
        .ok committee →
      altairAtEpochTwo.syncCommitteePeriod 2 ≤ altairAtEpochTwo.syncCommitteePeriod 12 ∧
        committee = everySlotStateView.tree.syncCommitteeAt altairAtEpochTwo periodCommittee 2
          (altairAtEpochTwo.syncCommitteePeriod 12) everySlotStateView.head) ∧
    (altairAtEpochTwo.syncCommitteePeriod 2 ≤ altairAtEpochTwo.syncCommitteePeriod 12 →
      (⟨true, .completed, true⟩ : SyncCommitteeOutcomes) = ⟨true, .completed, true⟩ →
        ∃ committee, everySlotStateView.syncCommitteeAtEpoch altairAtEpochTwo periodCommittee ⟨true, .completed, true⟩ 12 =
          .ok committee)) :=
  ⟨rfl, syncCommitteeAtEpoch_answers_head_chain_committee rfl 12⟩

/-- Past the head's next period the slow path answers: the state loaded at the start of period 4,
skipped forward from the head, holds period 5's committee as its next one. -/
example :
    everySlotStateView.syncCommitteeAtEpoch altairAtEpochTwo periodCommittee ⟨true, .completed, true⟩ 20 = .ok [5, 80] := by
  decide

end StateView

end BeaconChain
