import BeaconChain.Shuffling

/-! The sync committee queries: `sync_committee_at_epoch` reads the committee from the head state
when it holds the epoch's period, else from the state `state_for_sync_committee_period` loads. A
committee is fixed by its period and the chain's latest block before it was computed. -/

namespace BeaconChain

/-- `SyncCommittee`, by the validators it names. -/
abbrev SyncCommittee := List Nat

namespace ChainSpec

variable (chainSpec : ChainSpec)

/-- `Epoch::sync_committee_period`. -/
def syncCommitteePeriod (epoch : Nat) : Nat := epoch / chainSpec.epochsPerSyncCommitteePeriod

/-- Modelled from the spec: the moment the committee of `period` is computed on a chain, as the
period that names it and the last slot whose block it sees: at the Altair fork for the fork's
period and the next one, else at the start of the period before. -/
def syncCommitteeDecision (spec : EthSpec) (altairForkEpoch period : Nat) : Nat × Nat :=
  let altairPeriod := chainSpec.syncCommitteePeriod altairForkEpoch
  if period ≤ altairPeriod + 1 then (altairPeriod, spec.startSlot altairForkEpoch - 1)
  else (period, spec.startSlot (chainSpec.epochsPerSyncCommitteePeriod * (period - 1)) - 1)

end ChainSpec

/-- The committee of `period` on the chain ending at `root`. `syncCommitteeOf period block` is
the committee that `get_next_sync_committee` computes, named by `period`, on every chain whose
latest block at that moment is `block`. -/
def BlockTree.syncCommitteeAt {spec : EthSpec} (tree : BlockTree spec) (chainSpec : ChainSpec)
    (syncCommitteeOf : Nat → Root → SyncCommittee) (altairForkEpoch period : Nat) (root : Root) : SyncCommittee :=
  let decision := chainSpec.syncCommitteeDecision spec altairForkEpoch period
  syncCommitteeOf decision.1 (tree.rootAt root decision.2)

namespace BeaconState

variable {spec : EthSpec} (tree : BlockTree spec) (chainSpec : ChainSpec) (syncCommitteeOf : Nat → Root → SyncCommittee)

/-- Modelled from the spec: `current_sync_committee` and `next_sync_committee`, the committee a
state holds for `period`: none before the Altair fork, whose states are of the `Base` variant. -/
def syncCommittee (state : BeaconState) (period : Nat) : Except BeaconStateError SyncCommittee :=
  match chainSpec.altairForkEpoch with
  | some altairForkEpoch =>
    if altairForkEpoch ≤ state.currentEpoch spec then
      .ok (tree.syncCommitteeAt chainSpec syncCommitteeOf altairForkEpoch period state.latestBlockRoot)
    else .error .incorrectStateVariant
  | none => .error .incorrectStateVariant

/-- Modelled from the spec: `BeaconState::get_built_sync_committee`. -/
def getBuiltSyncCommittee (state : BeaconState) (epoch : Nat) : Except BeaconStateError SyncCommittee :=
  let syncCommitteePeriod := chainSpec.syncCommitteePeriod epoch
  let currentSyncCommitteePeriod := chainSpec.syncCommitteePeriod (state.currentEpoch spec)
  if syncCommitteePeriod = currentSyncCommitteePeriod then
    state.syncCommittee tree chainSpec syncCommitteeOf currentSyncCommitteePeriod
  else if syncCommitteePeriod = currentSyncCommitteePeriod + 1 then
    state.syncCommittee tree chainSpec syncCommitteeOf (currentSyncCommitteePeriod + 1)
  else .error (.syncCommitteeNotKnown (state.currentEpoch spec) epoch)

end BeaconState

/-- What the sync committee queries learn from their collaborators: whether `with_head` takes the
head lock in time, how `state_at_slot`'s skip forward ends and whether the store holds the state
it looks up. -/
structure SyncCommitteeOutcomes where
  headLock : Bool
  skip : SkipOutcome
  stored : Bool
  deriving DecidableEq, Repr

namespace StateView

variable {spec : EthSpec} (chain : StateView spec) (chainSpec : ChainSpec)
  (syncCommitteeOf : Nat → Root → SyncCommittee) (outcomes : SyncCommitteeOutcomes)

/-- `BeaconChain::state_for_sync_committee_period`: the state at the start of the period before,
or of the Altair fork's epoch if that is later. -/
def stateForSyncCommitteePeriod (syncCommitteePeriod : Nat) : Except Error BeaconState :=
  match chainSpec.altairForkEpoch with
  | none => .error .altairForkDisabled
  | some altairForkEpoch =>
    let loadSlot :=
      spec.startSlot (max (chainSpec.epochsPerSyncCommitteePeriod * (syncCommitteePeriod - 1)) altairForkEpoch)
    match chain.stateAtSlot loadSlot outcomes.skip outcomes.stored with
    | .error e => .error e
    | .ok root => .ok { BeaconState.ofBlock chain.tree root.latestBlockRoot with slot := root.slot }

/-- The `with_head` closure of `sync_committee_at_epoch`: the head state's committee, or `none`
when the head state does not know the epoch's period or is of the `Base` variant. -/
def committeeFromHead (epoch : Nat) : Except Error (Option SyncCommittee) :=
  match chain.headState.getBuiltSyncCommittee chain.tree chainSpec syncCommitteeOf epoch with
  | .ok committee => .ok (some committee)
  | .error (.syncCommitteeNotKnown _ _) | .error .incorrectStateVariant => .ok none
  | .error e => .error (.beaconStateError e)

/-- `BeaconChain::sync_committee_at_epoch`. -/
def syncCommitteeAtEpoch (epoch : Nat) : Except Error SyncCommittee :=
  if !outcomes.headLock then .error .canonicalHeadLockTimeout
  else
    match chain.committeeFromHead chainSpec syncCommitteeOf epoch with
    | .error e => .error e
    | .ok (some committee) => .ok committee
    | .ok none =>
      match chain.stateForSyncCommitteePeriod chainSpec outcomes (chainSpec.syncCommitteePeriod epoch) with
      | .error e => .error e
      | .ok state =>
        match state.getBuiltSyncCommittee chain.tree chainSpec syncCommitteeOf epoch with
        | .error e => .error (.beaconStateError e)
        | .ok committee => .ok committee

/-- `BeaconChain::sync_committee_at_next_slot`. -/
def syncCommitteeAtNextSlot (slot : Nat) : Except Error SyncCommittee :=
  chain.syncCommitteeAtEpoch chainSpec syncCommitteeOf outcomes (spec.epoch (slot + 1))

end StateView

end BeaconChain
