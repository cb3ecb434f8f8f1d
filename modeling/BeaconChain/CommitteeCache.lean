import BeaconChain.Shuffling

/-! `with_committee_cache`: the shuffling id of a block known to fork choice for the requested
epoch, a hit in the shuffling cache under that id, or on a miss a state of the block's chain
(the head snapshot, or a stored state advanced towards the epoch) from which the committee
cache is built and inserted under the id. -/

namespace BeaconChain

/-- `AttestationShufflingId`. -/
structure AttestationShufflingId where
  shufflingEpoch : Nat
  shufflingDecisionBlock : Root
  deriving DecidableEq, Repr

/-- `BlockShufflingIds`: the ids of a block's current and next epoch, recorded by fork choice. -/
structure BlockShufflingIds where
  current : AttestationShufflingId
  next : AttestationShufflingId
  blockRoot : Root
  deriving DecidableEq, Repr

/-- Modelled from the spec: `BlockShufflingIds::id_for_epoch`. An epoch after the next one has
not been decided yet on the block's chain, so the block itself decides it. -/
def BlockShufflingIds.idForEpoch (ids : BlockShufflingIds) (epoch : Nat) : Option AttestationShufflingId :=
  if epoch = ids.current.shufflingEpoch then some ids.current
  else if epoch = ids.next.shufflingEpoch then some ids.next
  else if epoch > ids.next.shufflingEpoch then some ⟨epoch, ids.blockRoot⟩
  else none

/-- The committee cache of an epoch. The committees are fixed by the epoch and the block that
decided its shuffling, which names them. -/
structure CommitteeCache where
  epoch : Nat
  decisionBlock : Root
  deriving DecidableEq, Repr

/-- `RelativeEpoch`. -/
inductive RelativeEpoch where
  | previous
  | current
  | next
  deriving DecidableEq, Repr

namespace RelativeEpoch

/-- `RelativeEpoch::from_epoch`, with the saturating `Epoch` subtraction. -/
def fromEpoch (base other : Nat) : Except RelativeEpochError RelativeEpoch :=
  if other = base - 1 then .ok .previous
  else if other = base then .ok .current
  else if other = base + 1 then .ok .next
  else if other < base then .error (.epochTooLow base other)
  else .error (.epochTooHigh base other)

/-- `RelativeEpoch::into_epoch`. -/
def intoEpoch (relativeEpoch : RelativeEpoch) (base : Nat) : Nat :=
  match relativeEpoch with
  | .previous => base - 1
  | .current => base
  | .next => base + 1

end RelativeEpoch

/-- The shuffling cache, newest entry first. -/
abbrev ShufflingCache := List (AttestationShufflingId × CommitteeCache)

variable {spec : EthSpec} (tree : BlockTree spec)

/-- `AttestationShufflingId::new` for the post-state of `root` and the epoch `epoch`: its
decision block is the chain's latest block at the attester shuffling's decision slot. -/
def BlockTree.shufflingId (root : Root) (epoch : Nat) : AttestationShufflingId :=
  ⟨epoch, tree.rootAt root (BeaconState.attesterShufflingDecisionSlot spec epoch)⟩

/-- The shuffling ids fork choice records for the block `root`, from its post-state. -/
def BlockTree.blockShufflingIds (root : Root) : BlockShufflingIds :=
  let epoch := spec.epoch (tree.slot root)
  ⟨tree.shufflingId root epoch, tree.shufflingId root (epoch + 1), root⟩

/-- `BeaconState::committee_cache` after `build_committee_cache` for `relativeEpoch`. -/
def BeaconState.committeeCache (state : BeaconState) (relativeEpoch : RelativeEpoch) : CommitteeCache :=
  let epoch := relativeEpoch.intoEpoch (state.currentEpoch spec)
  ⟨epoch, tree.rootAt state.latestBlockRoot (BeaconState.attesterShufflingDecisionSlot spec epoch)⟩

/-- What the collaborators of `with_committee_cache` answer in one run: whether the shuffling
cache's write lock is taken in time for the lookup and for the insertion; the store's
`get_advanced_state` (a read error, no state, or `some shortfall` for the block's state advanced
to `shortfall` slots before the target slot, but not before the block); whether
`partial_state_advance` succeeds; and `build_committee_cache`. -/
structure CommitteeOutcomes where
  cacheLock : Bool
  advancedState : Except Unit (Option Nat)
  partialStateAdvance : Bool
  buildCommitteeCache : Except BeaconStateError Unit
  insertLock : Bool
  deriving DecidableEq, Repr

namespace ChainView

variable {spec : EthSpec} (chain : ChainView spec) (outcomes : CommitteeOutcomes)

/-- The state the miss path of `with_committee_cache` loads: the head snapshot's state when
the block is the head, else the store's state of the block advanced to at most `targetSlot`.
A missing state is reported by the block, whose post-state the store was asked for. -/
def loadCommitteeState (headBlockRoot : Root) (targetSlot : Nat) : Except Error BeaconState :=
  if chain.head = headBlockRoot then .ok chain.headState
  else
    match outcomes.advancedState with
    | .error () => .error .dbError
    | .ok (some shortfall) =>
      .ok { BeaconState.ofBlock chain.tree headBlockRoot with
        slot := max (chain.tree.slot headBlockRoot) (targetSlot - shortfall) }
    | .ok none => .error (.missingBeaconState headBlockRoot)

/-- The state the miss path of `with_committee_cache` builds committees from: the loaded state,
advanced to the target slot if its epoch is still more than one before the requested one. -/
def committeeState (headBlockRoot : Root) (shufflingEpoch : Nat) : Except Error BeaconState :=
  let targetSlot := max (spec.startSlot (shufflingEpoch - 1)) (chain.tree.slot headBlockRoot)
  match chain.loadCommitteeState outcomes headBlockRoot targetSlot with
  | .error e => .error e
  | .ok state =>
    if state.currentEpoch spec + 1 < shufflingEpoch then
      if outcomes.partialStateAdvance then .ok { state with slot := targetSlot }
      else .error .stateAdvanceError
    else .ok state

/-- The miss path of `with_committee_cache` from the state read to `build_committee_cache`: the
committee cache built for the requested epoch, relative to the state's current epoch. -/
def committeeCacheOnMiss (headBlockRoot : Root) (shufflingEpoch : Nat) : Except Error CommitteeCache :=
  match chain.committeeState outcomes headBlockRoot shufflingEpoch with
  | .error e => .error e
  | .ok state =>
    match RelativeEpoch.fromEpoch (state.currentEpoch spec) shufflingEpoch with
    | .error e => .error (.incorrectStateForAttestation e)
    | .ok relativeEpoch =>
      match outcomes.buildCommitteeCache with
      | .error e => .error (.beaconStateError e)
      | .ok () => .ok (state.committeeCache chain.tree relativeEpoch)

/-- `BeaconChain::with_committee_cache`, up to the `map_fn` call: the committee cache and the
decision block it hands to `map_fn`, and the shuffling cache after the run. -/
def withCommitteeCache (forkChoice : ForkChoice) (cache : ShufflingCache) (headBlockRoot : Root)
    (shufflingEpoch : Nat) : Except Error (CommitteeCache × Root) × ShufflingCache :=
  let headBlockEpoch := spec.epoch (chain.tree.slot headBlockRoot)
  if !forkChoice.containsBlock headBlockRoot then (.error (.missingBeaconBlock headBlockRoot), cache)
  else
    match (chain.tree.blockShufflingIds headBlockRoot).idForEpoch shufflingEpoch with
    | none => (.error (.invalidShufflingId shufflingEpoch headBlockEpoch), cache)
    | some shufflingId =>
      if !outcomes.cacheLock then (.error .attestationCacheLockTimeout, cache)
      else
        match cache.lookup shufflingId with
        | some committeeCache => (.ok (committeeCache, shufflingId.shufflingDecisionBlock), cache)
        | none =>
          if headBlockEpoch > shufflingEpoch + 1 then
            (.error (.invalidStateForShuffling headBlockEpoch shufflingEpoch), cache)
          else
            match chain.committeeCacheOnMiss outcomes headBlockRoot shufflingEpoch with
            | .error e => (.error e, cache)
            | .ok committeeCache =>
              if !outcomes.insertLock then (.error .attestationCacheLockTimeout, cache)
              else (.ok (committeeCache, shufflingId.shufflingDecisionBlock), (shufflingId, committeeCache) :: cache)

end ChainView

end BeaconChain
