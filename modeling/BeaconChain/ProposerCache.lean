import BeaconChain.Shuffling

/-! Proposer preparation: the decision root `head_info` reads, the beacon proposer cache keyed by
epoch and decision root, `compute_proposer_duties_from_head` on a miss, and
`prepare_beacon_proposer_async` up to the proposer it hands to the execution layer. -/

namespace BeaconChain

/-- `PREPARE_PROPOSER_HISTORIC_EPOCHS`. -/
def prepareProposerHistoricEpochs : Nat := 4

namespace BeaconState

variable (spec : EthSpec) (tree : BlockTree spec)

/-- Modelled from the spec: `BeaconState::proposer_shuffling_decision_slot`, the last slot of
the epoch before the current one, saturating at the genesis slot. -/
def proposerShufflingDecisionSlot (state : BeaconState) : Nat :=
  spec.startSlot (state.currentEpoch spec) - 1

/-- Modelled from the spec: `BeaconState::proposer_shuffling_decision_root`: the given block when
the state is at the decision slot, else the state's `block_roots` entry of that slot. -/
def proposerShufflingDecisionRoot (state : BeaconState) (blockRoot : Root) : Except BeaconStateError Root :=
  let decisionSlot := state.proposerShufflingDecisionSlot spec
  if state.slot = decisionSlot then .ok blockRoot
  else
    match state.getBlockRoot tree decisionSlot with
    | some root => .ok root
    | none => .error .slotOutOfBounds

/-- Modelled from the spec: `BeaconState::get_beacon_proposer_indices`. `proposersOf epoch root`
are the proposers of `epoch` on every chain whose decision block for it is `root`. -/
def beaconProposerIndices (proposersOf : Nat → Root → List Nat) (state : BeaconState) : List Nat :=
  proposersOf (state.currentEpoch spec) (tree.rootAt state.latestBlockRoot (state.proposerShufflingDecisionSlot spec))

/-- Modelled from the spec: `ensure_state_is_in_epoch`: a state of an earlier epoch is advanced
to the epoch's first slot by `partial_state_advance` (which succeeds when `advance` holds), and
one of a later epoch is refused. -/
def ensureStateIsInEpoch (state : BeaconState) (targetEpoch : Nat) (advance : Bool) : Except Error BeaconState :=
  match compare (state.currentEpoch spec) targetEpoch with
  | .gt => .error (.beaconStateError .slotOutOfBounds)
  | .lt => if advance then .ok { state with slot := spec.startSlot targetEpoch } else .error .stateAdvanceError
  | .eq => .ok state

end BeaconState

/-- The fields of `HeadInfo` that proposer preparation reads. -/
structure HeadInfo where
  slot : Nat
  blockRoot : Root
  proposerShufflingDecisionRoot : Root
  deriving DecidableEq, Repr

/-- The shuffling decision root `prepare_beacon_proposer_async` looks the proposer up under:
`head_info`'s when the head is in the prepare epoch, else the head block. -/
def HeadInfo.shufflingDecisionRoot (spec : EthSpec) (head : HeadInfo) (prepareEpoch : Nat) : Root :=
  if spec.epoch head.slot = prepareEpoch then head.proposerShufflingDecisionRoot else head.blockRoot

/-- Modelled from the spec: `BeaconProposerCache`, the proposers of an epoch under its decision
root, newest entry first (the fork stored with them is left out). -/
abbrev BeaconProposerCache := List ((Nat × Root) × List Nat)

namespace BeaconProposerCache

/-- Modelled from the spec: `BeaconProposerCache::get_slot`: the proposer of `slot` among the
proposers of its epoch under `shufflingDecisionBlock`. -/
def getSlot (spec : EthSpec) (cache : BeaconProposerCache) (shufflingDecisionBlock : Root) (slot : Nat) :
    Option Nat :=
  match cache.lookup (spec.epoch slot, shufflingDecisionBlock) with
  | some proposers => proposers[slot % spec.slotsPerEpoch]?
  | none => none

/-- Modelled from the spec: `BeaconProposerCache::insert`, which keeps an entry already there. -/
def insert (cache : BeaconProposerCache) (epoch : Nat) (shufflingDecisionBlock : Root) (proposers : List Nat) :
    BeaconProposerCache :=
  match cache.lookup (epoch, shufflingDecisionBlock) with
  | some _ => cache
  | none => ((epoch, shufflingDecisionBlock), proposers) :: cache

end BeaconProposerCache

/-- What proposer preparation learns from its collaborators: the configured Bellatrix fork epoch,
whether there is an execution layer, whether it holds preparation data for any proposer and for
a given one, and whether `partial_state_advance` succeeds. -/
structure PreparationOutcomes where
  bellatrixForkEpoch : Option Nat
  executionLayer : Bool
  anyProposerPreparationData : Bool
  proposerPreparationData : Nat → Bool
  partialStateAdvance : Bool

/-- The arguments of the execution layer's `insert_proposer` call: the prepare slot, the head
block and the proposer's validator index. -/
structure PreparedProposer where
  slot : Nat
  headBlockRoot : Root
  validator : Nat
  deriving DecidableEq, Repr

namespace PreparationOutcomes

variable (outcomes : PreparationOutcomes)

/-- `BeaconChain::slot_is_prior_to_bellatrix`. -/
def slotIsPriorToBellatrix (spec : EthSpec) (slot : Nat) : Bool :=
  outcomes.bellatrixForkEpoch.all fun bellatrix => spec.epoch slot < bellatrix

/-- The end of `prepare_beacon_proposer_async` once the proposer is known: the proposer is
prepared only if the execution layer holds preparation data for it. -/
def prepareFound (head : HeadInfo) (prepareSlot proposer : Nat) (cache : BeaconProposerCache) :
    Except Error (Option PreparedProposer) × BeaconProposerCache :=
  if !outcomes.proposerPreparationData proposer then (.ok none, cache)
  else (.ok (some ⟨prepareSlot, head.blockRoot, proposer⟩), cache)

end PreparationOutcomes

namespace ChainView

variable {spec : EthSpec} (chain : ChainView spec) (outcomes : PreparationOutcomes)
  (proposersOf : Nat → Root → List Nat)

/-- `BeaconChain::head_info`, for the fields proposer preparation reads. -/
def headInfo : Except Error HeadInfo :=
  match chain.headState.proposerShufflingDecisionRoot spec chain.tree chain.head with
  | .error e => .error (.beaconStateError e)
  | .ok root => .ok ⟨chain.tree.slot chain.head, chain.head, root⟩

/-- Modelled from the spec: `compute_proposer_duties_from_head`: the head state moved into
`currentEpoch`, its proposers, and its proposer-shuffling decision root, with the genesis block
deciding its own shuffling. -/
def computeProposerDutiesFromHead (advance : Bool) (currentEpoch : Nat) : Except Error (List Nat × Root) :=
  match chain.headState.ensureStateIsInEpoch spec currentEpoch advance with
  | .error e => .error e
  | .ok state =>
    match state.proposerShufflingDecisionRoot spec chain.tree chain.genesisBlockRoot with
    | .error e => .error (.beaconStateError e)
    | .ok dependentRoot => .ok (state.beaconProposerIndices spec chain.tree proposersOf, dependentRoot)

/-- `BeaconChain::prepare_beacon_proposer_async` up to the `insert_proposer` call: the proposer it
prepares for the slot after `currentSlot` (`none` when it returns `Ok(())` before), and the
proposer cache after the run. -/
def prepareBeaconProposer (cache : BeaconProposerCache) (currentSlot : Nat) :
    Except Error (Option PreparedProposer) × BeaconProposerCache :=
  let prepareSlot := currentSlot + 1
  let prepareEpoch := spec.epoch prepareSlot
  if outcomes.slotIsPriorToBellatrix spec prepareSlot then (.ok none, cache)
  else if !outcomes.executionLayer then (.error .executionLayerMissing, cache)
  else if !outcomes.anyProposerPreparationData then (.ok none, cache)
  else
    match chain.headInfo with
    | .error e => (.error e, cache)
    | .ok head =>
      let headEpoch := spec.epoch head.slot
      if head.slot + spec.slotsPerEpoch * prepareProposerHistoricEpochs < currentSlot then (.ok none, cache)
      else
        let shufflingDecisionRoot := head.shufflingDecisionRoot spec prepareEpoch
        match cache.getSlot spec shufflingDecisionRoot prepareSlot with
        | some proposer => outcomes.prepareFound head prepareSlot proposer cache
        | none =>
          if headEpoch + 2 < prepareEpoch then (.ok none, cache)
          else
            match chain.computeProposerDutiesFromHead proposersOf outcomes.partialStateAdvance prepareEpoch with
            | .error e => (.error e, cache)
            | .ok (proposers, decisionRoot) =>
              match proposers[prepareSlot % spec.slotsPerEpoch]? with
              | none => (.error (.noProposerForSlot prepareSlot), cache)
              | some proposer =>
                let cache := cache.insert prepareEpoch decisionRoot proposers
                if decisionRoot ≠ shufflingDecisionRoot then (.ok none, cache)
                else outcomes.prepareFound head prepareSlot proposer cache

end ChainView

end BeaconChain
