import BeaconChain.ProposerCache

/-! Block production. `produce_block_with_verification` loads the state to build on, the head's
own or, for a block that conflicts with the head, the one its chain passed through at the slot
before; `produce_block_on_state` advances it, packs the filtered op-pool attestations, names the
proposer and runs `per_block_processing` on the block. -/

namespace BeaconChain

/-- `ProduceBlockVerification`. -/
inductive ProduceBlockVerification where
  | verifyRandao
  | noVerification
  deriving DecidableEq, Repr

/-- `BlockSignatureStrategy`, of which block production uses two. -/
inductive BlockSignatureStrategy where
  | noVerification
  | verifyRandao
  deriving DecidableEq, Repr

/-- The signature strategy `produce_block_on_state` hands to `per_block_processing`. -/
def ProduceBlockVerification.signatureStrategy : ProduceBlockVerification → BlockSignatureStrategy
  | .verifyRandao => .verifyRandao
  | .noVerification => .noVerification

/-- `BeaconBlock` as `produce_block_on_state` fills it, before its state root is set: the body of
the state's fork with its RANDAO reveal, graffiti and packed attestations (the slashings, exits,
eth1 data, deposits, sync aggregate and execution payload are left out). -/
structure BeaconBlock where
  slot : Nat
  proposerIndex : Nat
  parentRoot : Root
  randaoReveal : Nat
  graffiti : Nat
  attestations : List Attestation
  fork : ForkName
  deriving DecidableEq, Repr

/-- Modelled from the spec: the `HeaderInvalid` reasons of `process_block_header`. -/
inductive HeaderInvalid where
  | stateSlotMismatch
  | olderThanLatestBlockHeader (blockSlot latestBlockHeaderSlot : Nat)
  | proposerIndexMismatch (blockProposerIndex stateProposerIndex : Nat)
  | parentBlockRootMismatch (state block : Root)
  | proposerSlashed (proposerIndex : Nat)
  deriving DecidableEq, Repr

/-- Modelled from the spec: the `BlockProcessingError`s of `per_block_processing`: an invalid
header, an invalid RANDAO reveal, or a failure in the rest of the block. -/
inductive BlockProcessingError where
  | headerInvalid (reason : HeaderInvalid)
  | randaoSignatureInvalid
  | bodyProcessingFailed
  deriving DecidableEq, Repr

/-- The variants of `BlockProductionError` that block production returns. `GetPayloadFailed`
stands for every error of `get_execution_payload`. -/
inductive BlockProductionError where
  | unableToReadSlot
  | unableToGetHeadInfo (error : Error)
  | failedToLoadState
  | unableToProduceAtSlot (slot : Nat)
  | noEth1ChainConnection
  | stateSlotTooHigh (produceAtSlot stateSlot : Nat)
  | stateAdvanceError
  | beaconStateError (error : BeaconStateError)
  | unableToGetBlockRootFromState
  | eth1ChainError
  | opPoolError
  | getPayloadFailed
  | blockTooLarge (size : Nat)
  | blockProcessingError (error : BlockProcessingError)
  deriving DecidableEq, Repr

namespace BeaconState

variable {spec : EthSpec} (tree : BlockTree spec)

/-- Modelled from the spec: `BeaconState::get_beacon_proposer_index` at the state's own slot: the
slot's entry among the proposers of the state's epoch, of which there are none when no
validator is active. -/
def getBeaconProposerIndex (proposersOf : Nat → Root → List Nat) (state : BeaconState) :
    Except BeaconStateError Nat :=
  match (state.beaconProposerIndices spec tree proposersOf)[state.slot % spec.slotsPerEpoch]? with
  | some proposer => .ok proposer
  | none => .error .insufficientValidators

/-- Modelled from the spec: `process_block_header`. The latest block header's root is the latest
block's once the state is past that block's slot, where `process_slot` has filled in the
header's state root; the slot checks before the parent check ensure it. -/
def processBlockHeader (state : BeaconState) (block : BeaconBlock) (stateProposerIndex : Nat)
    (slashed : Nat → Bool) : Except HeaderInvalid Unit :=
  let latestBlockHeaderSlot := tree.slot state.latestBlockRoot
  if block.slot ≠ state.slot then .error .stateSlotMismatch
  else if block.slot ≤ latestBlockHeaderSlot then
    .error (.olderThanLatestBlockHeader block.slot latestBlockHeaderSlot)
  else if block.proposerIndex ≠ stateProposerIndex then
    .error (.proposerIndexMismatch block.proposerIndex stateProposerIndex)
  else if block.parentRoot ≠ state.latestBlockRoot then
    .error (.parentBlockRootMismatch state.latestBlockRoot block.parentRoot)
  else if slashed block.proposerIndex then .error (.proposerSlashed block.proposerIndex)
  else .ok ()

end BeaconState

/-- It is invalid to produce a block on a state from a later slot. -/
def checkStateSlot (state : BeaconState) (produceAtSlot : Nat) : Except BlockProductionError Unit :=
  if state.slot > produceAtSlot then .error (.stateSlotTooHigh produceAtSlot state.slot) else .ok ()

/-- What the collaborators of block production answer in one run, and the configuration it
reads: whether there is a fork-choice signal receiver; the store's `get_advanced_state` (a read
error, no state, or `some shortfall` for the head block's state advanced to `shortfall` slots
before the slot, but not before the block); how `state_at_slot`'s skip forward ends and whether
the store holds the state it looks up; the eth1 chain (absent, or whether its eth1 data and
deposit queries succeed); whether `complete_state_advance` succeeds; `build_committee_cache`;
the root of the latest block header of a state at the genesis slot; the op pool's previous- and
current-epoch candidates and the positions max cover packs among those the filters keep (or an
op pool error); the sync aggregate and execution payload queries; the configured graffiti; the
block's SSZ size and `max_network_size`; which validators are slashed; whether the RANDAO reveal
is valid; and whether the rest of `per_block_processing` succeeds. -/
structure ProductionOutcomes where
  forkChoiceSignal : Bool
  advancedState : Except Unit (Option Nat)
  skip : SkipOutcome
  stored : Bool
  eth1Chain : Option Bool
  stateAdvance : Bool
  buildCommitteeCache : Except BeaconStateError Unit
  genesisBlockHeaderRoot : Root
  previousCandidates : List Attestation
  currentCandidates : List Attestation
  packing : Except Unit (List Nat)
  syncAggregate : Bool
  executionPayload : Bool
  graffiti : Nat
  blockSize : Nat
  maxNetworkSize : Nat
  slashed : Nat → Bool
  randaoValid : Bool
  bodyProcessing : Bool

namespace ProductionOutcomes

variable (outcomes : ProductionOutcomes) {spec : EthSpec} (tree : BlockTree spec)

/-- The eth1 chain of `produce_block_on_state`, by whether its queries will succeed. -/
def eth1ChainQueries : Except BlockProductionError Bool :=
  match outcomes.eth1Chain with
  | some queries => .ok queries
  | none => .error .noEth1ChainConnection

/-- `eth1_data_for_block_production` and `deposits_for_block_inclusion`. -/
def eth1DataAndDeposits (queries : Bool) : Except BlockProductionError Unit :=
  if queries then .ok () else .error .eth1ChainError

/-- `complete_state_advance` to `produceAtSlot`, whose per-slot processing runs only while the
state is before the slot, then `build_committee_cache` for the current epoch. -/
def completeStateAdvance (state : BeaconState) (produceAtSlot : Nat) : Except BlockProductionError BeaconState :=
  let advanced : Except BlockProductionError BeaconState :=
    if state.slot < produceAtSlot then
      if outcomes.stateAdvance then .ok { state with slot := produceAtSlot } else .error .stateAdvanceError
    else .ok state
  match advanced, outcomes.buildCommitteeCache with
  | .error e, _ => .error e
  | .ok _, .error e => .error (.beaconStateError e)
  | .ok state, .ok () => .ok state

/-- The parent root of `produce_block_on_state`: the state's `block_roots` entry of the slot
before its own, or at the genesis slot the root of its latest block header. -/
def parentRoot (state : BeaconState) : Except BlockProductionError Root :=
  if state.slot > 0 then
    match state.getBlockRoot tree (state.slot - 1) with
    | some root => .ok root
    | none => .error .unableToGetBlockRootFromState
  else .ok outcomes.genesisBlockHeaderRoot

/-- Modelled from the spec: `OperationPool::get_attestations` with the two memoised filters of
`produce_block_on_state`: the attestations max cover packs, by their positions among the
previous-epoch and then the current-epoch candidates that the filters keep. -/
def getAttestations (forkChoice : ForkChoice) (state : BeaconState) : Except BlockProductionError (List Attestation) :=
  match outcomes.packing with
  | .error () => .error .opPoolError
  | .ok positions =>
    let kept := produceBlockAttestations tree forkChoice state outcomes.previousCandidates outcomes.currentCandidates
    .ok (positions.filterMap fun i => (kept.1 ++ kept.2)[i]?)

/-- The fork-specific parts of the body: from Altair a sync aggregate, whose op pool query may
fail, and from the Merge also an execution payload. -/
def bodyForFork (fork : ForkName) : Except BlockProductionError Unit :=
  match fork with
  | .base => .ok ()
  | .altair => if outcomes.syncAggregate then .ok () else .error .opPoolError
  | .merge =>
    if !outcomes.syncAggregate then .error .opPoolError
    else if outcomes.executionPayload then .ok () else .error .getPayloadFailed

/-- A block larger than `max_network_size` is refused. -/
def checkBlockSize : Except BlockProductionError Unit :=
  if outcomes.blockSize > outcomes.maxNetworkSize then .error (.blockTooLarge outcomes.blockSize) else .ok ()

/-- Modelled from the spec: `per_block_processing` of the produced block, with the consensus
context's proposer index set to `proposerIndex`: the header checks, the RANDAO reveal when the
strategy verifies it, then the rest of the block. -/
def perBlockProcessing (state : BeaconState) (block : BeaconBlock) (strategy : BlockSignatureStrategy)
    (proposerIndex : Nat) : Except BlockProcessingError Unit :=
  match state.processBlockHeader tree block proposerIndex outcomes.slashed with
  | .error reason => .error (.headerInvalid reason)
  | .ok () =>
    if strategy = .verifyRandao ∧ outcomes.randaoValid = false then .error .randaoSignatureInvalid
    else if outcomes.bodyProcessing then .ok ()
    else .error .bodyProcessingFailed

/-- `BeaconChain::produce_block_on_state`, up to the block it returns with the post-state. -/
def produceBlockOnState (chainSpec : ChainSpec) (forkChoice : ForkChoice) (proposersOf : Nat → Root → List Nat)
    (state : BeaconState) (produceAtSlot randaoReveal : Nat) (validatorGraffiti : Option Nat)
    (verification : ProduceBlockVerification) : Except BlockProductionError BeaconBlock := do
  let eth1Queries ← outcomes.eth1ChainQueries
  checkStateSlot state produceAtSlot
  let state ← outcomes.completeStateAdvance state produceAtSlot
  let parentRoot ← outcomes.parentRoot tree state
  eth1DataAndDeposits eth1Queries
  let attestations ← outcomes.getAttestations tree forkChoice state
  let proposerIndex ← (state.getBeaconProposerIndex tree proposersOf).mapError .beaconStateError
  let fork := chainSpec.forkNameAtEpoch (state.currentEpoch spec)
  outcomes.bodyForFork fork
  let block : BeaconBlock :=
    ⟨state.slot, proposerIndex, parentRoot, randaoReveal, validatorGraffiti.getD outcomes.graffiti, attestations, fork⟩
  outcomes.checkBlockSize
  (outcomes.perBlockProcessing tree state block verification.signatureStrategy proposerIndex).mapError
    .blockProcessingError
  pure block

/-- `wait_for_fork_choice_before_block_production`: with a fork-choice signal receiver the slot
clock is read; however the wait ends, and when it is skipped for a slot that is neither the
current nor the next one, block production goes on. -/
def waitForForkChoiceBeforeBlockProduction (chain : ChainView spec) : Except BlockProductionError Unit :=
  if outcomes.forkChoiceSignal then
    match chain.slot with
    | .error _ => .error .unableToReadSlot
    | .ok _ => .ok ()
  else .ok ()

/-- The state `produce_block_with_verification` builds on: for a head not after the slot, the
store's state of the head block advanced to at most the slot; else the state the head's chain
passed through at the slot before, for a block that conflicts with the head. -/
def loadState (chain : StateView spec) (head : HeadInfo) (slot : Nat) : Except BlockProductionError BeaconState :=
  if head.slot ≤ slot then
    match outcomes.advancedState with
    | .error () => .error .failedToLoadState
    | .ok none => .error (.unableToProduceAtSlot slot)
    | .ok (some shortfall) =>
      .ok { BeaconState.ofBlock chain.tree head.blockRoot with
        slot := max (chain.tree.slot head.blockRoot) (slot - shortfall) }
  else
    match chain.stateAtSlot (slot - 1) outcomes.skip outcomes.stored with
    | .error _ => .error (.unableToProduceAtSlot slot)
    | .ok root => .ok { BeaconState.ofBlock chain.tree root.latestBlockRoot with slot := root.slot }

/-- `BeaconChain::produce_block_with_verification`. The state root it passes along with the state
only spares `complete_state_advance` a tree hash, so it is left out. -/
def produceBlockWithVerification (chainSpec : ChainSpec) (chain : StateView spec) (forkChoice : ForkChoice)
    (proposersOf : Nat → Root → List Nat) (randaoReveal slot : Nat) (validatorGraffiti : Option Nat)
    (verification : ProduceBlockVerification) : Except BlockProductionError BeaconBlock := do
  outcomes.waitForForkChoiceBeforeBlockProduction chain.toChainView
  let head ← chain.headInfo.mapError .unableToGetHeadInfo
  let state ← outcomes.loadState chain head slot
  outcomes.produceBlockOnState chain.tree chainSpec forkChoice proposersOf state slot randaoReveal
    validatorGraffiti verification

end ProductionOutcomes

end BeaconChain
