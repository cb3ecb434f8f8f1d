import BeaconChain.ForkChoice
import BeaconChain.Attestation

/-! Shuffling compatibility of op-pool attestations: `shuffling_is_compatible` compares the block
that fixed the target epoch's attester shuffling on the attestation's chain and in the state's
`block_roots`; `filter_op_pool_attestation` memoises it per block root and target epoch. -/

namespace BeaconChain

/-- `ChainSpec::min_seed_lookahead`: one epoch in every `ChainSpec` Lighthouse ships. -/
def minSeedLookahead : Nat := 1

/-- `Epoch::end_slot`: the last slot of the epoch. -/
def EthSpec.endSlot (spec : EthSpec) (epoch : Nat) : Nat := spec.startSlot (epoch + 1) - 1

namespace BeaconState

variable {spec : EthSpec}

/-- `BeaconState::current_epoch`. -/
def currentEpoch (spec : EthSpec) (state : BeaconState) : Nat := spec.epoch state.slot

/-- `BeaconState::previous_epoch`: the epoch before the current one, or genesis at genesis. -/
def previousEpoch (spec : EthSpec) (state : BeaconState) : Nat := state.currentEpoch spec - 1

/-- Modelled from the spec: `BeaconState::attester_shuffling_decision_slot` for a target
epoch, the slot before the start of the epoch before it, saturating at the genesis slot. The
attester shuffling of the target epoch is fixed by the chain's latest block at that slot. -/
def attesterShufflingDecisionSlot (spec : EthSpec) (targetEpoch : Nat) : Nat :=
  spec.startSlot (targetEpoch - 1) - 1

end BeaconState

namespace ForkChoice

variable {spec : EthSpec} (tree : BlockTree spec) (forkChoice : ForkChoice)

/-- At most `fuel` blocks of `ProtoArray::iter_block_roots` from `root`. -/
def iterBlockRootsFrom : Nat → Root → List (Root × Nat)
  | 0, _ => []
  | fuel + 1, root =>
    if forkChoice.containsBlock root then
      (root, tree.slot root) :: if tree.slot root = 0 then [] else iterBlockRootsFrom fuel (tree.parent root)
    else []

/-- Modelled from the spec: `ProtoArray::iter_block_roots`, `(root, slot)` from `root` down its
chain while fork choice holds the block, ending at genesis. Each parent has a lower slot, so
the block's slot bounds the walk. -/
def iterBlockRoots (root : Root) : List (Root × Nat) :=
  forkChoice.iterBlockRootsFrom tree (tree.slot root + 1) root

end ForkChoice

variable {spec : EthSpec} (tree : BlockTree spec) (forkChoice : ForkChoice)

/-- `BeaconChain::shuffling_is_compatible`, with fork choice read under its lock. -/
def shufflingIsCompatible (blockRoot : Root) (targetEpoch : Nat) (state : BeaconState) : Bool :=
  let shufflingLookahead := 1 + minSeedLookahead
  if state.currentEpoch spec < shufflingLookahead then true
  else if targetEpoch = state.previousEpoch spec ∨ targetEpoch = state.currentEpoch spec then
    let pivotSlot := spec.endSlot (targetEpoch - shufflingLookahead)
    match state.getBlockRoot tree pivotSlot with
    | none => false
    | some statePivotBlockRoot =>
      match (forkChoice.iterBlockRoots tree blockRoot).find? fun entry => entry.2 ≤ pivotSlot with
      | some (pivotBlockRoot, _) => pivotBlockRoot = statePivotBlockRoot
      | none => false
  else false

/-- The memo of `filter_op_pool_attestation`, from `(beacon_block_root, target.epoch)` to the
answer of `shuffling_is_compatible`, newest entry first. -/
abbrev FilterCache := List ((Root × Nat) × Bool)

/-- `BeaconChain::filter_op_pool_attestation`: the memoised answer for the attestation's block
root and target epoch, computed and inserted on the first query of that key. -/
def filterOpPoolAttestation (filterCache : FilterCache) (att : Attestation) (state : BeaconState) : Bool × FilterCache :=
  let key := (att.data.beaconBlockRoot, att.data.target.epoch)
  match filterCache.lookup key with
  | some compatible => (compatible, filterCache)
  | none =>
    let compatible := shufflingIsCompatible tree forkChoice att.data.beaconBlockRoot att.data.target.epoch state
    (compatible, (key, compatible) :: filterCache)

/-- Modelled from the spec: `OperationPool::get_attestations` keeps, of the candidate attestations
in order, those its filter closure accepts, and the closure keeps its memo from call to call. -/
def filterAttestations (state : BeaconState) : FilterCache → List Attestation → List Attestation × FilterCache
  | filterCache, [] => ([], filterCache)
  | filterCache, att :: rest =>
    let (compatible, filterCache) := filterOpPoolAttestation tree forkChoice filterCache att state
    let (kept, filterCache) := filterAttestations state filterCache rest
    (if compatible then att :: kept else kept, filterCache)

/-- The attestation filters of `produce_block_on_state`: the op pool's previous-epoch and
current-epoch candidates, each through its own memo, both starting empty. -/
def produceBlockAttestations (state : BeaconState) (previousCandidates currentCandidates : List Attestation) :
    List Attestation × List Attestation :=
  ((filterAttestations tree forkChoice state [] previousCandidates).1,
    (filterAttestations tree forkChoice state [] currentCandidates).1)

end BeaconChain
