import BeaconChain.Roots

/-! The state-root queries of `BeaconChain`: `state_root_at_slot`, with its fast path on the head
snapshot and its forwards state-roots iterator, and `state_at_slot`, which skips the head state
forward for a later slot and loads a stored state for an earlier one. -/

namespace BeaconChain

/-- The `hash_tree_root` of a state on the block tree. A state is fixed by its latest block and
its slot, since advancing through empty slots is deterministic, and roots are only compared, so
the root is kept as that pair. -/
structure StateRoot where
  latestBlockRoot : Root
  slot : Nat
  deriving DecidableEq, Repr

namespace BeaconState

variable {spec : EthSpec} (tree : BlockTree spec)

/-- The state's root. -/
def root (state : BeaconState) : StateRoot := ⟨state.latestBlockRoot, state.slot⟩

/-- `BeaconState::get_state_root`: the `state_roots` entry of `slot`, the root of the state the
chain passed through at that slot, kept for the `SLOTS_PER_HISTORICAL_ROOT` slots before the
state's own. -/
def getStateRoot (state : BeaconState) (slot : Nat) : Option StateRoot :=
  if slot < state.slot ∧ state.slot ≤ slot + spec.slotsPerHistoricalRoot then
    some ⟨tree.rootAt state.latestBlockRoot slot, slot⟩
  else none

end BeaconState

/-- How the skip forward of `state_at_slot` ends: every `per_slot_processing` call succeeds
within one slot's duration, the duration runs out first, or a call fails first. -/
inductive SkipOutcome where
  | completed
  | outOfTime
  | processingFailed
  deriving DecidableEq, Repr

/-- What the state-root queries read beyond the block-root queries: the store's historic state
limits, strictly between which the freezer holds no state. -/
structure StateView (spec : EthSpec) extends ChainView spec where
  historicStateLimits : Nat × Nat

namespace StateView

variable {spec : EthSpec} (chain : StateView spec)

/-- `genesis_state_root`: the root of the genesis block's state. -/
def genesisStateRoot : StateRoot := ⟨chain.genesisBlockRoot, 0⟩

/-- Modelled from the spec: the store's forwards state-roots iterator ("forward/backward
root-iteration primitives"): `(root, slot)` from `start_slot` to the head state's slot, one slot
at a time, each the root of the state the head's chain passed through at that slot. -/
def forwardsStateRootsIterator (startSlot : Nat) : List (StateRoot × Nat) :=
  (List.range (chain.tree.slot chain.head + 1 - startSlot)).map fun i =>
    (⟨chain.tree.rootAt chain.head (startSlot + i), startSlot + i⟩, startSlot + i)

/-- `BeaconChain::forwards_iter_state_roots_until`. -/
def forwardsIterStateRootsUntil (startSlot endSlot : Nat) : List (StateRoot × Nat) :=
  (chain.forwardsStateRootsIterator startSlot).takeWhile fun entry => entry.2 ≤ endSlot

/-- The `with_head` closure of `state_root_at_slot`: the head state's root when every slot
from the head block to the request is skipped, else the head state's `state_roots` entry. -/
def stateRootFastLookup (requestSlot : Nat) : Option StateRoot :=
  if chain.tree.slot chain.head ≤ requestSlot then some chain.headState.root
  else chain.headState.getStateRoot chain.tree requestSlot

/-- `BeaconChain::state_root_at_slot`. -/
def stateRootAtSlot (requestSlot : Nat) : Except Error (Option StateRoot) :=
  match chain.slot with
  | .error e => .error e
  | .ok currentSlot =>
    if requestSlot > currentSlot then .ok none
    else if requestSlot = 0 then .ok (some chain.genesisStateRoot)
    else if chain.historicStateLimits.1 < requestSlot ∧ requestSlot < chain.historicStateLimits.2 then .ok none
    else
      match chain.stateRootFastLookup requestSlot with
      | some root => .ok (some root)
      | none =>
        match chain.forwardsIterStateRootsUntil requestSlot requestSlot with
        | (root, slot) :: _ =>
          if slot = requestSlot then .ok (some root)
          else .error (.inconsistentForwardsIter requestSlot slot)
        | [] => .ok none

/-- `BeaconChain::state_at_slot`, by the root of the state it returns. `skip` is how the skip
forward from the head state ends; `stored` is whether the store holds the state under the root
the iterator found. -/
def stateAtSlot (slot : Nat) (skip : SkipOutcome) (stored : Bool) : Except Error StateRoot :=
  let headState := chain.headState
  match compare slot headState.slot with
  | .eq => .ok headState.root
  | .gt =>
    match skip with
    | .completed => .ok ⟨headState.latestBlockRoot, slot⟩
    | .outOfTime => .error (.stateSkipTooLarge headState.slot slot)
    | .processingFailed => .error (.noStateForSlot slot)
  | .lt =>
    match ((chain.forwardsIterStateRootsUntil slot slot).takeWhile fun entry => entry.2 ≥ slot).find?
        fun entry => entry.2 = slot with
    | some (stateRoot, _) => if stored then .ok stateRoot else .error (.noStateForSlot slot)
    | none => .error (.noStateForSlot slot)

end StateView

end BeaconChain
