import BeaconChain.BlockTree

/-! The block-root queries of `BeaconChain`: `block_root_at_slot` with its head-state fast
path and its forwards-iterator slow path, `root_at_slot_from_state`, and the lock-step walk
of `find_reorg_slot` down two chains together with the re-org test of `fork_choice_internal`.
Head reads go through `with_head`; its lock timeout is not modelled in these queries. -/

namespace BeaconChain

/-- `WhenSlotSkipped`. -/
inductive WhenSlotSkipped where
  | none
  | prev
  deriving DecidableEq, Repr

/-- What the block-root queries read of `BeaconChain`: the block of the canonical head (whose
state is the block's post-state), the slot clock, `genesis_block_root` and the store's oldest
block slot. The genesis slot is `0`, as in every `ChainSpec` Lighthouse ships. -/
structure ChainView (spec : EthSpec) where
  tree : BlockTree spec
  head : Root
  genesisBlockRoot : Root
  clock : Option Nat
  oldestBlockSlot : Nat

namespace ChainView

variable {spec : EthSpec} (chain : ChainView spec)

/-- `BeaconChain::slot`. -/
def slot : Except Error Nat :=
  match chain.clock with
  | some slot => .ok slot
  | none => .error .unableToReadSlot

/-- The state of the canonical head snapshot. -/
def headState : BeaconState := BeaconState.ofBlock chain.tree chain.head

@[simp] theorem headState_slot : chain.headState.slot = chain.tree.slot chain.head := rfl

@[simp] theorem headState_latestBlockRoot : chain.headState.latestBlockRoot = chain.head := rfl

/-- Modelled from the spec: the store's forwards block-roots iterator ("forward/backward
root-iteration primitives"), as the doc of `forwards_iter_block_roots` describes it:
`(root, slot)` from `start_slot` to the head, one slot at a time, a skipped slot holding the
root of the closest prior block. -/
def forwardsBlockRootsIterator (startSlot : Nat) : List (Root × Nat) :=
  (List.range (chain.tree.slot chain.head + 1 - startSlot)).map fun i =>
    (chain.tree.rootAt chain.head (startSlot + i), startSlot + i)

/-- `BeaconChain::forwards_iter_block_roots_until`. -/
def forwardsIterBlockRootsUntil (startSlot endSlot : Nat) : Except Error (List (Root × Nat)) :=
  if startSlot < chain.oldestBlockSlot then
    .error (.historicalBlockError (.blockOutOfRange startSlot chain.oldestBlockSlot))
  else .ok ((chain.forwardsBlockRootsIterator startSlot).takeWhile fun entry => entry.2 ≤ endSlot)

/-- The `with_head` closure of `block_root_at_slot_skips_none`: `some answer` when the head
state settles the request, `none` when the slow path has to. -/
def skipsNoneFastLookup (requestSlot prevSlot : Nat) : Option (Option Root) :=
  let state := chain.headState
  let compareWithPrev := fun (requestRootOpt : Option Root) =>
    match requestRootOpt, state.getBlockRoot chain.tree prevSlot with
    | some requestRoot, some prevRoot => some (if prevRoot ≠ requestRoot then some requestRoot else none)
    | _, _ => none
  match compare state.slot requestSlot with
  | .lt => some none
  | .eq => compareWithPrev (some chain.head)
  | .gt => compareWithPrev (state.getBlockRoot chain.tree requestSlot)

/-- `BeaconChain::block_root_at_slot_skips_none`. -/
def blockRootAtSlotSkipsNone (requestSlot : Nat) : Except Error (Option Root) :=
  match chain.slot with
  | .error e => .error e
  | .ok currentSlot =>
    if requestSlot > currentSlot then .ok none
    else if requestSlot = 0 then .ok (some chain.genesisBlockRoot)
    else
      let prevSlot := requestSlot - 1
      match chain.skipsNoneFastLookup requestSlot prevSlot with
      | some rootOpt => .ok rootOpt
      | none =>
        match chain.forwardsIterBlockRootsUntil prevSlot requestSlot with
        | .error e => .error e
        | .ok ((prevRoot, _) :: (currRoot, currSlot) :: _) =>
          if currSlot ≠ requestSlot then .error (.inconsistentForwardsIter requestSlot currSlot)
          else .ok (if currRoot ≠ prevRoot then some currRoot else none)
        | .ok _ => .ok none

/-- The `with_head` closure of `block_root_at_slot_skips_prev`. -/
def skipsPrevFastLookup (requestSlot : Nat) : Option Root :=
  if chain.tree.slot chain.head ≤ requestSlot then some chain.head
  else chain.headState.getBlockRoot chain.tree requestSlot

/-- `BeaconChain::block_root_at_slot_skips_prev`. -/
def blockRootAtSlotSkipsPrev (requestSlot : Nat) : Except Error (Option Root) :=
  match chain.slot with
  | .error e => .error e
  | .ok currentSlot =>
    if requestSlot > currentSlot then .ok none
    else if requestSlot = 0 then .ok (some chain.genesisBlockRoot)
    else
      match chain.skipsPrevFastLookup requestSlot with
      | some root => .ok (some root)
      | none =>
        match chain.forwardsIterBlockRootsUntil requestSlot requestSlot with
        | .error e => .error e
        | .ok ((root, slot) :: _) =>
          if slot = requestSlot then .ok (some root)
          else .error (.inconsistentForwardsIter requestSlot slot)
        | .ok [] => .ok none

/-- `BeaconChain::block_root_at_slot`: a request before the oldest stored block answers `None`. -/
def blockRootAtSlot (requestSlot : Nat) (skips : WhenSlotSkipped) : Except Error (Option Root) :=
  let result := match skips with
    | .none => chain.blockRootAtSlotSkipsNone requestSlot
    | .prev => chain.blockRootAtSlotSkipsPrev requestSlot
  match result with
  | .error (.historicalBlockError _) => .ok none
  | result => result

end ChainView

variable {spec : EthSpec} (tree : BlockTree spec)

/-- Modelled from the spec: the store's `BlockRootsIterator` ("forward/backward
root-iteration primitives"): `(root, slot)` for every slot before the state's own, newest
first, down to the genesis slot, loading older states once the state's window runs out. -/
def blockRootsIterator (state : BeaconState) : List (Root × Nat) :=
  (List.range state.slot).map fun i =>
    (tree.rootAt state.latestBlockRoot (state.slot - (i + 1)), state.slot - (i + 1))

/-- `BeaconChain::root_at_slot_from_state`. -/
def rootAtSlotFromState (targetSlot : Nat) (beaconBlockRoot : Root) (state : BeaconState) :
    Option Root :=
  (((beaconBlockRoot, state.slot) :: blockRootsIterator tree state).find? fun entry =>
    entry.2 = targetSlot).map Prod.fst

/-- The `aligned_roots_iter!` of `find_reorg_slot`: the state's own `(slot, root)` and then its
`block_roots` newest first, skipped until the entry of `lowestSlot`. -/
def alignedRootsIter (state : BeaconState) (blockRoot : Root) (lowestSlot : Nat) :
    List (Nat × Root) :=
  ((state.slot, blockRoot) :: state.revIterBlockRoots tree).dropWhile fun entry =>
    entry.1 > lowestSlot

/-- The `while let` loop of `find_reorg_slot`: step both iterators together until one runs
out or their roots agree, checking that their slots stay aligned. -/
def findCommonSlot : List (Nat × Root) → List (Nat × Root) → Except Error (Option Nat)
  | (oldSlot, oldRoot) :: oldRoots, (newSlot, newRoot) :: newRoots =>
    if oldSlot ≠ newSlot then .error (.invalidReorgSlotIter newSlot oldSlot)
    else if oldRoot = newRoot then .ok (some oldSlot)
    else findCommonSlot oldRoots newRoots
  | _, _ => .ok none

/-- `BeaconChain::find_reorg_slot`, the canonical head `head` being read under its lock. -/
def findReorgSlot (head : Root) (newState : BeaconState) (newBlockRoot : Root) : Except Error Nat :=
  let oldState := BeaconState.ofBlock tree head
  let lowestSlot := min newState.slot oldState.slot
  let newRoots := alignedRootsIter tree newState newBlockRoot lowestSlot
  let oldRoots := alignedRootsIter tree oldState head lowestSlot
  match findCommonSlot oldRoots newRoots with
  | .error e => .error e
  | .ok (some slot) => .ok slot
  | .ok none => .ok (spec.startSlot oldState.finalizedCheckpoint.epoch)

/-- The `is_reorg` test of `fork_choice_internal`: the new head's state does not hold the old
head's root at the old head's slot. -/
def isReorg (newState : BeaconState) (currentHeadSlot : Nat) (currentHeadRoot : Root) : Bool :=
  match newState.getBlockRoot tree currentHeadSlot with
  | some root => root ≠ currentHeadRoot
  | none => true

/-- The `reorg_distance` of `fork_choice_internal`, left at `0` when `find_reorg_slot` fails. -/
def reorgDistance (head : Root) (currentHeadSlot : Nat) (newState : BeaconState) (newBlockRoot : Root) :
    Nat :=
  match findReorgSlot tree head newState newBlockRoot with
  | .ok slot => currentHeadSlot - slot
  | .error _ => 0

end BeaconChain
