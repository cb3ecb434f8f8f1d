import BeaconChain.ImportBlock

/-! `fork_choice_internal`, run as one piece: read the head from fork choice, load its snapshot,
refuse a lower finalized epoch, write `canonical_head`, persist and run `after_finalization`. The
collaborators' answers for one run are a parameter. -/

namespace BeaconChain

/-- What the collaborators of `fork_choice_internal` answer in one run: the scoring's choice of
head, `get_finalized_block` (whether the finalized block's payload is invalid), whether a
shutdown request can be sent, the fallible reads of `head_info` and of the new head's snapshot,
whether the head lock is taken within `HEAD_LOCK_TIMEOUT` for the write and for the re-read,
`persist_head_and_fork_choice`, the slot clock, the search for the finalized state root, and
the fallible steps of `after_finalization`. -/
structure HeadOutcomes where
  head : Except Error Root
  finalizedBlock : Except Error Bool
  shutdownSent : Bool
  headInfo : Except Error Unit
  loadSnapshot : Except Error Unit
  headWriteLock : Bool
  persist : Except Error Unit
  clock : Option Nat
  headReadLock : Bool
  finalizedStateRoot : Except Error Unit
  prune : Except Error Unit
  processFinalization : Except Error Unit
  deriving DecidableEq, Repr

/-- What a run of head selection did to the chain's head, the store and the caches, in order. -/
inductive HeadStep where
  | writeCanonicalHead (root : Root)
  | persistHeadAndForkChoice
  | pruneAttestations
  | pruneForkChoice
  | pruneObservedBlockProducers (slot : Nat)
  | pruneOpPool
  | processFinalization (checkpoint : Checkpoint)
  | pruneAttesterCache (epoch : Nat)
  deriving DecidableEq, Repr

/-- A run's result, the chain it leaves and its steps. -/
structure HeadRun where
  result : Except Error Unit
  chain : Chain
  trace : List HeadStep
  deriving DecidableEq, Repr

namespace HeadOutcomes

/-- `BeaconChain::slot`. -/
def slot (outcomes : HeadOutcomes) : Except Error Nat :=
  match outcomes.clock with
  | some slot => .ok slot
  | none => .error .unableToReadSlot

end HeadOutcomes

variable {spec : EthSpec} (tree : BlockTree spec)

/-- `BeaconChain::after_finalization` for the head state of `headRoot`: prune fork choice, the
observed block producers, the op pool, migrate the store and prune the attester cache, stopping
at the first error. -/
def afterFinalization (outcomes : HeadOutcomes) (chain : Chain) (headRoot : Root) : HeadRun :=
  let newFinalizedCheckpoint := tree.finalizedCheckpoint headRoot
  match outcomes.prune with
  | .error error => ⟨.error error, chain, []⟩
  | .ok () =>
    let chain := { chain with forkChoice := chain.forkChoice.prune tree }
    let pruned := [HeadStep.pruneForkChoice, .pruneObservedBlockProducers (spec.startSlot newFinalizedCheckpoint.epoch)]
    match outcomes.slot with
    | .error error => ⟨.error error, chain, pruned⟩
    | .ok _ =>
      match outcomes.processFinalization with
      | .error error => ⟨.error error, chain, pruned ++ [.pruneOpPool]⟩
      | .ok () =>
        ⟨.ok (), chain, pruned ++ [.pruneOpPool, .processFinalization newFinalizedCheckpoint,
          .pruneAttesterCache newFinalizedCheckpoint.epoch]⟩

/-- `persist_head_and_fork_choice` and the attestation prune that follows it, on an epoch
transition or a re-org. -/
def persistAfterHeadChange (outcomes : HeadOutcomes) (chain : Chain) : HeadRun :=
  match outcomes.persist with
  | .error error => ⟨.error error, chain, []⟩
  | .ok () =>
    let chain := { chain with persistedForkChoice := some chain.forkChoice }
    match outcomes.slot with
    | .error error => ⟨.error error, chain, [.persistHeadAndForkChoice]⟩
    | .ok _ => ⟨.ok (), chain, [.persistHeadAndForkChoice, .pruneAttestations]⟩

/-- The finalization branch of `fork_choice_internal`: re-read the head, find the finalized
state root and run `after_finalization`. -/
def finalizeAfterHeadChange (outcomes : HeadOutcomes) (chain : Chain) : HeadRun :=
  if !outcomes.headReadLock then ⟨.error .canonicalHeadLockTimeout, chain, []⟩
  else
    match outcomes.finalizedStateRoot with
    | .error error => ⟨.error error, chain, []⟩
    | .ok () => afterFinalization tree outcomes chain chain.canonicalHead

/-- A step that changes nothing. -/
def HeadRun.skip (chain : Chain) : HeadRun := ⟨.ok (), chain, []⟩

/-- Run two steps one after the other, stopping at an error of the first. -/
def HeadRun.andThen (first : HeadRun) (second : Chain → HeadRun) : HeadRun :=
  match first.result with
  | .error error => ⟨.error error, first.chain, first.trace⟩
  | .ok () =>
    let run := second first.chain
    ⟨run.result, run.chain, first.trace ++ run.trace⟩

/-- The persisting step, taken on an epoch transition or a re-org. -/
def persistIfNeeded (outcomes : HeadOutcomes) (needed : Bool) (chain : Chain) : HeadRun :=
  if needed then persistAfterHeadChange outcomes chain else HeadRun.skip chain

/-- The finalization branch, taken when the finalized epoch changed. -/
def finalizeIfChanged (outcomes : HeadOutcomes) (changed : Bool) (chain : Chain) : HeadRun :=
  if changed then finalizeAfterHeadChange tree outcomes chain else HeadRun.skip chain

/-- The `self.slot()?` read for the execution layer update, whose own errors are only logged. -/
def readSlotForUpdate (outcomes : HeadOutcomes) (chain : Chain) : HeadRun :=
  match outcomes.slot with
  | .error error => ⟨.error error, chain, []⟩
  | .ok _ => HeadRun.skip chain

/-- `fork_choice_internal` after the `canonical_head` write of `beaconBlockRoot` over
`currentHead`. -/
def afterHeadWrite (outcomes : HeadOutcomes) (chain : Chain) (currentHead beaconBlockRoot : Root) : HeadRun :=
  let newState := BeaconState.ofBlock tree beaconBlockRoot
  let isReorg := isReorg tree newState (tree.slot currentHead) currentHead
  let isEpochTransition := spec.epoch (tree.slot currentHead) < spec.epoch newState.slot
  let finalizedChanged := newState.finalizedCheckpoint.epoch ≠ (tree.finalizedCheckpoint currentHead).epoch
  ((persistIfNeeded outcomes (isEpochTransition || isReorg) chain).andThen
      (finalizeIfChanged tree outcomes finalizedChanged)).andThen (readSlotForUpdate outcomes)

/-- `BeaconChain::fork_choice_internal`. -/
def forkChoiceInternal (outcomes : HeadOutcomes) (chain : Chain) : HeadRun :=
  match chain.forkChoice.getHead tree outcomes.head, outcomes.finalizedBlock with
  | .error error, _ => ⟨.error error, chain, []⟩
  | .ok _, .error error => ⟨.error error, chain, []⟩
  | .ok beaconBlockRoot, .ok finalizedPayloadInvalid =>
    match outcomes.headInfo with
    | .error error => ⟨.error error, chain, []⟩
    | .ok () =>
      let currentHead := chain.canonicalHead
      let oldFinalizedCheckpoint := tree.finalizedCheckpoint currentHead
      if beaconBlockRoot = currentHead then ⟨.ok (), chain, []⟩
      else if finalizedPayloadInvalid then
        if outcomes.shutdownSent then
          ⟨.error (.invalidFinalizedPayload chain.forkChoice.finalizedCheckpoint.root), { chain with shutdownRequested := true }, []⟩
        else ⟨.error .invalidFinalizedPayloadShutdownError, chain, []⟩
      else
        match outcomes.loadSnapshot with
        | .error error => ⟨.error error, chain, []⟩
        | .ok () =>
          let newFinalizedCheckpoint := tree.finalizedCheckpoint beaconBlockRoot
          if newFinalizedCheckpoint.epoch < oldFinalizedCheckpoint.epoch then
            ⟨.error (.revertedFinalizedEpoch oldFinalizedCheckpoint.epoch newFinalizedCheckpoint.epoch), chain, []⟩
          else
            let chain := { chain with earlyAttesterCache := none }
            if !outcomes.headWriteLock then ⟨.error .canonicalHeadLockTimeout, chain, []⟩
            else
              let written : HeadRun := ⟨.ok (), { chain with canonicalHead := beaconBlockRoot },
                [.writeCanonicalHead beaconBlockRoot]⟩
              written.andThen fun chain => afterHeadWrite tree outcomes chain currentHead beaconBlockRoot

end BeaconChain
