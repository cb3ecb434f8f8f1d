import BeaconChain.ForkChoice

/-! `import_block` on a fully verified block: the steps before the fork-choice write lock, the
finalized-descendant and weak subjectivity checks under it, `on_block`, the fallible steps
between `on_block` and the database write, the write itself with its fork-choice reload, and
the release of the lock. The collaborators' answers for one run are a parameter. -/

namespace BeaconChain

/-- What the collaborators of `import_block` answer in one run. `beforeLock` is the first
failure, if any, of the steps before the fork-choice lock (reading the slot, observing the
block's attestations, the slasher, the pubkey cache, the shuffling cache, the attester cache);
`onBlock` that of the steps of `on_block` the model leaves out (the clock update and the
future-slot check before its modelled checks, the checkpoint updates and the proto-array
insertion after them); `blockAttestations` the first failure of the loop that registers the
block's attestations with fork choice (`InvalidAttestation` is ignored there);
`earlyAttesterHead` the result of `get_head` when the block is recent and not optimistic;
`addHeadBlock` whether the early attester cache's `add_head_block` succeeds; `syncCommittee`
that of `sync_committee_at_epoch` when the block has a sync aggregate; `loadForkChoice` whether
reading and decoding the persisted fork choice fails. -/
structure ImportOutcomes where
  beforeLock : Except BlockError Unit
  shutdownSent : Bool
  blockDelay : Option Nat
  onBlock : Except Error Unit
  blockAttestations : Except BlockError Unit
  earlyAttesterHead : Option (Except Error Root)
  addHeadBlock : Bool
  syncCommittee : Except Error Unit
  epoch : Except Error Nat
  doAtomically : Except Error Unit
  loadForkChoice : Except Error Unit
  deriving DecidableEq, Repr

/-- What a run of `import_block` did with the fork-choice lock, fork choice and the store, in
order. `storeWrite` is a successful `do_atomically` of the block and its post-state. -/
inductive ImportStep where
  | lockForkChoice
  | onBlock
  | storeWrite
  | restoreForkChoice
  | unlockForkChoice
  deriving DecidableEq, Repr

/-- A run's result, the chain it leaves and its steps. -/
structure ImportRun where
  result : Except BlockError Root
  chain : Chain
  trace : List ImportStep
  deriving DecidableEq, Repr

variable {spec : EthSpec} (tree : BlockTree spec)

/-- `BeaconChain::verify_weak_subjectivity_checkpoint`. -/
def verifyWeakSubjectivityCheckpoint (wssCheckpoint : Checkpoint) (beaconBlockRoot : Root) (state : BeaconState) :
    Except Error Unit :=
  let finalizedCheckpoint := state.finalizedCheckpoint
  if wssCheckpoint.epoch = finalizedCheckpoint.epoch ∧ wssCheckpoint.root ≠ finalizedCheckpoint.root then
    .error .weakSubjectivtyVerificationFailure
  else if wssCheckpoint.epoch < finalizedCheckpoint.epoch then
    match rootAtSlotFromState tree (spec.startSlot wssCheckpoint.epoch) beaconBlockRoot state with
    | some root => if root ≠ wssCheckpoint.root then .error .weakSubjectivtyVerificationFailure else .ok ()
    | none => .error .weakSubjectivtyVerificationFailure
  else .ok ()

/-- The weak subjectivity check of `import_block`, made only by the import that takes fork
choice's finalized epoch from below the configured checkpoint's epoch to at least it. -/
def weakSubjectivityCheck (weakSubjectivityCheckpoint : Option Checkpoint) (oldFinalizedCheckpoint : Checkpoint)
    (blockRoot : Root) (state : BeaconState) : Except Error Unit :=
  match weakSubjectivityCheckpoint with
  | some wssCheckpoint =>
    if oldFinalizedCheckpoint.epoch < wssCheckpoint.epoch ∧ wssCheckpoint.epoch ≤ state.finalizedCheckpoint.epoch then
      verifyWeakSubjectivityCheckpoint tree wssCheckpoint blockRoot state
    else .ok ()
  | none => .ok ()

/-- The atomic database write of the block and its post-state, still under the fork-choice
lock. When it fails, fork choice is reloaded from the store if a persisted copy is found, and
the write's error is returned; a failing reload returns its own error. -/
def writeBlock (outcomes : ImportOutcomes) (chain : Chain) (blockRoot : Root) : ImportRun :=
  let unlock := [ImportStep.lockForkChoice, .onBlock, .unlockForkChoice]
  match outcomes.doAtomically with
  | .ok () =>
    ⟨.ok blockRoot, { chain with stored := blockRoot :: chain.stored },
      [.lockForkChoice, .onBlock, .storeWrite, .unlockForkChoice]⟩
  | .error error =>
    match outcomes.loadForkChoice with
    | .error loadError => ⟨.error (.beaconChainError loadError), chain, unlock⟩
    | .ok () =>
      match chain.persistedForkChoice with
      | some persisted =>
        ⟨.error (.beaconChainError error), { chain with forkChoice := persisted },
          [.lockForkChoice, .onBlock, .restoreForkChoice, .unlockForkChoice]⟩
      | none => ⟨.error (.beaconChainError error), chain, unlock⟩

/-- The early attester cache after `get_head` for a recent block that is not optimistic: when
the block became the head, `add_head_block` fills the cache with it and fork choice's entry for
it; a block missing from fork choice or a failed insert is only logged. -/
def cacheEarlyAttesterHead (earlyAttesterHead : Option (Except Error Root)) (addHeadBlock : Bool) (chain : Chain)
    (blockRoot : Root) : Chain :=
  if earlyAttesterHead = some (.ok blockRoot) then
    if chain.forkChoice.containsBlock blockRoot then
      if addHeadBlock then { chain with earlyAttesterCache := some blockRoot } else chain
    else chain
  else chain

@[simp] theorem cacheEarlyAttesterHead_eq (earlyAttesterHead : Option (Except Error Root)) (addHeadBlock : Bool)
    (chain : Chain) (blockRoot : Root) : cacheEarlyAttesterHead earlyAttesterHead addHeadBlock chain blockRoot =
      { chain with
        earlyAttesterCache :=
          if earlyAttesterHead = some (.ok blockRoot) ∧ chain.forkChoice.containsBlock blockRoot = true ∧ addHeadBlock = true
          then some blockRoot else chain.earlyAttesterCache } := by
  unfold cacheEarlyAttesterHead
  split_ifs <;> simp_all

/-- `import_block` from the registration of the block's attestations to the release of the
fork-choice lock; `chain` already holds the block in fork choice. -/
def commitBlock (outcomes : ImportOutcomes) (chain : Chain) (blockRoot : Root) : ImportRun :=
  let unlock := [ImportStep.lockForkChoice, .onBlock, .unlockForkChoice]
  match outcomes.blockAttestations, outcomes.earlyAttesterHead with
  | .error error, _ => ⟨.error error, chain, unlock⟩
  | .ok (), some (.error error) => ⟨.error (.beaconChainError error), chain, unlock⟩
  | .ok (), earlyAttesterHead =>
    let chain := cacheEarlyAttesterHead earlyAttesterHead outcomes.addHeadBlock chain blockRoot
    match outcomes.syncCommittee, outcomes.epoch with
    | .error error, _ => ⟨.error (.beaconChainError error), chain, unlock⟩
    | .ok (), .error error => ⟨.error (.beaconChainError error), chain, unlock⟩
    | .ok (), .ok _ => writeBlock outcomes chain blockRoot

/-- `BeaconChain::import_block` for the block `blockRoot`, whose post-state is its state in the
block tree, under the configured `weak_subjectivity_checkpoint`. -/
def importBlock (weakSubjectivityCheckpoint : Option Checkpoint) (outcomes : ImportOutcomes) (chain : Chain)
    (blockRoot : Root) : ImportRun :=
  let state := BeaconState.ofBlock tree blockRoot
  let unlock := [ImportStep.lockForkChoice, .unlockForkChoice]
  match outcomes.beforeLock with
  | .error error => ⟨.error error, chain, []⟩
  | .ok () =>
    match checkBlockIsFinalizedDescendant tree chain.forkChoice chain.stored blockRoot with
    | .error error => ⟨.error error, chain, unlock⟩
    | .ok () =>
      match weakSubjectivityCheck tree weakSubjectivityCheckpoint chain.forkChoice.finalizedCheckpoint blockRoot state with
      | .error _ =>
        if outcomes.shutdownSent then ⟨.error .weakSubjectivityConflict, { chain with shutdownRequested := true }, unlock⟩
        else ⟨.error (.beaconChainError .weakSubjectivtyShutdownError), chain, unlock⟩
      | .ok () =>
        match outcomes.blockDelay, outcomes.onBlock with
        | none, _ => ⟨.error (.beaconChainError .unableToComputeTimeAtSlot), chain, unlock⟩
        | some _, .error error => ⟨.error (.beaconChainError error), chain, unlock⟩
        | some _, .ok () =>
          match chain.forkChoice.onBlock tree blockRoot state with
          | .error error => ⟨.error (.beaconChainError error), chain, unlock⟩
          | .ok forkChoice => commitBlock outcomes { chain with forkChoice := forkChoice } blockRoot

/-- A sequence of `import_block` runs, each with its block and its collaborators' answers. -/
def importBlocks (weakSubjectivityCheckpoint : Option Checkpoint) : Chain → List (Root × ImportOutcomes) → Chain
  | chain, [] => chain
  | chain, (blockRoot, outcomes) :: imports =>
    importBlocks weakSubjectivityCheckpoint (importBlock tree weakSubjectivityCheckpoint outcomes chain blockRoot).chain
      imports

end BeaconChain
