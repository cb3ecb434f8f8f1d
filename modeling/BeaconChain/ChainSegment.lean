import BeaconChain.Types

/-! `process_chain_segment`: the first loop checks each block's fork and its link to the next
block and filters the segment by relevancy; the second splits what is left into per-epoch
batches, verifies each batch's signatures and imports its blocks one by one. The
collaborators it calls are parameters, acting on a chain state that `process_block` changes. -/

namespace BeaconChain

/-- The parts of `SignedBeaconBlock` that `process_chain_segment` reads. `blockRoot` is
`get_block_root`, the tree-hash root of the message. -/
structure SignedBeaconBlock where
  blockRoot : Root
  parentRoot : Root
  slot : Nat
  deriving DecidableEq, Repr

/-- `ChainSegmentResult`. -/
inductive ChainSegmentResult where
  | successful (importedBlocks : Nat)
  | failed (importedBlocks : Nat) (error : BlockError)
  deriving DecidableEq, Repr

/-- The `imported_blocks` a result reports. -/
def ChainSegmentResult.importedBlocks : ChainSegmentResult → Nat
  | .successful importedBlocks => importedBlocks
  | .failed importedBlocks _ => importedBlocks

/-- The collaborators of `process_chain_segment`, over the chain state `σ` that imports change:
`block.fork_name(&spec)` succeeding, `check_block_relevancy`, `signature_verify_chain_segment`
(on success it hands back the batch it was given) and `process_block`. -/
structure SegmentCollaborators (σ : Type) where
  forkNameOk : SignedBeaconBlock → Bool
  checkBlockRelevancy : σ → SignedBeaconBlock → Except BlockError Root
  signatureVerifyChainSegment : σ → List (Root × SignedBeaconBlock) → Except BlockError Unit
  processBlock : σ → Root × SignedBeaconBlock → Except BlockError Root × σ

/-- What a run of `process_chain_segment` did, in order: each signature check of a batch and
each `process_block` call, with whether it succeeded. -/
inductive SegmentEvent where
  | signatureVerified (batch : List (Root × SignedBeaconBlock)) (ok : Bool)
  | processed (block : Root × SignedBeaconBlock) (ok : Bool)
  deriving DecidableEq, Repr

/-- A run's result, the chain state it leaves and its events. -/
structure SegmentRun (σ : Type) where
  result : ChainSegmentResult
  state : σ
  events : List SegmentEvent

/-- The check against `children[i]`, the parent root and slot of the block after `block`. -/
def childLinkError (block : SignedBeaconBlock) : Option (Root × Nat) → Option BlockError
  | some (childParentRoot, childSlot) =>
    if block.blockRoot ≠ childParentRoot then some .nonLinearParentRoots
    else if childSlot ≤ block.slot then some .nonLinearSlots
    else none
  | none => none

variable {σ : Type} (collab : SegmentCollaborators σ)

/-- The first loop of `process_chain_segment`: `error` is an early `Failed` return, `ok` the
filtered chain segment. A block of unknown relevancy ends the loop (`break`). -/
def filterChainSegment (state : σ) : List SignedBeaconBlock → Except BlockError (List (Root × SignedBeaconBlock))
  | [] => .ok []
  | block :: rest =>
    if collab.forkNameOk block = false then .error .inconsistentFork
    else match childLinkError block (rest.head?.map fun child => (child.parentRoot, child.slot)) with
      | some error => .error error
      | none =>
        match collab.checkBlockRelevancy state block with
        | .ok _ => (List.cons (block.blockRoot, block)) <$> filterChainSegment state rest
        | .error .blockIsAlreadyKnown => filterChainSegment state rest
        | .error .genesisBlock => filterChainSegment state rest
        | .error (.wouldRevertFinalizedSlot _ _) => filterChainSegment state rest
        | .error (.notFinalizedDescendant blockParentRoot) => .error (.notFinalizedDescendant blockParentRoot)
        | .error (.beaconChainError e) => .error (.beaconChainError e)
        | .error _ => .ok []

/-- The `for` loop over a signature-verified batch: `process_block` each block, counting
imports, until the first error. -/
def importBatch : σ → Nat → List (Root × SignedBeaconBlock) → Option BlockError × Nat × σ × List SegmentEvent
  | state, importedBlocks, [] => (none, importedBlocks, state, [])
  | state, importedBlocks, block :: rest =>
    match collab.processBlock state block with
    | (.ok _, state) =>
      let (error, importedBlocks, state, events) := importBatch state (importedBlocks + 1) rest
      (error, importedBlocks, state, .processed block true :: events)
    | (.error error, state) => (some error, importedBlocks, state, [.processed block false])

theorem findIdx_epoch_pos (spec : EthSpec) (block : Root × SignedBeaconBlock)
    (rest : List (Root × SignedBeaconBlock)) :
    0 < (block :: rest).findIdx fun entry => spec.epoch entry.2.slot > spec.epoch block.2.slot := by
  simp [List.findIdx_cons]

/-- The `while let` loop of `process_chain_segment`: split off the blocks in the epoch of the
first remaining block, verify their signatures together and import them. -/
def importChainSegment (spec : EthSpec) (state : σ) (importedBlocks : Nat)
    (filteredChainSegment : List (Root × SignedBeaconBlock)) : SegmentRun σ :=
  match filteredChainSegment with
  | [] => ⟨.successful importedBlocks, state, []⟩
  | first :: rest =>
    let startEpoch := spec.epoch first.2.slot
    let lastIndex := (first :: rest).findIdx fun entry => spec.epoch entry.2.slot > startEpoch
    let blocks := (first :: rest).take lastIndex
    match collab.signatureVerifyChainSegment state blocks with
    | .error error => ⟨.failed importedBlocks error, state, [.signatureVerified blocks false]⟩
    | .ok () =>
      match importBatch collab state importedBlocks blocks with
      | (some error, importedBlocks, state, events) =>
        ⟨.failed importedBlocks error, state, .signatureVerified blocks true :: events⟩
      | (none, importedBlocks, state, events) =>
        let run := importChainSegment spec state importedBlocks ((first :: rest).drop lastIndex)
        { run with events := .signatureVerified blocks true :: events ++ run.events }
termination_by filteredChainSegment.length
decreasing_by
  have := findIdx_epoch_pos spec first rest
  simp only [List.length_drop, List.length_cons]
  omega

/-- `BeaconChain::process_chain_segment`. -/
def processChainSegment (spec : EthSpec) (state : σ) (chainSegment : List SignedBeaconBlock) : SegmentRun σ :=
  let importedBlocks := 0
  match filterChainSegment collab state chainSegment with
  | .error error => ⟨.failed importedBlocks error, state, []⟩
  | .ok filteredChainSegment => importChainSegment collab spec state importedBlocks filteredChainSegment

end BeaconChain
