import BeaconChain.StateRoots

/-! `produce_unaggregated_attestation`: an early attester cache hit is returned as it is;
otherwise the head is read under its lock, fork choice is asked whether the block is fully
verified, and the attester cache or a state from disk supplies what the head could not. -/

namespace BeaconChain

/-- `AttestationData`. -/
structure AttestationData where
  slot : Nat
  index : Nat
  beaconBlockRoot : Root
  source : Checkpoint
  target : Checkpoint
  deriving DecidableEq, Repr

/-- `Attestation`; its aggregation bits are kept by their length, the signature is empty. -/
structure Attestation where
  aggregationBits : Nat
  data : AttestationData
  deriving DecidableEq, Repr

/-- What the collaborators of `produce_unaggregated_attestation` answer in one run:
`try_attest` of the early attester cache (its errors are only logged), whether the head lock is
taken in time, the head state's `current_justified_checkpoint` and `get_beacon_committee` for
the request, `AttesterCacheKey::new`, fork choice's execution status of the block (`none` when
fork choice lacks it, else whether it is valid or irrelevant), the attester cache's lookup and
`load_and_cache_state`. -/
structure AttestationOutcomes where
  earlyAttestation : Option Attestation
  headLock : Bool
  currentJustifiedCheckpoint : Checkpoint
  beaconCommittee : Except Error Nat
  attesterCacheKey : Except Error Unit
  executionStatus : Option Bool
  attesterCache : Except Error (Option (Checkpoint × Nat))
  loadAndCacheState : Except Error (Checkpoint × Nat)
  deriving DecidableEq, Repr

/-- What the run copies out of the head under its lock. -/
structure HeadScrape where
  beaconBlockRoot : Root
  beaconStateRoot : StateRoot
  target : Checkpoint
  currentEpochAttestingInfo : Option (Checkpoint × Nat)
  deriving DecidableEq, Repr

/-- Phase 2: the justified checkpoint and committee length from the head, else from the
attester cache, else from a state loaded from disk. -/
def AttestationOutcomes.attestingInfo (outcomes : AttestationOutcomes) (scrape : HeadScrape) : Except Error (Checkpoint × Nat) :=
  match scrape.currentEpochAttestingInfo with
  | some info => .ok info
  | none =>
    match outcomes.attesterCache with
    | .error e => .error e
    | .ok (some cached) => .ok cached
    | .ok none => outcomes.loadAndCacheState

namespace ChainView

variable {spec : EthSpec} (chain : ChainView spec) (outcomes : AttestationOutcomes)

/-- The head state's roots at the request: the head's own at or after the head state's slot,
else its `block_roots` and `state_roots` entries. -/
def attestedRoots (requestSlot : Nat) : Except Error (Root × StateRoot) :=
  let headState := chain.headState
  if requestSlot ≥ headState.slot then .ok (chain.head, headState.root)
  else
    match headState.getBlockRoot chain.tree requestSlot, headState.getStateRoot chain.tree requestSlot with
    | some beaconBlockRoot, some beaconStateRoot => .ok (beaconBlockRoot, beaconStateRoot)
    | _, _ => .error (.beaconStateError .slotOutOfBounds)

/-- The target root: the attested block when the head state is not past the target slot, else
the head state's `block_roots` entry at the target slot. -/
def targetRoot (beaconBlockRoot : Root) (targetSlot : Nat) : Except Error Root :=
  let headState := chain.headState
  if headState.slot ≤ targetSlot then .ok beaconBlockRoot
  else
    match headState.getBlockRoot chain.tree targetSlot with
    | some root => .ok root
    | none => .error (.beaconStateError .slotOutOfBounds)

/-- Phase 1 of `produce_unaggregated_attestation`, under the head lock. -/
def headScrape (requestSlot : Nat) : Except Error HeadScrape :=
  let headState := chain.headState
  let requestEpoch := spec.epoch requestSlot
  let finalizedSlot := spec.startSlot headState.finalizedCheckpoint.epoch
  let lowestPermissibleSlot := headState.slot - spec.slotsPerHistoricalRoot
  if requestSlot < finalizedSlot then .error (.attestingToFinalizedSlot finalizedSlot requestSlot)
  else if requestSlot < lowestPermissibleSlot then .error (.attestingToAncientSlot lowestPermissibleSlot requestSlot)
  else
    match chain.attestedRoots requestSlot with
    | .error e => .error e
    | .ok (beaconBlockRoot, beaconStateRoot) =>
      match chain.targetRoot beaconBlockRoot (spec.startSlot requestEpoch) with
      | .error e => .error e
      | .ok targetRoot =>
        let target : Checkpoint := ⟨requestEpoch, targetRoot⟩
        let info : Except Error (Option (Checkpoint × Nat)) :=
          if spec.epoch headState.slot = requestEpoch then
            match outcomes.beaconCommittee with
            | .ok committeeLen => .ok (some (outcomes.currentJustifiedCheckpoint, committeeLen))
            | .error e => .error e
          else .ok none
        match info, outcomes.attesterCacheKey with
        | .error e, _ => .error e
        | .ok _, .error e => .error e
        | .ok currentEpochAttestingInfo, .ok () =>
          .ok ⟨beaconBlockRoot, beaconStateRoot, target, currentEpochAttestingInfo⟩

/-- `BeaconChain::produce_unaggregated_attestation`. -/
def produceUnaggregatedAttestation (requestSlot requestIndex : Nat) : Except Error Attestation :=
  match outcomes.earlyAttestation with
  | some attestation => .ok attestation
  | none =>
    if !outcomes.headLock then .error .canonicalHeadLockTimeout
    else
      match chain.headScrape outcomes requestSlot with
      | .error e => .error e
      | .ok scrape =>
        match outcomes.executionStatus with
        | none => .error (.headMissingFromForkChoice scrape.beaconBlockRoot)
        | some false => .error (.headBlockNotFullyVerified scrape.beaconBlockRoot)
        | some true =>
          match outcomes.attestingInfo scrape with
          | .error e => .error e
          | .ok (justifiedCheckpoint, committeeLen) =>
            .ok ⟨committeeLen, ⟨requestSlot, requestIndex, scrape.beaconBlockRoot, justifiedCheckpoint, scrape.target⟩⟩

end ChainView

end BeaconChain
