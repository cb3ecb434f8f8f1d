import Mathlib.Data.Nat.Defs

/-! Slots, epochs and roots, the constants of an `EthSpec` that the chain reads, and the
error variants that the modelled functions of `beacon_chain.rs` return. Slots and epochs are
natural numbers: no modelled computation comes near the `u64` bound. -/

namespace BeaconChain

/-- `Hash256`. Roots are only compared, so their width plays no part. -/
abbrev Root := Nat

/-- Results are compared whole, so that a run of the model can be checked by evaluation. -/
instance decidableEqExcept {ε α : Type} [DecidableEq ε] [DecidableEq α] : DecidableEq (Except ε α)
  | .error a, .error b => decidable_of_iff (a = b) ⟨congrArg _, Except.error.inj⟩
  | .ok a, .ok b => decidable_of_iff (a = b) ⟨congrArg _, Except.ok.inj⟩
  | .error _, .ok _ => isFalse nofun
  | .ok _, .error _ => isFalse nofun

/-- The constants of `T::EthSpec` that the chain reads. -/
structure EthSpec where
  slotsPerEpoch : Nat
  slotsPerHistoricalRoot : Nat
  slotsPerEpoch_pos : 0 < slotsPerEpoch
  slotsPerHistoricalRoot_pos : 0 < slotsPerHistoricalRoot

namespace EthSpec

/-- `MinimalEthSpec`. -/
def minimal : EthSpec := ⟨8, 64, by decide, by decide⟩

/-- `MainnetEthSpec`. -/
def mainnet : EthSpec := ⟨32, 8192, by decide, by decide⟩

/-- `Slot::epoch`. -/
def epoch (spec : EthSpec) (slot : Nat) : Nat := slot / spec.slotsPerEpoch

/-- `Epoch::start_slot`. -/
def startSlot (spec : EthSpec) (epoch : Nat) : Nat := epoch * spec.slotsPerEpoch

theorem startSlot_le_iff (spec : EthSpec) {epoch : Nat} {slot : Nat} :
    spec.startSlot epoch ≤ slot ↔ epoch ≤ spec.epoch slot :=
  (Nat.le_div_iff_mul_le spec.slotsPerEpoch_pos).symm

theorem startSlot_epoch_le (spec : EthSpec) (slot : Nat) : spec.startSlot (spec.epoch slot) ≤ slot :=
  spec.startSlot_le_iff.mpr le_rfl

theorem startSlot_mono (spec : EthSpec) {a b : Nat} (le : a ≤ b) : spec.startSlot a ≤ spec.startSlot b :=
  Nat.mul_le_mul_right _ le

theorem startSlot_lt_startSlot (spec : EthSpec) {a b : Nat} :
    spec.startSlot a < spec.startSlot b ↔ a < b :=
  Nat.mul_lt_mul_right spec.slotsPerEpoch_pos

theorem epoch_startSlot (spec : EthSpec) (epoch : Nat) : spec.epoch (spec.startSlot epoch) = epoch :=
  Nat.mul_div_cancel epoch spec.slotsPerEpoch_pos

theorem epoch_mono (spec : EthSpec) {a b : Nat} (le : a ≤ b) : spec.epoch a ≤ spec.epoch b :=
  Nat.div_le_div_right le

theorem epoch_lt_iff (spec : EthSpec) {slot epoch : Nat} : spec.epoch slot < epoch ↔ slot < spec.startSlot epoch := by
  rw [← Nat.not_le, ← Nat.not_le, spec.startSlot_le_iff]

theorem lt_startSlot_epoch_succ (spec : EthSpec) (slot : Nat) : slot < spec.startSlot (spec.epoch slot + 1) :=
  spec.epoch_lt_iff.mp (Nat.lt_succ_self _)

end EthSpec

/-- `ForkName`. -/
inductive ForkName where
  | base
  | altair
  | merge
  deriving DecidableEq, Repr

/-- The fields of `ChainSpec` that block production and the sync committee queries read. -/
structure ChainSpec where
  altairForkEpoch : Option Nat
  bellatrixForkEpoch : Option Nat
  epochsPerSyncCommitteePeriod : Nat
  epochsPerSyncCommitteePeriod_pos : 0 < epochsPerSyncCommitteePeriod

/-- Modelled from the spec: `ChainSpec::fork_name_at_epoch`. -/
def ChainSpec.forkNameAtEpoch (chainSpec : ChainSpec) (epoch : Nat) : ForkName :=
  if chainSpec.bellatrixForkEpoch.any (· ≤ epoch) then .merge
  else if chainSpec.altairForkEpoch.any (· ≤ epoch) then .altair
  else .base

/-- `types::Checkpoint`. -/
structure Checkpoint where
  epoch : Nat
  root : Root
  deriving DecidableEq, Repr

/-- `HistoricalBlockError`, of which the block-root queries meet one variant. -/
inductive HistoricalBlockError where
  | blockOutOfRange (slot oldestBlockSlot : Nat)
  deriving DecidableEq, Repr

/-- The variants of `BeaconStateError` that the modelled state reads meet. -/
inductive BeaconStateError where
  | slotOutOfBounds
  | insufficientValidators
  | syncCommitteeNotKnown (currentEpoch epoch : Nat)
  | incorrectStateVariant
  deriving DecidableEq, Repr

/-- `RelativeEpochError`. -/
inductive RelativeEpochError where
  | epochTooLow (base other : Nat)
  | epochTooHigh (base other : Nat)
  deriving DecidableEq, Repr

/-- The variants of fork choice's `InvalidBlock` that the modelled checks of `on_block` return. -/
inductive InvalidBlock where
  | finalizedSlot (finalizedSlot blockSlot : Nat)
  | notFinalizedDescendant (finalizedRoot : Root) (blockAncestor : Option Root)
  deriving DecidableEq, Repr

/-- The variants of `BeaconChainError` that the modelled functions return. -/
inductive Error where
  | unableToReadSlot
  | canonicalHeadLockTimeout
  | historicalBlockError (error : HistoricalBlockError)
  | inconsistentForwardsIter (requestSlot slot : Nat)
  | invalidReorgSlotIter (newSlot oldSlot : Nat)
  | missingBeaconBlock (root : Root)
  | missingBeaconState (root : Root)
  | revertedFinalizedEpoch (previousEpoch newEpoch : Nat)
  | invalidFinalizedPayload (finalizedRoot : Root)
  | missingFinalizedStateRoot (slot : Nat)
  | headMissingFromForkChoice (root : Root)
  | forkChoiceError
  | forkChoiceInvalidBlock (invalidBlock : InvalidBlock)
  | unableToComputeTimeAtSlot
  | weakSubjectivtyVerificationFailure
  | weakSubjectivtyShutdownError
  | invalidFinalizedPayloadShutdownError
  | executionLayerMissing
  | forkchoiceUpdate
  | dbError
  | storeError
  | noStateForSlot (slot : Nat)
  | stateSkipTooLarge (startSlot requestedSlot : Nat)
  | beaconStateError (error : BeaconStateError)
  | attestingToFinalizedSlot (finalizedSlot requestSlot : Nat)
  | attestingToAncientSlot (lowestPermissibleSlot requestSlot : Nat)
  | headBlockNotFullyVerified (beaconBlockRoot : Root)
  | invalidShufflingId (shufflingEpoch headBlockEpoch : Nat)
  | attestationCacheLockTimeout
  | invalidStateForShuffling (stateEpoch shufflingEpoch : Nat)
  | incorrectStateForAttestation (error : RelativeEpochError)
  | stateAdvanceError
  | noProposerForSlot (slot : Nat)
  | altairForkDisabled
  | blockVariantLacksExecutionPayload (blockRoot : Root)
  | executionLayerErrorPayloadReconstruction (execBlockHash : Nat)
  | blockHashMissingFromExecutionLayer (execBlockHash : Nat)
  | inconsistentPayloadReconstructed (slot execBlockHash : Nat)
  | addPayloadLogicError
  deriving DecidableEq, Repr

/-- The variants of `BlockError` that the segment loops and the import pipeline meet. -/
inductive BlockError where
  | parentUnknown (parentRoot : Root)
  | futureSlot (presentSlot blockSlot : Nat)
  | stateRootMismatch
  | genesisBlock
  | wouldRevertFinalizedSlot (blockSlot finalizedSlot : Nat)
  | blockIsAlreadyKnown
  | invalidSignature
  | notFinalizedDescendant (blockParentRoot : Root)
  | weakSubjectivityConflict
  | inconsistentFork
  | nonLinearParentRoots
  | nonLinearSlots
  | beaconChainError (error : Error)
  deriving DecidableEq, Repr

end BeaconChain
