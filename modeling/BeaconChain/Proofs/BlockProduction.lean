import BeaconChain.BlockProduction
import BeaconChain.Proofs.Shuffling
import BeaconChain.Proofs.StateRoots
import BeaconChain.Proofs.ProposerCache
import BeaconChain.Proofs.Attestation

/-! What block production builds on: both ways of loading a state reach, at the slot, the state
the head's chain passes through, so a produced block extends the head's chain with the right
proposer and compatible attestations. On the head's path at the head's own slot,
`per_block_processing` refuses every block produced. -/

namespace BeaconChain

section Except

variable {ε α β : Type} {x : Except ε α} {f : α → Except ε β}

theorem Except.bind_eq_ok {b : β} : x >>= f = .ok b ↔ ∃ a, x = .ok a ∧ f a = .ok b := by
  cases x <;> simp [bind, Except.bind]

theorem Except.bind_eq_error {e : ε} : x >>= f = .error e ↔ x = .error e ∨ ∃ a, x = .ok a ∧ f a = .error e := by
  cases x <;> simp [bind, Except.bind]

theorem Except.mapError_eq_ok {ε' : Type} {g : ε → ε'} {a : α} : x.mapError g = .ok a ↔ x = .ok a := by
  cases x <;> simp [Except.mapError]

theorem Except.mapError_eq_error {ε' : Type} {g : ε → ε'} {e' : ε'} :
    x.mapError g = .error e' ↔ ∃ e, x = .error e ∧ g e = e' := by
  cases x <;> simp [Except.mapError]

/-- Every error `x` can return is `allowed`. -/
def FailsOnly (allowed : ε → Prop) (x : Except ε α) : Prop := ∀ e, x = .error e → allowed e

theorem FailsOnly.bind {allowed : ε → Prop} (first : FailsOnly allowed x)
    (rest : ∀ a, x = .ok a → FailsOnly allowed (f a)) : FailsOnly allowed (x >>= f) := fun e failed => by
  rcases Except.bind_eq_error.mp failed with failed | ⟨a, ran, failed⟩
  · exact first e failed
  · exact rest a ran e failed

theorem FailsOnly.of_eq_ok {allowed : ε → Prop} {a : α} (ran : x = .ok a) : FailsOnly allowed x :=
  fun _ failed => nomatch ran.symm.trans failed

theorem FailsOnly.mapError {ε' : Type} {allowed : ε' → Prop} {g : ε → ε'}
    (mapped : ∀ e, x = .error e → allowed (g e)) : FailsOnly allowed (x.mapError g) := fun _ failed => by
  obtain ⟨e, original, rfl⟩ := Except.mapError_eq_error.mp failed
  exact mapped e original

end Except

namespace BeaconState

variable {spec : EthSpec} {tree : BlockTree spec} {state : BeaconState}

theorem getBeaconProposerIndex_eq_ok {proposersOf : Nat → Root → List Nat} {proposer : Nat}
    (named : state.getBeaconProposerIndex tree proposersOf = .ok proposer) :
    (state.beaconProposerIndices spec tree proposersOf)[state.slot % spec.slotsPerEpoch]? = some proposer := by
  unfold getBeaconProposerIndex at named
  split at named
  · next found => cases named; exact found
  · cases named

/-- A header that passes is for the state's slot, newer than the latest block, from the
context's proposer, who is not slashed, and on the latest block. -/
theorem processBlockHeader_eq_ok {block : BeaconBlock} {proposer : Nat} {slashed : Nat → Bool}
    (checked : state.processBlockHeader tree block proposer slashed = .ok ()) :
    block.slot = state.slot ∧ tree.slot state.latestBlockRoot < block.slot ∧ block.proposerIndex = proposer ∧
      block.parentRoot = state.latestBlockRoot ∧ slashed block.proposerIndex = false := by
  simpa only [processBlockHeader, ite_eq_iff, reduceCtorEq, and_false, false_or, not_not, not_le,
    Bool.not_eq_true, and_true] using checked

/-- On a block for the state's slot, from the context's proposer, whose parent is the latest
block whenever that block is older than the slot, the header check can only find the latest block
not older than the slot, or a slashed proposer. -/
theorem processBlockHeader_eq_error {block : BeaconBlock} {slashed : Nat → Bool} {reason : HeaderInvalid}
    (slotEq : block.slot = state.slot)
    (parentEq : tree.slot state.latestBlockRoot < state.slot → block.parentRoot = state.latestBlockRoot)
    (failed : state.processBlockHeader tree block block.proposerIndex slashed = .error reason) :
    (reason = .olderThanLatestBlockHeader state.slot (tree.slot state.latestBlockRoot) ∧
        state.slot ≤ tree.slot state.latestBlockRoot) ∨ ∃ proposer, reason = .proposerSlashed proposer := by
  simp only [processBlockHeader, slotEq, ite_eq_iff, Except.error.injEq, reduceCtorEq, ne_eq, not_true_eq_false,
    not_false_eq_true, not_not, not_le, true_and, false_and, and_false, false_or, or_false] at failed
  rcases failed with ⟨older, rfl⟩ | ⟨newer, ⟨wrongParent, -⟩ | ⟨-, -, rfl⟩⟩
  · exact .inl ⟨rfl, older⟩
  · exact absurd (parentEq newer) wrongParent
  · exact .inr ⟨_, rfl⟩

end BeaconState

namespace ProductionOutcomes

variable {spec : EthSpec} {tree : BlockTree spec} {outcomes : ProductionOutcomes}

theorem checkStateSlot_eq_ok {state : BeaconState} {produceAtSlot : Nat}
    (checked : checkStateSlot state produceAtSlot = .ok ()) : state.slot ≤ produceAtSlot := by
  unfold checkStateSlot at checked
  split at checked
  · cases checked
  · omega

/-- Advancing a state not after the slot leaves it at the slot, on the same latest block. -/
theorem completeStateAdvance_eq_ok {state advanced : BeaconState} {produceAtSlot : Nat}
    (before : state.slot ≤ produceAtSlot) (moved : outcomes.completeStateAdvance state produceAtSlot = .ok advanced) :
    advanced = { state with slot := produceAtSlot } := by
  revert moved
  unfold completeStateAdvance
  split_ifs with later <;> cases outcomes.buildCommitteeCache <;> rintro ⟨⟩
  · rfl
  · rw [show produceAtSlot = state.slot by omega]

/-- Past the genesis slot the parent root is always found: the slot before the state's own is in
its `block_roots` window. -/
theorem parentRoot_of_pos {state : BeaconState} (pos : 0 < state.slot) :
    outcomes.parentRoot tree state = .ok (tree.rootAt state.latestBlockRoot (state.slot - 1)) := by
  have := spec.slotsPerHistoricalRoot_pos
  unfold parentRoot
  rw [if_pos pos, (BeaconState.getBlockRoot_eq_some.mpr ⟨⟨by omega, by omega⟩, rfl⟩ :
    state.getBlockRoot tree (state.slot - 1) = some _)]

theorem parentRoot_ne_error {state : BeaconState} {e : BlockProductionError} : outcomes.parentRoot tree state ≠ .error e := by
  by_cases pos : 0 < state.slot
  · rw [parentRoot_of_pos pos]
    exact nofun
  · unfold parentRoot
    rw [if_neg pos]
    exact nofun

/-- Every packed attestation is an op-pool candidate that the shuffling filter accepts against
the state. -/
theorem getAttestations_eq_ok {forkChoice : ForkChoice} {state : BeaconState} {attestations : List Attestation}
    (packed : outcomes.getAttestations tree forkChoice state = .ok attestations) :
    ∀ att ∈ attestations, (att ∈ outcomes.previousCandidates ∨ att ∈ outcomes.currentCandidates) ∧
      shufflingIsCompatible tree forkChoice att.data.beaconBlockRoot att.data.target.epoch state = true := by
  unfold getAttestations at packed
  split at packed
  · cases packed
  · next positions _ =>
    cases packed
    intro att mem
    obtain ⟨i, -, found⟩ := List.mem_filterMap.mp mem
    have empty : FilterCache.Consistent tree forkChoice state [] := nofun
    rw [produceBlockAttestations, (filterAttestations_eq _ empty).1, (filterAttestations_eq _ empty).1] at found
    rcases List.mem_append.mp (List.getElem?_mem found) with kept | kept
    · exact ⟨.inl (List.mem_filter.mp kept).1, (List.mem_filter.mp kept).2⟩
    · exact ⟨.inr (List.mem_filter.mp kept).1, (List.mem_filter.mp kept).2⟩

/-- What a produced block is, for a state not after the slot: a block at the slot on the state's
latest block, which is older than the slot, with the proposer and the attestations of the state
advanced to the slot. -/
theorem produceBlockOnState_eq_ok {chainSpec : ChainSpec} {forkChoice : ForkChoice}
    {proposersOf : Nat → Root → List Nat} {state : BeaconState} {produceAtSlot randaoReveal : Nat}
    {validatorGraffiti : Option Nat} {verification : ProduceBlockVerification} {block : BeaconBlock}
    (produced : outcomes.produceBlockOnState tree chainSpec forkChoice proposersOf state produceAtSlot randaoReveal
      validatorGraffiti verification = .ok block) :
    block.slot = produceAtSlot ∧ tree.slot state.latestBlockRoot < produceAtSlot ∧
      block.parentRoot = state.latestBlockRoot ∧
      ({ state with slot := produceAtSlot }).getBeaconProposerIndex tree proposersOf = .ok block.proposerIndex ∧
      outcomes.getAttestations tree forkChoice { state with slot := produceAtSlot } = .ok block.attestations := by
  unfold produceBlockOnState at produced
  obtain ⟨_, -, produced⟩ := Except.bind_eq_ok.mp produced
  obtain ⟨⟨⟩, checked, produced⟩ := Except.bind_eq_ok.mp produced
  obtain ⟨advanced, moved, produced⟩ := Except.bind_eq_ok.mp produced
  cases completeStateAdvance_eq_ok (checkStateSlot_eq_ok checked) moved
  obtain ⟨parent, -, produced⟩ := Except.bind_eq_ok.mp produced
  obtain ⟨⟨⟩, -, produced⟩ := Except.bind_eq_ok.mp produced
  obtain ⟨attestations, packed, produced⟩ := Except.bind_eq_ok.mp produced
  obtain ⟨proposer, named, produced⟩ := Except.bind_eq_ok.mp produced
  obtain ⟨⟨⟩, -, produced⟩ := Except.bind_eq_ok.mp produced
  obtain ⟨⟨⟩, -, produced⟩ := Except.bind_eq_ok.mp produced
  obtain ⟨⟨⟩, processed, produced⟩ := Except.bind_eq_ok.mp produced
  cases Except.ok.inj produced
  unfold perBlockProcessing at processed
  split at processed
  · cases Except.mapError_eq_ok.mp processed
  · next checked =>
    obtain ⟨slot, older, -, parentEq, -⟩ := BeaconState.processBlockHeader_eq_ok checked
    exact ⟨slot, older, parentEq, Except.mapError_eq_ok.mp named, packed⟩

/-- The errors `produce_block_on_state` can return on a state not after the slot, whose latest
block is at `latestSlot`: no state slot too high, no missing parent root, and of the header checks
only a latest block not older than the slot, or a slashed proposer. -/
def Expected (produceAtSlot latestSlot : Nat) (e : BlockProductionError) : Prop :=
  (∀ requested stateSlot, e ≠ .stateSlotTooHigh requested stateSlot) ∧ e ≠ .unableToGetBlockRootFromState ∧
    ∀ reason, e = .blockProcessingError (.headerInvalid reason) →
      (reason = .olderThanLatestBlockHeader produceAtSlot latestSlot ∧ produceAtSlot ≤ latestSlot) ∨
        ∃ proposer, reason = .proposerSlashed proposer

/-- The checks of `produce_block_on_state` that a state not after the slot always passes, in
front of every error it can return. -/
theorem produceBlockOnState_failsOnly {chainSpec : ChainSpec} {forkChoice : ForkChoice}
    {proposersOf : Nat → Root → List Nat} {state : BeaconState} {produceAtSlot randaoReveal : Nat}
    {validatorGraffiti : Option Nat} {verification : ProduceBlockVerification} (before : state.slot ≤ produceAtSlot) :
    FailsOnly (Expected produceAtSlot (tree.slot state.latestBlockRoot))
      (outcomes.produceBlockOnState tree chainSpec forkChoice proposersOf state produceAtSlot randaoReveal
        validatorGraffiti verification) := by
  unfold produceBlockOnState
  refine .bind (fun e failed => ?eth1) fun queries _ => ?_
  case eth1 =>
    unfold eth1ChainQueries at failed
    split at failed <;> cases failed
    simp [Expected]
  refine .bind (.of_eq_ok (by simp [checkStateSlot, Nat.not_lt.mpr before] : _ = .ok ())) fun _ _ => ?_
  refine .bind (fun e failed => ?advance) fun advanced moved => ?_
  case advance =>
    revert failed
    unfold completeStateAdvance
    split_ifs <;> cases outcomes.buildCommitteeCache <;> rintro ⟨⟩ <;> simp [Expected]
  cases completeStateAdvance_eq_ok before moved
  refine .bind (fun e failed => absurd failed parentRoot_ne_error) fun parent found => ?_
  refine .bind (fun e failed => ?eth1Queries) fun _ _ => ?_
  case eth1Queries =>
    unfold eth1DataAndDeposits at failed
    split at failed <;> cases failed
    simp [Expected]
  refine .bind (fun e failed => ?pack) fun _ _ => ?_
  case pack =>
    unfold getAttestations at failed
    split at failed <;> cases failed
    simp [Expected]
  refine .bind (.mapError fun e _ => by simp [Expected]) fun proposer _ => ?_
  refine .bind (fun e failed => ?body) fun _ _ => ?_
  case body =>
    unfold bodyForFork at failed
    split at failed <;> (try split_ifs at failed) <;> cases failed <;> simp [Expected]
  refine .bind (fun e failed => ?size) fun _ _ => ?_
  case size =>
    unfold checkBlockSize at failed
    split at failed <;> cases failed
    simp [Expected]
  refine .bind (.mapError fun e failed => ?processing) fun _ _ => .of_eq_ok rfl
  case processing =>
    unfold perBlockProcessing at failed
    split at failed
    · next reason checked =>
      cases failed
      have parentEq : tree.slot state.latestBlockRoot < produceAtSlot → parent = state.latestBlockRoot := fun older => by
        rw [parentRoot_of_pos (by dsimp only; omega)] at found
        cases found
        exact BlockTree.rootAt_of_le (by dsimp only; omega)
      refine ⟨nofun, nofun, fun reason' same => ?_⟩
      cases same
      exact BeaconState.processBlockHeader_eq_error rfl parentEq checked
    · split_ifs at failed <;> cases failed <;> simp [Expected]

/-- The state block production loads: not after the slot, fresh from a block of the head's
chain; the head itself when the head is not after the slot, else the head chain's latest block
before the slot, at the slot before. -/
theorem loadState_eq_ok {chain : StateView spec} {head : HeadInfo} {slot : Nat} {state : BeaconState}
    (info : chain.headInfo = .ok head) (loaded : outcomes.loadState chain head slot = .ok state) :
    state.slot ≤ slot ∧ state = { BeaconState.ofBlock chain.tree state.latestBlockRoot with slot := state.slot } ∧
      ((chain.tree.slot chain.head ≤ slot ∧ state.latestBlockRoot = chain.head) ∨
        (slot < chain.tree.slot chain.head ∧ state.latestBlockRoot = chain.tree.rootAt chain.head (slot - 1))) := by
  obtain ⟨headSlot, headRoot, -⟩ := ChainView.headInfo_eq_ok info
  unfold loadState at loaded
  split_ifs at loaded with behind
  · split at loaded <;> cases loaded
    rw [headRoot]
    exact ⟨by simp only [← headSlot] at behind ⊢; omega, rfl, .inl ⟨headSlot ▸ behind, rfl⟩⟩
  · split at loaded
    · cases loaded
    · next root found =>
      cases loaded
      cases StateView.stateAtSlot_eq_ok found
      exact ⟨Nat.sub_le slot 1, rfl, .inr ⟨by omega, rfl⟩⟩

end ProductionOutcomes

/-- The state block production at `slot` builds on: the head chain's latest block before the
slot, advanced to the slot. -/
def ChainView.productionState {spec : EthSpec} (chain : ChainView spec) (slot : Nat) : BeaconState :=
  { BeaconState.ofBlock chain.tree (chain.tree.rootAt chain.head (slot - 1)) with slot := slot }

/-- The proposer of the production state is the slot's proposer under the head chain's
proposer-shuffling decision block. -/
theorem ChainView.productionState_proposer {spec : EthSpec} {chain : ChainView spec}
    {proposersOf : Nat → Root → List Nat} {slot proposer : Nat}
    (named : (chain.productionState slot).getBeaconProposerIndex chain.tree proposersOf = .ok proposer) :
    (proposersOf (spec.epoch slot) (chain.tree.rootAt chain.head (spec.startSlot (spec.epoch slot) - 1)))[slot %
      spec.slotsPerEpoch]? = some proposer := by
  rw [← chain.tree.rootAt_rootAt chain.head (Nat.sub_le_sub_right (spec.startSlot_epoch_le slot) 1)]
  exact BeaconState.getBeaconProposerIndex_eq_ok named

namespace ProductionOutcomes

variable {spec : EthSpec} {outcomes : ProductionOutcomes} {chainSpec : ChainSpec} {chain : StateView spec}
  {forkChoice : ForkChoice} {proposersOf : Nat → Root → List Nat} {randaoReveal slot : Nat}
  {validatorGraffiti : Option Nat} {verification : ProduceBlockVerification}

/-- A produced block: past the genesis slot, not at the head's slot, for the slot, on the head
chain's latest block before it, with the proposer and attestations of the production state. -/
theorem produceBlockWithVerification_eq_ok {block : BeaconBlock}
    (produced : outcomes.produceBlockWithVerification chainSpec chain forkChoice proposersOf randaoReveal slot
      validatorGraffiti verification = .ok block) :
    0 < slot ∧ chain.tree.slot chain.head ≠ slot ∧ block.slot = slot ∧
      block.parentRoot = chain.tree.rootAt chain.head (slot - 1) ∧
      (chain.productionState slot).getBeaconProposerIndex chain.tree proposersOf = .ok block.proposerIndex ∧
      outcomes.getAttestations chain.tree forkChoice (chain.productionState slot) = .ok block.attestations := by
  unfold produceBlockWithVerification at produced
  obtain ⟨⟨⟩, -, produced⟩ := Except.bind_eq_ok.mp produced
  obtain ⟨head, info, produced⟩ := Except.bind_eq_ok.mp produced
  obtain ⟨state, loaded, produced⟩ := Except.bind_eq_ok.mp produced
  obtain ⟨-, fresh, branch⟩ := loadState_eq_ok (Except.mapError_eq_ok.mp info) loaded
  obtain ⟨slotEq, older, parentEq, named, packed⟩ := produceBlockOnState_eq_ok produced
  have latest : state.latestBlockRoot = chain.tree.rootAt chain.head (slot - 1) ∧ chain.tree.slot chain.head ≠ slot := by
    rcases branch with ⟨behind, root⟩ | ⟨ahead, root⟩
    · rw [root] at older ⊢
      exact ⟨(BlockTree.rootAt_of_le (by omega)).symm, by omega⟩
    · exact ⟨root, by omega⟩
  have advanced : { state with slot := slot } = chain.productionState slot := by
    rw [fresh, latest.1]
    rfl
  rw [advanced] at named packed
  exact ⟨by omega, latest.2, slotEq, parentEq.trans latest.1, named, packed⟩

/-- Every block `produce_block_with_verification` returns extends the head's chain: it is for
the requested slot, its parent is the head chain's latest block before the slot, its proposer is
the slot's proposer under the head chain's proposer-shuffling decision block, and every
attestation it packs is an op-pool candidate that the shuffling filter accepts against the state
the head's chain reaches at the slot. -/
theorem produceBlockWithVerification_extends_head_chain {block : BeaconBlock}
    (produced : outcomes.produceBlockWithVerification chainSpec chain forkChoice proposersOf randaoReveal slot
      validatorGraffiti verification = .ok block) :
    block.slot = slot ∧ block.parentRoot = chain.tree.rootAt chain.head (slot - 1) ∧
      chain.tree.slot block.parentRoot < slot ∧
      (proposersOf (spec.epoch slot) (chain.tree.rootAt chain.head (spec.startSlot (spec.epoch slot) - 1)))[slot %
        spec.slotsPerEpoch]? = some block.proposerIndex ∧
      ∀ att ∈ block.attestations, (att ∈ outcomes.previousCandidates ∨ att ∈ outcomes.currentCandidates) ∧
        shufflingIsCompatible chain.tree forkChoice att.data.beaconBlockRoot att.data.target.epoch
          (chain.productionState slot) = true := by
  obtain ⟨pos, -, slotEq, parentEq, named, packed⟩ := produceBlockWithVerification_eq_ok produced
  have before := chain.tree.slot_rootAt_le chain.head (slot - 1)
  exact ⟨slotEq, parentEq, by rw [parentEq]; omega, ChainView.productionState_proposer named,
    getAttestations_eq_ok packed⟩

/-- Test outcomes: every collaborator succeeds, with an empty op pool. -/
def productionSucceeds : ProductionOutcomes where
  forkChoiceSignal := true
  advancedState := .ok (some 0)
  skip := .completed
  stored := true
  eth1Chain := some true
  stateAdvance := true
  buildCommitteeCache := .ok ()
  genesisBlockHeaderRoot := 0
  previousCandidates := []
  currentCandidates := []
  packing := .ok []
  syncAggregate := true
  executionPayload := true
  graffiti := 0
  blockSize := 0
  maxNetworkSize := 1
  slashed := fun _ => false
  randaoValid := true
  bodyProcessing := true

/-- Test chain spec: Altair and the Merge from genesis. -/
def mergedAtGenesis : ChainSpec := ⟨some 0, some 0, 8, by decide⟩

/-- Test fork choice, holding no block. -/
def emptyForkChoice : ForkChoice := ⟨[], ⟨0, 0⟩⟩

/-- On the head at slot 80, the block for slot 81 is built on the head by the proposer of block
79's shuffling. -/
theorem produceBlockWithVerification_extends_head_chain_after_head :
    productionSucceeds.produceBlockWithVerification mergedAtGenesis StateView.everySlotStateView emptyForkChoice
        ChainView.sumProposers 0 81 none .verifyRandao = .ok ⟨81, 89, 80, 0, 0, [], .merge⟩ ∧
    ((⟨81, 89, 80, 0, 0, [], .merge⟩ : BeaconBlock).slot = 81 ∧
      (⟨81, 89, 80, 0, 0, [], .merge⟩ : BeaconBlock).parentRoot = StateView.everySlotStateView.tree.rootAt StateView.everySlotStateView.head (81 - 1) ∧
      StateView.everySlotStateView.tree.slot (⟨81, 89, 80, 0, 0, [], .merge⟩ : BeaconBlock).parentRoot < 81 ∧
      (ChainView.sumProposers (EthSpec.minimal.epoch 81) (StateView.everySlotStateView.tree.rootAt StateView.everySlotStateView.head
          (EthSpec.minimal.startSlot (EthSpec.minimal.epoch 81) - 1)))[81 % EthSpec.minimal.slotsPerEpoch]? =
        some (⟨81, 89, 80, 0, 0, [], .merge⟩ : BeaconBlock).proposerIndex ∧
      ∀ att ∈ (⟨81, 89, 80, 0, 0, [], .merge⟩ : BeaconBlock).attestations,
        (att ∈ productionSucceeds.previousCandidates ∨ att ∈ productionSucceeds.currentCandidates) ∧
        shufflingIsCompatible StateView.everySlotStateView.tree emptyForkChoice att.data.beaconBlockRoot att.data.target.epoch
          (StateView.everySlotStateView.productionState 81) = true) := by
  have produced : productionSucceeds.produceBlockWithVerification mergedAtGenesis StateView.everySlotStateView emptyForkChoice
      ChainView.sumProposers 0 81 none .verifyRandao = .ok ⟨81, 89, 80, 0, 0, [], .merge⟩ := by decide
  exact ⟨produced, produceBlockWithVerification_extends_head_chain produced⟩

/-- `produce_block_with_verification` never fails on its state-slot or parent-root checks, and of
the header checks of `per_block_processing` only the latest block's age or a slashed proposer can
fail, the first only at the head block's slot or the genesis slot. At those two slots it never
returns a block: at the head block's slot it builds on the head's own post-state. -/
theorem produceBlockWithVerification_header_failures :
    (∀ e, outcomes.produceBlockWithVerification chainSpec chain forkChoice proposersOf randaoReveal slot
        validatorGraffiti verification = .error e →
      (∀ requested stateSlot, e ≠ .stateSlotTooHigh requested stateSlot) ∧ e ≠ .unableToGetBlockRootFromState ∧
      ∀ reason, e = .blockProcessingError (.headerInvalid reason) →
        (reason = .olderThanLatestBlockHeader slot slot ∧ (chain.tree.slot chain.head = slot ∨ slot = 0)) ∨
          ∃ proposer, reason = .proposerSlashed proposer) ∧
    ∀ block, (chain.tree.slot chain.head = slot ∨ slot = 0) →
      outcomes.produceBlockWithVerification chainSpec chain forkChoice proposersOf randaoReveal slot
        validatorGraffiti verification ≠ .ok block := by
  refine ⟨fun e failed => ?_, fun block atHead produced => ?_⟩
  · unfold produceBlockWithVerification at failed
    rcases Except.bind_eq_error.mp failed with failed | ⟨⟨⟩, -, failed⟩
    · unfold waitForForkChoiceBeforeBlockProduction at failed
      split_ifs at failed
      split at failed <;> cases failed
      simp
    rcases Except.bind_eq_error.mp failed with failed | ⟨head, info, failed⟩
    · obtain ⟨_, -, rfl⟩ := Except.mapError_eq_error.mp failed
      simp
    rcases Except.bind_eq_error.mp failed with failed | ⟨state, loaded, failed⟩
    · unfold loadState at failed
      split_ifs at failed <;> split at failed <;> cases failed <;> simp
    obtain ⟨before, -, branch⟩ := loadState_eq_ok (Except.mapError_eq_ok.mp info) loaded
    obtain ⟨tooHigh, noParent, header⟩ := produceBlockOnState_failsOnly before e failed
    have atLatest : slot ≤ chain.tree.slot state.latestBlockRoot →
        chain.tree.slot state.latestBlockRoot = slot ∧ (chain.tree.slot chain.head = slot ∨ slot = 0) := by
      intro late
      rcases branch with ⟨behind, root⟩ | ⟨-, root⟩
      · rw [root] at late ⊢
        exact ⟨by omega, .inl (by omega)⟩
      · have := chain.tree.slot_rootAt_le chain.head (slot - 1)
        rw [root] at late ⊢
        exact ⟨by omega, .inr (by omega)⟩
    refine ⟨tooHigh, noParent, fun reason same => (header reason same).imp (fun ⟨older, late⟩ => ?_) id⟩
    obtain ⟨same, atHead⟩ := atLatest late
    exact ⟨same ▸ older, atHead⟩
  · obtain ⟨pos, notHead, -⟩ := produceBlockWithVerification_eq_ok produced
    omega

/-- At the head block's own slot every collaborator succeeds, yet the block is refused: it is
built on the head's post-state, whose latest block header is at that slot. -/
example :
    productionSucceeds.produceBlockWithVerification mergedAtGenesis StateView.everySlotStateView emptyForkChoice
        ChainView.sumProposers 0 80 none .verifyRandao =
      .error (.blockProcessingError (.headerInvalid (.olderThanLatestBlockHeader 80 80))) := by
  decide

/-- For a head at or before the current slot and a consistent proposer cache, the execution layer
is prepared for the block the node produces at the next slot on the same head: the validator that
`prepare_beacon_proposer_async` hands it is the proposer `produce_block_with_verification` names,
for the same slot, on the head block it prepared for. -/
theorem prepared_proposer_proposes_produced_block {preparation : PreparationOutcomes}
    {cache : BeaconProposerCache} {currentSlot : Nat} {prepared : PreparedProposer} {block : BeaconBlock}
    (behind : chain.tree.slot chain.head ≤ currentSlot) (consistent : cache.Consistent proposersOf)
    (prepare : (chain.prepareBeaconProposer preparation proposersOf cache currentSlot).1 = .ok (some prepared))
    (produced : outcomes.produceBlockWithVerification chainSpec chain forkChoice proposersOf randaoReveal
      (currentSlot + 1) validatorGraffiti verification = .ok block) :
    block.slot = prepared.slot ∧ block.proposerIndex = prepared.validator ∧
      block.parentRoot = prepared.headBlockRoot := by
  obtain ⟨slotEq, headRoot, validator⟩ := ChainView.prepareBeaconProposer_prepared_on_head_chain behind consistent prepare
  obtain ⟨-, -, produced, parentEq, named, -⟩ := produceBlockWithVerification_eq_ok produced
  refine ⟨produced.trans slotEq.symm, Option.some.inj ((ChainView.productionState_proposer named).symm.trans validator),
    ?_⟩
  rw [parentEq, headRoot, Nat.add_sub_cancel, BlockTree.rootAt_of_le behind]

/-- The head at slot 80 prepares the proposer of slot 81, validator 89, who proposes the block
produced there. -/
theorem prepared_proposer_proposes_produced_block_after_head :
    StateView.everySlotStateView.tree.slot StateView.everySlotStateView.head ≤ 80 ∧
    BeaconProposerCache.Consistent ChainView.sumProposers [] ∧
    (StateView.everySlotStateView.prepareBeaconProposer ChainView.preparedOutcomes ChainView.sumProposers [] 80).1 =
      .ok (some ⟨81, 80, 89⟩) ∧
    productionSucceeds.produceBlockWithVerification mergedAtGenesis StateView.everySlotStateView emptyForkChoice
        ChainView.sumProposers 0 (80 + 1) none .verifyRandao = .ok ⟨81, 89, 80, 0, 0, [], .merge⟩ ∧
    ((⟨81, 89, 80, 0, 0, [], .merge⟩ : BeaconBlock).slot = (⟨81, 80, 89⟩ : PreparedProposer).slot ∧
      (⟨81, 89, 80, 0, 0, [], .merge⟩ : BeaconBlock).proposerIndex = (⟨81, 80, 89⟩ : PreparedProposer).validator ∧
      (⟨81, 89, 80, 0, 0, [], .merge⟩ : BeaconBlock).parentRoot = (⟨81, 80, 89⟩ : PreparedProposer).headBlockRoot) := by
  have prepare : (StateView.everySlotStateView.prepareBeaconProposer ChainView.preparedOutcomes ChainView.sumProposers [] 80).1 =
      .ok (some ⟨81, 80, 89⟩) := by decide
  have produced : productionSucceeds.produceBlockWithVerification mergedAtGenesis StateView.everySlotStateView emptyForkChoice
      ChainView.sumProposers 0 (80 + 1) none .verifyRandao = .ok ⟨81, 89, 80, 0, 0, [], .merge⟩ := by decide
  exact ⟨by decide, by decide, prepare, produced,
    prepared_proposer_proposes_produced_block (by decide) (by decide) prepare produced⟩

end ProductionOutcomes

namespace ChainView

variable {spec : EthSpec} {chain : ChainView spec} {forkChoice : ForkChoice}

@[simp] theorem productionState_slot {slot : Nat} : (chain.productionState slot).slot = slot := rfl

/-- The production state holds the head chain's blocks before its slot. -/
theorem rootAt_productionState {slot earlier : Nat} (before : earlier < slot) :
    chain.tree.rootAt (chain.productionState slot).latestBlockRoot earlier = chain.tree.rootAt chain.head earlier :=
  chain.tree.rootAt_rootAt chain.head (by omega : earlier ≤ slot - 1)

/-- The node keeps its own votes: an attestation from the main path of
`produce_unaggregated_attestation` passes the shuffling filter of every block produced on the same
head at a later slot of the same or the next epoch, whenever fork choice holds the head chain from
the pivot slot to the request; so whichever op-pool list holds it, block packing keeps it. -/
theorem produceUnaggregatedAttestation_kept_by_block_packing {outcomes : AttestationOutcomes}
    {requestSlot requestIndex slot : Nat} {attestation : Attestation}
    (mainPath : outcomes.earlyAttestation = none)
    (produced : chain.produceUnaggregatedAttestation outcomes requestSlot requestIndex = .ok attestation)
    (later : requestSlot < slot) (nextEpoch : spec.epoch slot ≤ spec.epoch requestSlot + 1)
    (window : 3 * spec.slotsPerEpoch ≤ spec.slotsPerHistoricalRoot)
    (held : ∀ s, spec.endSlot (spec.epoch requestSlot - (1 + minSeedLookahead)) ≤ s → s ≤ requestSlot →
      forkChoice.containsBlock (chain.tree.rootAt chain.head s) = true) :
    shufflingIsCompatible chain.tree forkChoice attestation.data.beaconBlockRoot attestation.data.target.epoch
        (chain.productionState slot) = true ∧
      ∀ previousCandidates currentCandidates,
        (attestation ∈ previousCandidates → attestation ∈
          (produceBlockAttestations chain.tree forkChoice (chain.productionState slot) previousCandidates
            currentCandidates).1) ∧
        (attestation ∈ currentCandidates → attestation ∈
          (produceBlockAttestations chain.tree forkChoice (chain.productionState slot) previousCandidates
            currentCandidates).2) := by
  obtain ⟨scrape, scraped, root, target⟩ := produceUnaggregatedAttestation_eq_ok mainPath produced
  obtain ⟨-, -, attested, targeted⟩ := headScrape_eq_ok scraped
  have compatible : shufflingIsCompatible chain.tree forkChoice attestation.data.beaconBlockRoot
      attestation.data.target.epoch (chain.productionState slot) = true := by
    rw [root, target, attested, targeted]
    by_cases late : 1 + minSeedLookahead ≤ (chain.productionState slot).currentEpoch spec
    · have ordered := spec.epoch_mono (Nat.le_of_lt later)
      have started : spec.startSlot (spec.epoch requestSlot - 2 + 1) ≤ requestSlot :=
        Nat.le_trans (spec.startSlot_mono (by simp only [BeaconState.currentEpoch, productionState_slot, minSeedLookahead] at late; omega))
          (spec.startSlot_epoch_le requestSlot)
      have pivot : spec.endSlot (spec.epoch requestSlot - 2) ≤ requestSlot := by
        unfold EthSpec.endSlot
        omega
      have reaches : ∀ s, spec.endSlot (spec.epoch requestSlot - (1 + minSeedLookahead)) ≤ s →
          forkChoice.containsBlock (chain.tree.rootAt (chain.tree.rootAt chain.head requestSlot) s) = true := by
        intro s above
        by_cases below : s ≤ requestSlot
        · rw [chain.tree.rootAt_rootAt chain.head below]
          exact held s above below
        · rw [BlockTree.rootAt_of_le (Nat.le_trans (chain.tree.slot_rootAt_le _ _) (by omega))]
          exact held requestSlot pivot le_rfl
      have epochs : spec.epoch requestSlot = (chain.productionState slot).previousEpoch spec ∨
          spec.epoch requestSlot = (chain.productionState slot).currentEpoch spec := by
        simp only [BeaconState.previousEpoch, BeaconState.currentEpoch, productionState_slot]
        omega
      rw [shufflingIsCompatible_eq late epochs window reaches, decide_eq_true_iff,
        chain.tree.rootAt_rootAt chain.head pivot, rootAt_productionState (by omega)]
    · unfold shufflingIsCompatible
      rw [if_pos (Nat.lt_of_not_le late)]
  have empty : FilterCache.Consistent chain.tree forkChoice (chain.productionState slot) [] := nofun
  refine ⟨compatible, fun previousCandidates currentCandidates => ⟨fun mem => ?_, fun mem => ?_⟩⟩
  · rw [produceBlockAttestations, (filterAttestations_eq previousCandidates empty).1]
    exact List.mem_filter.mpr ⟨mem, compatible⟩
  · rw [produceBlockAttestations, (filterAttestations_eq currentCandidates empty).1]
    exact List.mem_filter.mpr ⟨mem, compatible⟩

/-- Test fork choice, holding every block of `everySlotView`. -/
def everyBlockForkChoice : ForkChoice := ⟨List.range 81, ⟨0, 0⟩⟩

/-- The vote for block 75 produced at slot 75 is kept when the block of slot 81, in the next
epoch, is packed on the same head. -/
theorem produceUnaggregatedAttestation_kept_by_block_packing_next_epoch :
    attesterCacheHit.earlyAttestation = none ∧
    everySlotView.produceUnaggregatedAttestation attesterCacheHit 75 0 = .ok ⟨4, ⟨75, 0, 75, ⟨8, 64⟩, ⟨9, 72⟩⟩⟩ ∧
    75 < 81 ∧ EthSpec.minimal.epoch 81 ≤ EthSpec.minimal.epoch 75 + 1 ∧
    3 * EthSpec.minimal.slotsPerEpoch ≤ EthSpec.minimal.slotsPerHistoricalRoot ∧
    (∀ s, EthSpec.minimal.endSlot (EthSpec.minimal.epoch 75 - (1 + minSeedLookahead)) ≤ s → s ≤ 75 →
      everyBlockForkChoice.containsBlock (everySlotView.tree.rootAt everySlotView.head s) = true) ∧
    (shufflingIsCompatible everySlotView.tree everyBlockForkChoice 75 9 (everySlotView.productionState 81) = true ∧
      ∀ previousCandidates currentCandidates,
        ((⟨4, ⟨75, 0, 75, ⟨8, 64⟩, ⟨9, 72⟩⟩⟩ : Attestation) ∈ previousCandidates → ⟨4, ⟨75, 0, 75, ⟨8, 64⟩, ⟨9, 72⟩⟩⟩ ∈
          (produceBlockAttestations everySlotView.tree everyBlockForkChoice (everySlotView.productionState 81)
            previousCandidates currentCandidates).1) ∧
        ((⟨4, ⟨75, 0, 75, ⟨8, 64⟩, ⟨9, 72⟩⟩⟩ : Attestation) ∈ currentCandidates → ⟨4, ⟨75, 0, 75, ⟨8, 64⟩, ⟨9, 72⟩⟩⟩ ∈
          (produceBlockAttestations everySlotView.tree everyBlockForkChoice (everySlotView.productionState 81)
            previousCandidates currentCandidates).2)) := by
  have produced : everySlotView.produceUnaggregatedAttestation attesterCacheHit 75 0 =
      .ok ⟨4, ⟨75, 0, 75, ⟨8, 64⟩, ⟨9, 72⟩⟩⟩ := by decide
  have held : ∀ s, EthSpec.minimal.endSlot (EthSpec.minimal.epoch 75 - (1 + minSeedLookahead)) ≤ s → s ≤ 75 →
      everyBlockForkChoice.containsBlock (everySlotView.tree.rootAt everySlotView.head s) = true := by
    intro s _ below
    have inRange : everySlotView.tree.slot (everySlotView.tree.rootAt everySlotView.head s) < 81 :=
      Nat.lt_of_le_of_lt (everySlotView.tree.slot_rootAt_le everySlotView.head s) (by omega)
    simpa [ForkChoice.containsBlock, everyBlockForkChoice] using inRange
  exact ⟨rfl, produced, by decide, by decide, by decide, held,
    produceUnaggregatedAttestation_kept_by_block_packing rfl produced (by decide) (by decide) (by decide) held⟩

end ChainView

end BeaconChain
