import BeaconChain.Attestation
import BeaconChain.Proofs.BlockRoots

/-! What an attestation from the main path of `produce_unaggregated_attestation` votes for. The
guards keep the request inside the head state's `block_roots` window, so the attested block
is the head chain's block at the request, and the target is the head chain's block at the
start of the request's epoch, an ancestor of the attested block. -/

namespace BeaconChain.ChainView

variable {spec : EthSpec} {chain : ChainView spec} {outcomes : AttestationOutcomes}

/-- The attested block is the head chain's block at the request. -/
theorem attestedRoots_eq_ok {requestSlot : Nat} {beaconBlockRoot : Root} {beaconStateRoot : StateRoot}
    (ok : chain.attestedRoots requestSlot = .ok (beaconBlockRoot, beaconStateRoot)) :
    beaconBlockRoot = chain.tree.rootAt chain.head requestSlot := by
  unfold attestedRoots at ok
  dsimp only at ok
  split at ok
  · next reached =>
    simp only [Except.ok.injEq, Prod.mk.injEq] at ok
    rw [← ok.1, BlockTree.rootAt_of_le (by simpa using reached)]
  · split at ok
    · next found _ =>
      simp only [Except.ok.injEq, Prod.mk.injEq] at ok
      rw [← ok.1, ← (BeaconState.getBlockRoot_eq_some.mp found).2, headState_latestBlockRoot]
    · cases ok

/-- The target root is the head chain's block at the target slot, for a target slot no later
than the attested one. -/
theorem targetRoot_eq_ok {requestSlot targetSlot : Nat} {root : Root} (before : targetSlot ≤ requestSlot)
    (ok : chain.targetRoot (chain.tree.rootAt chain.head requestSlot) targetSlot = .ok root) :
    root = chain.tree.rootAt chain.head targetSlot := by
  unfold targetRoot at ok
  dsimp only at ok
  split at ok
  · next reached =>
    simp only [headState_slot, Except.ok.injEq] at reached ok
    rw [← ok, BlockTree.rootAt_of_le (by omega), BlockTree.rootAt_of_le reached]
  · split at ok
    · next found =>
      simp only [Except.ok.injEq] at ok
      rw [← ok, ← (BeaconState.getBlockRoot_eq_some.mp found).2, headState_latestBlockRoot]
    · cases ok

/-- A head scrape that succeeds passed both guards and names the head chain's blocks at the
request and at the start of its epoch. -/
theorem headScrape_eq_ok {requestSlot : Nat} {scrape : HeadScrape}
    (ok : chain.headScrape outcomes requestSlot = .ok scrape) :
    spec.startSlot (chain.tree.finalizedEpoch chain.head) ≤ requestSlot ∧
      chain.tree.slot chain.head - spec.slotsPerHistoricalRoot ≤ requestSlot ∧
      scrape.beaconBlockRoot = chain.tree.rootAt chain.head requestSlot ∧
      scrape.target = ⟨spec.epoch requestSlot, chain.tree.rootAt chain.head (spec.startSlot (spec.epoch requestSlot))⟩ := by
  unfold headScrape at ok
  simp only [headState_slot, BeaconState.ofBlock_finalizedCheckpoint, BlockTree.finalizedCheckpoint_epoch,
    headState] at ok
  split at ok
  · cases ok
  split at ok
  · cases ok
  rename_i notFinalized notAncient
  split at ok
  · cases ok
  rename_i beaconBlockRoot beaconStateRoot roots
  have attested := attestedRoots_eq_ok roots
  subst attested
  split at ok
  · cases ok
  rename_i targetRoot target
  have targeted := targetRoot_eq_ok (spec.startSlot_epoch_le requestSlot) target
  split at ok <;> cases ok
  exact ⟨Nat.le_of_not_lt notFinalized, Nat.le_of_not_lt notAncient, rfl, by rw [targeted]⟩

/-- The main path returns the head scrape's block and target. -/
theorem produceUnaggregatedAttestation_eq_ok {requestSlot requestIndex : Nat} {attestation : Attestation}
    (mainPath : outcomes.earlyAttestation = none)
    (produced : chain.produceUnaggregatedAttestation outcomes requestSlot requestIndex = .ok attestation) :
    ∃ scrape, chain.headScrape outcomes requestSlot = .ok scrape ∧
      attestation.data.beaconBlockRoot = scrape.beaconBlockRoot ∧ attestation.data.target = scrape.target := by
  unfold produceUnaggregatedAttestation at produced
  simp only [mainPath] at produced
  split at produced <;> try contradiction
  split at produced <;> try contradiction
  next scrape scraped =>
  split at produced <;> try contradiction
  split at produced <;> try contradiction
  cases produced
  exact ⟨scrape, scraped, rfl, rfl⟩

/-- Every attestation the main path of `produce_unaggregated_attestation` returns, for any
head and any request, answers a request that passed the finalized-slot and ancient-slot guards.
It votes for the head chain's block at the request slot, which is the head itself from the head
slot on. Its target is the request's epoch, and the head chain's block at that epoch's start
slot, an ancestor of the block it votes for. -/
theorem produceUnaggregatedAttestation_votes_head_chain (chain : ChainView spec) (outcomes : AttestationOutcomes)
    (requestSlot requestIndex : Nat) {attestation : Attestation} (mainPath : outcomes.earlyAttestation = none)
    (produced : chain.produceUnaggregatedAttestation outcomes requestSlot requestIndex = .ok attestation) :
    spec.startSlot (chain.tree.finalizedEpoch chain.head) ≤ requestSlot ∧
      chain.tree.slot chain.head - spec.slotsPerHistoricalRoot ≤ requestSlot ∧
      attestation.data.slot = requestSlot ∧ attestation.data.index = requestIndex ∧
      attestation.data.beaconBlockRoot = chain.tree.rootAt chain.head requestSlot ∧
      attestation.data.target.epoch = spec.epoch requestSlot ∧
      attestation.data.target.root = chain.tree.rootAt chain.head (spec.startSlot (spec.epoch requestSlot)) ∧
      chain.tree.Descends attestation.data.beaconBlockRoot attestation.data.target.root := by
  unfold produceUnaggregatedAttestation at produced
  simp only [mainPath] at produced
  split at produced
  · cases produced
  split at produced
  · cases produced
  rename_i scrape scraped
  obtain ⟨notFinalized, notAncient, attested, targeted⟩ := headScrape_eq_ok scraped
  split at produced <;> try cases produced
  split at produced
  · cases produced
  simp only [Except.ok.injEq] at produced
  subst produced
  refine ⟨notFinalized, notAncient, rfl, rfl, attested, by rw [targeted], by rw [targeted], ?_⟩
  rw [attested, targeted]
  have onChain := chain.tree.descends_rootAt (chain.tree.rootAt chain.head requestSlot) (spec.startSlot (spec.epoch requestSlot))
  rwa [chain.tree.rootAt_rootAt chain.head (spec.startSlot_epoch_le requestSlot)] at onChain

/-- Every collaborator succeeds, the head state is in a later epoch than the request, and the
attester cache holds the request's justified checkpoint and committee length. -/
def attesterCacheHit : AttestationOutcomes :=
  ⟨none, true, ⟨0, 0⟩, .ok 4, .ok (), some true, .ok (some (⟨8, 64⟩, 4)), .ok (⟨0, 0⟩, 0)⟩

theorem produceUnaggregatedAttestation_votes_head_chain_before_head :
    attesterCacheHit.earlyAttestation = none ∧
      everySlotView.produceUnaggregatedAttestation attesterCacheHit 75 0 = .ok ⟨4, ⟨75, 0, 75, ⟨8, 64⟩, ⟨9, 72⟩⟩⟩ ∧
      EthSpec.minimal.startSlot (everySlotView.tree.finalizedEpoch everySlotView.head) ≤ 75 ∧
      everySlotView.tree.slot everySlotView.head - EthSpec.minimal.slotsPerHistoricalRoot ≤ 75 ∧
      (75 : Nat) = 75 ∧ (0 : Nat) = 0 ∧ (75 : Root) = everySlotView.tree.rootAt everySlotView.head 75 ∧
      (9 : Nat) = EthSpec.minimal.epoch 75 ∧
      (72 : Root) = everySlotView.tree.rootAt everySlotView.head (EthSpec.minimal.startSlot (EthSpec.minimal.epoch 75)) ∧
      everySlotView.tree.Descends 75 72 :=
  have produced : everySlotView.produceUnaggregatedAttestation attesterCacheHit 75 0 = .ok ⟨4, ⟨75, 0, 75, ⟨8, 64⟩, ⟨9, 72⟩⟩⟩ := by
    decide
  ⟨rfl, produced, produceUnaggregatedAttestation_votes_head_chain everySlotView attesterCacheHit 75 0 rfl produced⟩

end BeaconChain.ChainView
