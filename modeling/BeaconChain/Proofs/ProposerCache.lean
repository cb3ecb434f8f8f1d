import BeaconChain.ProposerCache
import BeaconChain.Proofs.BlockRoots

/-! The proposer-cache key of `prepare_beacon_proposer_async` is the prepare epoch's
proposer-shuffling decision root on the head's chain, the block
`compute_proposer_duties_from_head` computes from, so a consistent cache answers a hit as the
computation would. -/

namespace BeaconChain

variable {spec : EthSpec} {tree : BlockTree spec}

/-- The proposer cache holds, under every key, the proposers of that epoch and decision block. -/
def BeaconProposerCache.Consistent (proposersOf : Nat → Root → List Nat) (cache : BeaconProposerCache) : Prop :=
  ∀ entry ∈ cache, entry.2 = proposersOf entry.1.1 entry.1.2

instance BeaconProposerCache.decidableConsistent (proposersOf : Nat → Root → List Nat) (cache : BeaconProposerCache) :
    Decidable (cache.Consistent proposersOf) :=
  inferInstanceAs (Decidable (∀ entry ∈ cache, _))

namespace BeaconState

variable {state : BeaconState}

theorem proposerShufflingDecisionRoot_eq_ok {blockRoot root : Root}
    (decided : state.proposerShufflingDecisionRoot spec tree blockRoot = .ok root) :
    (state.slot = state.proposerShufflingDecisionSlot spec ∧ root = blockRoot) ∨
      root = tree.rootAt state.latestBlockRoot (state.proposerShufflingDecisionSlot spec) := by
  unfold proposerShufflingDecisionRoot at decided
  dsimp only at decided
  split at decided
  · next atDecision =>
    cases decided
    exact .inl ⟨atDecision, rfl⟩
  · split at decided
    · next found =>
      cases decided
      exact .inr (BeaconState.getBlockRoot_eq_some.mp found).2.symm
    · cases decided

theorem proposerShufflingDecisionRoot_latest {root : Root}
    (placed : tree.slot state.latestBlockRoot ≤ state.slot)
    (decided : state.proposerShufflingDecisionRoot spec tree state.latestBlockRoot = .ok root) :
    root = tree.rootAt state.latestBlockRoot (state.proposerShufflingDecisionSlot spec) := by
  rcases proposerShufflingDecisionRoot_eq_ok decided with ⟨atDecision, rfl⟩ | decisionBlock
  · rw [← atDecision, BlockTree.rootAt_of_le placed]
  · exact decisionBlock

theorem ensureStateIsInEpoch_eq_ok {targetEpoch : Nat} {advance : Bool} {moved : BeaconState}
    (ensured : state.ensureStateIsInEpoch spec targetEpoch advance = .ok moved) :
    moved.latestBlockRoot = state.latestBlockRoot ∧ state.slot ≤ moved.slot ∧
      moved.currentEpoch spec = targetEpoch := by
  unfold ensureStateIsInEpoch at ensured
  split at ensured
  · cases ensured
  · next earlier =>
    split at ensured
    · cases ensured
      refine ⟨rfl, ?_, spec.epoch_startSlot targetEpoch⟩
      have := spec.lt_startSlot_epoch_succ state.slot
      have : spec.epoch state.slot + 1 ≤ targetEpoch := Nat.compare_eq_lt.mp earlier
      have := spec.startSlot_mono this
      dsimp only
      omega
    · cases ensured
  · next same =>
    cases ensured
    exact ⟨rfl, le_rfl, Nat.compare_eq_eq.mp same⟩

end BeaconState

namespace ChainView

variable {chain : ChainView spec} {head : HeadInfo}

theorem headInfo_eq_ok (info : chain.headInfo = .ok head) :
    head.slot = chain.tree.slot chain.head ∧ head.blockRoot = chain.head ∧
      head.proposerShufflingDecisionRoot =
        chain.tree.rootAt chain.head (spec.startSlot (spec.epoch (chain.tree.slot chain.head)) - 1) := by
  unfold headInfo at info
  split at info
  · cases info
  · next root decided =>
    cases info
    exact ⟨rfl, rfl, BeaconState.proposerShufflingDecisionRoot_latest le_rfl decided⟩

theorem computeProposerDutiesFromHead_eq_ok {proposersOf : Nat → Root → List Nat} {advance : Bool}
    {epoch : Nat} {proposers : List Nat} {root : Root}
    (computed : chain.computeProposerDutiesFromHead proposersOf advance epoch = .ok (proposers, root)) :
    proposers = proposersOf epoch (chain.tree.rootAt chain.head (spec.startSlot epoch - 1)) ∧
      (root = chain.tree.rootAt chain.head (spec.startSlot epoch - 1) ∨
        chain.tree.slot chain.head = 0 ∧ root = chain.genesisBlockRoot) := by
  unfold computeProposerDutiesFromHead at computed
  cases ensured : chain.headState.ensureStateIsInEpoch spec epoch advance with
  | error => simp only [ensured] at computed; cases computed
  | ok moved =>
    obtain ⟨latest, later, inEpoch⟩ := BeaconState.ensureStateIsInEpoch_eq_ok ensured
    simp only [ensured] at computed
    split at computed
    · cases computed
    · next decisionRoot decided =>
      cases computed
      have decisionSlot : moved.proposerShufflingDecisionSlot spec = spec.startSlot epoch - 1 := by
        rw [BeaconState.proposerShufflingDecisionSlot, inEpoch]
      refine ⟨by rw [BeaconState.beaconProposerIndices, inEpoch, decisionSlot, latest]; rfl, ?_⟩
      rcases BeaconState.proposerShufflingDecisionRoot_eq_ok decided with ⟨atDecision, rfl⟩ | decisionBlock
      · have := spec.startSlot_epoch_le moved.slot
        simp only [BeaconState.proposerShufflingDecisionSlot, BeaconState.currentEpoch] at atDecision
        simp only [ChainView.headState_slot] at later
        exact .inr ⟨by omega, rfl⟩
      · rw [decisionBlock, decisionSlot, latest]
        exact .inl rfl

/-- For a head at or before the current slot, the key proposer preparation looks up is the
latest block at or before the prepare epoch's decision slot on the head's chain: `head_info`'s
decision root when the head is in the prepare epoch, else the head itself, which is then before
the decision slot. -/
theorem shufflingDecisionRoot_eq_rootAt {currentSlot : Nat} (behind : chain.tree.slot chain.head ≤ currentSlot)
    (info : chain.headInfo = .ok head) :
    head.shufflingDecisionRoot spec (spec.epoch (currentSlot + 1)) =
      chain.tree.rootAt chain.head (spec.startSlot (spec.epoch (currentSlot + 1)) - 1) := by
  obtain ⟨slot, blockRoot, decisionRoot⟩ := headInfo_eq_ok info
  unfold HeadInfo.shufflingDecisionRoot
  split
  · next same => rw [decisionRoot, ← slot, same]
  · next earlier =>
    have : spec.epoch head.slot ≤ spec.epoch (currentSlot + 1) := spec.epoch_mono (by omega)
    have := spec.epoch_lt_iff.mp (Nat.lt_of_le_of_ne this earlier)
    rw [blockRoot, BlockTree.rootAt_of_le (by omega)]

end ChainView

namespace BeaconProposerCache

variable {proposersOf : Nat → Root → List Nat} {cache : BeaconProposerCache}

theorem getSlot_of_consistent {root : Root} {slot proposer : Nat} (consistent : cache.Consistent proposersOf)
    (hit : cache.getSlot spec root slot = some proposer) :
    (proposersOf (spec.epoch slot) root)[slot % spec.slotsPerEpoch]? = some proposer := by
  unfold getSlot at hit
  split at hit
  · next proposers found =>
    obtain ⟨_, _, split, -⟩ := List.lookup_eq_some_iff.mp found
    rw [← consistent ((spec.epoch slot, root), proposers) (by simp [split])]
    exact hit
  · cases hit

theorem insert_consistent {epoch : Nat} {root : Root} (consistent : cache.Consistent proposersOf) :
    (cache.insert epoch root (proposersOf epoch root)).Consistent proposersOf := by
  unfold insert
  split
  · exact consistent
  · simpa only [Consistent, List.mem_cons, forall_eq_or_imp, true_and] using consistent

end BeaconProposerCache

namespace PreparationOutcomes

variable {outcomes : PreparationOutcomes}

theorem prepareFound_eq {head : HeadInfo} {slot proposer : Nat} {cache : BeaconProposerCache} :
    (outcomes.prepareFound head slot proposer cache).2 = cache ∧
    ∀ prepared, (outcomes.prepareFound head slot proposer cache).1 = .ok (some prepared) →
      prepared = ⟨slot, head.blockRoot, proposer⟩ := by
  unfold prepareFound
  split
  · exact ⟨rfl, nofun⟩
  · exact ⟨rfl, fun _ found => by cases found; rfl⟩

end PreparationOutcomes

namespace ChainView

variable {chain : ChainView spec} {outcomes : PreparationOutcomes} {proposersOf : Nat → Root → List Nat}
  {cache : BeaconProposerCache} {currentSlot : Nat} {head : HeadInfo}

/-- Test proposers: every slot of an epoch goes to the validator numbered by the epoch plus the
decision root. -/
def sumProposers (epoch root : Nat) : List Nat := List.replicate 8 (epoch + root)

/-- Everything a run of proposer preparation can do: keep the cache and prepare, if anyone, the
proposer a cache hit under the key names; or compute the duties from the head, insert them, and
prepare, if anyone, the computed proposer of the prepare slot. -/
theorem prepareBeaconProposer_cases (chain : ChainView spec) (outcomes : PreparationOutcomes)
    (proposersOf : Nat → Root → List Nat) (cache : BeaconProposerCache) (currentSlot : Nat) :
    ((chain.prepareBeaconProposer outcomes proposersOf cache currentSlot).2 = cache ∧
      ∀ prepared, (chain.prepareBeaconProposer outcomes proposersOf cache currentSlot).1 = .ok (some prepared) →
        ∃ head, chain.headInfo = .ok head ∧ prepared.slot = currentSlot + 1 ∧ prepared.headBlockRoot = head.blockRoot ∧
          cache.getSlot spec (head.shufflingDecisionRoot spec (spec.epoch (currentSlot + 1))) (currentSlot + 1) =
            some prepared.validator) ∨
    (∃ proposers root,
      chain.computeProposerDutiesFromHead proposersOf outcomes.partialStateAdvance (spec.epoch (currentSlot + 1)) =
        .ok (proposers, root) ∧
      (chain.prepareBeaconProposer outcomes proposersOf cache currentSlot).2 =
        cache.insert (spec.epoch (currentSlot + 1)) root proposers ∧
      ∀ prepared, (chain.prepareBeaconProposer outcomes proposersOf cache currentSlot).1 = .ok (some prepared) →
        ∃ head, chain.headInfo = .ok head ∧ prepared.slot = currentSlot + 1 ∧ prepared.headBlockRoot = head.blockRoot ∧
          proposers[(currentSlot + 1) % spec.slotsPerEpoch]? = some prepared.validator) := by
  unfold prepareBeaconProposer
  dsimp only
  cases outcomes.slotIsPriorToBellatrix spec (currentSlot + 1)
  case true => exact .inl ⟨rfl, nofun⟩
  cases outcomes.executionLayer
  case false => exact .inl ⟨rfl, nofun⟩
  cases outcomes.anyProposerPreparationData
  case false => exact .inl ⟨rfl, nofun⟩
  simp only [Bool.not_true, Bool.false_eq_true, ↓reduceIte]
  cases info : chain.headInfo with
  | error => exact .inl ⟨rfl, nofun⟩
  | ok head =>
    dsimp only
    by_cases stale : head.slot + spec.slotsPerEpoch * prepareProposerHistoricEpochs < currentSlot
    · rw [if_pos stale]
      exact .inl ⟨rfl, nofun⟩
    rw [if_neg stale]
    cases hit : cache.getSlot spec (head.shufflingDecisionRoot spec (spec.epoch (currentSlot + 1))) (currentSlot + 1) with
    | some proposer =>
      refine .inl ⟨PreparationOutcomes.prepareFound_eq.1, fun prepared run => ?_⟩
      cases PreparationOutcomes.prepareFound_eq.2 prepared run
      exact ⟨head, rfl, rfl, rfl, hit⟩
    | none =>
      by_cases far : spec.epoch head.slot + 2 < spec.epoch (currentSlot + 1)
      · rw [if_pos far]
        exact .inl ⟨rfl, nofun⟩
      rw [if_neg far]
      cases computed : chain.computeProposerDutiesFromHead proposersOf outcomes.partialStateAdvance
          (spec.epoch (currentSlot + 1)) with
      | error => exact .inl ⟨rfl, nofun⟩
      | ok duties =>
        obtain ⟨proposers, root⟩ := duties
        dsimp only
        cases chosen : proposers[(currentSlot + 1) % spec.slotsPerEpoch]? with
        | none => exact .inl ⟨rfl, nofun⟩
        | some proposer =>
          dsimp only
          refine .inr ⟨proposers, root, rfl, ?_, ?_⟩
          · split
            · rfl
            · exact PreparationOutcomes.prepareFound_eq.1
          · intro prepared run
            split at run
            · cases run
            · cases PreparationOutcomes.prepareFound_eq.2 prepared run
              exact ⟨head, rfl, rfl, rfl, chosen⟩

theorem prepareBeaconProposer_prepared_on_head_chain (behind : chain.tree.slot chain.head ≤ currentSlot)
    (consistent : cache.Consistent proposersOf) {prepared : PreparedProposer}
    (run : (chain.prepareBeaconProposer outcomes proposersOf cache currentSlot).1 = .ok (some prepared)) :
    prepared.slot = currentSlot + 1 ∧ prepared.headBlockRoot = chain.head ∧
      (proposersOf (spec.epoch (currentSlot + 1))
          (chain.tree.rootAt chain.head (spec.startSlot (spec.epoch (currentSlot + 1)) - 1)))[(currentSlot + 1) %
            spec.slotsPerEpoch]? = some prepared.validator := by
  rcases prepareBeaconProposer_cases chain outcomes proposersOf cache currentSlot with
    ⟨-, hits⟩ | ⟨proposers, root, computed, -, found⟩
  · obtain ⟨head, info, slot, blockRoot, hit⟩ := hits prepared run
    refine ⟨slot, blockRoot.trans (headInfo_eq_ok info).2.1, ?_⟩
    rw [← shufflingDecisionRoot_eq_rootAt behind info]
    exact BeaconProposerCache.getSlot_of_consistent consistent hit
  · obtain ⟨head, info, slot, blockRoot, chosen⟩ := found prepared run
    exact ⟨slot, blockRoot.trans (headInfo_eq_ok info).2.1, (computeProposerDutiesFromHead_eq_ok computed).1 ▸ chosen⟩

/-- For a head at or before the current slot, from a consistent proposer cache, and on a chain
whose head at the genesis slot is the genesis block, every proposer that proposer preparation
prepares is the prepare slot's proposer on the head's chain, whether a cache hit or the computed
duties name it, and the cache stays consistent. -/
theorem prepareBeaconProposer_prepares_head_chain_proposer (behind : chain.tree.slot chain.head ≤ currentSlot)
    (consistent : cache.Consistent proposersOf)
    (genesis : chain.tree.slot chain.head = 0 → chain.head = chain.genesisBlockRoot) :
    (chain.prepareBeaconProposer outcomes proposersOf cache currentSlot).2.Consistent proposersOf ∧
    ∀ prepared, (chain.prepareBeaconProposer outcomes proposersOf cache currentSlot).1 = .ok (some prepared) →
      prepared.slot = currentSlot + 1 ∧ prepared.headBlockRoot = chain.head ∧
      (proposersOf (spec.epoch (currentSlot + 1))
          (chain.tree.rootAt chain.head (spec.startSlot (spec.epoch (currentSlot + 1)) - 1)))[(currentSlot + 1) %
            spec.slotsPerEpoch]? = some prepared.validator := by
  refine ⟨?_, fun _ run => prepareBeaconProposer_prepared_on_head_chain behind consistent run⟩
  rcases prepareBeaconProposer_cases chain outcomes proposersOf cache currentSlot with
    ⟨kept, -⟩ | ⟨proposers, root, computed, inserted, -⟩
  · rw [kept]
    exact consistent
  · obtain ⟨proposed, decided⟩ := computeProposerDutiesFromHead_eq_ok computed
    have named : proposers = proposersOf (spec.epoch (currentSlot + 1)) root := by
      rcases decided with rfl | ⟨atGenesis, rfl⟩
      · exact proposed
      · rw [proposed, BlockTree.rootAt_of_le (by omega), genesis atGenesis]
    rw [inserted, named]
    exact BeaconProposerCache.insert_consistent consistent

/-- Test outcomes: after Bellatrix, with an execution layer that holds preparation data for every
validator, and a state advance that succeeds. -/
def preparedOutcomes : PreparationOutcomes := ⟨some 0, true, true, fun _ => true, true⟩

theorem prepareBeaconProposer_prepares_head_chain_proposer_on_miss :
    everySlotView.tree.slot everySlotView.head ≤ 85 ∧ BeaconProposerCache.Consistent sumProposers [] ∧
    (everySlotView.tree.slot everySlotView.head = 0 → everySlotView.head = everySlotView.genesisBlockRoot) ∧
    ((everySlotView.prepareBeaconProposer preparedOutcomes sumProposers [] 85).2.Consistent sumProposers ∧
    ∀ prepared, (everySlotView.prepareBeaconProposer preparedOutcomes sumProposers [] 85).1 = .ok (some prepared) →
      prepared.slot = 85 + 1 ∧ prepared.headBlockRoot = everySlotView.head ∧
      (sumProposers (EthSpec.minimal.epoch (85 + 1))
          (everySlotView.tree.rootAt everySlotView.head (EthSpec.minimal.startSlot (EthSpec.minimal.epoch (85 + 1)) - 1)))[(85 + 1) %
            EthSpec.minimal.slotsPerEpoch]? = some prepared.validator) :=
  ⟨by decide, by decide, by decide,
    prepareBeaconProposer_prepares_head_chain_proposer (by decide) (by decide) (by decide)⟩

theorem prepareBeaconProposer_of_hit {proposer : Nat} (info : chain.headInfo = .ok head)
    (hit : cache.getSlot spec (head.shufflingDecisionRoot spec (spec.epoch (currentSlot + 1))) (currentSlot + 1) =
      some proposer) :
    chain.prepareBeaconProposer outcomes proposersOf cache currentSlot =
      if outcomes.slotIsPriorToBellatrix spec (currentSlot + 1) then (.ok none, cache)
      else if !outcomes.executionLayer then (.error .executionLayerMissing, cache)
      else if !outcomes.anyProposerPreparationData then (.ok none, cache)
      else if head.slot + spec.slotsPerEpoch * prepareProposerHistoricEpochs < currentSlot then (.ok none, cache)
      else outcomes.prepareFound head (currentSlot + 1) proposer cache := by
  unfold prepareBeaconProposer
  simp only [info, hit]

/-- For a head at or before the current slot, the key proposer preparation looks up is the
prepare epoch's proposer-shuffling decision root on the head's chain. On a hit there in a
consistent cache, the run keeps the cache and prepares the hit proposer for the prepare slot on
the head, whenever preparation is on and the head is not too stale, and no one else; and that
proposer is the one `compute_proposer_duties_from_head` computes for the prepare slot. -/
theorem prepareBeaconProposer_hit_matches_computed_duties
    (behind : chain.tree.slot chain.head ≤ currentSlot) (info : chain.headInfo = .ok head)
    (consistent : cache.Consistent proposersOf) {proposer : Nat}
    (hit : cache.getSlot spec (head.shufflingDecisionRoot spec (spec.epoch (currentSlot + 1))) (currentSlot + 1) =
      some proposer) :
    head.shufflingDecisionRoot spec (spec.epoch (currentSlot + 1)) =
        chain.tree.rootAt chain.head (spec.startSlot (spec.epoch (currentSlot + 1)) - 1) ∧
      (chain.prepareBeaconProposer outcomes proposersOf cache currentSlot).2 = cache ∧
      (∀ prepared, (chain.prepareBeaconProposer outcomes proposersOf cache currentSlot).1 = .ok (some prepared) →
        prepared = ⟨currentSlot + 1, chain.head, proposer⟩) ∧
      (outcomes.slotIsPriorToBellatrix spec (currentSlot + 1) = false → outcomes.executionLayer = true →
        outcomes.anyProposerPreparationData = true → outcomes.proposerPreparationData proposer = true →
        currentSlot ≤ chain.tree.slot chain.head + spec.slotsPerEpoch * prepareProposerHistoricEpochs →
        (chain.prepareBeaconProposer outcomes proposersOf cache currentSlot).1 =
          .ok (some ⟨currentSlot + 1, chain.head, proposer⟩)) ∧
      ∀ advance proposers root,
        chain.computeProposerDutiesFromHead proposersOf advance (spec.epoch (currentSlot + 1)) = .ok (proposers, root) →
          proposers[(currentSlot + 1) % spec.slotsPerEpoch]? = some proposer := by
  obtain ⟨slot, blockRoot, -⟩ := headInfo_eq_ok info
  have key := shufflingDecisionRoot_eq_rootAt behind info
  have run : chain.prepareBeaconProposer outcomes proposersOf cache currentSlot = _ := prepareBeaconProposer_of_hit info hit
  refine ⟨key, ?kept, fun prepared ran => ?named, fun notPrior layer any data fresh => ?ready,
    fun advance proposers root computed => ?computed⟩
  case kept =>
    rw [run]
    split_ifs <;> first | rfl | exact PreparationOutcomes.prepareFound_eq.1
  case named =>
    rw [run] at ran
    split_ifs at ran
    all_goals first | rw [PreparationOutcomes.prepareFound_eq.2 prepared ran, blockRoot] | simp at ran
  case ready =>
    rw [run, if_neg (by simp [notPrior]), if_neg (by simp [layer]), if_neg (by simp [any]), if_neg (by omega)]
    simp [PreparationOutcomes.prepareFound, data, blockRoot]
  case computed =>
    rw [(computeProposerDutiesFromHead_eq_ok computed).1, ← key]
    exact BeaconProposerCache.getSlot_of_consistent consistent hit

theorem prepareBeaconProposer_hit_matches_computed_duties_in_head_epoch :
    everySlotView.tree.slot everySlotView.head ≤ 85 ∧ everySlotView.headInfo = .ok ⟨80, 80, 79⟩ ∧
    BeaconProposerCache.Consistent sumProposers [((10, 79), sumProposers 10 79)] ∧
    BeaconProposerCache.getSlot EthSpec.minimal [((10, 79), sumProposers 10 79)]
        (HeadInfo.shufflingDecisionRoot EthSpec.minimal ⟨80, 80, 79⟩ (EthSpec.minimal.epoch (85 + 1))) (85 + 1) = some 89 ∧
    (HeadInfo.shufflingDecisionRoot EthSpec.minimal ⟨80, 80, 79⟩ (EthSpec.minimal.epoch (85 + 1)) =
        everySlotView.tree.rootAt everySlotView.head (EthSpec.minimal.startSlot (EthSpec.minimal.epoch (85 + 1)) - 1) ∧
      (everySlotView.prepareBeaconProposer preparedOutcomes sumProposers [((10, 79), sumProposers 10 79)] 85).2 =
        [((10, 79), sumProposers 10 79)] ∧
      (∀ prepared, (everySlotView.prepareBeaconProposer preparedOutcomes sumProposers
          [((10, 79), sumProposers 10 79)] 85).1 = .ok (some prepared) → prepared = ⟨85 + 1, everySlotView.head, 89⟩) ∧
      (preparedOutcomes.slotIsPriorToBellatrix EthSpec.minimal (85 + 1) = false → preparedOutcomes.executionLayer = true →
        preparedOutcomes.anyProposerPreparationData = true → preparedOutcomes.proposerPreparationData 89 = true →
        85 ≤ everySlotView.tree.slot everySlotView.head + EthSpec.minimal.slotsPerEpoch * prepareProposerHistoricEpochs →
        (everySlotView.prepareBeaconProposer preparedOutcomes sumProposers [((10, 79), sumProposers 10 79)] 85).1 =
          .ok (some ⟨85 + 1, everySlotView.head, 89⟩)) ∧
      ∀ advance proposers root,
        everySlotView.computeProposerDutiesFromHead sumProposers advance (EthSpec.minimal.epoch (85 + 1)) =
            .ok (proposers, root) →
          proposers[(85 + 1) % EthSpec.minimal.slotsPerEpoch]? = some 89) :=
  ⟨by decide, by decide, by decide, by decide,
    prepareBeaconProposer_hit_matches_computed_duties (by decide) (by decide) (by decide) (by decide)⟩

end ChainView

end BeaconChain
