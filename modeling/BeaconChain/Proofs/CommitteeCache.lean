import BeaconChain.CommitteeCache
import BeaconChain.Proofs.BlockRoots

/-! The miss path of `with_committee_cache` builds from a state of the block in the requested
epoch or the one before, so `from_epoch` always succeeds and the shuffling cache only ever maps an
id to the committees of its own epoch and decision block. -/

namespace BeaconChain

variable {spec : EthSpec} {tree : BlockTree spec}

theorem idForEpoch_eq_some {root : Root} {epoch : Nat} {id : AttestationShufflingId}
    (yields : (tree.blockShufflingIds root).idForEpoch epoch = some id) :
    spec.epoch (tree.slot root) ≤ epoch ∧ id = tree.shufflingId root epoch := by
  simp only [BlockTree.blockShufflingIds, BlockShufflingIds.idForEpoch, BlockTree.shufflingId] at yields
  split_ifs at yields with current next later <;> cases yields
  · exact ⟨Nat.le_of_eq current.symm, by rw [current]; rfl⟩
  · exact ⟨by omega, by rw [next]; rfl⟩
  · have past : tree.slot root ≤ BeaconState.attesterShufflingDecisionSlot spec epoch := by
      have := spec.lt_startSlot_epoch_succ (tree.slot root)
      have := spec.startSlot_mono (show spec.epoch (tree.slot root) + 1 ≤ epoch - 1 by omega)
      simp only [BeaconState.attesterShufflingDecisionSlot]
      omega
    exact ⟨by omega, by rw [BlockTree.shufflingId, BlockTree.rootAt_of_le past]⟩

theorem RelativeEpoch.fromEpoch_of_near {base other : Nat} (above : base ≤ other) (near : other ≤ base + 1) :
    ∃ relativeEpoch, fromEpoch base other = .ok relativeEpoch ∧ relativeEpoch.intoEpoch base = other := by
  unfold fromEpoch
  split
  · exact ⟨.previous, rfl, by simp [intoEpoch, *]⟩
  split
  · exact ⟨.current, rfl, by simp [intoEpoch, *]⟩
  split
  · exact ⟨.next, rfl, by simp [intoEpoch, *]⟩
  omega

/-- The shuffling cache maps every id to the committees of the id's epoch and decision block,
the committees the id names. -/
def ShufflingCache.Consistent (cache : ShufflingCache) : Prop :=
  ∀ entry ∈ cache, entry.2 = ⟨entry.1.shufflingEpoch, entry.1.shufflingDecisionBlock⟩

instance ShufflingCache.decidableConsistent (cache : ShufflingCache) : Decidable cache.Consistent :=
  inferInstanceAs (Decidable (∀ entry ∈ cache, _))

namespace ChainView

variable {chain : ChainView spec} {outcomes : CommitteeOutcomes} {headBlockRoot : Root}

theorem loadCommitteeState_eq_ok {targetSlot : Nat} {state : BeaconState}
    (reaches : chain.tree.slot headBlockRoot ≤ targetSlot)
    (loaded : chain.loadCommitteeState outcomes headBlockRoot targetSlot = .ok state) :
    state.latestBlockRoot = headBlockRoot ∧ chain.tree.slot headBlockRoot ≤ state.slot ∧
      state.slot ≤ targetSlot := by
  unfold loadCommitteeState at loaded
  split at loaded
  · next isHead =>
    cases loaded
    subst isHead
    exact ⟨rfl, le_rfl, reaches⟩
  · split at loaded <;> cases loaded
    exact ⟨rfl, Nat.le_max_left _ _, max_le reaches (Nat.sub_le _ _)⟩

/-- For an epoch at or after the block's, the state the miss path builds from is a state of the
block in the requested epoch or the one before. A state still two epochs behind is advanced to
the first slot of the epoch before, which the block cannot be past. -/
theorem committeeState_eq_ok {shufflingEpoch : Nat} {state : BeaconState}
    (after : spec.epoch (chain.tree.slot headBlockRoot) ≤ shufflingEpoch)
    (built : chain.committeeState outcomes headBlockRoot shufflingEpoch = .ok state) :
    state.latestBlockRoot = headBlockRoot ∧ state.currentEpoch spec ≤ shufflingEpoch ∧
      shufflingEpoch ≤ state.currentEpoch spec + 1 := by
  unfold committeeState at built
  cases loaded : chain.loadCommitteeState outcomes headBlockRoot
      (max (spec.startSlot (shufflingEpoch - 1)) (chain.tree.slot headBlockRoot)) with
  | error => simp only [loaded] at built; cases built
  | ok loadedState =>
    simp only [loaded] at built
    obtain ⟨latest, above, below⟩ := loadCommitteeState_eq_ok (Nat.le_max_right _ _) loaded
    have blockEpoch := spec.epoch_mono above
    have targetEarly : max (spec.startSlot (shufflingEpoch - 1)) (chain.tree.slot headBlockRoot) <
        spec.startSlot (shufflingEpoch + 1) :=
      max_lt (spec.startSlot_lt_startSlot.mpr (by omega)) (spec.epoch_lt_iff.mp (by omega))
    have loadedEpoch : loadedState.currentEpoch spec < shufflingEpoch + 1 :=
      spec.epoch_lt_iff.mpr (Nat.lt_of_le_of_lt below targetEarly)
    split_ifs at built with behind <;> cases built
    · have blockBefore : chain.tree.slot headBlockRoot ≤ spec.startSlot (shufflingEpoch - 1) :=
        Nat.le_of_lt (spec.epoch_lt_iff.mp (by simp only [BeaconState.currentEpoch] at behind; omega))
      simp only [BeaconState.currentEpoch, max_eq_left blockBefore, spec.epoch_startSlot]
      exact ⟨latest, by omega, by omega⟩
    · exact ⟨latest, by omega, by omega⟩

theorem loadCommitteeState_error {targetSlot : Nat} {e : Error}
    (failed : chain.loadCommitteeState outcomes headBlockRoot targetSlot = .error e) :
    e = .dbError ∨ e = .missingBeaconState headBlockRoot := by
  unfold loadCommitteeState at failed
  split at failed
  · cases failed
  · split at failed <;> cases failed <;> simp

theorem committeeState_error {shufflingEpoch : Nat} {e : Error}
    (failed : chain.committeeState outcomes headBlockRoot shufflingEpoch = .error e) :
    e = .dbError ∨ e = .missingBeaconState headBlockRoot ∨ e = .stateAdvanceError := by
  unfold committeeState at failed
  cases loaded : chain.loadCommitteeState outcomes headBlockRoot
      (max (spec.startSlot (shufflingEpoch - 1)) (chain.tree.slot headBlockRoot)) with
  | error =>
    simp only [loaded, Except.error.injEq] at failed
    subst failed
    exact (loadCommitteeState_error loaded).imp_right Or.inl
  | ok =>
    simp only [loaded] at failed
    split_ifs at failed
    cases failed
    simp

theorem committeeCacheOnMiss_eq {shufflingEpoch : Nat}
    (after : spec.epoch (chain.tree.slot headBlockRoot) ≤ shufflingEpoch) :
    (∀ e, chain.committeeCacheOnMiss outcomes headBlockRoot shufflingEpoch ≠
        .error (.incorrectStateForAttestation e)) ∧
    ∀ committeeCache, chain.committeeCacheOnMiss outcomes headBlockRoot shufflingEpoch = .ok committeeCache →
      committeeCache = ⟨shufflingEpoch, (chain.tree.shufflingId headBlockRoot shufflingEpoch).shufflingDecisionBlock⟩ := by
  unfold committeeCacheOnMiss
  cases built : chain.committeeState outcomes headBlockRoot shufflingEpoch with
  | error e =>
    refine ⟨fun e' same => ?_, fun _ wrong => by cases wrong⟩
    cases same
    rcases committeeState_error built with wrong | wrong | wrong <;> cases wrong
  | ok state =>
    obtain ⟨latest, below, above⟩ := committeeState_eq_ok after built
    obtain ⟨relativeEpoch, fromOk, into⟩ := RelativeEpoch.fromEpoch_of_near below above
    simp only [fromOk]
    cases outcomes.buildCommitteeCache with
    | error => exact ⟨fun _ wrong => (by cases wrong), fun _ wrong => (by cases wrong)⟩
    | ok =>
      refine ⟨fun _ wrong => (by cases wrong), fun _ built => ?_⟩
      cases built
      simp only [BeaconState.committeeCache, into, latest, BlockTree.shufflingId]

variable {forkChoice : ForkChoice} {cache : ShufflingCache} {shufflingEpoch : Nat}
  {shufflingId : AttestationShufflingId}

/-- Everything a run of `with_committee_cache` can do for a block with a shuffling id for the
epoch: a hit, a failure that leaves the cache as it was, or a miss whose committee cache is
returned and inserted under the id. The id exists only from the block's epoch on, so the guard
against too old an epoch never fires. -/
theorem withCommitteeCache_cases
    (yields : (chain.tree.blockShufflingIds headBlockRoot).idForEpoch shufflingEpoch = some shufflingId) :
    (∃ committeeCache, cache.lookup shufflingId = some committeeCache ∧
      chain.withCommitteeCache outcomes forkChoice cache headBlockRoot shufflingEpoch =
        (.ok (committeeCache, shufflingId.shufflingDecisionBlock), cache)) ∨
    (∃ e, chain.withCommitteeCache outcomes forkChoice cache headBlockRoot shufflingEpoch = (.error e, cache) ∧
      (e = .missingBeaconBlock headBlockRoot ∨ e = .attestationCacheLockTimeout ∨
        chain.committeeCacheOnMiss outcomes headBlockRoot shufflingEpoch = .error e)) ∨
    (∃ committeeCache, cache.lookup shufflingId = none ∧
      chain.committeeCacheOnMiss outcomes headBlockRoot shufflingEpoch = .ok committeeCache ∧
      chain.withCommitteeCache outcomes forkChoice cache headBlockRoot shufflingEpoch =
        (.ok (committeeCache, shufflingId.shufflingDecisionBlock), (shufflingId, committeeCache) :: cache)) := by
  unfold withCommitteeCache
  simp only [yields]
  cases known : forkChoice.containsBlock headBlockRoot
  · exact .inr (.inl ⟨_, rfl, by simp⟩)
  cases locked : outcomes.cacheLock
  · exact .inr (.inl ⟨_, rfl, by simp⟩)
  cases hit : cache.lookup shufflingId with
  | some committeeCache => exact .inl ⟨_, rfl, rfl⟩
  | none =>
    have tooOld : ¬spec.epoch (chain.tree.slot headBlockRoot) > shufflingEpoch + 1 := by
      have := (idForEpoch_eq_some yields).1
      omega
    cases miss : chain.committeeCacheOnMiss outcomes headBlockRoot shufflingEpoch with
    | error e => exact .inr (.inl ⟨e, by simp [tooOld, miss], by simp⟩)
    | ok committeeCache =>
      cases inserted : outcomes.insertLock
      · exact .inr (.inl ⟨.attestationCacheLockTimeout, by simp [tooOld, miss, inserted], by simp⟩)
      · exact .inr (.inr ⟨_, rfl, rfl, by simp [tooOld, miss, inserted]⟩)

/-- For a block with a shuffling id for the epoch, the state a cache miss builds from (the head
snapshot's or the store's, advanced or not) is a state of the block in the requested epoch or the
one before; no run fails in `from_epoch`; a successful miss returns the committee cache of the
requested epoch and the id's decision block and inserts it under the id; and a failed run or a
hit leaves the shuffling cache as it was. -/
theorem withCommitteeCache_miss_builds_requested_epoch
    (yields : (chain.tree.blockShufflingIds headBlockRoot).idForEpoch shufflingEpoch = some shufflingId) :
    (∀ state, chain.committeeState outcomes headBlockRoot shufflingEpoch = .ok state →
      state.latestBlockRoot = headBlockRoot ∧
        (state.currentEpoch spec = shufflingEpoch - 1 ∨ state.currentEpoch spec = shufflingEpoch)) ∧
    (∀ e, (chain.withCommitteeCache outcomes forkChoice cache headBlockRoot shufflingEpoch).1 ≠
      .error (.incorrectStateForAttestation e)) ∧
    (∀ committeeCache root,
      (chain.withCommitteeCache outcomes forkChoice cache headBlockRoot shufflingEpoch).1 = .ok (committeeCache, root) →
      cache.lookup shufflingId = none →
        committeeCache = ⟨shufflingEpoch, shufflingId.shufflingDecisionBlock⟩ ∧
          (chain.withCommitteeCache outcomes forkChoice cache headBlockRoot shufflingEpoch).2 =
            (shufflingId, committeeCache) :: cache) ∧
    (∀ e, (chain.withCommitteeCache outcomes forkChoice cache headBlockRoot shufflingEpoch).1 = .error e →
      (chain.withCommitteeCache outcomes forkChoice cache headBlockRoot shufflingEpoch).2 = cache) ∧
    (∀ stored, cache.lookup shufflingId = some stored →
      (chain.withCommitteeCache outcomes forkChoice cache headBlockRoot shufflingEpoch).2 = cache) := by
  obtain ⟨after, rfl⟩ := idForEpoch_eq_some yields
  refine ⟨fun state built => ?_, ?_⟩
  · obtain ⟨latest, below, above⟩ := committeeState_eq_ok after built
    exact ⟨latest, by omega⟩
  rcases withCommitteeCache_cases yields with ⟨_, hit, run⟩ | ⟨failure, run, cause⟩ | ⟨_, miss, built, run⟩ <;>
    rw [run]
  · exact ⟨nofun, fun _ _ _ miss => Option.noConfusion (hit.symm.trans miss), fun _ _ => rfl, fun _ _ => rfl⟩
  · refine ⟨?_, nofun, fun _ _ => rfl, fun _ _ => rfl⟩
    rintro e ⟨⟩
    rcases cause with wrong | wrong | miss
    · cases wrong
    · cases wrong
    · exact (committeeCacheOnMiss_eq after).1 e miss
  · refine ⟨nofun, ?_, nofun, fun _ hit => by simp [miss] at hit⟩
    rintro _ _ ⟨⟩ -
    exact ⟨(committeeCacheOnMiss_eq after).2 _ built, rfl⟩

theorem withCommitteeCache_miss_builds_requested_epoch_after_skips :
    (everySlotView.tree.blockShufflingIds 80).idForEpoch 12 = some ⟨12, 80⟩ ∧
    ((∀ state, everySlotView.committeeState ⟨true, .ok none, true, .ok (), true⟩ 80 12 = .ok state →
      state.latestBlockRoot = 80 ∧
        (state.currentEpoch EthSpec.minimal = 12 - 1 ∨ state.currentEpoch EthSpec.minimal = 12)) ∧
    (∀ e, (everySlotView.withCommitteeCache ⟨true, .ok none, true, .ok (), true⟩ ⟨[80], ⟨0, 0⟩⟩ [] 80 12).1 ≠
      .error (.incorrectStateForAttestation e)) ∧
    (∀ committeeCache root,
      (everySlotView.withCommitteeCache ⟨true, .ok none, true, .ok (), true⟩ ⟨[80], ⟨0, 0⟩⟩ [] 80 12).1 =
        .ok (committeeCache, root) →
      ([] : ShufflingCache).lookup ⟨12, 80⟩ = none →
        committeeCache = ⟨12, 80⟩ ∧
          (everySlotView.withCommitteeCache ⟨true, .ok none, true, .ok (), true⟩ ⟨[80], ⟨0, 0⟩⟩ [] 80 12).2 =
            [(⟨12, 80⟩, committeeCache)]) ∧
    (∀ e, (everySlotView.withCommitteeCache ⟨true, .ok none, true, .ok (), true⟩ ⟨[80], ⟨0, 0⟩⟩ [] 80 12).1 =
        .error e →
      (everySlotView.withCommitteeCache ⟨true, .ok none, true, .ok (), true⟩ ⟨[80], ⟨0, 0⟩⟩ [] 80 12).2 = []) ∧
    (∀ stored, ([] : ShufflingCache).lookup ⟨12, 80⟩ = some stored →
      (everySlotView.withCommitteeCache ⟨true, .ok none, true, .ok (), true⟩ ⟨[80], ⟨0, 0⟩⟩ [] 80 12).2 = [])) :=
  ⟨by decide, withCommitteeCache_miss_builds_requested_epoch (by decide)⟩

/-- A consistent shuffling cache stays consistent over every run, and every committee cache a run
hands to `map_fn` is the one of the requested epoch under the decision block it hands with it,
the block's latest block at the epoch's decision slot. So a hit and a miss for the same id give
the same committees. -/
theorem withCommitteeCache_returns_decided_committees (consistent : cache.Consistent)
    (yields : (chain.tree.blockShufflingIds headBlockRoot).idForEpoch shufflingEpoch = some shufflingId) :
    (chain.withCommitteeCache outcomes forkChoice cache headBlockRoot shufflingEpoch).2.Consistent ∧
    ∀ committeeCache root,
      (chain.withCommitteeCache outcomes forkChoice cache headBlockRoot shufflingEpoch).1 = .ok (committeeCache, root) →
        committeeCache = ⟨shufflingEpoch, root⟩ ∧
          root = chain.tree.rootAt headBlockRoot (BeaconState.attesterShufflingDecisionSlot spec shufflingEpoch) := by
  obtain ⟨after, rfl⟩ := idForEpoch_eq_some yields
  rcases withCommitteeCache_cases yields with ⟨stored, hit, run⟩ | ⟨_, run, -⟩ | ⟨built, -, miss, run⟩ <;>
    rw [run]
  · refine ⟨consistent, ?_⟩
    rintro _ _ ⟨⟩
    obtain ⟨_, _, split, -⟩ := List.lookup_eq_some_iff.mp hit
    exact ⟨consistent (chain.tree.shufflingId headBlockRoot shufflingEpoch, stored) (by simp [split]), rfl⟩
  · exact ⟨consistent, nofun⟩
  · rw [(committeeCacheOnMiss_eq after).2 built miss]
    refine ⟨?_, ?_⟩
    · simp only [ShufflingCache.Consistent, List.mem_cons, forall_eq_or_imp]
      exact ⟨rfl, consistent⟩
    · rintro _ _ ⟨⟩
      exact ⟨rfl, rfl⟩

theorem withCommitteeCache_returns_decided_committees_after_skips :
    ShufflingCache.Consistent [] ∧
    (everySlotView.tree.blockShufflingIds 80).idForEpoch 12 = some ⟨12, 80⟩ ∧
    (everySlotView.withCommitteeCache ⟨true, .ok none, true, .ok (), true⟩ ⟨[80], ⟨0, 0⟩⟩ [] 80 12).2.Consistent ∧
    ∀ committeeCache root,
      (everySlotView.withCommitteeCache ⟨true, .ok none, true, .ok (), true⟩ ⟨[80], ⟨0, 0⟩⟩ [] 80 12).1 =
          .ok (committeeCache, root) →
        committeeCache = ⟨12, root⟩ ∧
          root = everySlotView.tree.rootAt 80 (BeaconState.attesterShufflingDecisionSlot EthSpec.minimal 12) :=
  have yields : (everySlotView.tree.blockShufflingIds 80).idForEpoch 12 = some ⟨12, 80⟩ := by decide
  ⟨by decide, yields, withCommitteeCache_returns_decided_committees (by decide) yields⟩

end ChainView

end BeaconChain
