import BeaconChain.ImportBlock

/-! Where a run of `import_block` can end. Before `on_block` every exit leaves the chain as it
was; after it, a successful run has written the block and its post-state, and a failed run has
reloaded fork choice or left the block unstored, possibly in the early attester cache. -/

namespace BeaconChain

open ImportStep

/-- The exits of `import_block` after `on_block`, from the chain `base` that holds the block in
fork choice: the successful write, a failed write that reloads fork choice, and every other
failure, which keeps fork choice. -/
def AfterOnBlock (base : Chain) (blockRoot : Root) (run : ImportRun) : Prop :=
  run.chain.canonicalHead = base.canonicalHead ∧ run.chain.persistedForkChoice = base.persistedForkChoice ∧
    run.chain.shutdownRequested = base.shutdownRequested ∧
    ((run.result = .ok blockRoot ∧ run.trace = [lockForkChoice, onBlock, storeWrite, unlockForkChoice] ∧
        run.chain.forkChoice = base.forkChoice ∧ run.chain.stored = blockRoot :: base.stored) ∨
      ((∃ error, run.result = .error error) ∧ run.chain.stored = base.stored ∧
        ((run.trace = [lockForkChoice, onBlock, restoreForkChoice, unlockForkChoice] ∧
            some run.chain.forkChoice = base.persistedForkChoice) ∨
          (run.trace = [lockForkChoice, onBlock, unlockForkChoice] ∧ run.chain.forkChoice = base.forkChoice))))

theorem writeBlock_afterOnBlock (outcomes : ImportOutcomes) (chain : Chain) (blockRoot : Root) :
    AfterOnBlock chain blockRoot (writeBlock outcomes chain blockRoot) := by
  unfold writeBlock
  repeat' split
  all_goals simp_all [AfterOnBlock]

theorem commitBlock_afterOnBlock (outcomes : ImportOutcomes) (chain : Chain) (blockRoot : Root) :
    AfterOnBlock chain blockRoot (commitBlock outcomes chain blockRoot) := by
  unfold commitBlock
  split
  · simp [AfterOnBlock]
  · simp [AfterOnBlock]
  · split
    · simp [AfterOnBlock]
    · simp [AfterOnBlock]
    · simpa [AfterOnBlock] using writeBlock_afterOnBlock outcomes _ blockRoot

/-- A run whose database write succeeds never reloads fork choice. -/
theorem commitBlock_forkChoice_of_written {outcomes : ImportOutcomes} (written : outcomes.doAtomically = .ok ())
    (chain : Chain) (blockRoot : Root) : (commitBlock outcomes chain blockRoot).chain.forkChoice = chain.forkChoice := by
  unfold commitBlock writeBlock
  simp only [written, cacheEarlyAttesterHead_eq]
  repeat' split
  all_goals rfl

theorem writeBlock_earlyAttesterCache (outcomes : ImportOutcomes) (chain : Chain) (blockRoot : Root) :
    (writeBlock outcomes chain blockRoot).chain.earlyAttesterCache = chain.earlyAttesterCache := by
  unfold writeBlock
  repeat' split
  all_goals rfl

/-- The early attester cache takes the block when the attestation loop passed, `get_head` picked
the block, fork choice holds it and `add_head_block` succeeded; the later steps never touch it. -/
theorem commitBlock_earlyAttesterCache (outcomes : ImportOutcomes) (chain : Chain) (blockRoot : Root) :
    (commitBlock outcomes chain blockRoot).chain.earlyAttesterCache =
      if outcomes.blockAttestations = .ok () ∧ outcomes.earlyAttesterHead = some (.ok blockRoot) ∧
          chain.forkChoice.containsBlock blockRoot = true ∧ outcomes.addHeadBlock = true
      then some blockRoot else chain.earlyAttesterCache := by
  unfold commitBlock
  split
  · next failed => simp [failed]
  · next failed => simp [failed]
  · split <;> simp_all [writeBlock_earlyAttesterCache]

variable {spec : EthSpec} (tree : BlockTree spec)

/-- The exits of `import_block`: it returns before `on_block` with nothing changed, or it passed
the finalized-descendant and weak subjectivity checks and `on_block`, and went on with the chain
holding the block in fork choice. -/
theorem importBlock_cases (weakSubjectivityCheckpoint : Option Checkpoint) (outcomes : ImportOutcomes)
    (chain : Chain) (blockRoot : Root) :
    ((∃ error, (importBlock tree weakSubjectivityCheckpoint outcomes chain blockRoot).result = .error error) ∧
        onBlock ∉ (importBlock tree weakSubjectivityCheckpoint outcomes chain blockRoot).trace ∧
        { (importBlock tree weakSubjectivityCheckpoint outcomes chain blockRoot).chain with
            shutdownRequested := chain.shutdownRequested } = chain) ∨
      (∃ forkChoice, checkBlockIsFinalizedDescendant tree chain.forkChoice chain.stored blockRoot = .ok () ∧
        weakSubjectivityCheck tree weakSubjectivityCheckpoint chain.forkChoice.finalizedCheckpoint blockRoot
          (BeaconState.ofBlock tree blockRoot) = .ok () ∧
        chain.forkChoice.onBlock tree blockRoot (BeaconState.ofBlock tree blockRoot) = .ok forkChoice ∧
        importBlock tree weakSubjectivityCheckpoint outcomes chain blockRoot =
          commitBlock outcomes { chain with forkChoice := forkChoice } blockRoot) := by
  unfold importBlock
  dsimp only
  cases outcomes.beforeLock with
  | error error => simp
  | ok =>
    cases descendant : checkBlockIsFinalizedDescendant tree chain.forkChoice chain.stored blockRoot with
    | error error => simp
    | ok =>
      cases checked : weakSubjectivityCheck tree weakSubjectivityCheckpoint chain.forkChoice.finalizedCheckpoint
        blockRoot (BeaconState.ofBlock tree blockRoot) with
      | error error => cases outcomes.shutdownSent <;> simp
      | ok =>
        cases outcomes.blockDelay with
        | none => simp
        | some delay =>
          cases outcomes.onBlock with
          | error error => simp
          | ok =>
            cases added : chain.forkChoice.onBlock tree blockRoot (BeaconState.ofBlock tree blockRoot) with
            | error error => simp
            | ok forkChoice => exact .inr ⟨forkChoice, rfl, rfl, rfl, rfl⟩

/-- What a run of `import_block` does to fork choice: nothing, a reload of the persisted copy,
or `on_block` after both checks passed; the persisted copy and the canonical head stay. -/
theorem importBlock_forkChoice (weakSubjectivityCheckpoint : Option Checkpoint) (outcomes : ImportOutcomes)
    (chain : Chain) (blockRoot : Root) :
    let run := importBlock tree weakSubjectivityCheckpoint outcomes chain blockRoot
    run.chain.persistedForkChoice = chain.persistedForkChoice ∧ run.chain.canonicalHead = chain.canonicalHead ∧
      (run.chain.forkChoice = chain.forkChoice ∨ some run.chain.forkChoice = chain.persistedForkChoice ∨
        (weakSubjectivityCheck tree weakSubjectivityCheckpoint chain.forkChoice.finalizedCheckpoint blockRoot
            (BeaconState.ofBlock tree blockRoot) = .ok () ∧
          chain.forkChoice.onBlock tree blockRoot (BeaconState.ofBlock tree blockRoot) = .ok run.chain.forkChoice)) := by
  rcases importBlock_cases tree weakSubjectivityCheckpoint outcomes chain blockRoot with
    ⟨-, -, unchanged⟩ | ⟨forkChoice, -, checked, added, committed⟩
  · have persisted := congrArg Chain.persistedForkChoice unchanged
    have head := congrArg Chain.canonicalHead unchanged
    have forkChoice := congrArg Chain.forkChoice unchanged
    exact ⟨persisted, head, Or.inl forkChoice⟩
  · obtain ⟨head, persisted, -, exit⟩ := committed ▸ commitBlock_afterOnBlock outcomes _ blockRoot
    refine ⟨persisted, head, ?_⟩
    rcases exit with ⟨-, -, kept, -⟩ | ⟨-, -, ⟨-, reloaded⟩ | ⟨-, kept⟩⟩
    · exact Or.inr (Or.inr ⟨checked, kept ▸ added⟩)
    · exact Or.inr (Or.inl reloaded)
    · exact Or.inr (Or.inr ⟨checked, kept ▸ added⟩)

/-- With a successful database write, `import_block` leaves fork choice as it was or as
`on_block` made it. -/
theorem importBlock_forkChoice_of_written (weakSubjectivityCheckpoint : Option Checkpoint) {outcomes : ImportOutcomes}
    (written : outcomes.doAtomically = .ok ()) (chain : Chain) (blockRoot : Root) :
    (importBlock tree weakSubjectivityCheckpoint outcomes chain blockRoot).chain.forkChoice = chain.forkChoice ∨
      chain.forkChoice.onBlock tree blockRoot (BeaconState.ofBlock tree blockRoot) =
        .ok (importBlock tree weakSubjectivityCheckpoint outcomes chain blockRoot).chain.forkChoice := by
  rcases importBlock_cases tree weakSubjectivityCheckpoint outcomes chain blockRoot with
    ⟨-, -, unchanged⟩ | ⟨forkChoice, -, -, added, committed⟩
  · have forkChoice := congrArg Chain.forkChoice unchanged
    exact Or.inl forkChoice
  · rw [committed, commitBlock_forkChoice_of_written written _ blockRoot]
    exact Or.inr added

/-- Every exit of `import_block` for a block that fork choice and the store do not hold yet: a
successful run wrote the block and its post-state before releasing the fork-choice lock; a run
that fails before `on_block` leaves fork choice and the early attester cache without the block;
a failed write that finds a persisted fork choice puts it in place before the lock is released;
and every other failure after `on_block` leaves the block in fork choice but not in the store. -/
theorem importBlock_exit_paths (weakSubjectivityCheckpoint : Option Checkpoint) (outcomes : ImportOutcomes)
    (chain : Chain) (blockRoot : Root) (absent : chain.forkChoice.containsBlock blockRoot = false)
    (unstored : blockRoot ∉ chain.stored) :
    let run := importBlock tree weakSubjectivityCheckpoint outcomes chain blockRoot
    (run.result = .ok blockRoot →
        run.trace = [lockForkChoice, onBlock, storeWrite, unlockForkChoice] ∧ blockRoot ∈ run.chain.stored ∧
          run.chain.forkChoice.containsBlock blockRoot = true) ∧
      (run.result ≠ .ok blockRoot →
        (onBlock ∉ run.trace ∧ run.chain.forkChoice.containsBlock blockRoot = false ∧
            run.chain.earlyAttesterCache = chain.earlyAttesterCache) ∨
          (run.trace = [lockForkChoice, onBlock, restoreForkChoice, unlockForkChoice] ∧
            some run.chain.forkChoice = chain.persistedForkChoice) ∨
          (run.trace = [lockForkChoice, onBlock, unlockForkChoice] ∧
            run.chain.forkChoice.containsBlock blockRoot = true ∧ blockRoot ∉ run.chain.stored)) := by
  intro run
  rcases importBlock_cases tree weakSubjectivityCheckpoint outcomes chain blockRoot with
    ⟨⟨error, failed⟩, noOnBlock, unchanged⟩ | ⟨forkChoice, -, -, added, committed⟩
  · have same := congrArg Chain.forkChoice unchanged
    have cache := congrArg Chain.earlyAttesterCache unchanged
    simp only at same cache
    refine ⟨fun ok => by simp [run, failed] at ok, fun _ => Or.inl ⟨noOnBlock, ?_, cache⟩⟩
    rw [show run.chain.forkChoice = chain.forkChoice from same, absent]
  · have holds : forkChoice.containsBlock blockRoot = true := by
      rw [(ForkChoice.onBlock_eq_ok tree chain.forkChoice added).2.2]
      exact ForkChoice.containsBlock_addBlock _ _ _
    obtain ⟨-, -, -, after⟩ := committed ▸ commitBlock_afterOnBlock outcomes _ blockRoot
    rcases after with ⟨ok, trace, kept, stored⟩ | ⟨⟨error, failed⟩, stored, ⟨trace, reloaded⟩ | ⟨trace, kept⟩⟩
    · exact ⟨fun _ => ⟨trace, by simp [run, stored], by simp [run, kept, holds]⟩, fun notOk => absurd ok notOk⟩
    · exact ⟨fun ok => by simp [run, failed] at ok, fun _ => Or.inr (Or.inl ⟨trace, reloaded⟩)⟩
    · refine ⟨fun ok => by simp [run, failed] at ok, fun _ => Or.inr (Or.inr ⟨trace, by simp [run, kept, holds], ?_⟩)⟩
      simpa [run, stored] using unstored

/-- Genesis at slot 0 and every other block a child of genesis at the slot of its root. -/
def genesisChildren : BlockTree EthSpec.minimal where
  slot := id
  parent := fun _ => 0
  finalizedEpoch := fun _ => 0
  parent_slot_lt := fun _ pos => pos
  finalized_start_le := fun _ => Nat.zero_le _

/-- A node that holds only genesis, in fork choice and in the store, with no persisted fork
choice. -/
def genesisChain : Chain := ⟨⟨[0], ⟨0, 0⟩⟩, 0, none, [0], none, false⟩

/-- Every collaborator of `import_block` succeeds. -/
def importSucceeds : ImportOutcomes :=
  ⟨.ok (), true, some 0, .ok (), .ok (), none, true, .ok (), .ok 0, .ok (), .ok ()⟩

theorem importBlock_exit_paths_at_first_block :
    genesisChain.forkChoice.containsBlock 1 = false ∧ 1 ∉ genesisChain.stored ∧
      let run := importBlock genesisChildren none importSucceeds genesisChain 1
      (run.result = .ok 1 →
          run.trace = [lockForkChoice, onBlock, storeWrite, unlockForkChoice] ∧ 1 ∈ run.chain.stored ∧
            run.chain.forkChoice.containsBlock 1 = true) ∧
        (run.result ≠ .ok 1 →
          (onBlock ∉ run.trace ∧ run.chain.forkChoice.containsBlock 1 = false ∧
              run.chain.earlyAttesterCache = genesisChain.earlyAttesterCache) ∨
            (run.trace = [lockForkChoice, onBlock, restoreForkChoice, unlockForkChoice] ∧
              some run.chain.forkChoice = genesisChain.persistedForkChoice) ∨
            (run.trace = [lockForkChoice, onBlock, unlockForkChoice] ∧
              run.chain.forkChoice.containsBlock 1 = true ∧ 1 ∉ run.chain.stored)) :=
  ⟨by decide, by decide, importBlock_exit_paths genesisChildren none importSucceeds genesisChain 1 (by decide) (by decide)⟩

/-- The database write of block 1 fails and the store has no persisted fork choice: the run
returns an error with block 1 in fork choice and not in the store. -/
theorem importBlock_failed_write_keeps_block :
    let run := importBlock genesisChildren none { importSucceeds with doAtomically := .error .dbError } genesisChain 1
    run.result = .error (.beaconChainError .dbError) ∧ run.chain.forkChoice.containsBlock 1 = true ∧
      1 ∉ run.chain.stored := by
  decide

/-- `get_head` picks block 1 for the early attester cache and its database write fails. -/
def earlyHeadWriteFails : ImportOutcomes :=
  { importSucceeds with earlyAttesterHead := some (.ok 1), doAtomically := .error .dbError }

/-- The early attester cache over every run of `import_block`: it takes the block exactly when the
run got past `on_block` and the attestation loop, `get_head` picked the block and
`add_head_block` succeeded, and every other run leaves it as it was. A failed run never stores
the block, so one that fails after the cache took the block (at `sync_committee_at_epoch`,
`self.epoch()` or the database write) leaves in the cache a block the store does not hold. -/
theorem importBlock_early_attester_cache (weakSubjectivityCheckpoint : Option Checkpoint)
    (outcomes : ImportOutcomes) (chain : Chain) (blockRoot : Root) (unstored : blockRoot ∉ chain.stored) :
    let run := importBlock tree weakSubjectivityCheckpoint outcomes chain blockRoot
    run.chain.earlyAttesterCache =
        (if onBlock ∈ run.trace ∧ outcomes.blockAttestations = .ok () ∧
            outcomes.earlyAttesterHead = some (.ok blockRoot) ∧ outcomes.addHeadBlock = true
          then some blockRoot else chain.earlyAttesterCache) ∧
      (run.result ≠ .ok blockRoot → blockRoot ∉ run.chain.stored) := by
  intro run
  rcases importBlock_cases tree weakSubjectivityCheckpoint outcomes chain blockRoot with
    ⟨-, notReached, unchanged⟩ | ⟨forkChoice, -, -, added, committed⟩
  · have cache := congrArg Chain.earlyAttesterCache unchanged
    have stored := congrArg Chain.stored unchanged
    simp only at cache stored
    refine ⟨by rw [if_neg fun reached => notReached reached.1]; exact cache, fun _ => by rwa [stored]⟩
  · have holds : forkChoice.containsBlock blockRoot = true := by
      simp [(ForkChoice.onBlock_eq_ok tree chain.forkChoice added).2.2]
    obtain ⟨-, -, -, after⟩ := commitBlock_afterOnBlock outcomes { chain with forkChoice := forkChoice } blockRoot
    simp only [run, committed, commitBlock_earlyAttesterCache, holds, and_true]
    rcases after with ⟨ok, trace, -⟩ | ⟨-, stored, ⟨trace, -⟩ | ⟨trace, -⟩⟩
    · simp [ok, trace]
    all_goals simp [trace, stored, unstored]

theorem importBlock_early_attester_cache_at_failed_write :
    1 ∉ genesisChain.stored ∧
      let run := importBlock genesisChildren none earlyHeadWriteFails genesisChain 1
      run.chain.earlyAttesterCache =
          (if onBlock ∈ run.trace ∧ earlyHeadWriteFails.blockAttestations = .ok () ∧
              earlyHeadWriteFails.earlyAttesterHead = some (.ok 1) ∧ earlyHeadWriteFails.addHeadBlock = true
            then some 1 else genesisChain.earlyAttesterCache) ∧
        (run.result ≠ .ok 1 → 1 ∉ run.chain.stored) :=
  ⟨by decide, importBlock_early_attester_cache genesisChildren none earlyHeadWriteFails genesisChain 1 (by decide)⟩

/-- There the run fails at its database write with block 1 in the early attester cache. -/
example :
    (importBlock genesisChildren none earlyHeadWriteFails genesisChain 1).result = .error (.beaconChainError .dbError) ∧
      (importBlock genesisChildren none earlyHeadWriteFails genesisChain 1).chain.earlyAttesterCache = some 1 := by
  decide

end BeaconChain
