import BeaconChain.Node
import BeaconChain.Proofs.HeadSelection
import BeaconChain.Proofs.ImportBlock

/-! Whole runs on the node: the canonical head stays in fork choice until a failed database
write reloads an older persisted fork choice, and across runs that follow one another the
canonical head's finalized epoch never decreases. -/

namespace BeaconChain

namespace Chain

variable {spec : EthSpec} (tree : BlockTree spec) (weakSubjectivityCheckpoint : Option Checkpoint)

theorem processInvalidExecutionPayload_eq (outcomes : HeadOutcomes) (justifiedInvalid : Bool) (chain : Chain) :
    (processInvalidExecutionPayload tree outcomes justifiedInvalid chain).forkChoice =
        (forkChoiceInternal tree outcomes chain).chain.forkChoice ∧
      (processInvalidExecutionPayload tree outcomes justifiedInvalid chain).canonicalHead =
        (forkChoiceInternal tree outcomes chain).chain.canonicalHead := by
  unfold processInvalidExecutionPayload
  split <;> exact ⟨rfl, rfl⟩

/-- A run keeps the canonical head in fork choice, unless it is an import whose database write
fails. -/
theorem step_keeps_head {chain : Chain} (event : NodeEvent)
    (written : ∀ blockRoot outcomes, event = .importBlock blockRoot outcomes → outcomes.doAtomically = .ok ())
    (holds : chain.forkChoice.containsBlock chain.canonicalHead = true) :
    (step tree weakSubjectivityCheckpoint chain event).forkChoice.containsBlock
      (step tree weakSubjectivityCheckpoint chain event).canonicalHead = true := by
  cases event with
  | importBlock blockRoot outcomes =>
    have head := (importBlock_forkChoice tree weakSubjectivityCheckpoint outcomes chain blockRoot).2.1
    simp only [step, head]
    rcases importBlock_forkChoice_of_written tree weakSubjectivityCheckpoint (written _ _ rfl) chain blockRoot with
      same | added
    · rwa [same]
    · rw [(ForkChoice.onBlock_eq_ok tree chain.forkChoice added).2.2]
      exact chain.forkChoice.containsBlock_addBlock_of_containsBlock holds _ _
  | forkChoice outcomes => exact forkChoiceInternal_keeps_head tree outcomes holds
  | processInvalidExecutionPayload outcomes justifiedInvalid =>
    obtain ⟨forkChoice, head⟩ := processInvalidExecutionPayload_eq tree outcomes justifiedInvalid chain
    simp only [step, forkChoice, head]
    exact forkChoiceInternal_keeps_head tree outcomes holds

/-- In every state reachable from one whose canonical head is in fork choice, by imports, head
selection and payload invalidations none of whose database writes fail, the canonical head is
in fork choice, so the head lookup of `head_safety_status` never fails with
`HeadMissingFromForkChoice`. -/
theorem canonical_head_stays_in_forkChoice (chain : Chain) (events : List NodeEvent)
    (holds : chain.forkChoice.containsBlock chain.canonicalHead = true)
    (written : ∀ blockRoot outcomes, NodeEvent.importBlock blockRoot outcomes ∈ events → outcomes.doAtomically = .ok ()) :
    (run tree weakSubjectivityCheckpoint chain events).forkChoice.containsBlock
        (run tree weakSubjectivityCheckpoint chain events).canonicalHead = true ∧
      (run tree weakSubjectivityCheckpoint chain events).headBlockLookup =
        .ok (run tree weakSubjectivityCheckpoint chain events).canonicalHead := by
  suffices kept : (run tree weakSubjectivityCheckpoint chain events).forkChoice.containsBlock
      (run tree weakSubjectivityCheckpoint chain events).canonicalHead = true by
    exact ⟨kept, by simp [headBlockLookup, kept]⟩
  induction events generalizing chain with
  | nil => exact holds
  | cons event events ih =>
    exact ih _ (step_keeps_head tree weakSubjectivityCheckpoint event
      (fun blockRoot outcomes same => written blockRoot outcomes (same ▸ List.mem_cons_self _ _)) holds)
      fun blockRoot outcomes member => written blockRoot outcomes (List.mem_cons_of_mem _ member)

/-- Block 1 is imported and made head, with no persist since it is neither an epoch transition
nor a re-org; then block 2 is imported, its database write returning `write`. -/
def headChangeThenImport (write : Except Error Unit) : List NodeEvent :=
  [.importBlock 1 importSucceeds, .forkChoice (headSucceeds 1),
    .importBlock 2 { importSucceeds with doAtomically := write }]

/-- `genesisChain` with its fork choice persisted. -/
def persistedGenesis : Chain := { genesisChain with persistedForkChoice := some genesisChain.forkChoice }

theorem canonical_head_stays_in_forkChoice_after_head_change :
    let chain := run genesisChildren none persistedGenesis (headChangeThenImport (.ok ()))
    chain.forkChoice.containsBlock chain.canonicalHead = true ∧ chain.headBlockLookup = .ok chain.canonicalHead :=
  canonical_head_stays_in_forkChoice genesisChildren none persistedGenesis _ (by decide)
    fun blockRoot outcomes member => by
      simp only [headChangeThenImport, List.mem_cons, NodeEvent.importBlock.injEq, reduceCtorEq,
        List.not_mem_nil, false_or, or_false] at member
      rcases member with ⟨-, rfl⟩ | ⟨-, rfl⟩ <;> rfl

/-- When the write of block 2 fails, the reload puts back the persisted fork choice, which
predates block 1, and the canonical head is no longer in fork choice. -/
theorem failed_write_drops_canonical_head :
    let chain := run genesisChildren none persistedGenesis (headChangeThenImport (.error .dbError))
    chain.canonicalHead = 1 ∧ chain.headBlockLookup = .error (.headMissingFromForkChoice 1) := by
  decide

/-- No run lowers the finalized epoch of the canonical head: imports leave the head alone, and
head selection only writes a head that passed its check against the head it replaces. -/
theorem step_finalizedEpoch_le (chain : Chain) (event : NodeEvent) :
    tree.finalizedEpoch chain.canonicalHead ≤
      tree.finalizedEpoch (step tree weakSubjectivityCheckpoint chain event).canonicalHead := by
  cases event with
  | importBlock blockRoot outcomes =>
    rw [step, (importBlock_forkChoice tree weakSubjectivityCheckpoint outcomes chain blockRoot).2.1]
  | forkChoice outcomes => exact forkChoiceInternal_finalizedEpoch_le tree outcomes chain
  | processInvalidExecutionPayload outcomes justifiedInvalid =>
    rw [step, (processInvalidExecutionPayload_eq tree outcomes justifiedInvalid chain).2]
    exact forkChoiceInternal_finalizedEpoch_le tree outcomes chain

/-- Runs that follow one another never lower the finalized epoch of the canonical head. -/
theorem run_finalizedEpoch_monotone (chain : Chain) (events : List NodeEvent) :
    tree.finalizedEpoch chain.canonicalHead ≤
      tree.finalizedEpoch (run tree weakSubjectivityCheckpoint chain events).canonicalHead := by
  induction events generalizing chain with
  | nil => exact Nat.le_refl _
  | cons event events ih => exact Nat.le_trans (step_finalizedEpoch_le tree weakSubjectivityCheckpoint chain event) (ih _)

end Chain

end BeaconChain
