import BeaconChain.Proofs.ImportBlock

/-! The weak subjectivity checkpoint under block import. The check runs once, on the import that
takes fork choice's finalized epoch to the checkpoint's; after it, `on_block` admits only blocks
that descend from fork choice's finalized checkpoint, so finality never leaves the checkpoint's
chain. -/

namespace BeaconChain

variable {spec : EthSpec} (tree : BlockTree spec)

/-- The roots of a post-state's `block_roots`, newest first, hold each earlier slot once. -/
private theorem find?_descending (roots : Nat → Root) (top slot : Nat) :
    ∀ count, top - count ≤ slot → slot < top →
      ((List.range count).map fun i => (roots (top - (i + 1)), top - (i + 1))).find? (fun entry => entry.2 = slot) =
        some (roots slot, slot) := by
  intro count
  induction count with
  | zero => intro low high; omega
  | succ count ih =>
    intro low high
    rw [List.range_succ, List.map_append, List.find?_append]
    by_cases reached : top - count ≤ slot
    · rw [ih reached high]
      rfl
    · have earlier : ((List.range count).map fun i => (roots (top - (i + 1)), top - (i + 1))).find?
          (fun entry => entry.2 = slot) = none := by
        refine List.find?_eq_none.mpr fun entry member => ?_
        obtain ⟨i, below, rfl⟩ := List.mem_map.mp member
        simp only [List.mem_range] at below
        simp only [decide_eq_true_eq]
        omega
      rw [earlier, show slot = top - (count + 1) by omega]
      simp

theorem rootAtSlotFromState_ofBlock (root : Root) {slot : Nat} (le : slot ≤ tree.slot root) :
    rootAtSlotFromState tree slot root (BeaconState.ofBlock tree root) = some (tree.rootAt root slot) := by
  unfold rootAtSlotFromState blockRootsIterator
  rcases Nat.eq_or_lt_of_le le with same | below
  · subst same
    simp [BlockTree.rootAt_self]
  · rw [List.find?_cons_of_neg _ (by simp; omega)]
    rw [BeaconState.ofBlock_slot, BeaconState.ofBlock_latestBlockRoot,
      find?_descending _ _ _ _ (by omega) below]
    rfl

/-- `verify_weak_subjectivity_checkpoint` on a block's post-state accepts exactly when the
state has not finalized the checkpoint's epoch or the block's chain holds the checkpoint root
at the epoch's start slot. -/
theorem verifyWeakSubjectivityCheckpoint_eq_ok_iff (wss : Checkpoint) (root : Root) :
    verifyWeakSubjectivityCheckpoint tree wss root (BeaconState.ofBlock tree root) = .ok () ↔
      tree.finalizedEpoch root < wss.epoch ∨ tree.rootAt root (spec.startSlot wss.epoch) = wss.root := by
  unfold verifyWeakSubjectivityCheckpoint
  simp only [BeaconState.ofBlock_finalizedCheckpoint, BlockTree.finalizedCheckpoint]
  rcases Nat.lt_trichotomy wss.epoch (tree.finalizedEpoch root) with before | same | after
  · have le := Nat.le_trans (spec.startSlot_mono (Nat.le_of_lt before)) (tree.finalized_start_le root)
    rw [if_neg (by omega), if_pos before, rootAtSlotFromState_ofBlock tree root le]
    by_cases agree : tree.rootAt root (spec.startSlot wss.epoch) = wss.root
    · simp [agree]
    · simp [agree, Ne.symm agree]
      omega
  · by_cases agree : tree.rootAt root (spec.startSlot wss.epoch) = wss.root
    · rw [if_neg (by simp [same] at agree ⊢; exact agree.symm), if_neg (by omega)]
      simp [agree]
    · rw [if_pos ⟨same, by rw [← same]; exact Ne.symm agree⟩]
      simp only [reduceCtorEq, false_iff, not_or, not_lt]
      exact ⟨Nat.le_of_eq same, agree⟩
  · rw [if_neg (by omega), if_neg (by omega)]
    simp [after]

/-- The check in `import_block` fails exactly on the import that takes fork choice's finalized
epoch past the checkpoint's, to a block whose chain misses the checkpoint root. -/
theorem weakSubjectivityCheck_eq_ok_iff (wss : Checkpoint) (oldFinalizedCheckpoint : Checkpoint) (root : Root) :
    weakSubjectivityCheck tree (some wss) oldFinalizedCheckpoint root (BeaconState.ofBlock tree root) = .ok () ↔
      ¬(oldFinalizedCheckpoint.epoch < wss.epoch ∧ wss.epoch ≤ tree.finalizedEpoch root) ∨
        tree.rootAt root (spec.startSlot wss.epoch) = wss.root := by
  unfold weakSubjectivityCheck
  simp only [BeaconState.ofBlock_finalizedCheckpoint, BlockTree.finalizedCheckpoint_epoch]
  split
  · next triggered =>
    rw [verifyWeakSubjectivityCheckpoint_eq_ok_iff]
    constructor
    · rintro (early | agree)
      · omega
      · exact Or.inr agree
    · rintro (quiet | agree)
      · exact absurd triggered quiet
      · exact Or.inr agree
  · next quiet => exact iff_of_true rfl (Or.inl quiet)

/-- Once fork choice's finalized epoch reaches the checkpoint's, the chain of its finalized
block holds the checkpoint root at the checkpoint's start slot. -/
def AgreesWith (wss : Checkpoint) (forkChoice : ForkChoice) : Prop :=
  wss.epoch ≤ forkChoice.finalizedCheckpoint.epoch →
    tree.rootAt forkChoice.finalizedCheckpoint.root (spec.startSlot wss.epoch) = wss.root

/-- A block that passed the check and `on_block`, which admits it only when its parent holds
fork choice's finalized root at the start slot of the finalized epoch, keeps the agreement. -/
theorem AgreesWith.onBlock {wss : Checkpoint} {forkChoice next : ForkChoice} {blockRoot : Root}
    (agrees : AgreesWith tree wss forkChoice)
    (checked : weakSubjectivityCheck tree (some wss) forkChoice.finalizedCheckpoint blockRoot
      (BeaconState.ofBlock tree blockRoot) = .ok ())
    (added : forkChoice.onBlock tree blockRoot (BeaconState.ofBlock tree blockRoot) = .ok next) :
    AgreesWith tree wss next := by
  obtain ⟨-, descends, rfl⟩ := ForkChoice.onBlock_eq_ok tree forkChoice added
  intro reached
  unfold ForkChoice.addBlock at reached ⊢
  simp only [BeaconState.ofBlock_finalizedCheckpoint, BlockTree.finalizedCheckpoint_epoch] at reached ⊢
  split at reached
  · next later =>
    rw [if_pos later]
    simp only [BlockTree.finalizedCheckpoint] at reached ⊢
    rw [BlockTree.rootAt_rootAt _ (spec.startSlot_mono reached)]
    by_cases before : forkChoice.finalizedCheckpoint.epoch < wss.epoch
    · exact ((weakSubjectivityCheck_eq_ok_iff tree wss _ blockRoot).mp checked).resolve_left
        (not_not.mpr ⟨before, reached⟩)
    · have passed := spec.startSlot_mono (Nat.le_of_not_lt before)
      have below := (spec.startSlot_lt_startSlot).mpr later
      have start := tree.finalized_start_le blockRoot
      calc tree.rootAt blockRoot (spec.startSlot wss.epoch)
          = tree.rootAt (tree.parent blockRoot) (spec.startSlot wss.epoch) := BlockTree.rootAt_of_lt (by omega)
        _ = tree.rootAt (tree.rootAt (tree.parent blockRoot) (spec.startSlot forkChoice.finalizedCheckpoint.epoch))
              (spec.startSlot wss.epoch) := (BlockTree.rootAt_rootAt _ passed).symm
        _ = wss.root := by rw [descends]; exact agrees (Nat.le_of_not_lt before)
  · next notLater =>
    rw [if_neg notLater]
    exact agrees reached

/-- Fork choice and its persisted copy agree with the checkpoint. -/
def ChainAgreesWith (wss : Checkpoint) (chain : Chain) : Prop :=
  AgreesWith tree wss chain.forkChoice ∧ ∀ persisted, chain.persistedForkChoice = some persisted → AgreesWith tree wss persisted

theorem ChainAgreesWith.importBlock {wss : Checkpoint} {chain : Chain} (agrees : ChainAgreesWith tree wss chain)
    (outcomes : ImportOutcomes) (blockRoot : Root) :
    ChainAgreesWith tree wss (importBlock tree (some wss) outcomes chain blockRoot).chain := by
  obtain ⟨persisted, -, forkChoice⟩ := importBlock_forkChoice tree (some wss) outcomes chain blockRoot
  refine ⟨?_, fun copy found => agrees.2 copy (persisted ▸ found)⟩
  rcases forkChoice with same | reloaded | ⟨checked, added⟩
  · exact same ▸ agrees.1
  · exact agrees.2 _ reloaded.symm
  · exact agrees.1.onBlock tree checked added

theorem ChainAgreesWith.importBlocks {wss : Checkpoint} {chain : Chain} (agrees : ChainAgreesWith tree wss chain)
    (imports : List (Root × ImportOutcomes)) : ChainAgreesWith tree wss (importBlocks tree (some wss) chain imports) := by
  induction imports generalizing chain with
  | nil => exact agrees
  | cons entry imports ih =>
    obtain ⟨blockRoot, outcomes⟩ := entry
    exact ih (agrees.importBlock tree outcomes blockRoot)

/-- An import whose weak subjectivity check fails never reaches `on_block`; past the steps before
the lock and the finalized-descendant check it returns `WeakSubjectivityConflict` with a
shutdown requested, when the request can be sent. -/
theorem importBlock_of_check_failed {wss : Checkpoint} {outcomes : ImportOutcomes} {chain : Chain} {blockRoot : Root}
    (failed : weakSubjectivityCheck tree (some wss) chain.forkChoice.finalizedCheckpoint blockRoot
      (BeaconState.ofBlock tree blockRoot) ≠ .ok ()) :
    (importBlock tree (some wss) outcomes chain blockRoot).chain.forkChoice = chain.forkChoice ∧
      ImportStep.onBlock ∉ (importBlock tree (some wss) outcomes chain blockRoot).trace ∧
      (outcomes.beforeLock = .ok () → checkBlockIsFinalizedDescendant tree chain.forkChoice chain.stored blockRoot = .ok () →
        outcomes.shutdownSent = true →
        (importBlock tree (some wss) outcomes chain blockRoot).result = .error .weakSubjectivityConflict ∧
          (importBlock tree (some wss) outcomes chain blockRoot).chain.shutdownRequested = true) := by
  rcases importBlock_cases tree (some wss) outcomes chain blockRoot with ⟨-, noOnBlock, unchanged⟩ | ⟨-, -, checked, -⟩
  · have forkChoice := congrArg Chain.forkChoice unchanged
    refine ⟨forkChoice, noOnBlock, fun before descendant sent => ?_⟩
    obtain ⟨error, checkFailed⟩ : ∃ error, weakSubjectivityCheck tree (some wss) chain.forkChoice.finalizedCheckpoint
        blockRoot (BeaconState.ofBlock tree blockRoot) = .error error := by
      cases check : weakSubjectivityCheck tree (some wss) chain.forkChoice.finalizedCheckpoint blockRoot
        (BeaconState.ofBlock tree blockRoot) with
      | error error => exact ⟨error, rfl⟩
      | ok _ => exact absurd check failed
    unfold importBlock
    simp [before, descendant, checkFailed, sent]
  · exact absurd checked failed

/-- Genesis at slot 0 with two branches: block 20, after nineteen skipped slots, whose state
finalizes epoch 1 with genesis as its root, and block 5 with a child 30 whose state finalizes
epoch 2 with block 5 as its root. -/
def skipTree : BlockTree EthSpec.minimal where
  slot := id
  parent := fun root => if root = 30 then 5 else 0
  finalizedEpoch := fun root => if root = 20 then 1 else if root = 30 then 2 else 0
  parent_slot_lt := fun root pos => by by_cases top : root = 30 <;> simp_all
  finalized_start_le := fun root => by
    by_cases first : root = 20 <;> by_cases second : root = 30 <;> simp_all [EthSpec.startSlot, EthSpec.minimal]

/-- Block 30 descends from genesis, fork choice's finalized block once block 20 is in, but its
parent 5 holds itself, not genesis, at slot 8, the start of the finalized epoch: `on_block`
refuses it, and fork choice keeps the checkpoint `(1, genesis)`. -/
example :
    let chain := importBlocks skipTree (some ⟨1, 0⟩) genesisChain [(5, importSucceeds), (20, importSucceeds)]
    (importBlock skipTree (some ⟨1, 0⟩) importSucceeds chain 30).result =
        .error (.beaconChainError (.forkChoiceInvalidBlock (.notFinalizedDescendant 0 (some 5)))) ∧
      (importBlock skipTree (some ⟨1, 0⟩) importSucceeds chain 30).chain.forkChoice.finalizedCheckpoint = ⟨1, 0⟩ := by
  decide

end BeaconChain
