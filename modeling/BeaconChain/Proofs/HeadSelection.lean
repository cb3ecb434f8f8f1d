import BeaconChain.HeadSelection

/-! What a run of `fork_choice_internal` leaves behind. It changes `canonical_head` only by its
one write; a run that returns `Ok` after writing a head with another finalized epoch has run
`after_finalization` to its end for that head's finalized checkpoint. The `?` exits between
the write and `after_finalization` return with the new head installed and nothing pruned. -/

namespace BeaconChain

namespace HeadRun

variable {first : HeadRun} {second : Chain → HeadRun}

theorem andThen_preserves (keeps : Chain → Prop) (firstKeeps : keeps first.chain)
    (secondKeeps : ∀ chain, keeps chain → keeps (second chain).chain) : keeps (first.andThen second).chain := by
  unfold andThen
  split
  · exact firstKeeps
  · exact secondKeeps _ firstKeeps

theorem andThen_of_ok (passed : first.result = .ok ()) :
    first.andThen second = ⟨(second first.chain).result, (second first.chain).chain, first.trace ++ (second first.chain).trace⟩ := by
  unfold andThen
  simp only [passed]

theorem andThen_eq_ok (ok : (first.andThen second).result = .ok ()) :
    first.result = .ok () ∧ (second first.chain).result = .ok () ∧
      (first.andThen second).trace = first.trace ++ (second first.chain).trace ∧
      (first.andThen second).chain = (second first.chain).chain := by
  unfold andThen at ok ⊢
  cases passed : first.result with
  | error error => simp [passed] at ok
  | ok => simp_all

end HeadRun

variable {spec : EthSpec} (tree : BlockTree spec)

/-- What the steps after the head write may change: not the canonical head, and of fork choice
only what a prune drops, keeping its finalized checkpoint and every block that descends from
its finalized block. -/
def Settles (before after : Chain) : Prop :=
  after.canonicalHead = before.canonicalHead ∧
    after.forkChoice.finalizedCheckpoint = before.forkChoice.finalizedCheckpoint ∧
    ∀ root, before.forkChoice.containsBlock root = true →
      tree.Descends root before.forkChoice.finalizedCheckpoint.root → after.forkChoice.containsBlock root = true

theorem Settles.refl (chain : Chain) : Settles tree chain chain :=
  ⟨rfl, rfl, fun _ contains _ => contains⟩

theorem Settles.trans {first second third : Chain} (early : Settles tree first second) (late : Settles tree second third) :
    Settles tree first third := by
  obtain ⟨head, finalized, kept⟩ := early
  obtain ⟨head', finalized', kept'⟩ := late
  refine ⟨head'.trans head, finalized'.trans finalized, fun root contains descends => ?_⟩
  exact kept' root (kept root contains descends) (finalized ▸ descends)

theorem afterFinalization_settles (outcomes : HeadOutcomes) (chain : Chain) (headRoot : Root) :
    Settles tree chain (afterFinalization tree outcomes chain headRoot).chain := by
  unfold afterFinalization
  split
  · exact Settles.refl tree chain
  · have pruned : Settles tree chain { chain with forkChoice := chain.forkChoice.prune tree } :=
      ⟨rfl, rfl, fun _ contains descends => chain.forkChoice.containsBlock_prune tree contains descends⟩
    repeat' split
    all_goals exact pruned

theorem afterFinalization_eq_ok {outcomes : HeadOutcomes} {chain : Chain} {headRoot : Root}
    (ok : (afterFinalization tree outcomes chain headRoot).result = .ok ()) :
    (afterFinalization tree outcomes chain headRoot).trace =
      [.pruneForkChoice, .pruneObservedBlockProducers (spec.startSlot (tree.finalizedEpoch headRoot)), .pruneOpPool,
        .processFinalization (tree.finalizedCheckpoint headRoot), .pruneAttesterCache (tree.finalizedEpoch headRoot)] := by
  unfold afterFinalization at ok ⊢
  dsimp only at ok ⊢
  cases prune : outcomes.prune with
  | error => simp [prune] at ok
  | ok =>
    cases slot : outcomes.slot with
    | error => simp [prune, slot] at ok
    | ok =>
      cases finalization : outcomes.processFinalization with
      | error => simp [prune, slot, finalization] at ok
      | ok => simp [prune, slot, finalization, BlockTree.finalizedCheckpoint]

theorem persistAfterHeadChange_settles (outcomes : HeadOutcomes) (chain : Chain) :
    Settles tree chain (persistAfterHeadChange outcomes chain).chain := by
  unfold persistAfterHeadChange
  repeat' split
  all_goals exact Settles.refl tree chain

theorem finalizeAfterHeadChange_settles (outcomes : HeadOutcomes) (chain : Chain) :
    Settles tree chain (finalizeAfterHeadChange tree outcomes chain).chain := by
  unfold finalizeAfterHeadChange
  repeat' split
  all_goals first | exact Settles.refl tree chain | exact afterFinalization_settles tree outcomes chain _

theorem persistIfNeeded_settles (outcomes : HeadOutcomes) (needed : Bool) (chain : Chain) :
    Settles tree chain (persistIfNeeded outcomes needed chain).chain := by
  unfold persistIfNeeded
  split
  · exact persistAfterHeadChange_settles tree outcomes chain
  · exact Settles.refl tree chain

theorem finalizeIfChanged_settles (outcomes : HeadOutcomes) (changed : Bool) (chain : Chain) :
    Settles tree chain (finalizeIfChanged tree outcomes changed chain).chain := by
  unfold finalizeIfChanged
  split
  · exact finalizeAfterHeadChange_settles tree outcomes chain
  · exact Settles.refl tree chain

theorem readSlotForUpdate_chain (outcomes : HeadOutcomes) (chain : Chain) :
    (readSlotForUpdate outcomes chain).chain = chain := by
  unfold readSlotForUpdate
  split <;> rfl

/-- After the head write, nothing changes the canonical head, and fork choice loses only what
a prune drops. -/
theorem afterHeadWrite_settles (outcomes : HeadOutcomes) (chain : Chain) (currentHead beaconBlockRoot : Root) :
    Settles tree chain (afterHeadWrite tree outcomes chain currentHead beaconBlockRoot).chain :=
  HeadRun.andThen_preserves (Settles tree chain)
    (HeadRun.andThen_preserves (Settles tree chain) (persistIfNeeded_settles tree outcomes _ chain)
      fun next settled => settled.trans tree (finalizeIfChanged_settles tree outcomes _ next))
    fun next settled => (readSlotForUpdate_chain outcomes next).symm ▸ settled

theorem afterHeadWrite_canonicalHead (outcomes : HeadOutcomes) (chain : Chain) (currentHead beaconBlockRoot : Root) :
    (afterHeadWrite tree outcomes chain currentHead beaconBlockRoot).chain.canonicalHead = chain.canonicalHead :=
  (afterHeadWrite_settles tree outcomes chain currentHead beaconBlockRoot).1

theorem finalizeAfterHeadChange_eq_ok {outcomes : HeadOutcomes} {chain : Chain}
    (ok : (finalizeAfterHeadChange tree outcomes chain).result = .ok ()) :
    finalizeAfterHeadChange tree outcomes chain = afterFinalization tree outcomes chain chain.canonicalHead := by
  unfold finalizeAfterHeadChange at ok ⊢
  split at ok
  · cases ok
  · next readLock =>
    rw [if_neg readLock]
    split at ok
    · cases ok
    · next found => simp only [found]

/-- The prunes of `after_finalization` for the finalized checkpoint of `headRoot`, in order. -/
def finalizationSteps (headRoot : Root) : List HeadStep :=
  [.pruneForkChoice, .pruneObservedBlockProducers (spec.startSlot (tree.finalizedEpoch headRoot)), .pruneOpPool,
    .processFinalization (tree.finalizedCheckpoint headRoot), .pruneAttesterCache (tree.finalizedEpoch headRoot)]

/-- Persisting or not, then the finalization branch, then the slot read: when all succeed, the
prunes of `after_finalization` ran for the chain's head. -/
theorem finalizationSteps_infix {outcomes : HeadOutcomes} {chain : Chain} {needed : Bool}
    (ok : (((persistIfNeeded outcomes needed chain).andThen (finalizeIfChanged tree outcomes true)).andThen
      (readSlotForUpdate outcomes)).result = .ok ()) :
    finalizationSteps tree chain.canonicalHead <:+:
      (((persistIfNeeded outcomes needed chain).andThen (finalizeIfChanged tree outcomes true)).andThen
        (readSlotForUpdate outcomes)).trace := by
  obtain ⟨finalized, -, trace, -⟩ := HeadRun.andThen_eq_ok ok
  obtain ⟨-, finalizing, finalizedTrace, -⟩ := HeadRun.andThen_eq_ok finalized
  have taken : finalizeIfChanged tree outcomes true (persistIfNeeded outcomes needed chain).chain =
      afterFinalization tree outcomes (persistIfNeeded outcomes needed chain).chain chain.canonicalHead := by
    unfold finalizeIfChanged at finalizing ⊢
    rw [if_pos rfl] at finalizing ⊢
    rw [finalizeAfterHeadChange_eq_ok tree finalizing, (persistIfNeeded_settles tree outcomes needed chain).1]
  rw [taken] at finalizing finalizedTrace
  rw [trace, finalizedTrace, afterFinalization_eq_ok tree finalizing]
  exact List.infix_append _ _ _

/-- The part after the head write, when it succeeds and the finalized epoch changed, ran every
prune of `after_finalization` for the head it wrote. -/
theorem afterHeadWrite_eq_ok {outcomes : HeadOutcomes} {chain : Chain} {currentHead beaconBlockRoot : Root}
    (ok : (afterHeadWrite tree outcomes chain currentHead beaconBlockRoot).result = .ok ())
    (changed : tree.finalizedEpoch beaconBlockRoot ≠ tree.finalizedEpoch currentHead) :
    finalizationSteps tree chain.canonicalHead <:+: (afterHeadWrite tree outcomes chain currentHead beaconBlockRoot).trace := by
  unfold afterHeadWrite at ok ⊢
  dsimp only at ok ⊢
  have flag : decide ((BeaconState.ofBlock tree beaconBlockRoot).finalizedCheckpoint.epoch ≠
      (tree.finalizedCheckpoint currentHead).epoch) = true := by simpa using changed
  rw [flag] at ok ⊢
  exact finalizationSteps_infix tree ok

/-- Every exit of `fork_choice_internal`: either it left the canonical head and fork choice as
they were, or `get_head` returned a head that passed the finalized-epoch check against the
current head, the run wrote it, and went on with the steps after the write. -/
theorem forkChoiceInternal_cases (outcomes : HeadOutcomes) (chain : Chain) :
    ((forkChoiceInternal tree outcomes chain).chain.canonicalHead = chain.canonicalHead ∧
      (forkChoiceInternal tree outcomes chain).chain.forkChoice = chain.forkChoice) ∨
    ∃ beaconBlockRoot, chain.forkChoice.getHead tree outcomes.head = .ok beaconBlockRoot ∧
      tree.finalizedEpoch chain.canonicalHead ≤ tree.finalizedEpoch beaconBlockRoot ∧
      forkChoiceInternal tree outcomes chain =
        ⟨(afterHeadWrite tree outcomes { chain with earlyAttesterCache := none, canonicalHead := beaconBlockRoot }
            chain.canonicalHead beaconBlockRoot).result,
          (afterHeadWrite tree outcomes { chain with earlyAttesterCache := none, canonicalHead := beaconBlockRoot }
            chain.canonicalHead beaconBlockRoot).chain,
          .writeCanonicalHead beaconBlockRoot :: (afterHeadWrite tree outcomes
            { chain with earlyAttesterCache := none, canonicalHead := beaconBlockRoot } chain.canonicalHead beaconBlockRoot).trace⟩ := by
  unfold forkChoiceInternal
  dsimp only
  repeat' split
  all_goals first | exact Or.inl ⟨rfl, rfl⟩ | skip
  exact Or.inr ⟨_, ‹_›, Nat.not_lt.mp ‹_›, HeadRun.andThen_of_ok rfl⟩

/-- Every run of `fork_choice_internal` changes `canonical_head` only by its write, and a run
that returns `Ok` after writing a head whose finalized epoch differs from that of the head it
replaced has run every prune of `after_finalization` for the new head's finalized checkpoint. -/
theorem forkChoiceInternal_finalizes (outcomes : HeadOutcomes) (chain : Chain) :
    let run := forkChoiceInternal tree outcomes chain
    (run.chain.canonicalHead ≠ chain.canonicalHead → HeadStep.writeCanonicalHead run.chain.canonicalHead ∈ run.trace) ∧
      (run.result = .ok () → tree.finalizedEpoch run.chain.canonicalHead ≠ tree.finalizedEpoch chain.canonicalHead →
        finalizationSteps tree run.chain.canonicalHead <:+: run.trace) := by
  rcases forkChoiceInternal_cases tree outcomes chain with ⟨head, -⟩ | ⟨beaconBlockRoot, -, -, written⟩
  · exact ⟨fun changed => absurd head changed, fun _ changed => absurd (congrArg _ head) changed⟩
  · simp only [written, afterHeadWrite_canonicalHead]
    exact ⟨fun _ => List.mem_cons_self _ _,
      fun ok changed => (afterHeadWrite_eq_ok tree ok changed).trans (List.suffix_cons _ _).isInfix⟩

/-- Head selection keeps the canonical head in fork choice: a head it writes comes from
`get_head`, so fork choice holds it and it descends from the finalized block, which the prune
after the write keeps. -/
theorem forkChoiceInternal_keeps_head (outcomes : HeadOutcomes) {chain : Chain}
    (holds : chain.forkChoice.containsBlock chain.canonicalHead = true) :
    (forkChoiceInternal tree outcomes chain).chain.forkChoice.containsBlock
      (forkChoiceInternal tree outcomes chain).chain.canonicalHead = true := by
  rcases forkChoiceInternal_cases tree outcomes chain with ⟨head, forkChoice⟩ | ⟨beaconBlockRoot, found, -, written⟩
  · rwa [head, forkChoice]
  · obtain ⟨head, -, kept⟩ := afterHeadWrite_settles tree outcomes
      { chain with earlyAttesterCache := none, canonicalHead := beaconBlockRoot } chain.canonicalHead beaconBlockRoot
    obtain ⟨contains, descends⟩ := getHead_eq_ok found
    rw [written]
    dsimp only
    rw [head]
    exact kept _ contains descends

/-- A run of head selection never lowers the finalized epoch of the canonical head: the head it
writes passed the check against the head it read, and nothing else writes in between. -/
theorem forkChoiceInternal_finalizedEpoch_le (outcomes : HeadOutcomes) (chain : Chain) :
    tree.finalizedEpoch chain.canonicalHead ≤
      tree.finalizedEpoch (forkChoiceInternal tree outcomes chain).chain.canonicalHead := by
  rcases forkChoiceInternal_cases tree outcomes chain with ⟨head, -⟩ | ⟨beaconBlockRoot, -, notReverted, written⟩
  · exact head ▸ Nat.le_refl _
  · rw [written]
    dsimp only
    rwa [afterHeadWrite_canonicalHead]

/-- Genesis at slot 0 and every other block a child of genesis at the slot of its root; the
state of block 20 finalizes epoch 1. -/
def finalizingChild : BlockTree EthSpec.minimal where
  slot := id
  parent := fun _ => 0
  finalizedEpoch := fun root => if root = 20 then 1 else 0
  parent_slot_lt := fun _ pos => pos
  finalized_start_le := fun root => by
    by_cases top : root = 20 <;> simp_all [EthSpec.startSlot, EthSpec.minimal]

/-- Every collaborator of `fork_choice_internal` succeeds, the scoring picks `head` and the
wall clock reads slot 20. -/
def headSucceeds (head : Root) : HeadOutcomes :=
  ⟨.ok head, .ok false, true, .ok (), .ok (), true, .ok (), some 20, true, .ok (), .ok (), .ok ()⟩

/-- Fork choice holds genesis and block 20; the canonical head is genesis; fork choice was
never persisted. -/
def beforeFinality : Chain := ⟨⟨[20, 0], ⟨0, 0⟩⟩, 0, none, [20, 0], none, false⟩

theorem forkChoiceInternal_finalizes_at_first_finality :
    let run := forkChoiceInternal finalizingChild (headSucceeds 20) beforeFinality
    run.result = .ok () ∧
      finalizingChild.finalizedEpoch run.chain.canonicalHead ≠ finalizingChild.finalizedEpoch beforeFinality.canonicalHead ∧
      finalizationSteps finalizingChild run.chain.canonicalHead <:+: run.trace :=
  have ok : (forkChoiceInternal finalizingChild (headSucceeds 20) beforeFinality).result = .ok () := by decide
  have changed : finalizingChild.finalizedEpoch (forkChoiceInternal finalizingChild (headSucceeds 20) beforeFinality).chain.canonicalHead ≠
      finalizingChild.finalizedEpoch beforeFinality.canonicalHead := by decide
  ⟨ok, changed, (forkChoiceInternal_finalizes finalizingChild (headSucceeds 20) beforeFinality).2 ok changed⟩

/-- Head selection moves the head from genesis to block 20, an epoch transition that also
changes the finalized epoch from 0 to 1, and `persist_head_and_fork_choice` fails: the run
returns the error with block 20 installed and without running `after_finalization`. -/
theorem forkChoiceInternal_persist_failure_skips_finalization :
    let run := forkChoiceInternal finalizingChild { headSucceeds 20 with persist := .error .dbError } beforeFinality
    run.result = .error .dbError ∧ run.chain.canonicalHead = 20 ∧
      finalizingChild.finalizedEpoch 20 ≠ finalizingChild.finalizedEpoch 0 ∧ HeadStep.pruneForkChoice ∉ run.trace := by
  decide

end BeaconChain
