import BeaconChain.HeadRace
import BeaconChain.Proofs.HeadSelection
import BeaconChain.Proofs.ImportBlock

/-! Two runs of `fork_choice_internal` racing with imports: a run holding a stale canonical head
can overwrite a newer head with a lower finalized epoch. Run without interruption, the race
writes what the sequential `forkChoiceInternal` writes. -/

namespace BeaconChain

namespace Race

variable {spec : EthSpec} (tree : BlockTree spec)

/-- The race refines `fork_choice_internal`: a run of head selection that no other step
interrupts leaves the canonical head the sequential model leaves, whenever the steps the race
leaves out (the invalid-payload check, the `head_info` and snapshot reads, the head lock)
succeed. -/
theorem run_uninterrupted_canonicalHead (race : Race) (thread : Nat) (idle : race.threads thread = .idle)
    (outcomes : HeadOutcomes) (valid : outcomes.finalizedBlock = .ok false) (read : outcomes.headInfo = .ok ())
    (loaded : outcomes.loadSnapshot = .ok ()) (locked : outcomes.headWriteLock = true) :
    (race.run tree [.selectHead thread outcomes.head, .readHead thread, .writeHead thread]).chain.canonicalHead =
      (forkChoiceInternal tree outcomes race.chain).chain.canonicalHead := by
  unfold forkChoiceInternal
  simp only [run, List.foldl, step, idle, valid, read, loaded, locked]
  cases found : race.chain.forkChoice.getHead tree outcomes.head with
  | error error => simp [setPhase]
  | ok head =>
    by_cases same : head = race.chain.canonicalHead
    · simp [setPhase, same]
    · by_cases reverted : tree.finalizedEpoch head < tree.finalizedEpoch race.chain.canonicalHead
      · simp [setPhase, same, reverted]
      · simp [setPhase, same, reverted, HeadRun.andThen_of_ok, afterHeadWrite_canonicalHead]

end Race

/-- Genesis, block 20 on it whose state finalizes epoch 1, and block 30 on block 20 whose state
finalizes epoch 2. -/
def raceTree : BlockTree EthSpec.minimal where
  slot := id
  parent := fun root => if root = 30 then 20 else 0
  finalizedEpoch := fun root => if root = 20 then 1 else if root = 30 then 2 else 0
  parent_slot_lt := fun root pos => by by_cases top : root = 30 <;> simp_all
  finalized_start_le := fun root => by
    by_cases first : root = 20 <;> by_cases second : root = 30 <;> simp_all [EthSpec.startSlot, EthSpec.minimal]

/-- Block 20 is imported; run 1 picks it and reads genesis as the canonical head; block 30 is
imported; run 2 picks block 30, reads genesis, and writes block 30; then run 1 writes block 20
over it. -/
def staleHeadSchedule : List RaceEvent :=
  [.importBlock 20 importSucceeds, .selectHead 1 (.ok 20), .readHead 1,
    .importBlock 30 importSucceeds, .selectHead 2 (.ok 30), .readHead 2, .writeHead 2, .writeHead 1]

/-- Under that schedule, run 1 passes its finalized-epoch check against the genesis head it
read, and overwrites block 30, whose state finalized epoch 2, with block 20, whose state
finalized epoch 1. -/
theorem stale_head_selection_lowers_finalized_epoch :
    ((Race.initial genesisChain).run raceTree staleHeadSchedule).writes = [(0, 30), (30, 20)] ∧
      ((Race.initial genesisChain).run raceTree staleHeadSchedule).chain.canonicalHead = 20 ∧
      raceTree.finalizedEpoch 20 < raceTree.finalizedEpoch 30 := by
  decide

end BeaconChain
