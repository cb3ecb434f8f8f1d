import BeaconChain.ImportBlock

/-! Concurrent runs of `fork_choice_internal` against block imports. Each lock-guarded section,
and each import under the fork-choice write lock, is one step; between a run's read of the
canonical head and its write, any other step may run. -/

namespace BeaconChain

/-- Where one run of `fork_choice_internal` is. -/
inductive RacePhase where
  | idle
  | selected (head : Root)
  | compared (head currentHead : Root)
  | done (result : Except Error Unit)
  deriving DecidableEq, Repr

/-- The chain, each run's phase, and, as ghost state, every `canonical_head` write in order
with the head it overwrote. -/
structure Race where
  chain : Chain
  threads : Nat → RacePhase
  writes : List (Root × Root)

/-- One step of the system. -/
inductive RaceEvent where
  /-- A whole `import_block` run. -/
  | importBlock (blockRoot : Root) (outcomes : ImportOutcomes)
  /-- The fork-choice section: `get_head` (with the scoring's answer) and `get_finalized_block`. -/
  | selectHead (thread : Nat) (answer : Except Error Root)
  /-- `head_info`: the canonical head read under the head lock. -/
  | readHead (thread : Nat)
  /-- The finalized-epoch check and the `canonical_head` write. -/
  | writeHead (thread : Nat)

namespace Race

variable {spec : EthSpec} (tree : BlockTree spec)

/-- No run has started. -/
def initial (chain : Chain) : Race := ⟨chain, fun _ => .idle, []⟩

/-- Move `thread` to `phase`. -/
def setPhase (race : Race) (thread : Nat) (phase : RacePhase) : Race :=
  { race with threads := Function.update race.threads thread phase }

/-- The step function; a step whose run is not in the phase it needs changes nothing. -/
def step (race : Race) : RaceEvent → Race
  | .importBlock blockRoot outcomes =>
    { race with chain := (BeaconChain.importBlock tree none outcomes race.chain blockRoot).chain }
  | .selectHead thread answer =>
    match race.threads thread with
    | .idle =>
      match race.chain.forkChoice.getHead tree answer with
      | .ok head => race.setPhase thread (.selected head)
      | .error error => race.setPhase thread (.done (.error error))
    | _ => race
  | .readHead thread =>
    match race.threads thread with
    | .selected head =>
      if head = race.chain.canonicalHead then race.setPhase thread (.done (.ok ()))
      else race.setPhase thread (.compared head race.chain.canonicalHead)
    | _ => race
  | .writeHead thread =>
    match race.threads thread with
    | .compared head currentHead =>
      let oldFinalizedEpoch := (tree.finalizedCheckpoint currentHead).epoch
      let newFinalizedEpoch := (tree.finalizedCheckpoint head).epoch
      if newFinalizedEpoch < oldFinalizedEpoch then
        race.setPhase thread (.done (.error (.revertedFinalizedEpoch oldFinalizedEpoch newFinalizedEpoch)))
      else
        { race.setPhase thread (.done (.ok ())) with
          chain := { race.chain with canonicalHead := head, earlyAttesterCache := none }
          writes := race.writes ++ [(race.chain.canonicalHead, head)] }
    | _ => race

/-- Run a schedule of steps. -/
def run (race : Race) (schedule : List RaceEvent) : Race := schedule.foldl (step tree) race

end Race

end BeaconChain
