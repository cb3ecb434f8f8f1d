import BeaconChain.Types

/-! `update_execution_engine_forkchoice_async` as a thread of a concurrent system. Every caller
takes `execution_engine_forkchoice_lock`, reads the fork choice parameters, decides what to send,
notifies the execution layer and releases; imports and head selection change fork choice at any
step in between. -/

namespace BeaconChain

/-- `ForkchoiceUpdateParameters`, as `get_forkchoice_update_parameters` returns them. -/
structure ForkchoiceUpdateParameters where
  headRoot : Root
  headHash : Option Nat
  finalizedHash : Option Nat
  deriving DecidableEq, Repr

/-- The arguments of one `notify_forkchoice_updated` call. -/
structure ForkchoiceCall where
  headHash : Nat
  finalizedHash : Nat
  headBlockRoot : Root
  deriving DecidableEq, Repr

/-- What the lock holder learns about `next_slot` when the head has no execution block hash:
whether `fork_name_at_slot(next_slot)` is past Altair, whether `payload_attributes` names this
node as proposer, and what `get_terminal_pow_block_hash` returns. -/
structure ProposerPreparation where
  postBellatrix : Bool
  proposer : Bool
  terminalPowBlockHash : Except Error (Option Nat)
  deriving DecidableEq, Repr

/-- The body of `update_execution_engine_forkchoice_async` between reading the parameters and
notifying: the call it makes, `none` when it returns `Ok(())` without one, or its error. A
missing finalized hash is sent as `ExecutionBlockHash::zero()`. -/
def forkchoiceCall (parameters : Option ForkchoiceUpdateParameters) (preparation : ProposerPreparation) :
    Except Error (Option ForkchoiceCall) :=
  match parameters with
  | none => .ok none
  | some params =>
    match params.headHash with
    | some headHash => .ok (some ⟨headHash, params.finalizedHash.getD 0, params.headRoot⟩)
    | none =>
      if !preparation.postBellatrix then .ok none
      else if !preparation.proposer then .ok none
      else
        match preparation.terminalPowBlockHash with
        | .error error => .error error
        | .ok (some terminalPowBlockHash) =>
          .ok (some ⟨terminalPowBlockHash, params.finalizedHash.getD 0, params.headRoot⟩)
        | .ok none => .ok none

/-- Where one call of `update_execution_engine_forkchoice_async` is. The read is numbered by
its position among all reads of fork choice parameters. -/
inductive Phase where
  | idle
  | waiting
  | locked
  | holding (read : Nat) (parameters : Option ForkchoiceUpdateParameters)
  | sending (read : Nat) (call : ForkchoiceCall)
  | sent
  | done
  deriving DecidableEq, Repr

/-- The phases in which the call holds `execution_engine_forkchoice_lock`. -/
def Phase.holdsLock : Phase → Bool
  | .locked | .holding _ _ | .sending _ _ | .sent => true
  | .idle | .waiting | .done => false

/-- The system: fork choice's current parameters, the lock, each call's phase, and, as ghost
state, every read of the parameters in order and every call the execution layer received with
the number of the read it came from. -/
structure System where
  forkChoice : Option ForkchoiceUpdateParameters
  lockHolder : Option Nat
  threads : Nat → Phase
  reads : List (Option ForkchoiceUpdateParameters)
  engine : List (Nat × ForkchoiceCall)

/-- No call has started and nothing has been read or sent. -/
def System.initial (forkChoice : Option ForkchoiceUpdateParameters) : System :=
  ⟨forkChoice, none, fun _ => .idle, [], []⟩

/-- One step of the system. -/
inductive Event where
  /-- An import, head selection or `on_valid_execution_payload` writes fork choice. -/
  | mutateForkChoice (parameters : Option ForkchoiceUpdateParameters)
  /-- A call starts; it returns at once before Bellatrix or without an execution layer. -/
  | start (thread : Nat) (returnsEarly : Bool)
  /-- `execution_engine_forkchoice_lock().await` completes. -/
  | acquire (thread : Nat)
  /-- `self.fork_choice.read().get_forkchoice_update_parameters()`. -/
  | read (thread : Nat)
  /-- The lock holder works out its call; returning drops the guard. -/
  | prepare (thread : Nat) (preparation : ProposerPreparation)
  /-- `notify_forkchoice_updated` reaches the execution layer. -/
  | notify (thread : Nat)
  /-- `drop(forkchoice_lock)`. -/
  | release (thread : Nat)

namespace System

/-- Move `thread` to `phase`. -/
def setPhase (system : System) (thread : Nat) (phase : Phase) : System :=
  { system with threads := Function.update system.threads thread phase }

/-- The step function; an event whose thread is not in the phase it needs changes nothing. -/
def step (system : System) : Event → System
  | .mutateForkChoice parameters => { system with forkChoice := parameters }
  | .start thread returnsEarly =>
    match system.threads thread with
    | .idle => system.setPhase thread (if returnsEarly then .done else .waiting)
    | _ => system
  | .acquire thread =>
    match system.threads thread, system.lockHolder with
    | .waiting, none => { system.setPhase thread .locked with lockHolder := some thread }
    | _, _ => system
  | .read thread =>
    match system.threads thread with
    | .locked =>
      { system.setPhase thread (.holding system.reads.length system.forkChoice) with
        reads := system.reads ++ [system.forkChoice] }
    | _ => system
  | .prepare thread preparation =>
    match system.threads thread with
    | .holding read parameters =>
      match forkchoiceCall parameters preparation with
      | .ok (some call) => system.setPhase thread (.sending read call)
      | _ => { system.setPhase thread .done with lockHolder := none }
    | _ => system
  | .notify thread =>
    match system.threads thread with
    | .sending read call => { system.setPhase thread .sent with engine := system.engine ++ [(read, call)] }
    | _ => system
  | .release thread =>
    match system.threads thread with
    | .sent => { system.setPhase thread .done with lockHolder := none }
    | _ => system

/-- Run a schedule of events. -/
def run (system : System) (schedule : List Event) : System := schedule.foldl step system

@[simp] theorem setPhase_threads (system : System) (thread : Nat) (phase : Phase) :
    (system.setPhase thread phase).threads = Function.update system.threads thread phase := rfl

@[simp] theorem setPhase_lockHolder (system : System) (thread : Nat) (phase : Phase) :
    (system.setPhase thread phase).lockHolder = system.lockHolder := rfl

@[simp] theorem setPhase_reads (system : System) (thread : Nat) (phase : Phase) :
    (system.setPhase thread phase).reads = system.reads := rfl

@[simp] theorem setPhase_engine (system : System) (thread : Nat) (phase : Phase) :
    (system.setPhase thread phase).engine = system.engine := rfl

@[simp] theorem run_nil (system : System) : system.run [] = system := rfl

@[simp] theorem run_cons (system : System) (event : Event) (schedule : List Event) :
    system.run (event :: schedule) = (system.step event).run schedule := rfl

end System

end BeaconChain
