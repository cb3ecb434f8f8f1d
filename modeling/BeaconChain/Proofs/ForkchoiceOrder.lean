import BeaconChain.ExecutionEngine

/-! The execution layer receives forkchoiceUpdated calls in the order in which their parameters
were read, under every schedule of calls and fork choice writes. The invariant behind it: the
lock has exactly the holder the calls' phases say, and the holder, once it has read, read after
every call the execution layer has received. -/

namespace BeaconChain.System

/-- `call` is what a thread sends for `parameters`, for some answer of the execution layer
about the next slot. -/
def Produces (parameters : Option ForkchoiceUpdateParameters) (call : ForkchoiceCall) : Prop :=
  ∃ preparation, forkchoiceCall parameters preparation = .ok (some call)

/-- The read numbered `read` returned parameters that produce `call`. -/
def FromRead (system : System) (read : Nat) (call : ForkchoiceCall) : Prop :=
  ∃ parameters, system.reads[read]? = some parameters ∧ Produces parameters call

/-- What the lock holder's phase says about the reads and the execution layer. -/
def HolderOk (system : System) : Phase → Prop
  | .holding read parameters => system.reads[read]? = some parameters ∧ ∀ entry ∈ system.engine, entry.1 < read
  | .sending read call => system.FromRead read call ∧ ∀ entry ∈ system.engine, entry.1 < read
  | _ => True

/-- The invariant of every reachable state. -/
structure Ordered (system : System) : Prop where
  lock : ∀ thread, (system.threads thread).holdsLock = true ↔ system.lockHolder = some thread
  sorted : system.engine.Pairwise fun first second => first.1 < second.1
  fromRead : ∀ entry ∈ system.engine, system.FromRead entry.1 entry.2
  readBefore : ∀ entry ∈ system.engine, entry.1 < system.reads.length
  holder : ∀ thread, system.lockHolder = some thread → system.HolderOk (system.threads thread)

@[simp] theorem setPhase_self (system : System) (thread : Nat) (phase : Phase) :
    (system.setPhase thread phase).threads thread = phase := Function.update_same _ _ _

theorem setPhase_other (system : System) {thread other : Nat} (phase : Phase) (distinct : other ≠ thread) :
    (system.setPhase thread phase).threads other = system.threads other := Function.update_noteq distinct _ _

theorem getElem?_append_of_eq_some {α : Type} {list more : List α} {index : Nat} {value : α}
    (found : list[index]? = some value) : (list ++ more)[index]? = some value := by
  rw [List.getElem?_append_left (List.getElem?_eq_some_iff.mp found).1]
  exact found

theorem initial_ordered (forkChoice : Option ForkchoiceUpdateParameters) : (initial forkChoice).Ordered where
  lock _ := by simp [initial, Phase.holdsLock]
  sorted := List.Pairwise.nil
  fromRead _ none := nomatch none
  readBefore _ none := nomatch none
  holder _ free := nomatch free

namespace Ordered

variable {system : System} (ordered : system.Ordered)
include ordered

/-- Moving a thread between two phases that agree on holding the lock keeps the lock part. -/
theorem lock_setPhase {thread : Nat} {phase : Phase} (agree : phase.holdsLock = (system.threads thread).holdsLock)
    (other : Nat) : ((system.setPhase thread phase).threads other).holdsLock = true ↔ system.lockHolder = some other := by
  by_cases same : other = thread
  · subst same
    rw [setPhase_self, agree]
    exact ordered.lock other
  · rw [setPhase_other _ _ same]
    exact ordered.lock other

theorem holder_eq {thread other : Nat} (holds : (system.threads thread).holdsLock = true)
    (holder : system.lockHolder = some other) : other = thread :=
  Option.some.inj (holder.symm.trans ((ordered.lock thread).mp holds))

/-- A thread starting, or returning at once, holds no lock. -/
theorem start {thread : Nat} {phase : Phase} (idle : system.threads thread = .idle) (free : phase.holdsLock = false) :
    (system.setPhase thread phase).Ordered where
  lock := ordered.lock_setPhase (by rw [idle, free]; rfl)
  sorted := ordered.sorted
  fromRead := ordered.fromRead
  readBefore := ordered.readBefore
  holder other holder := by
    have distinct : other ≠ thread := by
      rintro rfl
      have := (ordered.lock other).mpr holder
      simp [idle, Phase.holdsLock] at this
    rw [setPhase_other _ _ distinct]
    exact ordered.holder other holder

/-- Taking the free lock. -/
theorem acquire {thread : Nat} (free : system.lockHolder = none) :
    ({ system.setPhase thread .locked with lockHolder := some thread } : System).Ordered where
  lock other := by
    by_cases same : other = thread
    · subst same; simp [Phase.holdsLock]
    · dsimp only
      rw [setPhase_other _ _ same]
      constructor
      · intro holds
        rw [(ordered.lock other).mp holds] at free
        cases free
      · intro holder
        exact absurd (Option.some.inj holder).symm same
  sorted := ordered.sorted
  fromRead := ordered.fromRead
  readBefore := ordered.readBefore
  holder other holder := by
    cases Option.some.inj holder
    simp [HolderOk]

/-- Reading the parameters under the lock: the read comes after every call already sent. -/
theorem read {thread : Nat} (locked : system.threads thread = .locked) :
    ({ system.setPhase thread (.holding system.reads.length system.forkChoice) with
        reads := system.reads ++ [system.forkChoice] } : System).Ordered where
  lock := ordered.lock_setPhase (by rw [locked]; rfl)
  sorted := ordered.sorted
  fromRead entry member := by
    obtain ⟨parameters, found, produces⟩ := ordered.fromRead entry member
    exact ⟨parameters, getElem?_append_of_eq_some found, produces⟩
  readBefore entry member := by
    simpa using Nat.lt_succ_of_lt (ordered.readBefore entry member)
  holder other holder := by
    obtain rfl := ordered.holder_eq (by rw [locked]; rfl) holder
    simp only [setPhase_self, setPhase_engine, HolderOk]
    exact ⟨by simp, ordered.readBefore⟩

/-- The holder decides to notify: the call comes from its read. -/
theorem prepare {thread read : Nat} {parameters : Option ForkchoiceUpdateParameters} {call : ForkchoiceCall}
    (holding : system.threads thread = .holding read parameters) (produces : Produces parameters call) :
    (system.setPhase thread (.sending read call)).Ordered where
  lock := ordered.lock_setPhase (by rw [holding]; rfl)
  sorted := ordered.sorted
  fromRead := ordered.fromRead
  readBefore := ordered.readBefore
  holder other holder := by
    obtain rfl := ordered.holder_eq (by rw [holding]; rfl) holder
    have origin := ordered.holder _ holder
    rw [holding] at origin
    obtain ⟨found, later⟩ := origin
    simp only [setPhase_self, HolderOk]
    exact ⟨⟨parameters, found, produces⟩, later⟩

/-- Notifying the execution layer: the call joins the log after every call with an earlier read. -/
theorem notify {thread read : Nat} {call : ForkchoiceCall} (sending : system.threads thread = .sending read call) :
    ({ system.setPhase thread .sent with engine := system.engine ++ [(read, call)] } : System).Ordered := by
  have holds : (system.threads thread).holdsLock = true := by rw [sending]; rfl
  have origin := ordered.holder thread ((ordered.lock thread).mp holds)
  rw [sending] at origin
  obtain ⟨fromCall, later⟩ := origin
  have ⟨_, found, _⟩ := fromCall
  refine ⟨ordered.lock_setPhase (by rw [sending]; rfl), ?_, ?_, ?_, fun other holder => ?_⟩
  · exact List.pairwise_append.mpr ⟨ordered.sorted, List.pairwise_singleton _ _,
      fun entry member last lastMember => by rw [List.mem_singleton.mp lastMember]; exact later entry member⟩
  · simp only [List.mem_append, List.mem_singleton]
    rintro entry (member | rfl)
    · exact ordered.fromRead entry member
    · exact fromCall
  · simp only [List.mem_append, List.mem_singleton]
    rintro entry (member | rfl)
    · exact ordered.readBefore entry member
    · exact (List.getElem?_eq_some_iff.mp found).1
  · cases ordered.holder_eq holds holder
    simp [HolderOk]

/-- The lock holder returns or releases: the lock is free again. -/
theorem finish {thread : Nat} (holds : (system.threads thread).holdsLock = true) :
    ({ system.setPhase thread .done with lockHolder := none } : System).Ordered where
  lock other := by
    by_cases same : other = thread
    · subst same; simp [Phase.holdsLock]
    · rw [setPhase_other _ _ same]
      simp only [reduceCtorEq, iff_false, Bool.not_eq_true]
      cases otherHolds : (system.threads other).holdsLock
      · rfl
      · exact absurd (ordered.holder_eq holds ((ordered.lock other).mp otherHolds)) same
  sorted := ordered.sorted
  fromRead := ordered.fromRead
  readBefore := ordered.readBefore
  holder _ free := nomatch free

/-- Every step keeps the invariant. -/
theorem step (event : Event) : (system.step event).Ordered := by
  cases event with
  | mutateForkChoice parameters =>
    exact ⟨ordered.lock, ordered.sorted, ordered.fromRead, ordered.readBefore, ordered.holder⟩
  | start thread returnsEarly =>
    simp only [System.step]
    split
    · next idle => exact ordered.start idle (by split <;> rfl)
    · exact ordered
  | acquire thread =>
    simp only [System.step]
    split
    · next free => exact ordered.acquire free
    · exact ordered
  | read thread =>
    simp only [System.step]
    split
    · next locked => exact ordered.read locked
    · exact ordered
  | prepare thread preparation =>
    simp only [System.step]
    split
    · next read parameters holding =>
      split
      · next call produces => exact ordered.prepare holding ⟨preparation, produces⟩
      · exact ordered.finish (by rw [holding]; rfl)
    · exact ordered
  | notify thread =>
    simp only [System.step]
    split
    · next sending => exact ordered.notify sending
    · exact ordered
  | release thread =>
    simp only [System.step]
    split
    · next sent => exact ordered.finish (by rw [sent]; rfl)
    · exact ordered

end Ordered

/-- Every schedule keeps the invariant. -/
theorem Ordered.run {system : System} (ordered : system.Ordered) (schedule : List Event) :
    (system.run schedule).Ordered := by
  induction schedule generalizing system with
  | nil => exact ordered
  | cons event schedule ih => exact ih (ordered.step event)

/-- Under every schedule of calls from any caller, fork choice writes and execution layer
answers: a call holds `execution_engine_forkchoice_lock` from taking it until it returns or
releases it, and nobody else does meanwhile; the execution layer receives the calls in the order
of the reads that produced them; and each call it receives is made from the parameters of its
read. -/
theorem engine_receives_calls_in_read_order (forkChoice : Option ForkchoiceUpdateParameters)
    (schedule : List Event) :
    let system := (initial forkChoice).run schedule
    (∀ thread, (system.threads thread).holdsLock = true ↔ system.lockHolder = some thread) ∧
      system.engine.Pairwise (fun first second => first.1 < second.1) ∧
      ∀ entry ∈ system.engine, system.FromRead entry.1 entry.2 :=
  have ordered := (initial_ordered forkChoice).run schedule
  ⟨ordered.lock, ordered.sorted, ordered.fromRead⟩

end BeaconChain.System
