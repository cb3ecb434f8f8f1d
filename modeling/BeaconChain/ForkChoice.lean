import BeaconChain.Roots

/-! Fork choice and the chain state that block import and head selection share. The scoring
structure behind `get_head` lives outside the source, so fork choice is modelled from the spec
by what the engine reads of it: the blocks it holds and its finalized checkpoint, how
`on_block` and `prune` change them, and the contract of `get_head`. -/

namespace BeaconChain

/-- Modelled from the spec: the external fork-choice structure, reduced to its blocks and its
finalized checkpoint. -/
structure ForkChoice where
  blocks : List Root
  finalizedCheckpoint : Checkpoint
  deriving DecidableEq, Repr

namespace ForkChoice

variable {spec : EthSpec} (tree : BlockTree spec) (forkChoice : ForkChoice)

/-- `get_block(root).is_some()`. -/
def containsBlock (root : Root) : Bool := forkChoice.blocks.contains root

/-- Modelled from the spec: what `on_block` does once its checks pass: it registers the block and
adopts the finalized checkpoint of its post-state when that checkpoint is later. -/
def addBlock (blockRoot : Root) (state : BeaconState) : ForkChoice where
  blocks := blockRoot :: forkChoice.blocks
  finalizedCheckpoint :=
    if forkChoice.finalizedCheckpoint.epoch < state.finalizedCheckpoint.epoch then state.finalizedCheckpoint
    else forkChoice.finalizedCheckpoint

@[simp] theorem containsBlock_addBlock (blockRoot : Root) (state : BeaconState) :
    (forkChoice.addBlock blockRoot state).containsBlock blockRoot = true := by
  simp [addBlock, containsBlock]

theorem containsBlock_addBlock_of_containsBlock {root : Root} (contains : forkChoice.containsBlock root = true)
    (blockRoot : Root) (state : BeaconState) : (forkChoice.addBlock blockRoot state).containsBlock root = true := by
  simp only [containsBlock, addBlock, List.elem_eq_mem, decide_eq_true_eq, List.mem_cons] at contains ⊢
  exact Or.inr contains

/-- Modelled from the spec: `ForkChoice::on_block`, its checks against the finalized checkpoint
and then `addBlock`. The block must be after the start slot of the finalized epoch, and its
parent's ancestor at that slot (`get_ancestor`, the latest block at or before it) must be the
finalized root. -/
def onBlock (blockRoot : Root) (state : BeaconState) : Except Error ForkChoice :=
  let finalizedSlot := spec.startSlot forkChoice.finalizedCheckpoint.epoch
  if tree.slot blockRoot ≤ finalizedSlot then
    .error (.forkChoiceInvalidBlock (.finalizedSlot finalizedSlot (tree.slot blockRoot)))
  else
    let blockAncestor := tree.rootAt (tree.parent blockRoot) finalizedSlot
    if blockAncestor ≠ forkChoice.finalizedCheckpoint.root then
      .error (.forkChoiceInvalidBlock (.notFinalizedDescendant forkChoice.finalizedCheckpoint.root (some blockAncestor)))
    else .ok (forkChoice.addBlock blockRoot state)

theorem onBlock_eq_ok {blockRoot : Root} {state : BeaconState} {next : ForkChoice}
    (added : forkChoice.onBlock tree blockRoot state = .ok next) :
    spec.startSlot forkChoice.finalizedCheckpoint.epoch < tree.slot blockRoot ∧
      tree.rootAt (tree.parent blockRoot) (spec.startSlot forkChoice.finalizedCheckpoint.epoch) =
        forkChoice.finalizedCheckpoint.root ∧
      next = forkChoice.addBlock blockRoot state := by
  simp only [onBlock, ite_eq_iff, reduceCtorEq, Except.ok.injEq, ne_eq, not_le, not_not, and_false, false_or] at added
  exact ⟨added.1, added.2.1, added.2.2.symm⟩

/-- Modelled from the spec: `prune` drops the blocks that do not descend from the finalized
block. -/
def prune : ForkChoice :=
  { forkChoice with blocks := forkChoice.blocks.filter fun root => tree.Descends root forkChoice.finalizedCheckpoint.root }

@[simp] theorem prune_finalizedCheckpoint : (forkChoice.prune tree).finalizedCheckpoint = forkChoice.finalizedCheckpoint :=
  rfl

/-- A prune keeps every block that descends from the finalized block. -/
theorem containsBlock_prune {root : Root} (contains : forkChoice.containsBlock root = true)
    (descends : tree.Descends root forkChoice.finalizedCheckpoint.root) : (forkChoice.prune tree).containsBlock root = true := by
  simp only [containsBlock, prune, List.elem_eq_mem, decide_eq_true_eq, List.mem_filter] at contains ⊢
  exact ⟨contains, descends⟩

/-- Modelled from the spec: `get_head` returns a block of fork choice that descends from its
finalized block; which one is up to the scoring, so the scoring's answer is a parameter, and
an answer outside that contract is reported as an error. -/
def getHead (answer : Except Error Root) : Except Error Root :=
  match answer with
  | .ok root =>
    if forkChoice.containsBlock root ∧ tree.Descends root forkChoice.finalizedCheckpoint.root then .ok root
    else .error .forkChoiceError
  | .error error => .error error

end ForkChoice

/-- What `get_head` returns is a block of fork choice that descends from its finalized block. -/
theorem getHead_eq_ok {spec : EthSpec} {tree : BlockTree spec} {forkChoice : ForkChoice} {answer : Except Error Root}
    {head : Root} (selected : forkChoice.getHead tree answer = .ok head) :
    forkChoice.containsBlock head = true ∧ tree.Descends head forkChoice.finalizedCheckpoint.root := by
  unfold ForkChoice.getHead at selected
  split at selected
  · split at selected
    · next valid => cases selected; exact ⟨of_decide_eq_true (by simpa using valid.1), valid.2⟩
    · cases selected
  · cases selected

/-- Modelled from the spec: `check_block_is_finalized_descendant` accepts a block whose parent
fork choice holds and descends from fork choice's finalized block; else the parent is reported as
not a finalized descendant when the store holds it, and as unknown when it does not. -/
def checkBlockIsFinalizedDescendant {spec : EthSpec} (tree : BlockTree spec) (forkChoice : ForkChoice)
    (stored : List Root) (blockRoot : Root) : Except BlockError Unit :=
  let parentRoot := tree.parent blockRoot
  if forkChoice.containsBlock parentRoot ∧ tree.Descends parentRoot forkChoice.finalizedCheckpoint.root then .ok ()
  else if parentRoot ∈ stored then .error (.notFinalizedDescendant parentRoot)
  else .error (.parentUnknown parentRoot)

/-- The parts of `BeaconChain` that import and head selection change: fork choice behind its
lock, the block of the `canonical_head` snapshot (its state is the block's post-state), the
fork choice last written under `FORK_CHOICE_DB_KEY`, the blocks in the hot database, the block
of the early attester cache, and whether a shutdown was requested. -/
structure Chain where
  forkChoice : ForkChoice
  canonicalHead : Root
  persistedForkChoice : Option ForkChoice
  stored : List Root
  earlyAttesterCache : Option Root
  shutdownRequested : Bool
  deriving DecidableEq, Repr

end BeaconChain
