import BeaconChain.Types

/-! The block tree behind every state's `block_roots`. The root a chain holds at a slot is
its latest block at or before that slot: `process_slot` writes it into `block_roots`, and the
roots iterators yield it at skipped slots. -/

namespace BeaconChain

/-- Every block the node may meet, by root: its slot, its parent, and the finalized epoch of
its post-state. Slots strictly decrease from a block to its parent down to the genesis slot,
and no state has finalized an epoch that starts after it. -/
structure BlockTree (spec : EthSpec) where
  slot : Root → Nat
  parent : Root → Root
  finalizedEpoch : Root → Nat
  parent_slot_lt : ∀ root, 0 < slot root → slot (parent root) < slot root
  finalized_start_le : ∀ root, spec.startSlot (finalizedEpoch root) ≤ slot root

namespace BlockTree

variable {spec : EthSpec} (tree : BlockTree spec)

/-- Follow parent links from `root` for at most `fuel` blocks, stopping at the first block at
or before `slot`. -/
def ancestorAt : Nat → Root → Nat → Root
  | 0, root, _ => root
  | fuel + 1, root, slot =>
    if tree.slot root ≤ slot then root else ancestorAt fuel (tree.parent root) slot

/-- The root that the chain ending at `root` holds at `slot`: its latest block at or before
`slot`. Each parent link lowers the slot, so the block's own slot is enough fuel. -/
def rootAt (root : Root) (slot : Nat) : Root := tree.ancestorAt (tree.slot root) root slot

/-- The finalized checkpoint of the post-state of `root`: its epoch, and the block root its
chain holds at the epoch's start slot (`get_block_root(state, epoch)`). -/
def finalizedCheckpoint (root : Root) : Checkpoint :=
  ⟨tree.finalizedEpoch root, tree.rootAt root (spec.startSlot (tree.finalizedEpoch root))⟩

@[simp] theorem finalizedCheckpoint_epoch (root : Root) :
    (tree.finalizedCheckpoint root).epoch = tree.finalizedEpoch root := rfl

/-- `descendant` is `ancestor` or lies above it on `ancestor`'s chain. -/
inductive Descends : Root → Root → Prop
  | refl (root : Root) : Descends root root
  | parent {descendant ancestor : Root} : 0 < tree.slot descendant →
      Descends (tree.parent descendant) ancestor → Descends descendant ancestor

variable {tree}

theorem ancestorAt_succ {fuel : Nat} {root : Root} (slot : Nat) (enough : tree.slot root ≤ fuel) :
    tree.ancestorAt (fuel + 1) root slot = tree.ancestorAt fuel root slot := by
  induction fuel generalizing root with
  | zero => simp [ancestorAt, show tree.slot root = 0 by omega]
  | succ fuel ih =>
    show (if tree.slot root ≤ slot then root else tree.ancestorAt (fuel + 1) (tree.parent root) slot) =
      (if tree.slot root ≤ slot then root else tree.ancestorAt fuel (tree.parent root) slot)
    split
    · rfl
    · have := tree.parent_slot_lt root (by omega)
      exact ih (by omega)

theorem ancestorAt_eq_rootAt {fuel : Nat} {root : Root} (slot : Nat)
    (enough : tree.slot root ≤ fuel) : tree.ancestorAt fuel root slot = tree.rootAt root slot := by
  induction fuel, enough using Nat.le_induction with
  | base => rfl
  | succ fuel enough ih => rw [ancestorAt_succ slot enough, ih]

theorem rootAt_of_le {root : Root} {slot : Nat} (reached : tree.slot root ≤ slot) :
    tree.rootAt root slot = root := by
  unfold rootAt
  cases tree.slot root with
  | zero => rfl
  | succ k => simp [ancestorAt, reached]

theorem rootAt_of_lt {root : Root} {slot : Nat} (above : slot < tree.slot root) :
    tree.rootAt root slot = tree.rootAt (tree.parent root) slot := by
  have lower := tree.parent_slot_lt root (by omega)
  obtain ⟨k, hk⟩ : ∃ k, tree.slot root = k + 1 := ⟨tree.slot root - 1, by omega⟩
  show tree.ancestorAt (tree.slot root) root slot = _
  rw [hk, ancestorAt, if_neg (by omega)]
  exact ancestorAt_eq_rootAt slot (by omega)

/-- Induction along parent links: what holds of a block whenever it holds of the block's
parent (for blocks above the genesis slot) holds of every block. -/
@[elab_as_elim]
theorem induction_on (tree : BlockTree spec) {motive : Root → Prop} (root : Root)
    (step : ∀ root, (0 < tree.slot root → motive (tree.parent root)) → motive root) :
    motive root := by
  generalize h : tree.slot root = n
  induction n using Nat.strong_induction_on generalizing root with
  | _ n ih => exact step root fun pos => ih _ (h ▸ tree.parent_slot_lt root pos) _ rfl

theorem rootAt_self (root : Root) : tree.rootAt root (tree.slot root) = root :=
  rootAt_of_le le_rfl

theorem slot_rootAt_le (root : Root) (slot : Nat) : tree.slot (tree.rootAt root slot) ≤ slot := by
  induction root using induction_on tree with
  | step root ih =>
    by_cases reached : tree.slot root ≤ slot
    · rwa [rootAt_of_le reached]
    · rw [rootAt_of_lt (by omega)]
      exact ih (by omega)

/-- The chain of a block's ancestor agrees with the block's own chain below it. -/
theorem rootAt_rootAt (root : Root) {earlier slot : Nat} (le : earlier ≤ slot) :
    tree.rootAt (tree.rootAt root slot) earlier = tree.rootAt root earlier := by
  induction root using induction_on tree with
  | step root ih =>
    by_cases reached : tree.slot root ≤ slot
    · rw [rootAt_of_le reached]
    · have step : tree.rootAt root slot = tree.rootAt (tree.parent root) slot := rootAt_of_lt (by omega)
      have earlierStep : tree.rootAt root earlier = tree.rootAt (tree.parent root) earlier :=
        rootAt_of_lt (by omega)
      rw [step, earlierStep]
      exact ih (by omega)

theorem Descends.slot_le {descendant ancestor : Root} (descends : tree.Descends descendant ancestor) :
    tree.slot ancestor ≤ tree.slot descendant := by
  induction descends with
  | refl => exact le_rfl
  | parent pos _ ih => exact Nat.le_trans ih (Nat.le_of_lt (tree.parent_slot_lt _ pos))

theorem Descends.trans {a b c : Root} (upper : tree.Descends a b) (lower : tree.Descends b c) :
    tree.Descends a c := by
  induction upper with
  | refl => exact lower
  | parent pos _ ih => exact .parent pos (ih lower)

/-- The root a chain holds at a slot is one of its blocks. -/
theorem descends_rootAt (root : Root) (slot : Nat) : tree.Descends root (tree.rootAt root slot) := by
  induction root using induction_on tree with
  | step root ih =>
    by_cases reached : tree.slot root ≤ slot
    · rw [rootAt_of_le reached]
      exact .refl root
    · rw [rootAt_of_lt (by omega)]
      exact .parent (by omega) (ih (by omega))

theorem descends_iff_rootAt {descendant ancestor : Root} :
    tree.Descends descendant ancestor ↔ tree.rootAt descendant (tree.slot ancestor) = ancestor := by
  constructor
  · intro descends
    induction descends with
    | refl root => exact rootAt_self root
    | @parent descendant _ pos lower ih =>
      have := lower.slot_le
      have := tree.parent_slot_lt descendant pos
      rw [rootAt_of_lt (by omega), ih]
  · intro found
    rw [← found]
    exact descends_rootAt _ _

instance : DecidableRel tree.Descends := fun _ _ => decidable_of_iff _ descends_iff_rootAt.symm

end BlockTree

/-- The parts of `BeaconState` that the modelled functions read. The state sits at `slot`
on the chain of `latestBlockRoot`; slots after that block are skipped. -/
structure BeaconState where
  slot : Nat
  latestBlockRoot : Root
  finalizedCheckpoint : Checkpoint
  deriving DecidableEq, Repr

namespace BeaconState

variable {spec : EthSpec} (tree : BlockTree spec)

/-- The post-state of the block `root`, as the store returns it with the block. -/
def ofBlock (root : Root) : BeaconState := ⟨tree.slot root, root, tree.finalizedCheckpoint root⟩

/-- `BeaconState::get_block_root`: the `block_roots` entry of `slot`, kept for the
`SLOTS_PER_HISTORICAL_ROOT` slots before the state's own. Callers only test it with `ok()`. -/
def getBlockRoot (state : BeaconState) (slot : Nat) : Option Root :=
  if slot < state.slot ∧ state.slot ≤ slot + spec.slotsPerHistoricalRoot then
    some (tree.rootAt state.latestBlockRoot slot)
  else none

/-- `BeaconState::rev_iter_block_roots`: `(slot, root)` for the slots before the state's own,
newest first, down to the genesis slot or the start of the window. -/
def revIterBlockRoots (state : BeaconState) : List (Nat × Root) :=
  (List.range (min state.slot spec.slotsPerHistoricalRoot)).map fun i =>
    (state.slot - (i + 1), tree.rootAt state.latestBlockRoot (state.slot - (i + 1)))

variable {tree}

@[simp] theorem ofBlock_slot (root : Root) : (ofBlock tree root).slot = tree.slot root := rfl

@[simp] theorem ofBlock_latestBlockRoot (root : Root) : (ofBlock tree root).latestBlockRoot = root :=
  rfl

@[simp] theorem ofBlock_finalizedCheckpoint (root : Root) :
    (ofBlock tree root).finalizedCheckpoint = tree.finalizedCheckpoint root := rfl

theorem getBlockRoot_eq_some {state : BeaconState} {slot : Nat} {root : Root} :
    state.getBlockRoot tree slot = some root ↔
      (slot < state.slot ∧ state.slot ≤ slot + spec.slotsPerHistoricalRoot) ∧
        tree.rootAt state.latestBlockRoot slot = root := by
  unfold getBlockRoot
  split <;> simp [*]

theorem getBlockRoot_eq_none {state : BeaconState} {slot : Nat} :
    state.getBlockRoot tree slot = none ↔
      ¬(slot < state.slot ∧ state.slot ≤ slot + spec.slotsPerHistoricalRoot) := by
  unfold getBlockRoot
  split <;> simp [*]

end BeaconState

end BeaconChain
