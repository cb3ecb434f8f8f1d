import BeaconChain.Roots

/-! What `block_root_at_slot` answers on a canonical chain. Both paths of `WhenSlotSkipped::Prev`
return the latest canonical root at or before the request. `WhenSlotSkipped::None` is exact
once the slot before the request is stored; at the oldest stored slot its slow path asks the
store for the slot before that, and the query answers `None` for a block that exists. -/

namespace BeaconChain.ChainView

variable {spec : EthSpec}

/-- The block of the chain of `head` proposed at exactly `slot`, if the slot was not skipped. -/
def canonicalBlockAt (tree : BlockTree spec) (head : Root) (slot : Nat) : Option Root :=
  if tree.slot (tree.rootAt head slot) = slot then some (tree.rootAt head slot) else none

theorem canonicalBlockAt_eq_some {tree : BlockTree spec} {head root : Root} {slot : Nat} :
    canonicalBlockAt tree head slot = some root ↔ tree.Descends head root ∧ tree.slot root = slot := by
  unfold canonicalBlockAt
  constructor
  · intro found
    split at found
    · cases found
      exact ⟨BlockTree.descends_rootAt head slot, by assumption⟩
    · cases found
  · rintro ⟨descends, rfl⟩
    simp [BlockTree.descends_iff_rootAt.mp descends]

/-- A chain of the minimal spec with a block at every slot, the block at slot `r` having root
`r`, headed at slot 80 with the wall clock there, checkpoint-synced from slot 10. -/
def everySlotView : ChainView EthSpec.minimal where
  tree :=
    { slot := id
      parent := fun root => root - 1
      finalizedEpoch := fun _ => 0
      parent_slot_lt := fun root pos => by simp only [id] at pos ⊢; omega
      finalized_start_le := fun root => Nat.zero_le root }
  head := 80
  genesisBlockRoot := 0
  clock := some 80
  oldestBlockSlot := 10

variable {chain : ChainView spec}

/-- A slot holds a new block exactly when the chain's root changes from the slot before. -/
theorem rootAt_pred_ne_iff (tree : BlockTree spec) (root : Root) {slot : Nat} (pos : 0 < slot) :
    tree.rootAt root (slot - 1) ≠ tree.rootAt root slot ↔ tree.slot (tree.rootAt root slot) = slot := by
  have below := tree.slot_rootAt_le root slot
  constructor
  · intro changed
    by_contra skipped
    apply changed
    rw [← tree.rootAt_rootAt root (Nat.sub_le slot 1), BlockTree.rootAt_of_le (by omega)]
  · intro exact same
    have := tree.slot_rootAt_le root (slot - 1)
    rw [same] at this
    omega

theorem forwardsBlockRootsIterator_cons {startSlot : Nat} (reached : startSlot ≤ chain.tree.slot chain.head) :
    chain.forwardsBlockRootsIterator startSlot =
      (chain.tree.rootAt chain.head startSlot, startSlot) :: chain.forwardsBlockRootsIterator (startSlot + 1) := by
  unfold forwardsBlockRootsIterator
  rw [show chain.tree.slot chain.head + 1 - startSlot = (chain.tree.slot chain.head + 1 - (startSlot + 1)) + 1
    by omega, List.range_succ_eq_map]
  simp only [List.map_cons, List.map_map, Nat.add_zero, Function.comp_def, Nat.add_assoc, Nat.add_comm 1]

theorem forwardsIterBlockRootsUntil_of_le {startSlot endSlot : Nat}
    (stored : chain.oldestBlockSlot ≤ startSlot) :
    chain.forwardsIterBlockRootsUntil startSlot endSlot =
      .ok ((chain.forwardsBlockRootsIterator startSlot).takeWhile fun entry => entry.2 ≤ endSlot) := by
  simp [forwardsIterBlockRootsUntil, Nat.not_lt.mpr stored]

/-- The slow path of `WhenSlotSkipped::Prev` reads the canonical root at the request. -/
theorem skipsPrev_slowPath {requestSlot : Nat} (stored : chain.oldestBlockSlot ≤ requestSlot)
    (below : requestSlot < chain.tree.slot chain.head) :
    chain.forwardsIterBlockRootsUntil requestSlot requestSlot =
      .ok ((chain.tree.rootAt chain.head requestSlot, requestSlot) ::
        ((chain.forwardsBlockRootsIterator (requestSlot + 1)).takeWhile fun entry => entry.2 ≤ requestSlot)) := by
  rw [forwardsIterBlockRootsUntil_of_le stored, forwardsBlockRootsIterator_cons (Nat.le_of_lt below)]
  simp

/-- The slow path of `WhenSlotSkipped::None` reads the canonical roots at the request and
at the slot before it. -/
theorem skipsNone_slowPath {requestSlot : Nat} (pos : 0 < requestSlot)
    (stored : chain.oldestBlockSlot ≤ requestSlot - 1) (below : requestSlot < chain.tree.slot chain.head) :
    chain.forwardsIterBlockRootsUntil (requestSlot - 1) requestSlot =
      .ok ((chain.tree.rootAt chain.head (requestSlot - 1), requestSlot - 1) ::
        (chain.tree.rootAt chain.head requestSlot, requestSlot) ::
          ((chain.forwardsBlockRootsIterator (requestSlot + 1)).takeWhile fun entry => entry.2 ≤ requestSlot)) := by
  rw [forwardsIterBlockRootsUntil_of_le stored, forwardsBlockRootsIterator_cons (by omega),
    Nat.sub_add_cancel pos, forwardsBlockRootsIterator_cons (Nat.le_of_lt below)]
  simp [show requestSlot - 1 ≤ requestSlot by omega]

/-- Both paths of `WhenSlotSkipped::Prev` answer the latest canonical root at or before any
slot from the oldest stored block to the wall clock. -/
theorem blockRootAtSlot_prev {requestSlot currentSlot : Nat} (clock : chain.clock = some currentSlot)
    (pos : 0 < requestSlot) (past : requestSlot ≤ currentSlot) (stored : chain.oldestBlockSlot ≤ requestSlot) :
    chain.blockRootAtSlot requestSlot .prev = .ok (some (chain.tree.rootAt chain.head requestSlot)) := by
  have prev : chain.blockRootAtSlotSkipsPrev requestSlot = .ok (some (chain.tree.rootAt chain.head requestSlot)) := by
    simp only [blockRootAtSlotSkipsPrev, slot, clock, Nat.not_lt.mpr past, if_false,
      Nat.pos_iff_ne_zero.mp pos, skipsPrevFastLookup]
    by_cases reached : chain.tree.slot chain.head ≤ requestSlot
    · simp [reached, BlockTree.rootAt_of_le reached]
    · simp only [reached, if_false]
      cases fast : chain.headState.getBlockRoot chain.tree requestSlot with
      | some root =>
        obtain ⟨-, same⟩ := BeaconState.getBlockRoot_eq_some.mp fast
        simp at same
        simp [same]
      | none => simp [skipsPrev_slowPath stored (by omega)]
  simp [blockRootAtSlot, prev]

theorem blockRootAtSlot_prev_at_oldest :
    everySlotView.clock = some 80 ∧ 0 < 10 ∧ 10 ≤ 80 ∧ everySlotView.oldestBlockSlot ≤ 10 ∧
      everySlotView.blockRootAtSlot 10 .prev = .ok (some 10) :=
  ⟨rfl, by decide, by decide, by decide, blockRootAtSlot_prev rfl (by decide) (by decide) (by decide)⟩

/-- Comparing the chain's roots at a slot and the slot before finds the block proposed there. -/
theorem canonicalBlockAt_of_roots (tree : BlockTree spec) (head : Root) {slot : Nat} (pos : 0 < slot) :
    (if tree.rootAt head (slot - 1) ≠ tree.rootAt head slot then some (tree.rootAt head slot) else none) =
      canonicalBlockAt tree head slot := by
  unfold canonicalBlockAt
  by_cases proposed : tree.slot (tree.rootAt head slot) = slot
  · simp [proposed, (rootAt_pred_ne_iff tree head pos).mpr proposed]
  · simp [proposed, not_not.mp (mt (rootAt_pred_ne_iff tree head pos).mp proposed)]

/-- Whenever the head state settles a `WhenSlotSkipped::None` request, it settles it right. -/
theorem skipsNoneFastLookup_eq_some {requestSlot : Nat} {answer : Option Root} (pos : 0 < requestSlot)
    (fast : chain.skipsNoneFastLookup requestSlot (requestSlot - 1) = some answer) :
    answer = canonicalBlockAt chain.tree chain.head requestSlot := by
  have window := spec.slotsPerHistoricalRoot_pos
  unfold skipsNoneFastLookup at fast
  rcases Nat.lt_trichotomy (chain.tree.slot chain.head) requestSlot with before | same | after
  · simp only [headState_slot, Nat.compare_eq_lt.mpr before, Option.some.injEq] at fast
    subst fast
    simp [canonicalBlockAt, BlockTree.rootAt_of_le (Nat.le_of_lt before), Nat.ne_of_lt before]
  · have prev : chain.headState.getBlockRoot chain.tree (requestSlot - 1) =
        some (chain.tree.rootAt chain.head (requestSlot - 1)) :=
      BeaconState.getBlockRoot_eq_some.mpr ⟨by simp; omega, rfl⟩
    have earlier := chain.tree.slot_rootAt_le chain.head (requestSlot - 1)
    have moved : chain.tree.rootAt chain.head (requestSlot - 1) ≠ chain.head := by
      intro equal
      rw [equal] at earlier
      omega
    simp only [headState_slot, same, Nat.compare_eq_eq.mpr rfl, prev, moved] at fast
    cases fast
    simp [canonicalBlockAt, BlockTree.rootAt_of_le (Nat.le_of_eq same), same, moved]
  · simp only [headState_slot, Nat.compare_eq_gt.mpr after] at fast
    split at fast
    · rename_i requestRoot prevRoot request prev
      obtain ⟨-, rfl⟩ := BeaconState.getBlockRoot_eq_some.mp request
      obtain ⟨-, rfl⟩ := BeaconState.getBlockRoot_eq_some.mp prev
      cases fast
      exact canonicalBlockAt_of_roots chain.tree chain.head pos
    · cases fast

/-- The head state declines a `WhenSlotSkipped::None` request only below the head's slot. -/
theorem skipsNoneFastLookup_eq_none {requestSlot : Nat} (pos : 0 < requestSlot)
    (slow : chain.skipsNoneFastLookup requestSlot (requestSlot - 1) = none) :
    requestSlot < chain.tree.slot chain.head := by
  have window := spec.slotsPerHistoricalRoot_pos
  by_contra reached
  unfold skipsNoneFastLookup at slow
  rcases Nat.lt_or_eq_of_le (Nat.not_lt.mp reached) with before | same
  · simp [Nat.compare_eq_lt.mpr before] at slow
  · have prev : chain.headState.getBlockRoot chain.tree (requestSlot - 1) =
        some (chain.tree.rootAt chain.head (requestSlot - 1)) :=
      BeaconState.getBlockRoot_eq_some.mpr ⟨by simp; omega, rfl⟩
    simp [same, prev, Nat.compare_eq_eq.mpr rfl] at slow

/-- `WhenSlotSkipped::None` answers the block proposed at exactly the request, or `None` at a
skipped slot, for every slot after the oldest stored block up to the wall clock. -/
theorem blockRootAtSlot_none {requestSlot currentSlot : Nat} (clock : chain.clock = some currentSlot)
    (pos : 0 < requestSlot) (past : requestSlot ≤ currentSlot) (stored : chain.oldestBlockSlot < requestSlot) :
    chain.blockRootAtSlot requestSlot .none = .ok (canonicalBlockAt chain.tree chain.head requestSlot) := by
  have none : chain.blockRootAtSlotSkipsNone requestSlot = .ok (canonicalBlockAt chain.tree chain.head requestSlot) := by
    simp only [blockRootAtSlotSkipsNone, slot, clock, Nat.not_lt.mpr past, if_false,
      Nat.pos_iff_ne_zero.mp pos]
    cases fast : chain.skipsNoneFastLookup requestSlot (requestSlot - 1) with
    | some answer => simp [skipsNoneFastLookup_eq_some pos fast]
    | none =>
      simp only [skipsNone_slowPath pos (by omega) (skipsNoneFastLookup_eq_none pos fast), ne_eq,
        not_true_eq_false, if_false]
      rw [← canonicalBlockAt_of_roots chain.tree chain.head pos]
      simp [eq_comm]
  simp [blockRootAtSlot, none]

theorem blockRootAtSlot_none_after_oldest :
    everySlotView.clock = some 80 ∧ 0 < 11 ∧ 11 ≤ 80 ∧ everySlotView.oldestBlockSlot < 11 ∧
      everySlotView.blockRootAtSlot 11 .none = .ok (some 11) :=
  ⟨rfl, by decide, by decide, by decide, blockRootAtSlot_none rfl (by decide) (by decide) (by decide)⟩

/-- At the oldest stored slot, outside the head state's window, `WhenSlotSkipped::None` answers
`None` whatever the chain holds there: the slow path starts one slot earlier, before the oldest
stored block, and `block_root_at_slot` turns that `BlockOutOfRange` into `None`. -/
theorem blockRootAtSlot_none_at_oldestBlockSlot {currentSlot : Nat} (clock : chain.clock = some currentSlot)
    (pos : 0 < chain.oldestBlockSlot) (past : chain.oldestBlockSlot ≤ currentSlot)
    (outside : chain.oldestBlockSlot + spec.slotsPerHistoricalRoot < chain.tree.slot chain.head) :
    chain.blockRootAtSlot chain.oldestBlockSlot .none = .ok none := by
  have fast : chain.skipsNoneFastLookup chain.oldestBlockSlot (chain.oldestBlockSlot - 1) = none := by
    have missing : chain.headState.getBlockRoot chain.tree chain.oldestBlockSlot = none :=
      BeaconState.getBlockRoot_eq_none.mpr (by simp; omega)
    simp [skipsNoneFastLookup, Nat.compare_eq_gt.mpr (show chain.oldestBlockSlot < chain.tree.slot chain.head by omega),
      missing]
  simp [blockRootAtSlot, blockRootAtSlotSkipsNone, slot, clock, Nat.not_lt.mpr past,
    Nat.pos_iff_ne_zero.mp pos, fast, forwardsIterBlockRootsUntil, show chain.oldestBlockSlot - 1 < chain.oldestBlockSlot by omega]

/-- After a checkpoint sync from slot 10, far below the head, the block at slot 10 exists but
`block_root_at_slot(10, WhenSlotSkipped::None)` answers `None`. -/
theorem blockRootAtSlot_none_misses_oldest_block :
    everySlotView.blockRootAtSlot 10 .none = .ok none ∧
      canonicalBlockAt everySlotView.tree everySlotView.head 10 = some 10 :=
  ⟨blockRootAtSlot_none_at_oldestBlockSlot rfl (by decide) (by decide) (by decide), by decide⟩

end BeaconChain.ChainView
