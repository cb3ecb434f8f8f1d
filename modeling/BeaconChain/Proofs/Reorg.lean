import BeaconChain.Roots

/-! Re-org detection in `fork_choice_internal`: `find_reorg_slot` stops at the greatest slot where
both chains hold the same root, or falls back to the old head's finalized slot, which
under-reports the depth only when the new head lies before that slot. -/

namespace BeaconChain

variable {spec : EthSpec} (tree : BlockTree spec)

/-- `(slot, root)` of the chain of `root` for `count` slots from `top` down. -/
def descendingRoots (root : Root) (top count : Nat) : List (Nat × Root) :=
  (List.range count).map fun i => (top - i, tree.rootAt root (top - i))

variable {tree}

theorem descendingRoots_succ (root : Root) (top count : Nat) :
    descendingRoots tree root top (count + 1) =
      (top, tree.rootAt root top) :: descendingRoots tree root (top - 1) count := by
  simp only [descendingRoots, List.range_succ_eq_map, List.map_cons, List.map_map, Nat.sub_zero]
  congr 1
  exact List.map_congr_left fun i _ => by
    simp only [Function.comp_apply, Nat.succ_eq_add_one, show top - (i + 1) = top - 1 - i by omega]

@[simp] theorem descendingRoots_zero (root : Root) (top : Nat) : descendingRoots tree root top 0 = [] := rfl

/-- A snapshot state's own entry followed by its `block_roots` is one descending walk. -/
theorem ofBlock_roots (root : Root) :
    (tree.slot root, root) :: (BeaconState.ofBlock tree root).revIterBlockRoots tree =
      descendingRoots tree root (tree.slot root) (min (tree.slot root) spec.slotsPerHistoricalRoot + 1) := by
  rw [descendingRoots_succ, BlockTree.rootAt_self]
  simp only [BeaconState.revIterBlockRoots, descendingRoots, BeaconState.ofBlock_slot,
    BeaconState.ofBlock_latestBlockRoot, Nat.sub_add_eq, Nat.sub_right_comm (tree.slot root)]

theorem dropWhile_descendingRoots (root : Root) {lowest top : Nat} (le : lowest ≤ top) (count : Nat) :
    (descendingRoots tree root top count).dropWhile (fun entry => entry.1 > lowest) =
      descendingRoots tree root lowest (count - (top - lowest)) := by
  induction count generalizing top with
  | zero => simp
  | succ count ih =>
    rw [descendingRoots_succ]
    by_cases above : lowest < top
    · rw [List.dropWhile_cons, if_pos (by simpa using above), ih (by omega),
        show count - (top - 1 - lowest) = count + 1 - (top - lowest) by omega]
    · have same : top = lowest := by omega
      subst same
      simp [descendingRoots_succ]

/-- The lock-step walk over two descending walks from the same slot: it never sees two
different slots, and it stops at the greatest slot of their common range with equal roots. -/
theorem findCommonSlot_descendingRoots (tree : BlockTree spec) (old new : Root) (top oldCount newCount : Nat) :
    ∃ found, findCommonSlot (descendingRoots tree old top oldCount) (descendingRoots tree new top newCount) =
        .ok found ∧
      (∀ slot, found = some slot → (slot ≤ top ∧ top < slot + min oldCount newCount) ∧
        tree.rootAt old slot = tree.rootAt new slot ∧
        ∀ later, slot < later → later ≤ top → tree.rootAt old later ≠ tree.rootAt new later) ∧
      (found = none → ∀ slot, slot ≤ top → top < slot + min oldCount newCount →
        tree.rootAt old slot ≠ tree.rootAt new slot) := by
  induction oldCount generalizing top newCount with
  | zero => exact ⟨none, by simp [findCommonSlot], by simp, fun _ _ _ range => by omega⟩
  | succ oldCount ih =>
    cases newCount with
    | zero => exact ⟨none, by simp [findCommonSlot], by simp, fun _ _ _ range => by omega⟩
    | succ newCount =>
      simp only [descendingRoots_succ, findCommonSlot, ne_eq, not_true_eq_false, if_false]
      by_cases agree : tree.rootAt old top = tree.rootAt new top
      · refine ⟨some top, by simp [agree], ?_, by simp⟩
        rintro slot ⟨⟩
        exact ⟨by omega, agree, fun later _ _ => by omega⟩
      · obtain ⟨found, walk, someCase, noneCase⟩ := ih (top - 1) newCount
        refine ⟨found, by simp [agree, walk], ?_, ?_⟩
        · intro slot hit
          obtain ⟨range, same, none⟩ := someCase slot hit
          refine ⟨⟨by omega, by omega⟩, same, fun later above below => ?_⟩
          by_cases top' : later = top
          · exact top' ▸ agree
          · exact none later above (by omega)
        · intro missing slot below range
          by_cases top' : slot = top
          · exact top' ▸ agree
          · exact noneCase missing slot (by omega) (by omega)

/-- The aligned walk over a snapshot state: every slot from `lowest` down to the start of the
state's window. -/
theorem alignedRootsIter_ofBlock (root : Root) {lowest : Nat} (le : lowest ≤ tree.slot root) :
    alignedRootsIter tree (BeaconState.ofBlock tree root) root lowest =
      descendingRoots tree root lowest
        (min (tree.slot root) spec.slotsPerHistoricalRoot + 1 - (tree.slot root - lowest)) := by
  rw [alignedRootsIter, BeaconState.ofBlock_slot, ofBlock_roots, dropWhile_descendingRoots root le]

/-- One aligned walk from `top` reaches `slot` exactly when `slot` is in its state's window. -/
private theorem aligned_lt_iff {top headSlot window slot : Nat} (below : slot ≤ top) (le : top ≤ headSlot) :
    top < slot + (min headSlot window + 1 - (headSlot - top)) ↔ headSlot ≤ slot + window := by
  omega

/-- The slots both aligned walks reach are those in both states' windows. -/
private theorem aligned_range_iff {newSlot oldSlot window slot : Nat} (below : slot ≤ min newSlot oldSlot) :
    min newSlot oldSlot < slot + min (min oldSlot window + 1 - (oldSlot - min newSlot oldSlot))
        (min newSlot window + 1 - (newSlot - min newSlot oldSlot)) ↔
      newSlot ≤ slot + window ∧ oldSlot ≤ slot + window := by
  rw [← Nat.add_min_add_left, Nat.lt_min, aligned_lt_iff below (Nat.min_le_right _ _),
    aligned_lt_iff below (Nat.min_le_left _ _), and_comm]

/-- A slot at or below both heads at which both states' windows hold the same root. -/
def CommonInWindows (tree : BlockTree spec) (old new : Root) (slot : Nat) : Prop :=
  slot ≤ min (tree.slot new) (tree.slot old) ∧ tree.slot new ≤ slot + spec.slotsPerHistoricalRoot ∧
    tree.slot old ≤ slot + spec.slotsPerHistoricalRoot ∧ tree.rootAt new slot = tree.rootAt old slot

/-- `find_reorg_slot` never reports misaligned iterators. It returns the greatest slot at which
both states' windows hold the same root, or else the start of the old head's finalized epoch;
either way a slot no later than the old head. -/
theorem findReorgSlot_eq (tree : BlockTree spec) (old new : Root) :
    ∃ slot, findReorgSlot tree old (BeaconState.ofBlock tree new) new = .ok slot ∧ slot ≤ tree.slot old ∧
      ((∃ t, CommonInWindows tree old new t) →
        CommonInWindows tree old new slot ∧ ∀ t, CommonInWindows tree old new t → t ≤ slot) ∧
      ((¬∃ t, CommonInWindows tree old new t) → slot = spec.startSlot (tree.finalizedCheckpoint old).epoch) := by
  obtain ⟨found, walk, someCase, noneCase⟩ := findCommonSlot_descendingRoots tree old new
    (min (tree.slot new) (tree.slot old))
    (min (tree.slot old) spec.slotsPerHistoricalRoot + 1 - (tree.slot old - min (tree.slot new) (tree.slot old)))
    (min (tree.slot new) spec.slotsPerHistoricalRoot + 1 - (tree.slot new - min (tree.slot new) (tree.slot old)))
  have walk' : findCommonSlot
      (alignedRootsIter tree (BeaconState.ofBlock tree old) old (min (tree.slot new) (tree.slot old)))
      (alignedRootsIter tree (BeaconState.ofBlock tree new) new (min (tree.slot new) (tree.slot old))) =
      .ok found := by
    rwa [alignedRootsIter_ofBlock old (Nat.min_le_right _ _), alignedRootsIter_ofBlock new (Nat.min_le_left _ _)]
  cases found with
  | some slot =>
    obtain ⟨⟨below, range⟩, same, none⟩ := someCase slot rfl
    have window := (aligned_range_iff below).mp range
    refine ⟨slot, by simp [findReorgSlot, walk'], by omega, fun _ => ⟨⟨below, window.1, window.2, same.symm⟩, ?_⟩,
      fun absent => absent.elim ⟨slot, below, window.1, window.2, same.symm⟩⟩
    intro t ⟨tBelow, tNew, tOld, tSame⟩
    by_contra later
    exact none t (by omega) tBelow tSame.symm
  | none =>
    refine ⟨_, by simp [findReorgSlot, walk'], tree.finalized_start_le old, ?_, fun _ => rfl⟩
    rintro ⟨t, tBelow, tNew, tOld, tSame⟩
    exact absurd tSame.symm (noneCase rfl t tBelow ((aligned_range_iff tBelow).mpr ⟨tNew, tOld⟩))

/-- With the new head at most a window ahead of the old one, `is_reorg` is false exactly when
the old head is an ancestor of the new head. -/
theorem isReorg_eq_false_iff {old new : Root} (distinct : new ≠ old)
    (recent : tree.slot new ≤ tree.slot old + spec.slotsPerHistoricalRoot) :
    isReorg tree (BeaconState.ofBlock tree new) (tree.slot old) old = false ↔ tree.Descends new old := by
  rw [BlockTree.descends_iff_rootAt]
  unfold isReorg
  cases found : (BeaconState.ofBlock tree new).getBlockRoot tree (tree.slot old) with
  | some root =>
    obtain ⟨-, rfl⟩ := BeaconState.getBlockRoot_eq_some.mp found
    simp
  | none =>
    simp only [Bool.true_eq_false, false_iff]
    intro descends
    have earlier := (BlockTree.descends_iff_rootAt.mpr descends).slot_le
    have outside := BeaconState.getBlockRoot_eq_none.mp found
    simp only [BeaconState.ofBlock_slot, BeaconState.ofBlock_latestBlockRoot] at outside
    have same : tree.slot old = tree.slot new := by omega
    rw [same, BlockTree.rootAt_self] at descends
    exact distinct descends

/-- The re-org distance is exact when the greatest common slot lies in both windows. -/
theorem reorgDistance_eq_of_greatest {old new : Root} {greatest : Nat}
    (common : greatest ≤ min (tree.slot new) (tree.slot old) ∧ tree.rootAt new greatest = tree.rootAt old greatest)
    (maximal : ∀ t, t ≤ min (tree.slot new) (tree.slot old) → tree.rootAt new t = tree.rootAt old t → t ≤ greatest)
    (windows : tree.slot new ≤ greatest + spec.slotsPerHistoricalRoot ∧
      tree.slot old ≤ greatest + spec.slotsPerHistoricalRoot) :
    reorgDistance tree old (tree.slot old) (BeaconState.ofBlock tree new) new = tree.slot old - greatest := by
  obtain ⟨slot, found, -, someCase, -⟩ := findReorgSlot_eq tree old new
  obtain ⟨⟨below, -, -, same⟩, atMost⟩ := someCase ⟨greatest, common.1, windows.1, windows.2, common.2⟩
  have := atMost greatest ⟨common.1, windows.1, windows.2, common.2⟩
  have := maximal slot below same
  simp only [reorgDistance, found]
  omega

/-- When both chains hold the same root at the old finalized slot and the new head is not
before it, the re-org distance is at least the distance to the greatest common slot. -/
theorem reorgDistance_ge_of_finalized {old new : Root} {greatest : Nat}
    (maximal : ∀ t, t ≤ min (tree.slot new) (tree.slot old) → tree.rootAt new t = tree.rootAt old t → t ≤ greatest)
    (agree : tree.rootAt new (spec.startSlot (tree.finalizedCheckpoint old).epoch) =
      tree.rootAt old (spec.startSlot (tree.finalizedCheckpoint old).epoch))
    (notBefore : spec.startSlot (tree.finalizedCheckpoint old).epoch ≤ tree.slot new) :
    tree.slot old - greatest ≤ reorgDistance tree old (tree.slot old) (BeaconState.ofBlock tree new) new := by
  obtain ⟨slot, found, -, someCase, noneCase⟩ := findReorgSlot_eq tree old new
  have reported : slot ≤ greatest := by
    by_cases anyCommon : ∃ t, CommonInWindows tree old new t
    · obtain ⟨⟨below, -, -, same⟩, -⟩ := someCase anyCommon
      exact maximal slot below same
    · rw [noneCase anyCommon]
      exact maximal _ (Nat.le_min.mpr ⟨notBefore, tree.finalized_start_le old⟩) agree
  simp only [reorgDistance, found]
  omega

/-- Re-org detection as `fork_choice_internal` performs it, for an old head `old` and a new
head `new` with their post-states: the `is_reorg` test, the slot `find_reorg_slot` returns, and
the bounds on `reorg_distance` (the bound needs the new head not to precede the old
finalized slot). -/
theorem reorg_detection_reports_depth (tree : BlockTree spec) (old new : Root) (distinct : new ≠ old) :
    (tree.slot new ≤ tree.slot old + spec.slotsPerHistoricalRoot →
      (isReorg tree (BeaconState.ofBlock tree new) (tree.slot old) old = false ↔ tree.Descends new old)) ∧
    (∃ slot, findReorgSlot tree old (BeaconState.ofBlock tree new) new = .ok slot ∧ slot ≤ tree.slot old ∧
      ((∃ t, CommonInWindows tree old new t) →
        CommonInWindows tree old new slot ∧ ∀ t, CommonInWindows tree old new t → t ≤ slot) ∧
      ((¬∃ t, CommonInWindows tree old new t) → slot = spec.startSlot (tree.finalizedCheckpoint old).epoch)) ∧
    (∀ greatest, greatest ≤ min (tree.slot new) (tree.slot old) →
      tree.rootAt new greatest = tree.rootAt old greatest →
      (∀ t, t ≤ min (tree.slot new) (tree.slot old) → tree.rootAt new t = tree.rootAt old t → t ≤ greatest) →
      ((tree.slot new ≤ greatest + spec.slotsPerHistoricalRoot ∧
          tree.slot old ≤ greatest + spec.slotsPerHistoricalRoot) →
        reorgDistance tree old (tree.slot old) (BeaconState.ofBlock tree new) new = tree.slot old - greatest) ∧
      (tree.rootAt new (spec.startSlot (tree.finalizedCheckpoint old).epoch) =
          tree.rootAt old (spec.startSlot (tree.finalizedCheckpoint old).epoch) →
        spec.startSlot (tree.finalizedCheckpoint old).epoch ≤ tree.slot new →
        tree.slot old - greatest ≤ reorgDistance tree old (tree.slot old) (BeaconState.ofBlock tree new) new)) :=
  ⟨isReorg_eq_false_iff distinct, findReorgSlot_eq tree old new, fun _ below same maximal =>
    ⟨reorgDistance_eq_of_greatest ⟨below, same⟩ maximal, reorgDistance_ge_of_finalized maximal⟩⟩

/-- Genesis at slot 0, a block at slot 9 and a head at slot 100 of the minimal spec whose state
has finalized epoch 1: the chain holds the genesis root at the finalized slot 8. -/
def rewindTree : BlockTree EthSpec.minimal where
  slot := id
  parent := fun root => if root = 100 then 9 else 0
  finalizedEpoch := fun root => if root = 100 then 1 else 0
  parent_slot_lt := fun root pos => by by_cases top : root = 100 <;> simp_all
  finalized_start_le := fun root => by
    by_cases top : root = 100 <;> simp_all [EthSpec.startSlot, EthSpec.minimal]

theorem reorg_detection_at_rewind :
    (0 : Root) ≠ 100 ∧ findReorgSlot rewindTree 100 (BeaconState.ofBlock rewindTree 0) 0 = .ok 8 :=
  ⟨by decide, by
    obtain ⟨slot, found, -, -, fallback⟩ := (reorg_detection_reports_depth rewindTree 100 0 (by decide)).2.1
    rw [found, fallback (by
      rintro ⟨t, below, -, window, -⟩
      simp [rewindTree, EthSpec.minimal] at below window
      omega)]
    rfl⟩

/-- Fork choice moving the head from block 100 back to genesis: both chains hold genesis at
slot 0, the greatest slot below both heads, and at the old finalized slot 8, yet the reported
distance is 92, not 100. The new head lies before the old finalized slot, and the old state's
window does not reach back to it. -/
theorem reorgDistance_underreports_rewind :
    reorgDistance rewindTree 100 100 (BeaconState.ofBlock rewindTree 0) 0 = 92 ∧
      rewindTree.rootAt 0 0 = rewindTree.rootAt 100 0 ∧ rewindTree.rootAt 0 8 = rewindTree.rootAt 100 8 ∧
      min (rewindTree.slot 0) (rewindTree.slot 100) = 0 := by
  decide

end BeaconChain
