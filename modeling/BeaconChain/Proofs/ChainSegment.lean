import BeaconChain.ChainSegment
import Mathlib.Data.List.Chain

/-! What `process_chain_segment` hands to `process_block`: a prefix of the filtered segment, in
order, of linked blocks, nothing after the first failure, and an `imported_blocks` that counts the
successful imports. -/

namespace BeaconChain

/-- The filtered segment stated directly: the blocks classified relevant, in segment
order, skipping blocks already known, the genesis block and blocks at finalized slots, and cut
at the first block classified otherwise. -/
def relevantBlocks (classify : SignedBeaconBlock → Except BlockError Root) :
    List SignedBeaconBlock → List (Root × SignedBeaconBlock)
  | [] => []
  | block :: rest =>
    match classify block with
    | .ok _ => (block.blockRoot, block) :: relevantBlocks classify rest
    | .error .blockIsAlreadyKnown | .error .genesisBlock | .error (.wouldRevertFinalizedSlot _ _) =>
      relevantBlocks classify rest
    | .error _ => []

theorem relevantBlocks_of_irrelevant {classify : SignedBeaconBlock → Except BlockError Root}
    {block : SignedBeaconBlock} {rest : List SignedBeaconBlock} {error : BlockError}
    (relevancy : classify block = .error error) (notKnown : error ≠ .blockIsAlreadyKnown)
    (notGenesis : error ≠ .genesisBlock) (notFinalized : ∀ blockSlot finalizedSlot, error ≠ .wouldRevertFinalizedSlot blockSlot finalizedSlot) :
    relevantBlocks classify (block :: rest) = [] := by
  cases error <;> simp_all [relevantBlocks]

/-- Block `i` of the segment is named as parent by block `i + 1`, which has a later slot. -/
def LinkedAt (segment : List SignedBeaconBlock) (i : Nat) : Prop :=
  ∀ block child, segment[i]? = some block → segment[i + 1]? = some child →
    child.parentRoot = block.blockRoot ∧ block.slot < child.slot

namespace SegmentEvent

/-- Whether the signature check or the import succeeded. -/
def succeeded : SegmentEvent → Bool
  | .signatureVerified _ ok => ok
  | .processed _ ok => ok

/-- A `process_block` call that returned `Ok`. -/
def imported : SegmentEvent → Bool
  | .processed _ ok => ok
  | .signatureVerified _ _ => false

/-- The block a `process_block` call was handed. -/
def handed : SegmentEvent → Option (Root × SignedBeaconBlock)
  | .processed block _ => some block
  | .signatureVerified _ _ => none

/-- The batch a signature check was handed. -/
def verifiedBatch : SegmentEvent → Option (List (Root × SignedBeaconBlock))
  | .signatureVerified batch _ => some batch
  | .processed _ _ => none

end SegmentEvent

/-- The blocks handed to `process_block`, in order. -/
def handedBlocks (events : List SegmentEvent) : List (Root × SignedBeaconBlock) :=
  events.filterMap SegmentEvent.handed

/-- The batches handed to `signature_verify_chain_segment`, in order. -/
def verifiedBatches (events : List SegmentEvent) : List (List (Root × SignedBeaconBlock)) :=
  events.filterMap SegmentEvent.verifiedBatch

/-- The number of `process_block` calls that returned `Ok`. -/
def importedCount (events : List SegmentEvent) : Nat := events.countP SegmentEvent.imported

section Events

variable {block : Root × SignedBeaconBlock} {batch : List (Root × SignedBeaconBlock)} {ok : Bool}
  {events first rest : List SegmentEvent}

@[simp] theorem handedBlocks_nil : handedBlocks [] = [] := rfl

@[simp] theorem handedBlocks_processed : handedBlocks (.processed block ok :: events) = block :: handedBlocks events := rfl

@[simp] theorem handedBlocks_signatureVerified :
    handedBlocks (.signatureVerified batch ok :: events) = handedBlocks events := rfl

@[simp] theorem handedBlocks_append : handedBlocks (first ++ rest) = handedBlocks first ++ handedBlocks rest :=
  List.filterMap_append _ _ _

@[simp] theorem verifiedBatches_nil : verifiedBatches [] = [] := rfl

@[simp] theorem verifiedBatches_processed : verifiedBatches (.processed block ok :: events) = verifiedBatches events :=
  rfl

@[simp] theorem verifiedBatches_signatureVerified :
    verifiedBatches (.signatureVerified batch ok :: events) = batch :: verifiedBatches events := rfl

@[simp] theorem verifiedBatches_append :
    verifiedBatches (first ++ rest) = verifiedBatches first ++ verifiedBatches rest :=
  List.filterMap_append _ _ _

@[simp] theorem importedCount_nil : importedCount [] = 0 := rfl

@[simp] theorem importedCount_processed :
    importedCount (.processed block ok :: events) = importedCount events + ok.toNat := by
  cases ok <;> simp [importedCount, SegmentEvent.imported, List.countP_cons]

@[simp] theorem importedCount_signatureVerified :
    importedCount (.signatureVerified batch ok :: events) = importedCount events := by
  simp [importedCount, SegmentEvent.imported, List.countP_cons]

@[simp] theorem importedCount_append : importedCount (first ++ rest) = importedCount first + importedCount rest :=
  List.countP_append _ _ _

end Events

/-- Only the last event of a run may be a failure: nothing happens after one. -/
def FailsOnlyLast (events : List SegmentEvent) : Prop := ∀ event ∈ events.dropLast, event.succeeded = true

theorem FailsOnlyLast.append {first rest : List SegmentEvent} (allOk : ∀ event ∈ first, event.succeeded = true)
    (tail : FailsOnlyLast rest) : FailsOnlyLast (first ++ rest) := by
  intro event mem
  by_cases empty : rest = []
  · subst empty
    exact allOk event (List.dropLast_subset _ (by simpa using mem))
  · rw [List.dropLast_append_of_ne_nil _ empty, List.mem_append] at mem
    exact mem.elim (allOk event) (tail event)

theorem FailsOnlyLast.cons {event : SegmentEvent} {events : List SegmentEvent} (ok : event.succeeded = true)
    (tail : FailsOnlyLast events) : FailsOnlyLast (event :: events) :=
  @FailsOnlyLast.append [event] events (by simpa using ok) tail

theorem failsOnlyLast_singleton (event : SegmentEvent) : FailsOnlyLast [event] := by
  simp [FailsOnlyLast]

theorem take_append_prefix {α : Type} {list rest : List α} {n : Nat} (isPrefix : rest <+: list.drop n) :
    list.take n ++ rest <+: list := by
  have whole := (List.prefix_append_right_inj (list.take n)).mpr isPrefix
  rwa [List.take_append_drop] at whole

variable {σ : Type} {collab : SegmentCollaborators σ}

/-- The link check passes exactly when the next block names this one and comes later. -/
theorem childLinkError_eq_none {block : SignedBeaconBlock} {rest : List SignedBeaconBlock}
    (passes : childLinkError block (rest.head?.map fun child => (child.parentRoot, child.slot)) = none) :
    LinkedAt (block :: rest) 0 := by
  intro parent child first second
  cases rest with
  | nil => simp at second
  | cons next rest =>
    simp only [List.getElem?_cons_zero, List.getElem?_cons_succ, Option.some.injEq] at first second
    subst first second
    simp only [List.head?_cons, Option.map_some', childLinkError, ne_eq] at passes
    split at passes
    · cases passes
    · split at passes
      · cases passes
      · exact ⟨by simp_all, by omega⟩

theorem linkedAt_cons {block : SignedBeaconBlock} {rest : List SignedBeaconBlock} {i : Nat}
    (linked : LinkedAt rest i) : LinkedAt (block :: rest) (i + 1) :=
  fun parent child first second => by
    rw [List.getElem?_cons_succ] at first second
    exact linked parent child first second

/-- The first loop returns the filtered segment, of blocks from a checked prefix of the segment
all of whose blocks link to their successors. -/
theorem filterChainSegment_eq_ok {state : σ} {segment : List SignedBeaconBlock}
    {filtered : List (Root × SignedBeaconBlock)} (ok : filterChainSegment collab state segment = .ok filtered) :
    filtered = relevantBlocks (collab.checkBlockRelevancy state) segment ∧
      ∃ checked, (filtered.map Prod.snd).Sublist (segment.take checked) ∧ ∀ i < checked, LinkedAt segment i := by
  induction segment generalizing filtered with
  | nil =>
    simp only [filterChainSegment, Except.ok.injEq] at ok
    exact ⟨ok.symm, 0, by simp [← ok], fun _ none => absurd none (Nat.not_lt_zero _)⟩
  | cons block rest ih =>
    unfold filterChainSegment at ok
    split at ok
    · cases ok
    · split at ok
      · cases ok
      · rename_i passes
        have first := childLinkError_eq_none passes
        have extend : ∀ checked, (∀ i < checked, LinkedAt rest i) → ∀ i < checked + 1, LinkedAt (block :: rest) i :=
          fun checked linked i below => by
            cases i with
            | zero => exact first
            | succ i => exact linkedAt_cons (linked i (by omega))
        split at ok <;> rename_i relevancy
        case h_1 =>
          cases rest' : filterChainSegment collab state rest with
          | error => simp [rest'] at ok
          | ok filteredRest =>
            simp only [rest', Functor.map, Except.map, Except.ok.injEq] at ok
            obtain ⟨same, checked, sublist, linked⟩ := ih rest'
            refine ⟨by simp [relevantBlocks, relevancy, ← ok, same], checked + 1, ?_, extend checked linked⟩
            simpa [← ok] using sublist
        case h_2 | h_3 | h_4 =>
          obtain ⟨same, checked, sublist, linked⟩ := ih ok
          exact ⟨by simp [relevantBlocks, relevancy, same], checked + 1, by simpa using sublist.cons block,
            extend checked linked⟩
        case h_5 | h_6 => cases ok
        case h_7 =>
          rename_i notKnown notGenesis notFinalized _ _
          cases ok
          exact ⟨(relevantBlocks_of_irrelevant relevancy notKnown notGenesis notFinalized).symm, 1, by simp,
            extend 0 fun _ none => absurd none (Nat.not_lt_zero _)⟩

/-- The `for` loop over a batch hands on a prefix of the batch, stops at its first failure,
counts its successes, and hands on the whole batch when it meets none. -/
theorem importBatch_spec (state : σ) (importedBlocks : Nat) (batch : List (Root × SignedBeaconBlock))
    {error : Option BlockError} {count : Nat} {state' : σ} {events : List SegmentEvent}
    (run : importBatch collab state importedBlocks batch = (error, count, state', events)) :
    handedBlocks events <+: batch ∧ FailsOnlyLast events ∧ count = importedBlocks + importedCount events ∧
      (error = none → (∀ event ∈ events, event.succeeded = true) ∧ handedBlocks events = batch) := by
  induction state, importedBlocks, batch using importBatch.induct collab generalizing error count state' events with
  | case1 state importedBlocks =>
    simp only [importBatch, Prod.mk.injEq] at run
    obtain ⟨rfl, rfl, -, rfl⟩ := run
    simp [FailsOnlyLast]
  | case2 state importedBlocks block rest root state₁ processed error' count' state₂ events' rest' ih =>
    simp only [importBatch, processed, rest', Prod.mk.injEq] at run
    obtain ⟨rfl, rfl, -, rfl⟩ := run
    obtain ⟨isPrefix, failsOnlyLast, counted, complete⟩ := ih rest'
    refine ⟨by simpa using isPrefix, failsOnlyLast.cons rfl, by simp [counted]; omega, fun none => ?_⟩
    obtain ⟨allOk, handed⟩ := complete none
    exact ⟨by simpa [SegmentEvent.succeeded] using allOk, by simp [handed]⟩
  | case3 state importedBlocks block rest error' state₁ processed =>
    simp only [importBatch, processed, Prod.mk.injEq] at run
    obtain ⟨rfl, rfl, -, rfl⟩ := run
    exact ⟨by simp, failsOnlyLast_singleton _, by simp, fun none => nomatch none⟩

/-- The `for` loop over a batch checks no signatures. -/
theorem importBatch_verifiedBatches (state : σ) (importedBlocks : Nat) (batch : List (Root × SignedBeaconBlock))
    {error : Option BlockError} {count : Nat} {state' : σ} {events : List SegmentEvent}
    (run : importBatch collab state importedBlocks batch = (error, count, state', events)) :
    verifiedBatches events = [] := by
  induction state, importedBlocks, batch using importBatch.induct collab generalizing error count state' events with
  | case1 state importedBlocks =>
    simp only [importBatch, Prod.mk.injEq] at run
    obtain ⟨-, -, -, rfl⟩ := run
    rfl
  | case2 state importedBlocks block rest root state₁ processed error' count' state₂ events' rest' ih =>
    simp only [importBatch, processed, rest', Prod.mk.injEq] at run
    obtain ⟨-, -, -, rfl⟩ := run
    simpa using ih rest'
  | case3 state importedBlocks block rest error' state₁ processed =>
    simp only [importBatch, processed, Prod.mk.injEq] at run
    obtain ⟨-, -, -, rfl⟩ := run
    rfl

/-- The `while let` loop hands on a prefix of the filtered segment, nothing after its first
failure, and adds exactly its successful imports to `imported_blocks`. -/
theorem importChainSegment_spec (spec : EthSpec) (state : σ) (importedBlocks : Nat)
    (filtered : List (Root × SignedBeaconBlock)) :
    handedBlocks (importChainSegment collab spec state importedBlocks filtered).events <+: filtered ∧
      FailsOnlyLast (importChainSegment collab spec state importedBlocks filtered).events ∧
      (importChainSegment collab spec state importedBlocks filtered).result.importedBlocks =
        importedBlocks + importedCount (importChainSegment collab spec state importedBlocks filtered).events := by
  induction state, importedBlocks, filtered using importChainSegment.induct collab spec with
  | case1 state importedBlocks =>
    simp [importChainSegment, FailsOnlyLast, ChainSegmentResult.importedBlocks]
  | case2 state importedBlocks first rest startEpoch lastIndex blocks error failed =>
    simp only [blocks, lastIndex, startEpoch] at failed
    rw [importChainSegment, failed]
    exact ⟨by simp, failsOnlyLast_singleton _, by simp [ChainSegmentResult.importedBlocks]⟩
  | case3 state importedBlocks first rest startEpoch lastIndex blocks verified error count state₁ events batch =>
    simp only [blocks, lastIndex, startEpoch] at verified batch
    obtain ⟨isPrefix, failsOnlyLast, counted, -⟩ := importBatch_spec _ _ _ batch
    rw [importChainSegment, verified]
    simp only [batch]
    exact ⟨by simpa using isPrefix.trans (List.take_prefix _ _), failsOnlyLast.cons rfl,
      by simp [ChainSegmentResult.importedBlocks, counted]⟩
  | case4 state importedBlocks first rest startEpoch lastIndex blocks verified count state₁ events batch ih =>
    simp only [blocks, lastIndex, startEpoch] at verified batch ih
    obtain ⟨-, -, counted, complete⟩ := importBatch_spec _ _ _ batch
    obtain ⟨allOk, handed⟩ := complete rfl
    subst counted
    obtain ⟨isPrefix, failsOnlyLast, restCounted⟩ := ih
    rw [importChainSegment, verified]
    simp only [batch]
    refine ⟨?_, @FailsOnlyLast.append (_ :: events) _ ?_ failsOnlyLast, ?_⟩
    · rw [List.cons_append, handedBlocks_signatureVerified, handedBlocks_append, handed]
      exact take_append_prefix isPrefix
    · simpa [SegmentEvent.succeeded] using allOk
    · simp only [restCounted, importedCount_signatureVerified, List.cons_append, importedCount_append]
      omega

/-- `process_chain_segment`, for every segment and every behaviour of its collaborators, hands
to `process_block`, in order, a prefix of the filtered segment; every block it hands on comes
from a prefix of the segment whose blocks all link to their successors; nothing happens after
the first failed signature check or import; and the `imported_blocks` it returns counts the
`process_block` calls that returned `Ok`. -/
theorem processChainSegment_hands_linked_prefix (spec : EthSpec) (state : σ)
    (segment : List SignedBeaconBlock) :
    handedBlocks (processChainSegment collab spec state segment).events <+:
        relevantBlocks (collab.checkBlockRelevancy state) segment ∧
      (∃ checked, ((handedBlocks (processChainSegment collab spec state segment).events).map Prod.snd).Sublist
          (segment.take checked) ∧ ∀ i < checked, LinkedAt segment i) ∧
      FailsOnlyLast (processChainSegment collab spec state segment).events ∧
      (processChainSegment collab spec state segment).result.importedBlocks =
        importedCount (processChainSegment collab spec state segment).events := by
  unfold processChainSegment
  split
  · exact ⟨List.nil_prefix, ⟨0, by simp, fun _ none => absurd none (Nat.not_lt_zero _)⟩,
      by simp [FailsOnlyLast], rfl⟩
  · rename_i filtered ok
    obtain ⟨relevant, checked, sublist, linked⟩ := filterChainSegment_eq_ok ok
    obtain ⟨isPrefix, failsOnlyLast, counted⟩ := importChainSegment_spec spec state 0 filtered
    exact ⟨relevant ▸ isPrefix, ⟨checked, (isPrefix.sublist.map Prod.snd).trans sublist, linked⟩,
      failsOnlyLast, by simpa using counted⟩

/-- On a segment of increasing slots in which no block is before `epoch`, the blocks before the
first one of a later epoch are exactly the blocks of `epoch`. -/
theorem take_findIdx_eq_filter_epoch (spec : EthSpec) {epoch : Nat} {remaining : List (Root × SignedBeaconBlock)}
    (sorted : remaining.Pairwise fun a b => a.2.slot < b.2.slot)
    (reached : ∀ entry ∈ remaining, epoch ≤ spec.epoch entry.2.slot) :
    remaining.take (remaining.findIdx fun entry => spec.epoch entry.2.slot > epoch) =
      remaining.filter fun entry => spec.epoch entry.2.slot = epoch := by
  induction remaining with
  | nil => rfl
  | cons entry rest ih =>
    rw [List.pairwise_cons] at sorted
    have atLeast := reached entry (List.mem_cons_self _ _)
    by_cases later : spec.epoch entry.2.slot > epoch
    · have restLater : ∀ other ∈ rest, ¬spec.epoch other.2.slot = epoch := fun other mem => by
        have := spec.epoch_mono (Nat.le_of_lt (sorted.1 other mem))
        omega
      simp [List.findIdx_cons, later, Nat.ne_of_gt later]
      exact fun _ _ mem => restLater _ mem
    · have same : spec.epoch entry.2.slot = epoch := by omega
      simp [List.findIdx_cons, later, same, ih sorted.2 fun other mem => reached other (List.mem_cons_of_mem _ mem)]

/-- How the per-epoch loop splits what remains of the filtered segment, as far as it gets: each
batch is the blocks of the remaining segment in the epoch of its first block, taken from its
front, and the loop goes on with the blocks after it. -/
inductive EpochSplit (spec : EthSpec) : List (Root × SignedBeaconBlock) → List (List (Root × SignedBeaconBlock)) → Prop
  | stop (remaining : List (Root × SignedBeaconBlock)) : EpochSplit spec remaining []
  | batch {first : Root × SignedBeaconBlock} {rest batch : List (Root × SignedBeaconBlock)}
      {batches : List (List (Root × SignedBeaconBlock))}
      (inEpoch : batch = (first :: rest).filter fun entry => spec.epoch entry.2.slot = spec.epoch first.2.slot)
      (front : batch <+: first :: rest)
      (split : EpochSplit spec ((first :: rest).drop batch.length) batches) :
      EpochSplit spec (first :: rest) (batch :: batches)

namespace EpochSplit

variable {spec : EthSpec} {remaining : List (Root × SignedBeaconBlock)} {batches : List (List (Root × SignedBeaconBlock))}

/-- Every batch holds at least the block it starts from. -/
theorem ne_nil (split : EpochSplit spec remaining batches) : ∀ batch ∈ batches, batch ≠ [] := by
  induction split with
  | stop => simp
  | @batch first rest batch batches inEpoch _ _ ih =>
    rintro _ (_ | ⟨_, mem⟩)
    · rw [inEpoch]
      exact List.ne_nil_of_mem (List.mem_filter.mpr ⟨List.mem_cons_self _ _, by simp⟩)
    · exact ih _ mem

/-- The loop makes at most one batch per block. -/
theorem length_le (split : EpochSplit spec remaining batches) : batches.length ≤ remaining.length := by
  induction split with
  | stop => simp
  | @batch first rest batch batches inEpoch front _ ih =>
    have started : first ∈ batch := inEpoch ▸ List.mem_filter.mpr ⟨List.mem_cons_self _ _, by simp⟩
    have := List.length_pos_of_mem started
    have := front.length_le
    simp only [List.length_drop, List.length_cons] at ih this ⊢
    omega

/-- The loop's batch of a sorted remaining segment, the blocks before the first one of a later
epoch, is the split's next batch. -/
theorem take_findIdx {first : Root × SignedBeaconBlock} {rest : List (Root × SignedBeaconBlock)}
    (sorted : (first :: rest).Pairwise fun a b => a.2.slot < b.2.slot)
    (split : EpochSplit spec ((first :: rest).drop
      ((first :: rest).findIdx fun entry => spec.epoch entry.2.slot > spec.epoch first.2.slot)) batches) :
    EpochSplit spec (first :: rest)
      (((first :: rest).take ((first :: rest).findIdx fun entry => spec.epoch entry.2.slot > spec.epoch first.2.slot)) ::
        batches) := by
  have reached : ∀ entry ∈ first :: rest, spec.epoch first.2.slot ≤ spec.epoch entry.2.slot := by
    rintro entry (_ | ⟨_, mem⟩)
    · exact le_rfl
    · exact spec.epoch_mono (Nat.le_of_lt ((List.pairwise_cons.mp sorted).1 entry mem))
  refine .batch (take_findIdx_eq_filter_epoch spec sorted reached) (List.take_prefix _ _) ?_
  rwa [List.length_take_of_le (List.findIdx_le_length _)]

end EpochSplit

/-- The per-epoch loop, on a filtered segment of increasing slots, hands the signature checks
the batches of an epoch split of the segment, and, when it returns `Successful`, batches that
make up the whole segment. -/
theorem importChainSegment_epochSplit (spec : EthSpec) (state : σ) (importedBlocks : Nat)
    (filtered : List (Root × SignedBeaconBlock)) (sorted : filtered.Pairwise fun a b => a.2.slot < b.2.slot) :
    EpochSplit spec filtered (verifiedBatches (importChainSegment collab spec state importedBlocks filtered).events) ∧
    ∀ imported, (importChainSegment collab spec state importedBlocks filtered).result = .successful imported →
      (verifiedBatches (importChainSegment collab spec state importedBlocks filtered).events).flatten = filtered := by
  induction state, importedBlocks, filtered using importChainSegment.induct collab spec with
  | case1 state importedBlocks =>
    simp only [importChainSegment]
    exact ⟨.stop _, fun _ _ => rfl⟩
  | case2 state importedBlocks first rest startEpoch lastIndex blocks error failed =>
    simp only [blocks, lastIndex, startEpoch] at failed
    rw [importChainSegment, failed]
    exact ⟨EpochSplit.take_findIdx sorted (.stop _), nofun⟩
  | case3 state importedBlocks first rest startEpoch lastIndex blocks verified error count state₁ events batch =>
    simp only [blocks, lastIndex, startEpoch] at verified batch
    rw [importChainSegment, verified]
    simp only [batch, verifiedBatches_signatureVerified, importBatch_verifiedBatches _ _ _ batch]
    exact ⟨EpochSplit.take_findIdx sorted (.stop _), nofun⟩
  | case4 state importedBlocks first rest startEpoch lastIndex blocks verified count state₁ events batch ih =>
    simp only [blocks, lastIndex, startEpoch] at verified batch ih
    obtain ⟨split, complete⟩ := ih (sorted.sublist (List.drop_sublist _ _))
    rw [importChainSegment, verified]
    simp only [batch, List.cons_append, verifiedBatches_signatureVerified, verifiedBatches_append,
      importBatch_verifiedBatches _ _ _ batch, List.nil_append]
    refine ⟨EpochSplit.take_findIdx sorted split, fun imported succeeded => ?_⟩
    rw [List.flatten_cons, complete imported succeeded, List.take_append_drop]

/-- `process_chain_segment`, on a segment whose filtered part has increasing slots, hands the
signature checks non-empty batches, at most one per block, each the blocks of the remaining
segment in the epoch of its first block, and, when it returns `Successful`, batches that make
up the filtered segment in order. -/
theorem processChainSegment_splits_batches_by_epoch (spec : EthSpec) (state : σ) (segment : List SignedBeaconBlock)
    {filtered : List (Root × SignedBeaconBlock)} (ok : filterChainSegment collab state segment = .ok filtered)
    (increasing : (filtered.map fun entry => entry.2.slot).Chain' (· < ·)) :
    EpochSplit spec filtered (verifiedBatches (processChainSegment collab spec state segment).events) ∧
    (∀ batch ∈ verifiedBatches (processChainSegment collab spec state segment).events, batch ≠ []) ∧
    (verifiedBatches (processChainSegment collab spec state segment).events).length ≤ filtered.length ∧
    ∀ imported, (processChainSegment collab spec state segment).result = .successful imported →
      (verifiedBatches (processChainSegment collab spec state segment).events).flatten = filtered := by
  have sorted : filtered.Pairwise fun a b => a.2.slot < b.2.slot :=
    List.pairwise_map.mp (List.chain'_iff_pairwise.mp increasing)
  have run : processChainSegment collab spec state segment = importChainSegment collab spec state 0 filtered := by
    rw [processChainSegment, ok]
  obtain ⟨split, complete⟩ := importChainSegment_epochSplit spec state 0 filtered sorted
  rw [run]
  exact ⟨split, split.ne_nil, split.length_le, complete⟩

/-- Collaborators under which every block is relevant, and every check and import succeeds. -/
def allSucceed : SegmentCollaborators Unit where
  forkNameOk := fun _ => true
  checkBlockRelevancy := fun _ block => .ok block.blockRoot
  signatureVerifyChainSegment := fun _ _ => .ok ()
  processBlock := fun _ block => (.ok block.1, ())

/-- A linked segment with two blocks in epoch 0 and one in epoch 1. -/
def twoEpochSegment : List SignedBeaconBlock := [⟨1, 0, 1⟩, ⟨2, 1, 2⟩, ⟨9, 2, 9⟩]

/-- The segment paired with its roots, as the first loop keeps it when every block is relevant. -/
def twoEpochFiltered : List (Root × SignedBeaconBlock) := twoEpochSegment.map fun block => (block.blockRoot, block)

/-- Slots 1, 2 and 9 of the minimal spec, all relevant: the run checks the batch of epoch 0 and
then the batch of epoch 1. -/
theorem processChainSegment_splits_batches_by_epoch_over_two_epochs :
    filterChainSegment allSucceed () twoEpochSegment = .ok twoEpochFiltered ∧
    (twoEpochFiltered.map fun entry => entry.2.slot).Chain' (· < ·) ∧
    (EpochSplit EthSpec.minimal twoEpochFiltered
        (verifiedBatches (processChainSegment allSucceed EthSpec.minimal () twoEpochSegment).events) ∧
      (∀ batch ∈ verifiedBatches (processChainSegment allSucceed EthSpec.minimal () twoEpochSegment).events,
        batch ≠ []) ∧
      (verifiedBatches (processChainSegment allSucceed EthSpec.minimal () twoEpochSegment).events).length ≤
        twoEpochFiltered.length ∧
      ∀ imported, (processChainSegment allSucceed EthSpec.minimal () twoEpochSegment).result = .successful imported →
        (verifiedBatches (processChainSegment allSucceed EthSpec.minimal () twoEpochSegment).events).flatten =
          twoEpochFiltered) :=
  have ok : filterChainSegment allSucceed () twoEpochSegment = .ok twoEpochFiltered := by decide
  have increasing : (twoEpochFiltered.map fun entry => entry.2.slot).Chain' (· < ·) := by
    simp [twoEpochFiltered, twoEpochSegment]
  ⟨ok, increasing, processChainSegment_splits_batches_by_epoch EthSpec.minimal () twoEpochSegment ok increasing⟩

namespace BrokenSegment

/-- Collaborators under which the block with root `2` is from a future slot, and every other
block is relevant and imports. -/
def futureSecondBlock : SegmentCollaborators Unit where
  forkNameOk := fun _ => true
  checkBlockRelevancy := fun _ block => if block.blockRoot = 2 then .error (.futureSlot 1 2) else .ok block.blockRoot
  signatureVerifyChainSegment := fun _ _ => .ok ()
  processBlock := fun _ block => (.ok block.1, ())

/-- A segment whose last block names a parent that is not the block before it. -/
def brokenSegment : List SignedBeaconBlock := [⟨1, 0, 1⟩, ⟨2, 1, 2⟩, ⟨3, 2, 3⟩, ⟨4, 99, 4⟩]

/-- The break at the future block ends the linearity checks, so a segment that is not linear
imports its first block and returns `Successful`. -/
theorem processChainSegment_imports_past_unchecked_break :
    ¬ LinkedAt brokenSegment 2 ∧
      (processChainSegment futureSecondBlock EthSpec.minimal () brokenSegment).result = .successful 1 ∧
      handedBlocks (processChainSegment futureSecondBlock EthSpec.minimal () brokenSegment).events =
        [(1, ⟨1, 0, 1⟩)] := by
  refine ⟨fun linked => absurd (linked _ _ rfl rfl).1 (by decide), ?_, ?_⟩ <;>
    simp [processChainSegment, filterChainSegment, childLinkError, futureSecondBlock, brokenSegment,
      importChainSegment, importBatch, List.findIdx_cons, EthSpec.epoch, EthSpec.minimal]

end BrokenSegment

end BeaconChain
