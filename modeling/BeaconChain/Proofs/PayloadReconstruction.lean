import BeaconChain.PayloadReconstruction

/-! `get_block` inverts the store's blinding. A block it rebuilds carries a payload whose header
is the stored one, so it blinds back to the stored block, whichever payload the execution layer
returned; and a `Merge` block stored blinded comes back whole when the execution layer returns
its payload. Adding a payload never fails, so `AddPayloadLogicError` is never returned. -/

namespace BeaconChain

variable {transactionsRoot : List Nat → Nat}

/-- The blinded form of what the store holds. -/
def DatabaseBlock.toBlinded (transactionsRoot : List Nat → Nat) : DatabaseBlock → SignedBlock ExecutionPayloadHeader
  | .full block => block.blind transactionsRoot
  | .blinded block => block

namespace SignedBlock

theorem tryIntoFullBlock_some (block : SignedBlock ExecutionPayloadHeader) (payload : ExecutionPayload) :
    block.tryIntoFullBlock (some payload) =
      some ⟨block.slot, block.message, block.payload.map fun _ => payload⟩ := by
  unfold tryIntoFullBlock
  cases block.payload <;> rfl

theorem blind_tryIntoFullBlock {block : SignedBlock ExecutionPayloadHeader} {header : ExecutionPayloadHeader}
    {payload : ExecutionPayload} (held : block.payload = some header)
    (sameHeader : ExecutionPayloadHeader.ofPayload transactionsRoot payload = header) :
    (⟨block.slot, block.message, block.payload.map fun _ => payload⟩ : SignedBlock ExecutionPayload).blind
      transactionsRoot = block := by
  rw [blind, held]
  simp only [Option.map_some', sameHeader]
  rw [← held]

end SignedBlock

namespace BlockOutcomes

variable {outcomes : BlockOutcomes} {blockRoot : Root}

theorem reconstructFullBlock_eq {blindedBlock : SignedBlock ExecutionPayloadHeader}
    {result : Except Error (Option (SignedBlock ExecutionPayload))}
    (rebuilt : outcomes.reconstructFullBlock transactionsRoot blockRoot blindedBlock = result) :
    result ≠ .error .addPayloadLogicError ∧
      ∀ block, result = .ok (some block) → block.blind transactionsRoot = blindedBlock := by
  subst rebuilt
  unfold reconstructFullBlock
  split
  · exact ⟨nofun, nofun⟩
  · next header held =>
    dsimp only
    split
    · exact ⟨nofun, nofun⟩
    · split
      · exact ⟨nofun, nofun⟩
      · exact ⟨nofun, nofun⟩
      · next payload _ =>
        split_ifs with differs
        · exact ⟨nofun, nofun⟩
        · rw [SignedBlock.tryIntoFullBlock_some]
          refine ⟨nofun, fun block built => ?_⟩
          cases built
          exact SignedBlock.blind_tryIntoFullBlock held (not_not.mp differs)

/-- `get_block` inverts the store's blinding. Every block it returns blinds to what the store holds
for the root, whichever payload the execution layer supplied; it never fails with
`AddPayloadLogicError`; and a block with a payload that the store holds blinded comes back as it
was, once the execution layer returns that payload for its block hash. -/
theorem getBlock_round_trips_blinding :
    (∀ block, outcomes.getBlock transactionsRoot blockRoot = .ok (some block) →
      ∃ stored, outcomes.tryGetFullBlock = .ok (some stored) ∧
        block.blind transactionsRoot = stored.toBlinded transactionsRoot) ∧
    outcomes.getBlock transactionsRoot blockRoot ≠ .error .addPayloadLogicError ∧
    ∀ (block : SignedBlock ExecutionPayload) payload getPayloadByBlockHash, block.payload = some payload →
      outcomes.tryGetFullBlock = .ok (some (.blinded (block.blind transactionsRoot))) →
      outcomes.executionLayer = some getPayloadByBlockHash →
      getPayloadByBlockHash payload.blockHash = .ok (some payload) →
      outcomes.getBlock transactionsRoot blockRoot = .ok (some block) := by
  refine ⟨fun block found => ?sound, ?logic, fun block payload getPayloadByBlockHash held stored layer answered => ?complete⟩
  case sound =>
    unfold getBlock at found
    split at found
    · cases found
    · next stored =>
      cases found
      exact ⟨_, stored, rfl⟩
    · next blindedBlock stored =>
      exact ⟨_, stored, (reconstructFullBlock_eq found).2 block rfl⟩
    · cases found
  case logic =>
    unfold getBlock
    split
    · exact nofun
    · exact nofun
    · exact (reconstructFullBlock_eq rfl).1
    · exact nofun
  case complete =>
    obtain ⟨slot, message, _⟩ := block
    cases held
    simp only [getBlock, stored, reconstructFullBlock, SignedBlock.blind, Option.map_some', layer,
      ExecutionPayloadHeader.ofPayload, answered, ne_eq, not_true_eq_false, if_false,
      SignedBlock.tryIntoFullBlock_some]

end BlockOutcomes

end BeaconChain
