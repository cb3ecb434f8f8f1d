import BeaconChain.Types

/-! `get_block`: the store keeps post-Merge blocks blinded, with the execution payload replaced by
its header, and `get_block` rebuilds the full block from the payload the execution layer returns
for the header's block hash, refusing a payload whose header differs from the stored one.
`get_block_checking_early_attester_cache` answers from the early attester cache first. -/

namespace BeaconChain

/-- `ExecutionPayload`: its block hash, its transactions, and the other fields its header
copies, kept as one value. -/
structure ExecutionPayload where
  blockHash : Nat
  fields : Nat
  transactions : List Nat
  deriving DecidableEq, Repr

/-- `ExecutionPayloadHeader`: the payload's fields with the transactions replaced by their root. -/
structure ExecutionPayloadHeader where
  blockHash : Nat
  fields : Nat
  transactionsRoot : Nat
  deriving DecidableEq, Repr

/-- Modelled from the spec: `ExecutionPayloadHeader::from`, where `transactionsRoot` is the tree
hash root of a transaction list. -/
def ExecutionPayloadHeader.ofPayload (transactionsRoot : List Nat → Nat) (payload : ExecutionPayload) :
    ExecutionPayloadHeader :=
  ⟨payload.blockHash, payload.fields, transactionsRoot payload.transactions⟩

/-- `SignedBeaconBlock<E, Payload>`: its slot, the rest of the block and its signature as one value,
and the body's payload, which the `Base` and `Altair` variants lack. -/
structure SignedBlock (Payload : Type) where
  slot : Nat
  message : Nat
  payload : Option Payload
  deriving DecidableEq, Repr

namespace SignedBlock

/-- Modelled from the spec: `SignedBeaconBlock::try_into_full_block`: a block without a payload
is full as it is, a blinded `Merge` block needs the payload. -/
def tryIntoFullBlock (block : SignedBlock ExecutionPayloadHeader) (executionPayload : Option ExecutionPayload) :
    Option (SignedBlock ExecutionPayload) :=
  match block.payload with
  | none => some ⟨block.slot, block.message, none⟩
  | some _ => executionPayload.map fun payload => ⟨block.slot, block.message, some payload⟩

/-- Modelled from the spec: the blinding the store applies when it writes a block, which keeps the
payload's header in place of the payload. -/
def blind (transactionsRoot : List Nat → Nat) (block : SignedBlock ExecutionPayload) :
    SignedBlock ExecutionPayloadHeader :=
  ⟨block.slot, block.message, block.payload.map (ExecutionPayloadHeader.ofPayload transactionsRoot)⟩

end SignedBlock

/-- Modelled from the spec: `DatabaseBlock`, what `try_get_full_block` finds: a full block, or a
blinded one whose payload is to be fetched. -/
inductive DatabaseBlock where
  | full (block : SignedBlock ExecutionPayload)
  | blinded (block : SignedBlock ExecutionPayloadHeader)
  deriving DecidableEq, Repr

/-- What the collaborators of `get_block` answer: the store's `try_get_full_block` for the root (a
read error, or the block if any), the execution layer (absent, or its
`get_payload_by_block_hash`: an error, or the payload if it has one), and the early attester
cache's block for the root. -/
structure BlockOutcomes where
  tryGetFullBlock : Except Unit (Option DatabaseBlock)
  executionLayer : Option (Nat → Except Unit (Option ExecutionPayload))
  earlyAttesterBlock : Option (SignedBlock ExecutionPayload)

namespace BlockOutcomes

variable (outcomes : BlockOutcomes) (transactionsRoot : List Nat → Nat)

/-- The end of `get_block` for a blinded block: the payload for the header's block hash, checked
against the header, added to the block. -/
def reconstructFullBlock (blockRoot : Root) (blindedBlock : SignedBlock ExecutionPayloadHeader) :
    Except Error (Option (SignedBlock ExecutionPayload)) :=
  match blindedBlock.payload with
  | none => .error (.blockVariantLacksExecutionPayload blockRoot)
  | some executionPayloadHeader =>
    let execBlockHash := executionPayloadHeader.blockHash
    match outcomes.executionLayer with
    | none => .error .executionLayerMissing
    | some getPayloadByBlockHash =>
      match getPayloadByBlockHash execBlockHash with
      | .error () => .error (.executionLayerErrorPayloadReconstruction execBlockHash)
      | .ok none => .error (.blockHashMissingFromExecutionLayer execBlockHash)
      | .ok (some executionPayload) =>
        if ExecutionPayloadHeader.ofPayload transactionsRoot executionPayload ≠ executionPayloadHeader then
          .error (.inconsistentPayloadReconstructed blindedBlock.slot execBlockHash)
        else
          match blindedBlock.tryIntoFullBlock (some executionPayload) with
          | none => .error .addPayloadLogicError
          | some block => .ok (some block)

/-- `BeaconChain::get_block`. -/
def getBlock (blockRoot : Root) : Except Error (Option (SignedBlock ExecutionPayload)) :=
  match outcomes.tryGetFullBlock with
  | .error () => .error .dbError
  | .ok (some (.full block)) => .ok (some block)
  | .ok (some (.blinded blindedBlock)) => outcomes.reconstructFullBlock transactionsRoot blockRoot blindedBlock
  | .ok none => .ok none

/-- `BeaconChain::get_block_checking_early_attester_cache`. -/
def getBlockCheckingEarlyAttesterCache (blockRoot : Root) : Except Error (Option (SignedBlock ExecutionPayload)) :=
  match outcomes.earlyAttesterBlock with
  | some block => .ok (some block)
  | none => outcomes.getBlock transactionsRoot blockRoot

end BlockOutcomes

end BeaconChain
