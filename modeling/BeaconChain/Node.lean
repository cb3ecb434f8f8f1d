import BeaconChain.HeadSelection

/-! The node as a system of whole runs on one chain: block imports, head selection, and payload
invalidations, which run head selection in turn. Each run holds the locks it needs, so the
runs here follow one another; `HeadRace` looks inside head selection instead. -/

namespace BeaconChain

/-- One run on the node. -/
inductive NodeEvent where
  | importBlock (blockRoot : Root) (outcomes : ImportOutcomes)
  | forkChoice (outcomes : HeadOutcomes)
  | processInvalidExecutionPayload (outcomes : HeadOutcomes) (justifiedInvalid : Bool)
  deriving DecidableEq, Repr

namespace Chain

variable {spec : EthSpec} (tree : BlockTree spec) (weakSubjectivityCheckpoint : Option Checkpoint)

/-- `BeaconChain::process_invalid_execution_payload` after `on_invalid_execution_payload`, which
changes the payload status of fork choice's blocks and not which blocks it holds: run fork
choice, whose errors are only logged, then request a shutdown when the justified block is
invalid and the request can be sent. -/
def processInvalidExecutionPayload (outcomes : HeadOutcomes) (justifiedInvalid : Bool) (chain : Chain) : Chain :=
  let chain := (forkChoiceInternal tree outcomes chain).chain
  if justifiedInvalid && outcomes.shutdownSent then { chain with shutdownRequested := true } else chain

/-- One run. -/
def step (chain : Chain) : NodeEvent → Chain
  | .importBlock blockRoot outcomes => (importBlock tree weakSubjectivityCheckpoint outcomes chain blockRoot).chain
  | .forkChoice outcomes => (forkChoiceInternal tree outcomes chain).chain
  | .processInvalidExecutionPayload outcomes justifiedInvalid =>
    processInvalidExecutionPayload tree outcomes justifiedInvalid chain

/-- Runs one after another. -/
def run (chain : Chain) (events : List NodeEvent) : Chain := events.foldl (step tree weakSubjectivityCheckpoint) chain

/-- The fork-choice lookup of the canonical head's block in `head_safety_status` (and in
`produce_unaggregated_attestation` for the head), which fails with `HeadMissingFromForkChoice`. -/
def headBlockLookup (chain : Chain) : Except Error Root :=
  if chain.forkChoice.containsBlock chain.canonicalHead then .ok chain.canonicalHead
  else .error (.headMissingFromForkChoice chain.canonicalHead)

end Chain

end BeaconChain
