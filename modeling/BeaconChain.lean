import BeaconChain.Types
import BeaconChain.BlockTree
import BeaconChain.Roots
import BeaconChain.ChainSegment
import BeaconChain.ExecutionEngine
import BeaconChain.ForkChoice
import BeaconChain.ImportBlock
import BeaconChain.HeadSelection
import BeaconChain.HeadRace
import BeaconChain.Node
import BeaconChain.StateRoots
import BeaconChain.Attestation
import BeaconChain.Shuffling
import BeaconChain.CommitteeCache
import BeaconChain.ProposerCache
import BeaconChain.BlockProduction
import BeaconChain.SyncCommittee
import BeaconChain.PayloadReconstruction
import BeaconChain.Proofs.BlockRoots
import BeaconChain.Proofs.Reorg
import BeaconChain.Proofs.ChainSegment
import BeaconChain.Proofs.ForkchoiceOrder
import BeaconChain.Proofs.ImportBlock
import BeaconChain.Proofs.WeakSubjectivity
import BeaconChain.Proofs.HeadSelection
import BeaconChain.Proofs.HeadRace
import BeaconChain.Proofs.Node
import BeaconChain.Proofs.StateRoots
import BeaconChain.Proofs.Shuffling
import BeaconChain.Proofs.Attestation
import BeaconChain.Proofs.CommitteeCache
import BeaconChain.Proofs.ProposerCache
import BeaconChain.Proofs.BlockProduction
import BeaconChain.Proofs.SyncCommittee
import BeaconChain.Proofs.PayloadReconstruction
