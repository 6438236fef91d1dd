import AxelarSolana.Library.Tally
import AxelarSolana.AxelarStd.WordOrder
import AxelarSolana.Gateway.QuorumSoundness
import AxelarSolana.Gateway.MessageLifecycle
import AxelarSolana.Gateway.ExpiredSets
import AxelarSolana.Gateway.CommandIds
import AxelarSolana.Gateway.ContractCalls
import AxelarSolana.Gateway.RejectedSignatures
import AxelarSolana.Governance.ConfigWriteBack
import AxelarSolana.Governance.OperatorApproval
import AxelarSolana.Governance.Timelock
import AxelarSolana.Governance.ExecutedIsScheduled
import AxelarSolana.Governance.Authority
import AxelarSolana.Governance.Withdrawal
import AxelarSolana.Operators.Bookkeeping
import AxelarSolana.GasService.Ledger
import AxelarSolana.Its.HubOrigin
import AxelarSolana.Its.InboundEffects
import AxelarSolana.Its.TrustedChains
import AxelarSolana.Its.Addresses
import AxelarSolana.Its.DestinationSigners
import AxelarSolana.Its.FlowLimits
import AxelarSolana.Its.ManagerIntegrity
import AxelarSolana.Its.OutboundMessages
import AxelarSolana.Its.Pause
import AxelarSolana.Its.Relayers
import AxelarSolana.Its.RoleInvariants
import AxelarSolana.Its.Roles
import AxelarSolana.Its.RootSpace
import AxelarSolana.Its.SupplyAndEscrow
import AxelarSolana.Its.TokenCalls
import AxelarSolana.Its.TokenIds
import AxelarSolana.Its.Truncation
import AxelarSolana.Gateway.MerkleSoundness
import AxelarSolana.Gateway.EncoderAgreement
import AxelarSolana.Gateway.AbiDecoder
import AxelarSolana.Gateway.Executable
import AxelarSolana.Gateway.Interleavings
import AxelarSolana.Gateway.Journal
import AxelarSolana.Governance.Funds
import AxelarSolana.Gateway.Custody
import AxelarSolana.Gateway.Liveness
import AxelarSolana.GasService.Payouts
import AxelarSolana.Its.Backing
import AxelarSolana.Memo.Deliveries
