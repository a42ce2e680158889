import Xv6Raid.Lib.XorSum
import Xv6Raid.Lib.Threads
import Xv6Raid.Lib.ExceptBind
import Xv6Raid.Lib.Layout
import Xv6Raid.Model.Basic
import Xv6Raid.Model.Image
import Xv6Raid.Model.Striping
import Xv6Raid.Model.Parity
import Xv6Raid.Model.Raid
import Xv6Raid.Model.Syscalls
import Xv6Raid.Spec.State
import Xv6Raid.Spec.Meta
import Xv6Raid.Spec.Parity
import Xv6Raid.Spec.ParityCalls
import Xv6Raid.Spec.MirrorCalls
import Xv6Raid.Refinement.ParityView
import Xv6Raid.Refinement.ParityRun
import Xv6Raid.Refinement.MirrorView
import Xv6Raid.Refinement.MirrorRun
import Xv6Raid.Refinement.Raid0Run
import Xv6Raid.Protocol.RepairGate
import Xv6Raid.Protocol.PairProtocol
import Xv6Raid.Properties.PartnerIndex
import Xv6Raid.Properties.Persistence
import Xv6Raid.Properties.Syscalls
import Xv6Raid.Properties.Layout
import Xv6Raid.Lib.LockProgram
import Xv6Raid.Model.LockLevel
import Xv6Raid.Properties.TransferBuffer
import Xv6Raid.Protocol.LockSets
import Xv6Raid.Protocol.LockSteps
import Xv6Raid.Protocol.Progress
import Xv6Raid.Protocol.Deadlock
import Xv6Raid.Properties.Reinit
import Xv6Raid.Protocol.Transfers
import Xv6Raid.Lib.Atomic
import Xv6Raid.Protocol.PairExclusion
import Xv6Raid.Protocol.MirrorData
import Xv6Raid.Protocol.MirrorThreads
import Xv6Raid.Protocol.MirrorAgree
import Xv6Raid.Refinement.MirrorLinear
import Xv6Raid.Refinement.MirrorRuns
import Xv6Raid.Protocol.PairSimulation
import Xv6Raid.Protocol.GateView
