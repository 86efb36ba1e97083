import Wirelink.Proofs.Retry
import Wirelink.Proofs.Completion
import Wirelink.Proofs.Telemetry
import Wirelink.Proofs.Rejected
import Wirelink.Proofs.Readiness
import Wirelink.Proofs.RingAccess
import Wirelink.Proofs.RxLease
import Wirelink.Proofs.Timer
import Wirelink.Proofs.BulkSender
import Wirelink.Proofs.BulkLeftover
import Wirelink.Proofs.RpcToken
import Wirelink.Proofs.RpcLifecycle
import Wirelink.Proofs.OutboxLatest
import Wirelink.Proofs.Fifo
import Wirelink.Proofs.Latest
import Wirelink.Proofs.FrameCodec
