import RobotPipeline.Main
import RobotPipeline.Proofs.Camera.Mapping
import RobotPipeline.Proofs.Ledger.Archive
import RobotPipeline.Proofs.Ledger.Preserved
import RobotPipeline.Proofs.Ledger.RoundTrip
import RobotPipeline.Proofs.Outcome
import RobotPipeline.Proofs.Pipeline.Account
import RobotPipeline.Proofs.Pipeline.Again
import RobotPipeline.Proofs.Pipeline.Cancelled
import RobotPipeline.Proofs.Pipeline.Confined
import RobotPipeline.Proofs.Pipeline.Counted
import RobotPipeline.Proofs.Pipeline.Crash
import RobotPipeline.Proofs.Pipeline.Grounds
import RobotPipeline.Proofs.Pipeline.Isolation
import RobotPipeline.Proofs.Pipeline.Named
import RobotPipeline.Proofs.Pipeline.Onward
import RobotPipeline.Proofs.Pipeline.Ports
import RobotPipeline.Proofs.Pipeline.Refused
import RobotPipeline.Proofs.Pipeline.Report
import RobotPipeline.Proofs.Pipeline.Resume
import RobotPipeline.Proofs.Pipeline.Retried
import RobotPipeline.Proofs.Pipeline.Trust
import RobotPipeline.Proofs.Pipeline.Validity
import RobotPipeline.Proofs.Readiness.Device
import RobotPipeline.Proofs.Registry.Rendered
import RobotPipeline.Proofs.Registry.Wellformed
import RobotPipeline.Proofs.Rehearsal
import RobotPipeline.Proofs.Relay.Log
import RobotPipeline.Proofs.Run.Overtaken
import RobotPipeline.Proofs.Stage.TimeLimit
import RobotPipeline.Proofs.Stage.Written
import RobotPipeline.Proofs.Time.Span
