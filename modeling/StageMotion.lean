import StageMotion.Json.Instances
import StageMotion.Main
import StageMotion.Scalar.Real
import StageMotion.Traced
import StageMotion.Proofs.Bounce.Fence
import StageMotion.Proofs.Block.Runs
import StageMotion.Proofs.Bounce.Edges
import StageMotion.Proofs.Bounce.Containment
import StageMotion.Proofs.Bounce.Departure
import StageMotion.Proofs.Glide.Requests
import StageMotion.Proofs.Glide.Trajectory
import StageMotion.Proofs.Bounce.Settling
import StageMotion.Proofs.Glide.Lanes
import StageMotion.Proofs.Block.Lookup
import StageMotion.Proofs.Block.Places
import StageMotion.Proofs.Block.Chance
import StageMotion.Proofs.Glide.Pursuit
import StageMotion.Proofs.Glide.Arrival
import StageMotion.Proofs.Heading.Pointing
import StageMotion.Proofs.Glide.Interchange
import StageMotion.Proofs.Number.Value
import StageMotion.Proofs.Settings.Usable
import StageMotion.Proofs.Json.Survival
import StageMotion.Proofs.Settings.Overlay
import StageMotion.Proofs.Glide.Account
import StageMotion.Proofs.Bounce.Touching
import StageMotion.Proofs.Glide.Segment
import StageMotion.Proofs.Heading.Turning
import StageMotion.Proofs.Block.RandomPlace
import StageMotion.Proofs.Block.Frame
import StageMotion.Proofs.Number.Wrapping
import StageMotion.Proofs.Heading.Random
import StageMotion.Proofs.Bounce.Clearances
