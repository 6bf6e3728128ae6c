import Muster.Size
import Muster.Json.Record
import Muster.Config.Toml
import Muster.Text.Quoted
import Muster.Latch
import Muster.Phase
import Muster.Placement
import Muster.Coordinator.Action
import Muster.Rehearsal
import Muster.Bringup
import Muster.Cli.Daemon
import Muster.Main
import Muster.Proofs.Moves
import Muster.Proofs.Rounds
import Muster.Proofs.WorkerLimits
import Muster.Proofs.Capacity
import Muster.Proofs.Answers
import Muster.Proofs.Target
import Muster.Proofs.Granting
import Muster.Proofs.ClusterRounds
import Muster.Proofs.ClusterBringup
import Muster.Proofs.Countdown
import Muster.Proofs.Consumption
import Muster.Proofs.MasterFirst
import Muster.Proofs.Slots
import Muster.Proofs.Agreement
import Muster.Proofs.Lifecycle
import Muster.Proofs.Requests
import Muster.Proofs.Phases
import Muster.Proofs.TomlText
import Muster.Proofs.TomlDocument
import Muster.Proofs.ConfigRoundTrip
import Muster.Proofs.Stopping
import Muster.Proofs.MasterAddress
import Muster.Proofs.ServedRounds
import Muster.Proofs.Ramdisk
import Muster.Proofs.SpareRoom
import Muster.Proofs.Submissions
import Muster.Proofs.DeliveryOrder
import Muster.Proofs.Spreading
import Muster.Proofs.SizeRounding
import Muster.Proofs.SizeRoundTrip
import Muster.Proofs.ClusterDeliveries
import Muster.Proofs.ConfigValidity
import Muster.Proofs.JsonRoundTrip
