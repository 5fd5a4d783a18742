import VehicleLink.Signal
import VehicleLink.Router
import VehicleLink.Bridge.Console
import VehicleLink.Link.Settings
import VehicleLink.Link.Wait
import VehicleLink.Link.Scenario
import VehicleLink.Proofs.Frames
import VehicleLink.Proofs.Reencoding
import VehicleLink.Proofs.Bridge.Consistency
import VehicleLink.Proofs.Bridge.Hearing
import VehicleLink.Proofs.Bridge.Operations
import VehicleLink.Proofs.Bridge.Run
import VehicleLink.Proofs.Bridge.Actors
import VehicleLink.Proofs.Bridge.OpenFlag
import VehicleLink.Proofs.Bridge.Deciding
import VehicleLink.Proofs.Bridge.Independence
import VehicleLink.Proofs.Bridge.Streaming
import VehicleLink.Proofs.Bridge.Sessions
import VehicleLink.Proofs.Bridge.Delivery
import VehicleLink.Proofs.Bridge.Reading
import VehicleLink.Proofs.Bridge.BlockCycle
import VehicleLink.Proofs.Bridge.Subscribers
import VehicleLink.Proofs.Link.Reader
import VehicleLink.Proofs.Link.Run
import VehicleLink.Proofs.Link.Lifecycle
import VehicleLink.Proofs.Link.Inbound
import VehicleLink.Proofs.Link.KeepAlive
import VehicleLink.Proofs.Link.Scenarios
import VehicleLink.Proofs.Numbers.Nearest
import VehicleLink.Proofs.Numbers.Single
import VehicleLink.Proofs.Quaternion.Layout
import VehicleLink.Proofs.Quaternion.Quantizing
import VehicleLink.Proofs.Quaternion.FixedPoints
import VehicleLink.Proofs.Quaternion.Accuracy
import VehicleLink.Proofs.Signalling
import VehicleLink.Proofs.Link.Dispatch
import VehicleLink.Proofs.Reports
import VehicleLink.Proofs.Link.Brackets
import VehicleLink.Proofs.Bridge.Renewal
import VehicleLink.Proofs.Listening
import VehicleLink.Proofs.Bridge.StreamRenewal
import VehicleLink.Proofs.Quaternion.Soundness
import VehicleLink.Proofs.Quaternion.Packing
import VehicleLink.Proofs.Quaternion.Opposites
import VehicleLink.Proofs.Fields
import VehicleLink.Proofs.Numbers.Double
import VehicleLink.Proofs.Setpoints.FullState
import VehicleLink.Proofs.Setpoints.Readback
import VehicleLink.Proofs.Messages
import VehicleLink.Proofs.Link.Sending
import VehicleLink.Proofs.Checksums
import VehicleLink.Proofs.Link.Binding
import VehicleLink.Proofs.Link.Silence
import VehicleLink.Proofs.Waiting
import VehicleLink.Proofs.Listeners
