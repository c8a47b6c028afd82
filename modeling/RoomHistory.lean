import RoomHistory.Client.Changes
import RoomHistory.Client.Subscribing
import RoomHistory.CurrentState.Refusal
import RoomHistory.Proofs.Client.Following
import RoomHistory.Proofs.Client.Refusing
import RoomHistory.Proofs.Client.Routing
import RoomHistory.Proofs.Client.Sifting
import RoomHistory.Proofs.Client.Subscribing
import RoomHistory.Proofs.CurrentState.Showing
import RoomHistory.Proofs.Directory.RoundTrip
import RoomHistory.Proofs.Event.Timing
import RoomHistory.Proofs.Room.Overtaking
import RoomHistory.Proofs.Room.Redelivery
import RoomHistory.Proofs.Room.Transactions
import RoomHistory.Proofs.Timeline.Fronts
import RoomHistory.Proofs.Timeline.Guesses
import RoomHistory.Proofs.Timeline.Resending
import RoomHistory.Proofs.Directory.Placeholders
import RoomHistory.Proofs.Directory.Yielding
import RoomHistory.Proofs.Directory.Grouping
import RoomHistory.Proofs.Directory.RoundTrip
import RoomHistory.Proofs.Json.Fields
import RoomHistory.Proofs.Wire.ReadingBack
import RoomHistory.Proofs.Client.Registry
import RoomHistory.Proofs.Feed.Removal
import RoomHistory.Proofs.Room.Provenance
import RoomHistory.Proofs.Timeline.Lookups
