import DispenserHub.Effects
import DispenserHub.Runs
import DispenserHub.Grid
import DispenserHub.Occupancy
import DispenserHub.Buckets
import DispenserHub.Availability
import DispenserHub.FileIo
import DispenserHub.MasterSchedule
import DispenserHub.Reservation
import DispenserHub.Booking
import DispenserHub.Spacing
import DispenserHub.Manager
import DispenserHub.UpdateFlag
import DispenserHub.Durability
import DispenserHub.Adjacency
import DispenserHub.SlotSearch
import DispenserHub.MachineHandler
import DispenserHub.Mirror
import DispenserHub.Monitoring
import DispenserHub.Atomicity
import DispenserHub.FailedReservation
import DispenserHub.PassedCheck
import DispenserHub.KeptSessions
import DispenserHub.Independence
import DispenserHub.Rewrite
import DispenserHub.MqttClient
import DispenserHub.StartLookup
import DispenserHub.Storage
import DispenserHub.FirstUse
import DispenserHub.Receive
import DispenserHub.SessionCells
import DispenserHub.DayCover
import DispenserHub.ClearSlots
import DispenserHub.ClosedLoop
import DispenserHub.Restarts
import DispenserHub.Capacity
import DispenserHub.Dispatch
import DispenserHub.Dicts
import DispenserHub.ManagerNode
import DispenserHub.Proposals
import DispenserHub.Rendering
import DispenserHub.Replay
import DispenserHub.Startup
import DispenserHub.Offers
import DispenserHub.Handovers
import DispenserHub.Crashes
