import Mathlib.Data.Rat.Defs

/-!
`config/settings.py`, `utils/enums.py` and `utils/messages.py`, with the
values of Python the rest of the program hands around. A finite float is the
rational it stands for. Times are epoch seconds.
-/

namespace DispenserHub.Messages

inductive PyFloat where
  | finite (value : ℚ)
  | inf (negative : Bool)
  | nan
  deriving DecidableEq, Repr

inductive PyNumber where
  | int (value : Int)
  | float (value : PyFloat)
  deriving DecidableEq, Repr

/-- The exceptions the modelled code raises or catches. -/
inductive PyError where
  | TypeError
  | ValueError
  | OverflowError
  | NameError
  | IndexError
  | UnboundLocalError
  | ValidationError
  | JSONDecodeError
  | OSError
  deriving DecidableEq, Repr

/-- A date string `YYYY-MM-DD`, by its three numbers. -/
structure Date where
  year : Nat
  month : Nat
  day : Nat
  deriving DecidableEq, Repr

def MACHINE_ID_LIST : List Int := [1, 2, 3, 4, 5, 6, 7, 8, 9, 10]

/-- One row for each floor. -/
def MACHINE_LAYOUT : List (List Int) :=
  [[1, 2, 3, 4, 5], [6, 7, 8, 9, 10], [11, 12, 13, 14, 15]]

def TIME_BUCKET_SIZE : Int := 300

/-- The time buckets kept free between reservations. -/
def BUFFER_SIZE : Nat := 3

inductive Status where
  | Active
  | Available
  | Reserved
  | Maintenance
  | Idle
  | Error
  | Null
  deriving DecidableEq, Repr

inductive BallLevel where
  | Full
  | Medium
  | Low
  | Urgent
  | Empty
  | Null
  deriving DecidableEq, Repr

inductive Node where
  | Manager
  | Handler
  | Admin
  | Kiosk
  | Reservation
  | Machine
  deriving DecidableEq, Repr

/-- A session to book. Its creation times are left out: nothing reads them.
    `SESSION` gives `duration` as a float or not at all; the scheduler's own
    signature asks for an integer, so a number of either kind stands here. -/
structure Session where
  machine_id : List Int
  session_id : Int
  status : Status
  start_time : PyFloat
  duration : Option PyNumber
  exchange_id : Option Int
  origin_node : Option Node
  destination_node : Option Node
  deriving DecidableEq, Repr

/-- The list of machines, under the name the scheduler and the manager use. -/
def Session.machine_ids (session : Session) : List Int := session.machine_id

structure Machine where
  machine_id : Int
  session_id : Option Int
  status : Status
  ball_level : Option BallLevel
  scheduled_until : Option PyFloat
  last_updated : Option PyFloat
  exchange_id : Option Int
  timestamp : PyFloat
  origin_node : Option Node
  destination_node : Option Node
  deriving DecidableEq, Repr

/-- The answer to a proposal, with the fields the manager fills in. -/
structure Acknowledge where
  success : Bool
  message : Option String
  session_id : Option Int
  exchange_id : Option Int
  deriving DecidableEq, Repr

end DispenserHub.Messages
