import VehicleLink.Binary.Double

/-! How long a receiver waits. -/

namespace VehicleLink

inductive Wait where
  | none
  | forever
  | atMost (nanoseconds : Nat)
  deriving DecidableEq, Repr

namespace Wait

/-- Waits of this many seconds and more cannot be held. -/
def secondsLimit : Nat := 18446744073709551616

/-- The wait of a number of seconds: nothing for zero and what is undefined, for ever below zero,
else the nearest nanosecond, a half going to the even one. What cannot be held waits for ever. -/
def ofSeconds (seconds : Double) : Wait :=
  match seconds.datum with
  | .nan => none
  | .infinity _ => forever
  | .finite negative magnitude =>
      if magnitude = 0 then none
      else if negative then forever
      else
        let nanoseconds := (roundHalfEven (magnitude * 1000000000)).toNat
        if nanoseconds < secondsLimit * 1000000000 then atMost nanoseconds else forever

/-- The whole milliseconds that cover a wait of nanoseconds. -/
def milliseconds (nanoseconds : Nat) : Nat := (nanoseconds + 999999) / 1000000

end Wait

end VehicleLink
