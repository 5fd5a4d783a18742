import VehicleLink.Registry
import VehicleLink.Delivery

/-! Signals: what calls every subscribed callback with an argument. -/

namespace VehicleLink

/-- The callbacks of a signal by name. -/
abbrev Signal := Registry String

namespace Signal

inductive Request (Argument : Type) where
  | add (callback : String)
  | remove (callback : String)
  | call (argument : Argument)
  | describe
  deriving DecidableEq, Repr

inductive Answer where
  | done
  | text (text : String)
  deriving DecidableEq, Repr

def describe (signal : Signal) : String :=
  s!"EventSource \x7b callbacks: {signal.size} \x7d"

variable {Argument : Type}

/-- A call is done once every callback has been invoked, whether or not it completes. -/
def effect (request : Request Argument) (signal : Signal) :
    Effect Signal String Argument Answer :=
  match request with
  | .add callback => .reply .done (signal.insert callback)
  | .remove callback => .reply .done (signal.remove callback)
  | .call argument => .deliver signal.entries argument fun _ => .done
  | .describe => .reply (.text (describe signal)) signal

/-- A signal whose callbacks each behave by a reaction of their own. -/
def exchange (conduct : List (Happening (Request Argument) String Argument Answer) → String →
    Argument → Conduct (Request Argument) Answer) :
    Exchange Signal (Request Argument) Answer String Argument where
  effect := effect
  conduct := conduct

end Signal

end VehicleLink
