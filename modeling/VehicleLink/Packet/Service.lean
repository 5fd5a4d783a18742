import VehicleLink.Packet

/-! The ports of the vehicle that have a meaning of their own. -/

namespace VehicleLink

inductive Service where
  | console
  | param
  | commander
  | mem
  | logging
  | localization
  | commanderGeneric
  | setpointHl
  | platform
  | debugDriver
  | linkCtrl
  deriving DecidableEq, Repr

namespace Service

def all : List Service :=
  [console, param, commander, mem, logging, localization, commanderGeneric, setpointHl, platform,
    debugDriver, linkCtrl]

def port : Service → UInt8
  | console => 0
  | param => 2
  | commander => 3
  | mem => 4
  | logging => 5
  | localization => 6
  | commanderGeneric => 7
  | setpointHl => 8
  | platform => 13
  | debugDriver => 14
  | linkCtrl => 15

def name : Service → String
  | console => "Console"
  | param => "Param"
  | commander => "Commander"
  | mem => "Mem"
  | logging => "Logging"
  | localization => "Localization"
  | commanderGeneric => "CommanderGeneric"
  | setpointHl => "SetpointHl"
  | platform => "Platform"
  | debugDriver => "DebugDriver"
  | linkCtrl => "LinkCtrl"

def ofPort? (port : UInt8) : Option Service := all.find? (·.port = port)

/-- Whether the port serves the link itself and not what flies. -/
def managesLink (service : Service) : Bool := 13 ≤ service.port

end Service

def Packet.service? (packet : Packet) : Option Service := Service.ofPort? packet.port

end VehicleLink
