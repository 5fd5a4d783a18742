import VehicleLink.Setpoint

/-!
Messages on the localization port: what is sent to the vehicle about its position, and what its
anchors report. A report of ranges is a series of records, each an anchor and the float of its
distance.
-/

namespace VehicleLink.Localization

def positionChannel : UInt8 := 0

def genericChannel : UInt8 := 1

inductive Message where
  | externalPosition (position : Axes)
  | externalPose (position : Axes) (attitude : Quaternion)
  | shortLpp (destination : UInt8) (content : List UInt8)
  | emergencyStop
  | emergencyStopWatchdog
  | emergencyReset
  deriving DecidableEq, Repr

/-- The kind byte of a message; the plain position has a channel of its own instead. -/
def Message.kind? : Message → Option UInt8
  | .externalPosition _ => none
  | .externalPose .. => some 8
  | .shortLpp .. => some 2
  | .emergencyStop => some 3
  | .emergencyStopWatchdog => some 4
  | .emergencyReset => some 10

def Message.body : Message → List UInt8
  | .externalPosition position => Setpoint.floats position.toList
  | .externalPose position q => Setpoint.floats (position.toList ++ [q.x, q.y, q.z, q.w])
  | .shortLpp destination content => destination :: content
  | .emergencyStop | .emergencyStopWatchdog | .emergencyReset => []

def Message.packet (message : Message) : Except PacketError Packet :=
  match message.kind? with
  | none => Packet.make Service.localization.port positionChannel message.body
  | some kind => Packet.make Service.localization.port genericChannel (kind :: message.body)

/-- Distances by anchor, the anchors ascending. -/
abbrev Ranges := List (UInt8 × Single)

/-- Sets the distance of an anchor. -/
def Ranges.insert (anchor : UInt8) (distance : Single) : Ranges → Ranges
  | [] => [(anchor, distance)]
  | (other, old) :: rest =>
      if anchor < other then (anchor, distance) :: (other, old) :: rest
      else if anchor = other then (anchor, distance) :: rest
      else (other, old) :: Ranges.insert anchor distance rest

def recordLength : Nat := 5

/-- The records of a report in the order they were sent, if they fill it. -/
def records? : List UInt8 → Option (List (UInt8 × Single))
  | [] => some []
  | anchor :: b₀ :: b₁ :: b₂ :: b₃ :: rest =>
      (records? rest).map ((anchor, Single.ofBytes [b₀, b₁, b₂, b₃]) :: ·)
  | _ => none

/-- The distances of several records; the last record of an anchor counts. -/
def Ranges.ofRecords (records : List (UInt8 × Single)) : Ranges :=
  records.foldl (fun ranges (anchor, distance) => ranges.insert anchor distance) []

/-- A message from the vehicle: its kind, what follows the kind byte, and the distances if it is a
report of ranges. -/
structure Report where
  kind : UInt8
  content : List UInt8
  ranges : Option Ranges
  deriving DecidableEq, Repr

def rangeStreamKind : UInt8 := 0

/-- Reads the payload of a packet, whatever its port. -/
def Report.parse (packet : Packet) : Except PacketError Report :=
  match packet.payload with
  | [] => .error (.malformed "empty localization packet")
  | kind :: content =>
      if kind = rangeStreamKind then
        match records? content with
        | some records => .ok ⟨kind, content, some (Ranges.ofRecords records)⟩
        | none =>
            .error (.malformed
              s!"range stream report length {content.length} is not a multiple of {recordLength}")
      else .ok ⟨kind, content, none⟩

end VehicleLink.Localization
