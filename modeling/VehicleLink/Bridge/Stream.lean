import VehicleLink.Bridge.Station

/-! Reading the samples of a log block one after the other. -/

namespace VehicleLink.Bridge.Station

/-- Registers the block with the driver and starts it. Subscriptions and samples left over from a
lost link are given up first; a connected stream is refused without a call. -/
def connectStream (station : Station) (number : Nat) : Station × Except LinkError Unit :=
  if (station.stream number).isConnected then (station, .error (.phase .alreadyConnected))
  else
    let released := station.releaseStream number
    let block := released.block (released.stream number).block
    let added := released.call (.addConfig number block.name)
    match added.rejection with
    | some reason => (added, .error (.bridge (.logConfig reason)))
    | none =>
        let subscribed := added.subscribeStream number
        let started := (subscribed.call (.start number block.name)).fireAll block.onStart
        (started.updateStream number ({ · with isConnected := true }), .ok ())

/-- Stops and deletes the block of a connected stream, and gives up its subscription. -/
def disconnectStream (station : Station) (number : Nat) : Station :=
  let stream := station.stream number
  let halted :=
    if stream.isConnected then
      let block := station.block stream.block
      let disconnected := station.updateStream number ({ · with isConnected := false })
      let stopped := (disconnected.call (.stop number block.name)).fireAll block.onStop
      (stopped.call (.delete number block.name)).fireAll block.onDelete
    else station
  halted.releaseStream number

/-- The next sample of a stream, none once it has ended. There is no result if the stream is
connected, holds no sample and may still receive one: the reader waits. -/
def nextEntry (station : Station) (number : Nat) : Option (Station × Option Entry) :=
  let stream := station.stream number
  if stream.isConnected then
    match stream.queue with
    | entry :: rest => some (station.updateStream number ({ · with queue := rest }), some entry)
    | [] =>
        if stream.accepting then none
        else some (station.updateStream number ({ · with isConnected := false }), none)
  else some (station, none)

/-- The next sample, where events are reported while the reader waits. If it does not wait, they
come after the sample is taken. -/
def nextWhile (station : Station) (number : Nat) (events : List Event) :
    Option (Station × Option Entry) :=
  match station.nextEntry number with
  | some (after, entry) => some (after.fireAll events, entry)
  | none => (station.fireAll events).nextEntry number

/-- Up to `count` samples; the end of the stream ends them. -/
def takeEntries (station : Station) (number : Nat) : Nat → Option (Station × List Entry)
  | 0 => some (station, [])
  | count + 1 =>
      match station.nextEntry number with
      | none => none
      | some (after, none) => some (after, [])
      | some (after, some entry) =>
          (takeEntries after number count).map fun (last, entries) => (last, entry :: entries)

end VehicleLink.Bridge.Station
