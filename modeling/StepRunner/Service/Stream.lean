import StepRunner.Catalog.Bus
import StepRunner.Wire.Record

/-!
This file defines the stream of events that the service sends to a client.
The stream observes the bus of the runs and the bus of the installs, and takes from them and from
the client in any order.
-/

namespace StepRunner.Service

/-- A message to the client. -/
inductive Frame where
  | run (event : RunEvent)
  | install (event : InstallEvent)
  deriving DecidableEq, Repr

/-- The JSON form of a message. -/
def Frame.toJson : Frame → Json
  | run event => .obj [("type", .str "run"), ("data", event.toJson)]
  | install event => .obj [("type", .str "install"), ("data", event.toJson)]

/-- What the client does. -/
inductive Incoming where
  /-- Sends a message of no importance. -/
  | message
  /-- Closes the stream, breaks it or ends it. -/
  | over
  deriving DecidableEq, Repr

/-- What a stream takes next. -/
inductive Pick where
  | run
  | install
  | incoming (what : Incoming)
  /-- Takes nothing more, since a message cannot be sent. -/
  | unsent
  deriving DecidableEq, Repr

/-- A stream with the positions of its observers and the messages so far. -/
structure Stream where
  nextRun : Nat
  nextInstall : Nat
  frames : List Frame := []
  isOpen : Bool := true
  deriving DecidableEq, Repr

namespace Stream

/-- A stream that observes what happens from now on. -/
def start (runs : List RunEvent) (installs : List InstallEvent) : Stream :=
  { nextRun := runs.length, nextInstall := installs.length }

/-- Sends a message. -/
def send (stream : Stream) (frame : Frame) : Stream :=
  { stream with frames := stream.frames ++ [frame] }

/-- Takes the next event of a run. -/
def takeRun (stream : Stream) (runs : List RunEvent) : Stream :=
  match Bus.receive runs stream.nextRun with
  | (.event event, nextRun) => { stream with nextRun }.send (.run event)
  | (_, nextRun) => { stream with nextRun }

/-- Takes the next event of an install. -/
def takeInstall (stream : Stream) (installs : List InstallEvent) : Stream :=
  match Bus.receive installs stream.nextInstall with
  | (.event event, nextInstall) => { stream with nextInstall }.send (.install event)
  | (_, nextInstall) => { stream with nextInstall }

/-- Takes one thing; a stream that was closed takes nothing. -/
def take (stream : Stream) (runs : List RunEvent) (installs : List InstallEvent)
    (pick : Pick) : Stream :=
  if !stream.isOpen then stream
  else
    match pick with
    | .run => stream.takeRun runs
    | .install => stream.takeInstall installs
    | .incoming .message => stream
    | .incoming .over | .unsent => { stream with isOpen := false }

/-- Takes things again and again. -/
def takeAll (stream : Stream) (runs : List RunEvent) (installs : List InstallEvent)
    (picks : List Pick) : Stream :=
  picks.foldl (fun stream pick => stream.take runs installs pick) stream

/-- A stream that takes every event at once loses none; the events of installs come first. -/
def follow (stream : Stream) (runs : List RunEvent) (installs : List InstallEvent) : Stream :=
  let installFrames := (installs.drop stream.nextInstall).map Frame.install
  let runFrames := (runs.drop stream.nextRun).map Frame.run
  { stream with
    nextRun := runs.length
    nextInstall := installs.length
    frames := stream.frames ++ installFrames ++ runFrames }

theorem take_closed {stream : Stream} (closed : stream.isOpen = false) (runs : List RunEvent)
    (installs : List InstallEvent) (pick : Pick) : stream.take runs installs pick = stream := by
  simp [take, closed]

end Stream

end StepRunner.Service
