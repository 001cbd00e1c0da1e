import Mathlib.Data.List.Induction
import StepRunner.Service.Stream

/-!
This file shows what the stream of events sends to a client.
The events of each bus come in their order, once each, and those that are missing were overwritten
before the stream took them, whatever is sent meanwhile and in whatever order the stream takes.
-/

namespace StepRunner

namespace Bus

variable {Event : Type} {sent : List Event} {position : Nat}

theorem oldest_le (sent : List Event) : oldest sent ≤ sent.length :=
  Nat.sub_le _ _

theorem length_le_oldest_add (sent : List Event) : sent.length ≤ oldest sent + eventCapacity :=
  Nat.sub_le_iff_le_add.1 (Nat.le_refl _)

theorem receive_of_held {event : Event} (held : oldest sent ≤ position)
    (found : sent[position]? = some event) :
    receive sent position = (.event event, position + 1) := by
  rw [receive, if_neg (Nat.not_lt.2 held), found]

/-- The observer of a bus is told of a loss, gets an event or is up to date. -/
theorem receive_cases (sent : List Event) (position : Nat) :
    (position < oldest sent ∧
        receive sent position = (.lost (oldest sent - position), oldest sent)) ∨
      (∃ event, sent[position]? = some event ∧
        receive sent position = (.event event, position + 1)) ∨
      (sent.length ≤ position ∧ receive sent position = (.nothing, position)) := by
  by_cases held : oldest sent ≤ position
  · cases found : sent[position]? with
    | some event => exact .inr (.inl ⟨event, rfl, receive_of_held held found⟩)
    | none =>
      have upToDate : sent.length ≤ position := List.getElem?_eq_none_iff.1 found
      exact .inr (.inr ⟨upToDate, receive_of_le upToDate⟩)
  · have behind : position < oldest sent := Nat.not_le.1 held
    exact .inl ⟨behind, receive_of_lt behind⟩

end Bus

/-- The event that an observer gets. -/
def Reception.events {Event : Type} : Reception Event → List Event
  | .nothing | .lost _ => []
  | .event received => [received]

/-- An observer of a bus and the events that it got. -/
structure Feed (Event : Type) where
  sent : List Event
  next : Nat
  got : List Event

namespace Feed

variable {Event : Type}

/-- What can happen to an observer. -/
inductive Step (feed : Feed Event) : Feed Event → Prop where
  | rests : Step feed feed
  | emits (event : Event) : Step feed { feed with sent := feed.sent ++ [event] }
  | gets {event : Event} (found : feed.sent[feed.next]? = some event) :
      Step feed { feed with next := feed.next + 1, got := feed.got ++ [event] }
  | skips (behind : feed.next < Bus.oldest feed.sent) :
      Step feed { feed with next := Bus.oldest feed.sent }

/--
The observer is so far behind that the event at a place is overwritten.
It goes on with the oldest event that is not.
-/
structure Skips (feed after : Feed Event) (place : Nat) : Prop where
  waiting : feed.next ≤ place
  overwritten : place + eventCapacity < feed.sent.length
  resumes : after = { feed with next := feed.sent.length - eventCapacity }

/-- The events that an observer got stand at places on the bus, and each of them was got once. -/
structure Placed (first : Nat) (feed : Feed Event) (places : List Nat) : Prop where
  increasing : places.Pairwise (· < ·)
  within : ∀ place ∈ places, first ≤ place ∧ place < feed.next
  got : feed.got.map some = places.map fun place => feed.sent[place]?
  reached : first ≤ feed.next ∧ feed.next ≤ feed.sent.length

/-- An observer got all events up to some point, but for those that were overwritten before. -/
structure Delivered {Move : Type} (feeds : List Move → Feed Event) (moves : List Move)
    (places : List Nat) : Prop where
  placed : Placed (feeds []).next (feeds moves) places
  /-- There was a move at which the observer skipped the event. -/
  missed : ∀ place, (feeds []).next ≤ place → place < (feeds moves).next → place ∉ places →
    ∃ early move late, moves = early ++ move :: late ∧
      (feeds early).Skips (feeds (early ++ [move])) place

section Steps

variable {feed after : Feed Event} {first : Nat} {places : List Nat}

/-- Events at increasing places follow each other on the bus. -/
theorem sublist_of_places {sent got : List Event} (increasing : places.Pairwise (· < ·))
    (later : ∀ place ∈ places, first ≤ place)
    (found : got.map some = places.map fun place => sent[place]?) :
    got.Sublist (sent.drop first) := by
  induction places generalizing got first with
  | nil =>
    have none : got = [] := by simpa using found
    exact none ▸ List.nil_sublist _
  | cons place places inductionHypothesis =>
    obtain ⟨above, increasing⟩ := List.pairwise_cons.1 increasing
    cases got with
    | nil => cases found
    | cons event got =>
      obtain ⟨head, found⟩ := List.cons.inj found
      obtain ⟨inside, here⟩ := List.getElem?_eq_some_iff.1 head.symm
      have rest := inductionHypothesis increasing above found
      have lead : (event :: got).Sublist (sent.drop place) := by
        rw [List.drop_eq_getElem_cons inside, here]
        exact rest.cons_cons event
      exact lead.trans (List.drop_sublist_drop_left sent (later place List.mem_cons_self))

theorem Placed.sublist (placed : Placed first feed places) :
    feed.got.Sublist (feed.sent.drop first) :=
  sublist_of_places placed.increasing (fun place known => (placed.within place known).1) placed.got

theorem Placed.emits (placed : Placed first feed places) (event : Event) :
    Placed first { feed with sent := feed.sent ++ [event] } places where
  increasing := placed.increasing
  within := placed.within
  got := by
    refine placed.got.trans (List.map_congr_left fun place known => ?_)
    have inside : place < feed.sent.length :=
      Nat.lt_of_lt_of_le (placed.within place known).2 placed.reached.2
    exact (List.getElem?_append_left inside).symm
  reached := ⟨placed.reached.1, Nat.le_trans placed.reached.2 (by simp)⟩

theorem Placed.gets {event : Event} (placed : Placed first feed places)
    (found : feed.sent[feed.next]? = some event) :
    Placed first { feed with next := feed.next + 1, got := feed.got ++ [event] }
      (places ++ [feed.next]) where
  increasing := by
    refine List.pairwise_append.2 ⟨placed.increasing, List.pairwise_singleton _ _, ?_⟩
    intro place known other last
    rw [List.mem_singleton.1 last]
    exact (placed.within place known).2
  within := by
    intro place known
    rcases List.mem_append.1 known with old | new
    · exact (placed.within place old).imp_right Nat.lt_succ_of_lt
    · rw [List.mem_singleton.1 new]
      exact ⟨placed.reached.1, Nat.lt_succ_self _⟩
  got := by simp [placed.got, found]
  reached := by
    have inside : feed.next < feed.sent.length := (List.getElem?_eq_some_iff.1 found).1
    exact ⟨Nat.le_succ_of_le placed.reached.1, inside⟩

theorem Placed.skips (placed : Placed first feed places)
    (behind : feed.next < Bus.oldest feed.sent) :
    Placed first { feed with next := Bus.oldest feed.sent } places := by
  have forward : feed.next ≤ Bus.oldest feed.sent := Nat.le_of_lt behind
  refine ⟨placed.increasing, fun place known => ?_, placed.got, ?_⟩
  · exact (placed.within place known).imp_right fun passed => Nat.lt_of_lt_of_le passed forward
  · exact ⟨Nat.le_trans placed.reached.1 forward, Bus.oldest_le feed.sent⟩

/-- Whatever happens, the observer gets the next event or none, and skips what is overwritten. -/
theorem Step.placed (step : feed.Step after) (placed : Placed first feed places) :
    ∃ more, Placed first after (places ++ more) ∧
      ∀ place, feed.next ≤ place → place < after.next → place ∉ more → feed.Skips after place := by
  cases step with
  | rests =>
    refine ⟨[], ?_, fun place low high => absurd low (Nat.not_le.2 high)⟩
    rwa [List.append_nil]
  | emits event =>
    refine ⟨[], ?_, fun place low high => absurd low (Nat.not_le.2 high)⟩
    rw [List.append_nil]
    exact placed.emits event
  | gets found =>
    refine ⟨[feed.next], placed.gets found, fun place low high other => ?_⟩
    have same : place = feed.next := Nat.le_antisymm (Nat.le_of_lt_succ high) low
    exact absurd (List.mem_singleton.2 same) other
  | skips behind =>
    refine ⟨[], ?_, fun place low high _ => ⟨low, Nat.add_lt_of_lt_sub high, rfl⟩⟩
    rw [List.append_nil]
    exact placed.skips behind

end Steps

section Moves

variable {Move : Type} {feeds : List Move → Feed Event} {moves : List Move} {places : List Nat}

theorem Delivered.start (got : (feeds []).got = [])
    (within : (feeds []).next ≤ (feeds []).sent.length) : Delivered feeds [] [] where
  placed := ⟨.nil, List.forall_mem_nil _, by rw [got]; rfl, Nat.le_refl _, within⟩
  missed := by
    intro place low high
    omega

theorem Delivered.step {move : Move} (delivered : Delivered feeds moves places)
    (step : (feeds moves).Step (feeds (moves ++ [move]))) :
    ∃ places, Delivered feeds (moves ++ [move]) places := by
  obtain ⟨more, placed, skipped⟩ := step.placed delivered.placed
  refine ⟨places ++ more, placed, fun place low high missing => ?_⟩
  obtain ⟨old, new⟩ := not_or.1 (mt List.mem_append.2 missing)
  -- An event was passed by an earlier move, which skipped it, or it is passed by this one.
  rcases Nat.lt_or_ge place (feeds moves).next with passed | ahead
  · obtain ⟨early, other, late, rfl, skips⟩ := delivered.missed place low passed old
    exact ⟨early, other, late ++ [move], by simp, skips⟩
  · exact ⟨moves, move, [], rfl, skipped place ahead high new⟩

/-- The steps of a history deliver what they do not skip. -/
theorem exists_delivered (got : (feeds []).got = [])
    (within : (feeds []).next ≤ (feeds []).sent.length)
    (steps : ∀ moves move, (feeds moves).Step (feeds (moves ++ [move]))) (moves : List Move) :
    ∃ places, Delivered feeds moves places := by
  induction moves using List.reverseRecOn with
  | nil => exact ⟨[], .start got within⟩
  | append_singleton moves move inductionHypothesis =>
    obtain ⟨places, delivered⟩ := inductionHypothesis
    exact delivered.step (steps moves move)

end Moves

end Feed

namespace Service

/-- The buses that a stream observes. -/
inductive Channel where
  | runs
  | installs
  deriving DecidableEq

namespace Channel

/-- The events of a bus. -/
abbrev Event : Channel → Type
  | runs => RunEvent
  | installs => InstallEvent

/-- The message with an event. -/
def frame : (channel : Channel) → channel.Event → Frame
  | runs => Frame.run
  | installs => Frame.install

/-- The event in a message, when it is one of the bus. -/
def event? : (channel : Channel) → Frame → Option channel.Event
  | runs, .run event => some event
  | installs, .install event => some event
  | _, _ => none

/-- What a stream does to get the next event. -/
def pick : Channel → Pick
  | runs => .run
  | installs => .install

/-- What was sent on a bus. -/
def sent (runs : List RunEvent) (installs : List InstallEvent) :
    (channel : Channel) → List channel.Event
  | .runs => runs
  | .installs => installs

/-- A message with an event of a bus is no message of another one. -/
theorem filterMap_frame (channel : Channel) (events : List channel.Event) :
    (events.map channel.frame).filterMap channel.event? = events := by
  cases channel <;>
  · rw [List.filterMap_map]
    exact List.filterMap_some

theorem filterMap_frame_of_ne {channel other : Channel} (different : channel ≠ other)
    (events : List other.Event) : (events.map other.frame).filterMap channel.event? = [] := by
  rw [List.filterMap_map]
  cases channel <;> cases other
  · exact absurd rfl different
  · exact List.filterMap_eq_nil_iff.2 fun _ _ => rfl
  · exact List.filterMap_eq_nil_iff.2 fun _ _ => rfl
  · exact absurd rfl different

end Channel

namespace Stream

/-- The place of the next event of a bus. -/
def next (stream : Stream) : Channel → Nat
  | .runs => stream.nextRun
  | .installs => stream.nextInstall

/-- Goes on to a place of a bus, and sends events. -/
def advance (stream : Stream) :
    (channel : Channel) → Nat → List channel.Event → Stream
  | .runs, nextRun, events =>
    { stream with nextRun, frames := stream.frames ++ events.map Frame.run }
  | .installs, nextInstall, events =>
    { stream with nextInstall, frames := stream.frames ++ events.map Frame.install }

/-- The stream as an observer of a bus. -/
def feed (stream : Stream) (channel : Channel) (sent : List channel.Event) : Feed channel.Event :=
  ⟨sent, stream.next channel, stream.frames.filterMap channel.event?⟩

section Advances

variable (stream : Stream) (channel : Channel) (place : Nat) (events : List channel.Event)

@[simp] theorem isOpen_advance : (stream.advance channel place events).isOpen = stream.isOpen := by
  cases channel <;> rfl

@[simp] theorem next_advance : (stream.advance channel place events).next channel = place := by
  cases channel <;> rfl

@[simp] theorem frames_advance :
    (stream.advance channel place events).frames = stream.frames ++ events.map channel.frame := by
  cases channel <;> rfl

theorem next_advance_of_ne {channel other : Channel} (different : channel ≠ other)
    (events : List other.Event) :
    (stream.advance other place events).next channel = stream.next channel := by
  cases channel <;> cases other <;> first | rfl | exact absurd rfl different

theorem advance_next : stream.advance channel (stream.next channel) [] = stream := by
  cases channel <;> simp [advance, next]

theorem advance_advance (later : Nat) (others : List channel.Event) :
    (stream.advance channel place events).advance channel later others =
      stream.advance channel later (events ++ others) := by
  cases channel <;> simp [advance]

theorem feed_advance (sent : List channel.Event) :
    (stream.advance channel place events).feed channel sent =
      ⟨sent, place, stream.frames.filterMap channel.event? ++ events⟩ := by
  rw [feed, next_advance, frames_advance, List.filterMap_append, Channel.filterMap_frame]

theorem feed_advance_of_ne {channel other : Channel} (different : channel ≠ other)
    (events : List other.Event) (sent : List channel.Event) :
    (stream.advance other place events).feed channel sent = stream.feed channel sent := by
  rw [feed, next_advance_of_ne _ _ different, frames_advance, List.filterMap_append,
    Channel.filterMap_frame_of_ne different, List.append_nil, feed]

end Advances

section Taking

variable {stream : Stream} {runs : List RunEvent} {installs : List InstallEvent}

theorem takeRun_eq_advance (stream : Stream) (runs : List RunEvent) :
    stream.takeRun runs =
      stream.advance .runs (Bus.receive runs stream.nextRun).2
        (Bus.receive runs stream.nextRun).1.events := by
  unfold takeRun
  obtain ⟨reception, place⟩ := Bus.receive runs stream.nextRun
  cases reception <;> simp [advance, send, Reception.events]

theorem takeInstall_eq_advance (stream : Stream) (installs : List InstallEvent) :
    stream.takeInstall installs =
      stream.advance .installs (Bus.receive installs stream.nextInstall).2
        (Bus.receive installs stream.nextInstall).1.events := by
  unfold takeInstall
  obtain ⟨reception, place⟩ := Bus.receive installs stream.nextInstall
  cases reception <;> simp [advance, send, Reception.events]

/-- An open stream asks a bus for the next event, and sends it. -/
theorem take_pick (channel : Channel) (isOpen : stream.isOpen = true) :
    stream.take runs installs channel.pick =
      stream.advance channel
        (Bus.receive (Channel.sent runs installs channel) (stream.next channel)).2
        (Bus.receive (Channel.sent runs installs channel) (stream.next channel)).1.events := by
  have closed : ¬(!stream.isOpen) = true := by simp [isOpen]
  rw [take.eq_def, if_neg closed]
  cases channel with
  | runs => exact takeRun_eq_advance stream runs
  | installs => exact takeInstall_eq_advance stream installs

/-- A stream that takes the next event of a bus skips some, sends one or rests. -/
theorem take_cases (channel : Channel) (isOpen : stream.isOpen = true)
    {sent : List channel.Event} (same : Channel.sent runs installs channel = sent) :
    (stream.next channel < Bus.oldest sent ∧
        stream.take runs installs channel.pick =
          stream.advance channel (Bus.oldest sent) []) ∨
      (∃ event, sent[stream.next channel]? = some event ∧
        stream.take runs installs channel.pick =
          stream.advance channel (stream.next channel + 1) [event]) ∨
      (sent.length ≤ stream.next channel ∧ stream.take runs installs channel.pick = stream) := by
  rw [take_pick channel isOpen, same]
  rcases Bus.receive_cases sent (stream.next channel) with
    ⟨behind, received⟩ | ⟨event, found, received⟩ | ⟨upToDate, received⟩ <;> rw [received]
  · exact .inl ⟨behind, rfl⟩
  · exact .inr (.inl ⟨event, found, rfl⟩)
  · exact .inr (.inr ⟨upToDate, stream.advance_next channel⟩)

/-- Whatever is taken, the stream observes each bus as every observer does. -/
theorem step_feed (stream : Stream) (channel : Channel) (pick : Pick) :
    (stream.feed channel (Channel.sent runs installs channel)).Step
      ((stream.take runs installs pick).feed channel (Channel.sent runs installs channel)) := by
  cases isOpen : stream.isOpen with
  | false =>
    rw [take_closed isOpen]
    exact .rests
  | true =>
    have picked (other : Channel) :
        (stream.feed channel (Channel.sent runs installs channel)).Step
          ((stream.take runs installs other.pick).feed channel
            (Channel.sent runs installs channel)) := by
      -- A pick of another bus leaves alone what the observer of this one sees.
      by_cases same : channel = other
      · subst same
        rcases take_cases channel isOpen rfl with
          ⟨behind, taken⟩ | ⟨event, found, taken⟩ | ⟨-, taken⟩ <;> rw [taken]
        · rw [feed_advance, List.append_nil]
          exact .skips behind
        · rw [feed_advance]
          exact .gets found
        · exact .rests
      · rw [take_pick other isOpen, feed_advance_of_ne _ _ same]
        exact .rests
    cases pick with
    | run => exact picked .runs
    | install => exact picked .installs
    | incoming what =>
      rw [take.eq_def]
      cases what <;> simp only [isOpen] <;> exact .rests
    | unsent =>
      rw [take.eq_def]
      simp only [isOpen]
      exact .rests

end Taking

section CatchingUp

variable {stream : Stream} {runs : List RunEvent} {installs : List InstallEvent} {count : Nat}

theorem takeAll_cons (stream : Stream) (pick : Pick) (picks : List Pick) :
    stream.takeAll runs installs (pick :: picks) =
      (stream.take runs installs pick).takeAll runs installs picks := rfl

theorem takeAll_append (stream : Stream) (early late : List Pick) :
    stream.takeAll runs installs (early ++ late) =
      (stream.takeAll runs installs early).takeAll runs installs late :=
  List.foldl_append

/-- A stream that takes the events of a bus again and again gets all that the bus holds. -/
theorem takeAll_of_held (channel : Channel) (isOpen : stream.isOpen = true)
    {sent : List channel.Event} (same : Channel.sent runs installs channel = sent)
    (within : stream.next channel ≤ sent.length) (held : Bus.oldest sent ≤ stream.next channel)
    (enough : sent.length ≤ stream.next channel + count) :
    stream.takeAll runs installs (List.replicate count channel.pick) =
      stream.advance channel sent.length (sent.drop (stream.next channel)) := by
  induction count generalizing stream with
  | zero =>
    have reached : sent.length = stream.next channel := Nat.le_antisymm enough within
    have nothing : sent.drop (stream.next channel) = [] := List.drop_eq_nil_of_le enough
    rw [nothing, reached, advance_next]
    rfl
  | succ count inductionHypothesis =>
    rw [List.replicate_succ, takeAll_cons]
    rcases take_cases channel isOpen same with
      ⟨behind, -⟩ | ⟨event, found, taken⟩ | ⟨upToDate, taken⟩
    · exact absurd held (Nat.not_le.2 behind)
    · obtain ⟨inside, here⟩ := List.getElem?_eq_some_iff.1 found
      rw [taken, inductionHypothesis (by simpa using isOpen)
          (by rw [next_advance]; exact inside)
          (by simpa using Nat.le_succ_of_le held) (by simp only [next_advance]; omega),
        next_advance, advance_advance, List.singleton_append, ← here,
        ← List.drop_eq_getElem_cons inside]
    · -- The picks that are left find nothing, either.
      rw [taken, inductionHypothesis isOpen within held (by omega)]

/-- Enough picks bring a stream up to date, even if it has to skip what is overwritten first. -/
theorem takeAll_replicate (channel : Channel) (isOpen : stream.isOpen = true)
    {sent : List channel.Event} (same : Channel.sent runs installs channel = sent)
    (within : stream.next channel ≤ sent.length) (enough : eventCapacity < count) :
    stream.takeAll runs installs (List.replicate count channel.pick) =
      stream.advance channel sent.length
        (sent.drop (max (stream.next channel) (Bus.oldest sent))) := by
  have near := Bus.length_le_oldest_add sent
  rcases Nat.lt_or_ge (stream.next channel) (Bus.oldest sent) with behind | held
  · obtain ⟨rest, rfl⟩ : ∃ rest, count = rest + 1 := ⟨count - 1, by omega⟩
    have skips : stream.take runs installs channel.pick =
        stream.advance channel (Bus.oldest sent) [] := by
      rw [take_pick channel isOpen, same, Bus.receive_of_lt behind]
      rfl
    rw [List.replicate_succ, takeAll_cons, skips,
      takeAll_of_held channel (by simpa using isOpen) same (by simpa using Bus.oldest_le sent)
        (by simp) (by simp only [next_advance]; omega),
      next_advance, advance_advance, List.nil_append, Nat.max_eq_right (Nat.le_of_lt behind)]
  · rw [takeAll_of_held channel isOpen same within held (by omega), Nat.max_eq_left held]

/-- A stream that keeps up takes the events of the installs, and then those of the runs. -/
theorem follow_eq_takeAll (isOpen : stream.isOpen = true)
    (runsWithin : stream.nextRun ≤ runs.length) (runsHeld : Bus.oldest runs ≤ stream.nextRun)
    (installsWithin : stream.nextInstall ≤ installs.length)
    (installsHeld : Bus.oldest installs ≤ stream.nextInstall) :
    stream.follow runs installs =
      stream.takeAll runs installs
        (List.replicate (installs.length - stream.nextInstall) .install ++
          List.replicate (runs.length - stream.nextRun) .run) := by
  have allInstalls :
      installs.length ≤ stream.nextInstall + (installs.length - stream.nextInstall) := by omega
  have allRuns : runs.length ≤ stream.nextRun + (runs.length - stream.nextRun) := by omega
  have first : stream.takeAll runs installs
        (List.replicate (installs.length - stream.nextInstall) .install) =
      stream.advance .installs installs.length (installs.drop stream.nextInstall) :=
    takeAll_of_held .installs isOpen rfl installsWithin installsHeld allInstalls
  rw [takeAll_append, first]
  exact (@takeAll_of_held (stream.advance .installs _ _) runs installs _ .runs isOpen runs rfl
    runsWithin runsHeld allRuns).symm

end CatchingUp

end Stream

/-- The buses, and the stream of a client. -/
structure Broadcast where
  runs : List RunEvent
  installs : List InstallEvent
  stream : Stream

/-- What happens on the buses and in the stream of a client. -/
inductive Move where
  | emit (channel : Channel) (event : channel.Event)
  | take (pick : Pick)

namespace Move

/-- The event that is sent on a bus, if there is one. -/
def event? : (channel : Channel) → Move → Option channel.Event
  | .runs, .emit .runs event => some event
  | .installs, .emit .installs event => some event
  | _, _ => none

/-- The client goes away, or a message cannot be sent. -/
def Ends (move : Move) : Prop := move = .take (.incoming .over) ∨ move = .take .unsent

end Move

namespace Broadcast

/-- A client begins to observe the buses. -/
def opened (runs : List RunEvent) (installs : List InstallEvent) : Broadcast :=
  ⟨runs, installs, .start runs installs⟩

/-- All that was sent on a bus. -/
def sent (broadcast : Broadcast) (channel : Channel) : List channel.Event :=
  Channel.sent broadcast.runs broadcast.installs channel

/-- The stream as an observer of a bus. -/
def feed (broadcast : Broadcast) (channel : Channel) : Feed channel.Event :=
  broadcast.stream.feed channel (broadcast.sent channel)

/-- One thing happens. -/
def move (broadcast : Broadcast) : Move → Broadcast
  | .emit .runs event => { broadcast with runs := broadcast.runs ++ [event] }
  | .emit .installs event => { broadcast with installs := broadcast.installs ++ [event] }
  | .take pick =>
    { broadcast with stream := broadcast.stream.take broadcast.runs broadcast.installs pick }

/-- Things happen one after the other. -/
def after (broadcast : Broadcast) (moves : List Move) : Broadcast :=
  moves.foldl move broadcast

/-- What a client was sent while the events of the buses and its own messages came in any order. -/
structure Streams (start : Broadcast) (moves : List Move) : Prop where
  /-- The messages hold events that were sent since, in their order and once each. -/
  sublist : ∀ channel : Channel,
    ((start.after moves).stream.frames.filterMap channel.event?).Sublist
      (moves.filterMap (Move.event? channel))
  /-- The events that are missing were overwritten when the stream was too far behind. -/
  delivered : ∀ channel : Channel, ∃ places,
    Feed.Delivered (fun moves => (start.after moves).feed channel) moves places
  isOpen_iff : (start.after moves).stream.isOpen = true ↔ ∀ move ∈ moves, ¬move.Ends
  /-- Nothing is sent when the client has gone away. -/
  ended : ∀ early late, moves = early ++ late → (∃ move ∈ early, move.Ends) →
    (start.after moves).stream = (start.after early).stream
  /-- As long as the client is there, it can get all that a bus holds. -/
  resumes : ∀ channel : Channel, (∀ move ∈ moves, ¬move.Ends) → ∀ count > eventCapacity,
    (start.after (moves ++ List.replicate count (.take channel.pick))).stream.frames =
      (start.after moves).stream.frames ++
        (((start.after moves).sent channel).drop
          (max ((start.after moves).stream.next channel)
            (Bus.oldest ((start.after moves).sent channel)))).map channel.frame

section Moves

variable (broadcast : Broadcast)

theorem step_feed (channel : Channel) (move : Move) :
    (broadcast.feed channel).Step ((broadcast.move move).feed channel) := by
  cases move with
  | emit other event =>
    cases channel <;> cases other <;> first | exact .rests | exact .emits event
  | take pick => exact broadcast.stream.step_feed channel pick

theorem sent_move (channel : Channel) (move : Move) :
    (broadcast.move move).sent channel =
      broadcast.sent channel ++ (Move.event? channel move).toList := by
  cases move with
  | emit other event =>
    cases channel <;> cases other <;> first | rfl | exact (List.append_nil _).symm
  | take pick => cases channel <;> exact (List.append_nil _).symm

theorem isOpen_move_iff (move : Move) :
    (broadcast.move move).stream.isOpen = true ↔
      broadcast.stream.isOpen = true ∧ ¬move.Ends := by
  cases move with
  | emit channel event =>
    have stays : ¬(Move.emit channel event).Ends := by simp [Move.Ends]
    cases channel <;> exact (and_iff_left stays).symm
  | take pick =>
    cases isOpen : broadcast.stream.isOpen with
    | false => simp [move, Stream.take_closed isOpen, isOpen]
    | true =>
      have stays (channel : Channel) :
          (broadcast.move (.take channel.pick)).stream.isOpen = true := by
        rw [move, Stream.take_pick channel isOpen, Stream.isOpen_advance, isOpen]
      cases pick with
      | run => simpa [Move.Ends, Channel.pick] using stays .runs
      | install => simpa [Move.Ends, Channel.pick] using stays .installs
      | incoming what => cases what <;> simp [move, Stream.take, Move.Ends, isOpen]
      | unsent => simp [move, Stream.take, Move.Ends, isOpen]

theorem after_append (early late : List Move) :
    broadcast.after (early ++ late) = (broadcast.after early).after late :=
  List.foldl_append

theorem sent_after (channel : Channel) (moves : List Move) :
    (broadcast.after moves).sent channel =
      broadcast.sent channel ++ moves.filterMap (Move.event? channel) := by
  induction moves generalizing broadcast with
  | nil => exact (List.append_nil _).symm
  | cons move moves inductionHypothesis =>
    rw [after, List.foldl_cons, ← after, inductionHypothesis, sent_move, List.append_assoc,
      List.filterMap_cons]
    cases Move.event? channel move <;> rfl

theorem isOpen_after_iff (moves : List Move) :
    (broadcast.after moves).stream.isOpen = true ↔
      broadcast.stream.isOpen = true ∧ ∀ move ∈ moves, ¬move.Ends := by
  induction moves generalizing broadcast with
  | nil => simp [after]
  | cons move moves inductionHypothesis =>
    rw [after, List.foldl_cons, ← after, inductionHypothesis, isOpen_move_iff, and_assoc,
      List.forall_mem_cons]

theorem stream_after_of_closed {broadcast : Broadcast} (closed : broadcast.stream.isOpen = false)
    (moves : List Move) : (broadcast.after moves).stream = broadcast.stream := by
  induction moves generalizing broadcast with
  | nil => rfl
  | cons move moves inductionHypothesis =>
    have same : (broadcast.move move).stream = broadcast.stream := by
      cases move with
      | emit channel event => cases channel <;> rfl
      | take pick => exact Stream.take_closed closed _ _ pick
    rw [after, List.foldl_cons, ← after, inductionHypothesis (same ▸ closed), same]

theorem after_takes (picks : List Pick) :
    broadcast.after (picks.map .take) =
      { broadcast with
        stream := broadcast.stream.takeAll broadcast.runs broadcast.installs picks } := by
  induction picks generalizing broadcast with
  | nil => rfl
  | cons pick picks inductionHypothesis => exact inductionHypothesis _

end Moves

section Results

variable (runs : List RunEvent) (installs : List InstallEvent) (moves : List Move)

theorem exists_delivered (channel : Channel) : ∃ places,
    Feed.Delivered (fun moves => ((opened runs installs).after moves).feed channel) moves
      places := by
  refine Feed.exists_delivered ?_ ?_ (fun early move => ?_) moves
  · rfl
  · cases channel <;> exact Nat.le_refl _
  · rw [after_append]
    exact step_feed _ channel move

/--
Whatever happens on the buses, and in whatever order the stream takes from them, a client is sent
the events since it came in their order, but for those that were overwritten before.
-/
theorem streamed_after : Streams (opened runs installs) moves where
  sublist := by
    intro channel
    obtain ⟨places, delivered⟩ := exists_delivered runs installs moves channel
    have sublist := delivered.placed.sublist
    have since : (((opened runs installs).after moves).sent channel).drop
        ((opened runs installs).feed channel).next = moves.filterMap (Move.event? channel) := by
      rw [sent_after]
      cases channel <;> exact List.drop_left
    exact since ▸ sublist
  delivered := exists_delivered runs installs moves
  isOpen_iff := (isOpen_after_iff _ moves).trans (and_iff_right rfl)
  ended := by
    rintro early late rfl ⟨move, present, ends⟩
    have closed : ((opened runs installs).after early).stream.isOpen = false := by
      rw [Bool.eq_false_iff]
      intro isOpen
      exact ((isOpen_after_iff _ early).1 isOpen).2 move present ends
    rw [after_append, stream_after_of_closed closed]
  resumes := by
    intro channel stays count enough
    obtain ⟨places, delivered⟩ := exists_delivered runs installs moves channel
    have isOpen := (isOpen_after_iff (opened runs installs) moves).2 ⟨rfl, stays⟩
    have caught := Stream.takeAll_replicate channel isOpen rfl delivered.placed.reached.2 enough
    rw [after_append, ← List.map_replicate, after_takes]
    exact (congrArg Stream.frames caught).trans (Stream.frames_advance _ channel _ _)

end Results

end Broadcast

end Service

end StepRunner
