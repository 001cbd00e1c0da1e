import Mathlib.Logic.Basic
import StepRunner.Rehearsal.Bridge

/-!
This file follows a session through commands that are answered, given up or cut short.
Whatever the bridge writes, each command gets its own reply or none.
-/

namespace StepRunner.Bridge

section Replies

/-- No line replies to the command with a number. -/
def Silent (id : Nat) (lines : List String) : Prop :=
  ∀ line ∈ lines, ∀ reply ∈ Reply.ofLine? line, reply.id ≠ id

/-- The last line replies to the command with a number, and no line before does. -/
def EndsWithReply (id : Nat) (lines : List String) (reply : Reply) : Prop :=
  ∃ before line, lines = before ++ [line] ∧ Silent id before ∧
    Reply.ofLine? line = some reply ∧ reply.id = id

/-- What a command returns for the reply to it. -/
def Reply.result (reply : Reply) : Except SessionError (Option Json) :=
  if reply.ok then .ok reply.data else .error (.action (reply.error.getD "action failed"))

variable {id : Nat} {lines rest : List String} {line : String} {reply : Reply}

theorem Reply.mapError_outcome (reply : Reply) :
    reply.outcome.mapError SessionError.action = reply.result := by
  unfold Reply.outcome Reply.result
  split <;> rfl

theorem silent_nil : Silent id [] := by
  simp [Silent]

theorem silent_cons :
    Silent id (line :: lines) ↔
      (∀ reply ∈ Reply.ofLine? line, reply.id ≠ id) ∧ Silent id lines := by
  simp [Silent]

theorem silent_append : Silent id (lines ++ rest) ↔ Silent id lines ∧ Silent id rest := by
  simp only [Silent, List.mem_append, or_imp, forall_and]

theorem EndsWithReply.append (ends : EndsWithReply id rest reply) (silent : Silent id lines) :
    EndsWithReply id (lines ++ rest) reply := by
  obtain ⟨before, line, rfl, quiet, read, own⟩ := ends
  exact ⟨lines ++ before, line, (List.append_assoc ..).symm, silent_append.2 ⟨silent, quiet⟩,
    read, own⟩

/-- A line that does not reply to a command is passed over. -/
theorem readReply?_cons_of_silent (silent : ∀ reply ∈ Reply.ofLine? line, reply.id ≠ id) :
    readReply? id (line :: lines) = readReply? id lines := by
  rw [readReply?]
  split
  · next reply read => rw [if_neg (silent reply read)]
  · rfl

theorem readReply?_of_silent (silent : Silent id lines) : readReply? id lines = (none, []) := by
  induction lines with
  | nil => rfl
  | cons line lines inductionHypothesis =>
    obtain ⟨first, others⟩ := silent_cons.1 silent
    rw [readReply?_cons_of_silent first, inductionHypothesis others]

theorem readReply?_of_reply (ends : EndsWithReply id lines reply) :
    readReply? id (lines ++ rest) = (some reply.outcome, rest) := by
  obtain ⟨before, line, rfl, silent, read, own⟩ := ends
  induction before with
  | nil =>
    simp only [List.nil_append, List.cons_append, readReply?, read]
    rw [if_pos own]
  | cons first others inductionHypothesis =>
    obtain ⟨passed, silent⟩ := silent_cons.1 silent
    rw [List.cons_append, List.cons_append, readReply?_cons_of_silent passed]
    exact inductionHypothesis silent

/-- Lines hold a first reply to a command, or none of them replies to it. -/
theorem silent_or_endsWithReply (id : Nat) (lines : List String) :
    Silent id lines ∨
      ∃ taken reply rest, lines = taken ++ rest ∧ EndsWithReply id taken reply := by
  induction lines with
  | nil => exact .inl silent_nil
  | cons line lines inductionHypothesis =>
    by_cases silent : ∀ reply ∈ Reply.ofLine? line, reply.id ≠ id
    · rcases inductionHypothesis with others | ⟨taken, reply, rest, rfl, ends⟩
      · exact .inl (silent_cons.2 ⟨silent, others⟩)
      · have alone : Silent id [line] := silent_cons.2 ⟨silent, silent_nil⟩
        exact .inr ⟨line :: taken, reply, rest, rfl, ends.append alone⟩
    · simp only [not_forall, not_not] at silent
      obtain ⟨reply, read, own⟩ := silent
      exact .inr ⟨[line], reply, lines, rfl, [], line, rfl, silent_nil, read, own⟩

end Replies

section Conversations

/-- A command that waits for its reply, with the lines that were read for it. -/
structure Waiting where
  request : Request
  read : List String

/-- How a command came to its end. -/
inductive Ending where
  /-- The command was written and came back. -/
  | returned (outcome : Except SessionError (Option Json))
  /-- The command could not be written, so the session is closed. -/
  | unwritten
  /-- Nobody waits for the command any more. -/
  | givenUp

/-- What a command gives to its caller, if the caller still waits. -/
def Ending.outcome? : Ending → Option (Except SessionError (Option Json))
  | returned outcome => some outcome
  | unwritten => some (.error .closed)
  | givenUp => none

/-- A command that is over, with the lines that were read for it. -/
structure Exchange where
  request : Request
  read : List String
  ending : Ending

/-- A session with all that went over it. -/
structure Conversation where
  session : Session
  /-- Everything that the bridge has written. -/
  output : List String
  /-- The bridge writes nothing any more. -/
  ended : Bool
  past : List Exchange
  waiting : Option Waiting

/-- What may happen to a session. -/
inductive Happening where
  /-- A command is issued; its line goes out or not. -/
  | asks (command : Command) (timeout : Duration) (written : Bool)
  /-- The waiting command reads what is there. -/
  | looks
  /-- The waiting command is dropped. -/
  | givesUp
  /-- The bridge writes lines of any kind. -/
  | writes (lines : List String)
  /-- The output of the bridge ends. -/
  | leaves

namespace Conversation

/-- A new session, where some output may be unread since the launch. -/
def fresh (baseUrl : String) (actionTimeout : Duration) (unread : List String) : Conversation where
  session := { baseUrl, actionTimeout, unread }
  output := unread
  ended := false
  past := []
  waiting := none

/-- A command that waited is over. -/
def conclude (conversation : Conversation) (waiting : Waiting) (ending : Ending) : Conversation :=
  { conversation with
    past := conversation.past ++ [⟨waiting.request, waiting.read, ending⟩], waiting := none }

/-- A command reads what is there, up to the reply to it. -/
def look (conversation : Conversation) (waiting : Waiting) : Conversation :=
  let unread := conversation.session.unread
  let (outcome, session) := conversation.session.reply? waiting.request.id
  let taken := unread.take (unread.length - session.unread.length)
  let waiting := { waiting with read := waiting.read ++ taken }
  let conversation := { conversation with session, waiting := some waiting }
  match outcome with
  | some outcome => conversation.conclude waiting (.returned (outcome.mapError .action))
  | none =>
    if conversation.ended then conversation.conclude waiting (.returned (.error .closed))
    else conversation

/-- The next happening; a session serves one command at a time. -/
def happen (conversation : Conversation) : Happening → Conversation
  | .asks command timeout written =>
    match conversation.waiting with
    | some _ => conversation
    | none =>
      let (request, session) := conversation.session.issue command timeout
      let conversation := { conversation with session, waiting := some ⟨request, []⟩ }
      if written then conversation else conversation.conclude ⟨request, []⟩ .unwritten
  | .looks => conversation.waiting.elim conversation conversation.look
  | .givesUp =>
    conversation.waiting.elim conversation fun waiting => conversation.conclude waiting .givenUp
  | .writes lines =>
    if conversation.ended then conversation
    else
      { conversation with
        session := conversation.session.receive lines, output := conversation.output ++ lines }
  | .leaves => { conversation with ended := true }

/-- A session after a history of happenings. -/
def after (conversation : Conversation) (happenings : List Happening) : Conversation :=
  happenings.foldl happen conversation

/-- The numbers of all commands, in the order in which they were issued. -/
def ids (conversation : Conversation) : List Nat :=
  conversation.past.map (·.request.id) ++ conversation.waiting.toList.map (·.request.id)

/-- The lines that were read for the commands, one command after the other. -/
def consumed (conversation : Conversation) : List String :=
  conversation.past.flatMap (·.read) ++ conversation.waiting.toList.flatMap (·.read)

/-- The end of a command follows from the lines that were read for it. -/
inductive Accounts (conversation : Conversation) : Exchange → Prop where
  | answered {request : Request} {read : List String} {reply : Reply}
      (ends : EndsWithReply request.id read reply) :
      Accounts conversation ⟨request, read, .returned reply.result⟩
  | closed {request : Request} {read : List String} (ended : conversation.ended = true)
      (exhausted : conversation.session.unread = []) (silent : Silent request.id read) :
      Accounts conversation ⟨request, read, .returned (.error .closed)⟩
  | unwritten {request : Request} : Accounts conversation ⟨request, [], .unwritten⟩
  | givenUp {request : Request} {read : List String} (silent : Silent request.id read) :
      Accounts conversation ⟨request, read, .givenUp⟩

/-- Every command has a number and lines of its own. -/
structure Orderly (conversation : Conversation) : Prop where
  numbered : conversation.ids = List.range' 1 conversation.ids.length
  next : conversation.session.nextId = conversation.ids.length + 1
  /-- No line is lost or read twice. -/
  read : conversation.consumed ++ conversation.session.unread = conversation.output
  past : ∀ exchange ∈ conversation.past, conversation.Accounts exchange

/-- No line that a waiting command has read replies to it. -/
def Patient (conversation : Conversation) : Prop :=
  ∀ waiting ∈ conversation.waiting, Silent waiting.request.id waiting.read

variable {conversation : Conversation} {waiting : Waiting}

theorem orderly_fresh (baseUrl : String) (actionTimeout : Duration) (unread : List String) :
    (fresh baseUrl actionTimeout unread).Orderly where
  numbered := rfl
  next := rfl
  read := by simp [fresh, consumed]
  past := by simp [fresh]

/-- What was said of a command stays true when output that ended cannot grow again. -/
theorem Accounts.mono {after : Conversation} {exchange : Exchange}
    (accounts : conversation.Accounts exchange)
    (kept : conversation.ended = true → conversation.session.unread = [] →
      after.ended = true ∧ after.session.unread = []) : after.Accounts exchange := by
  cases accounts with
  | answered ends => exact .answered ends
  | closed ended exhausted silent =>
    obtain ⟨ended, exhausted⟩ := kept ended exhausted
    exact .closed ended exhausted silent
  | unwritten => exact .unwritten
  | givenUp silent => exact .givenUp silent

/-- A command that is concluded leaves its number and its lines where they were. -/
theorem Orderly.conclude {ending : Ending} (orderly : conversation.Orderly)
    (waits : conversation.waiting = some waiting)
    (accounts : conversation.Accounts ⟨waiting.request, waiting.read, ending⟩) :
    (conversation.conclude waiting ending).Orderly := by
  have ids : (conversation.conclude waiting ending).ids = conversation.ids := by
    simp [Conversation.conclude, Conversation.ids, waits]
  have consumed : (conversation.conclude waiting ending).consumed = conversation.consumed := by
    simp [Conversation.conclude, Conversation.consumed, waits]
  refine ⟨?_, ?_, ?_, ?_⟩
  · rw [ids]
    exact orderly.numbered
  · rw [ids]
    exact orderly.next
  · rw [consumed]
    exact orderly.read
  · intro exchange present
    rcases List.mem_append.1 present with earlier | last
    · exact (orderly.past exchange earlier).mono fun ended exhausted => ⟨ended, exhausted⟩
    · obtain rfl := List.mem_singleton.1 last
      exact accounts.mono fun ended exhausted => ⟨ended, exhausted⟩

/-- A session from which a waiting command has read some lines. -/
def taking (conversation : Conversation) (waiting : Waiting) (taken rest : List String) :
    Conversation :=
  { conversation with
    session := { conversation.session with unread := rest }
    waiting := some { waiting with read := waiting.read ++ taken } }

/-- Lines that a waiting command reads go from the unread lines to the lines of the command. -/
theorem Orderly.taking {taken rest : List String} (orderly : conversation.Orderly)
    (waits : conversation.waiting = some waiting)
    (unread : conversation.session.unread = taken ++ rest) :
    (conversation.taking waiting taken rest).Orderly := by
  have ids : (conversation.taking waiting taken rest).ids = conversation.ids := by
    simp [Conversation.taking, Conversation.ids, waits]
  refine ⟨?_, ?_, ?_, ?_⟩
  · rw [ids]
    exact orderly.numbered
  · rw [ids]
    exact orderly.next
  · have read := orderly.read
    rw [unread] at read
    simpa [Conversation.taking, Conversation.consumed, waits] using read
  · intro exchange present
    refine (orderly.past exchange present).mono fun ended exhausted => ⟨ended, ?_⟩
    rw [unread] at exhausted
    exact (List.append_eq_nil_iff.1 exhausted).2

/-- A look at lines with the reply to a command reads up to that reply and ends the command. -/
theorem look_of_reply {taken rest : List String} {reply : Reply}
    (unread : conversation.session.unread = taken ++ rest)
    (ends : EndsWithReply waiting.request.id taken reply) :
    conversation.look waiting = (conversation.taking waiting taken rest).conclude
      { waiting with read := waiting.read ++ taken } (.returned reply.result) := by
  simp [look, Session.reply?, unread, readReply?_of_reply ends, taking, reply.mapError_outcome]

/-- A look at lines without the reply to a command reads them all. -/
theorem look_of_silent (silent : Silent waiting.request.id conversation.session.unread) :
    conversation.look waiting =
      let waits := conversation.taking waiting conversation.session.unread []
      if conversation.ended then
        waits.conclude { waiting with read := waiting.read ++ conversation.session.unread }
          (.returned (.error .closed))
      else waits := by
  simp [look, Session.reply?, readReply?_of_silent silent, taking]

/-- A look keeps the commands apart. -/
theorem look_kept (orderly : conversation.Orderly) (patient : conversation.Patient)
    (waits : conversation.waiting = some waiting) :
    (conversation.look waiting).Orderly ∧ (conversation.look waiting).Patient := by
  have quiet := patient waiting waits
  rcases silent_or_endsWithReply waiting.request.id conversation.session.unread with
    silent | ⟨taken, reply, rest, unread, ends⟩
  · have took := orderly.taking waits (List.append_nil _).symm
    have quiet := silent_append.2 ⟨quiet, silent⟩
    rw [look_of_silent silent]
    split
    · next ended => exact ⟨took.conclude rfl (.closed ended rfl quiet), by simp [Patient, conclude]⟩
    · exact ⟨took, by simpa [Patient, taking] using quiet⟩
  · rw [look_of_reply unread ends]
    have took := orderly.taking waits unread
    exact ⟨took.conclude rfl (.answered (ends.append quiet)), by simp [Patient, conclude]⟩

/-- A new command gets the next number. -/
theorem Orderly.asks (orderly : conversation.Orderly) (free : conversation.waiting = none)
    (command : Command) (timeout : Duration) :
    Orderly { conversation with
      session := (conversation.session.issue command timeout).2
      waiting := some ⟨(conversation.session.issue command timeout).1, []⟩ } := by
  have ids : conversation.ids = conversation.past.map (·.request.id) := by simp [ids, free]
  have numbered := orderly.numbered
  have next := orderly.next
  rw [ids] at numbered next
  refine ⟨?_, ?_, ?_, ?_⟩
  · simp only [Conversation.ids, Session.issue, Option.toList_some, List.map_cons, List.map_nil,
      List.length_append, List.length_cons, List.length_nil]
    rw [List.range'_concat, ← numbered, next]
    simp [Nat.add_comm]
  · simp [Conversation.ids, Session.issue, next]
  · simpa [Conversation.consumed, Session.issue, free] using orderly.read
  · intro exchange present
    exact (orderly.past exchange present).mono fun ended exhausted => ⟨ended, exhausted⟩

/-- Whatever happens next keeps the commands apart. -/
theorem happen_kept (orderly : conversation.Orderly) (patient : conversation.Patient)
    (happening : Happening) :
    (conversation.happen happening).Orderly ∧ (conversation.happen happening).Patient := by
  cases happening with
  | asks command timeout written =>
    cases waits : conversation.waiting with
    | some waiting => simpa [happen, waits] using ⟨orderly, patient⟩
    | none =>
      have asked := orderly.asks waits command timeout
      cases written with
      | true =>
        exact ⟨by simpa [happen, waits] using asked, by simp [happen, waits, Patient, silent_nil]⟩
      | false =>
        refine ⟨?_, by simp [happen, waits, Patient, conclude]⟩
        simpa [happen, waits] using asked.conclude rfl .unwritten
  | looks =>
    cases waits : conversation.waiting with
    | none => simpa [happen, waits] using ⟨orderly, patient⟩
    | some waiting => simpa [happen, waits] using look_kept orderly patient waits
  | givesUp =>
    cases waits : conversation.waiting with
    | none => simpa [happen, waits] using ⟨orderly, patient⟩
    | some waiting =>
      have gaveUp := orderly.conclude waits (.givenUp (patient waiting waits))
      exact ⟨by simpa [happen, waits] using gaveUp, by simp [happen, waits, Patient, conclude]⟩
  | writes lines =>
    simp only [happen]
    split
    · exact ⟨orderly, patient⟩
    · next writing =>
      refine ⟨⟨orderly.numbered, orderly.next, ?_, ?_⟩, patient⟩
      · simp only [Session.receive, ← orderly.read]
        exact (List.append_assoc ..).symm
      · intro exchange present
        exact (orderly.past exchange present).mono fun ended => absurd ended writing
  | leaves =>
    refine ⟨⟨orderly.numbered, orderly.next, orderly.read, fun exchange present => ?_⟩, patient⟩
    exact (orderly.past exchange present).mono fun _ exhausted => ⟨rfl, exhausted⟩

/-- Whatever happens keeps the commands apart. -/
theorem after_kept (orderly : conversation.Orderly) (patient : conversation.Patient)
    (happenings : List Happening) :
    (conversation.after happenings).Orderly ∧ (conversation.after happenings).Patient := by
  induction happenings generalizing conversation with
  | nil => exact ⟨orderly, patient⟩
  | cons happening happenings inductionHypothesis =>
    obtain ⟨orderly, patient⟩ := happen_kept orderly patient happening
    exact inductionHypothesis orderly patient

/-- The replies of the bridge find their commands. -/
structure Unmixed (conversation : Conversation) : Prop where
  orderly : conversation.Orderly
  patient : conversation.Patient
  /-- A waiting command returns with the first reply to it and leaves the lines behind it. -/
  answers : ∀ waiting ∈ conversation.waiting, ∀ taken reply rest,
    conversation.session.unread = taken ++ rest → EndsWithReply waiting.request.id taken reply →
      (conversation.happen .looks).past =
          conversation.past ++ [⟨waiting.request, waiting.read ++ taken, .returned reply.result⟩] ∧
        (conversation.happen .looks).waiting = none ∧
        (conversation.happen .looks).session.unread = rest
  /-- Without a reply a command waits, unless the output has ended. -/
  misses : ∀ waiting ∈ conversation.waiting,
    Silent waiting.request.id conversation.session.unread →
      let read := waiting.read ++ conversation.session.unread
      (conversation.happen .looks).session.unread = [] ∧
        if conversation.ended then
          (conversation.happen .looks).past =
              conversation.past ++ [⟨waiting.request, read, .returned (.error .closed)⟩] ∧
            (conversation.happen .looks).waiting = none
        else
          (conversation.happen .looks).past = conversation.past ∧
            (conversation.happen .looks).waiting = some { waiting with read }

/-- The reply to a command that was given up, noise, and the reply to the next command. -/
def sampleLines : List String :=
  ["\x7b\"id\":1,\"ok\":false\x7d", "noise", "\x7b\"id\":2,\"ok\":true\x7d"]

/-- A command is given up, and its reply comes in front of the reply to the next command. -/
def sampleHappenings : List Happening :=
  [.asks (.click "Save" none) .zero true, .givesUp, .asks (.click "Send" none) .zero true, .looks,
    .writes sampleLines, .looks]

end Conversation

end Conversations

end StepRunner.Bridge

namespace StepRunner.Rehearsal.Talk

open Bridge

/-- What happens to a session when the far end is asked for something. -/
def asked (talk : Talk) (command : Command) (timeout : Duration) : List Happening :=
  if talk.far.running then
    let (written, far) := talk.far.react (talk.near.issue command timeout).1
    [.asks command timeout true, .writes written] ++
      if far.running then [.looks] else [.leaves, .looks]
  else [.asks command timeout false]

/-- A question to the far end is a part of the history of its session. -/
theorem ask_eq_after {talk : Talk} {conversation : Conversation} (command : Command)
    (timeout : Duration) (near : conversation.session = talk.near)
    (far : conversation.ended = !talk.far.running) (free : conversation.waiting = none) :
    let next := conversation.after (talk.asked command timeout)
    let (answer, talk) := talk.ask command timeout
    next.session = talk.near ∧ next.ended = !talk.far.running ∧
      answer = if next.waiting.isSome then none
        else next.past.getLast?.bind (·.ending.outcome?) := by
  obtain ⟨session, output, ended, past, waiting⟩ := conversation
  obtain rfl : session = talk.near := near
  obtain rfl : ended = !talk.far.running := far
  obtain rfl : waiting = none := free
  cases running : talk.far.running with
  | false =>
    simp [asked, ask, running, Conversation.after, Conversation.happen, Conversation.conclude,
      Ending.outcome?]
  | true =>
    generalize answers : talk.far.react (talk.near.issue command timeout).1 = answer
    obtain ⟨written, far⟩ := answer
    generalize reads : ((talk.near.issue command timeout).2.receive written).reply?
      (talk.near.issue command timeout).1.id = result
    obtain ⟨outcome, left⟩ := result
    cases stays : far.running <;> cases outcome with
    | none =>
      simp [asked, ask, running, answers, stays, reads, Conversation.after, Conversation.happen,
        Conversation.look, Conversation.conclude, Ending.outcome?]
    | some outcome =>
      cases outcome
      all_goals
        simp [asked, ask, running, answers, stays, reads, Conversation.after, Conversation.happen,
          Conversation.look, Conversation.conclude, Ending.outcome?]
        rfl

end StepRunner.Rehearsal.Talk
