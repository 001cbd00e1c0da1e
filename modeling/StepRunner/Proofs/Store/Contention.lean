import StepRunner.Proofs.Store.Recovery

/-!
This file takes the moves of runs and the recoveries apart into their halves, each of which holds
the store alone.
Any halves may fall between the reading of a run and the writing of the row that was made of it.
-/

namespace StepRunner

/-- Only one state leads to a state along an edge. -/
theorem RunStatus.Edge.source_eq {first second next : RunStatus} (one : Edge first next)
    (other : Edge second next) : first = second := by
  cases one <;> cases other <;> rfl

theorem RunStatus.Edge.ne_queued {before after : RunStatus} (edge : Edge before after) :
    after ≠ .queued := by
  cases edge <;> exact nofun

theorem RunStatus.Edge.queued_of_unended {before after : RunStatus} (edge : Edge before after)
    (unended : after.isTerminal = false) : before = .queued := by
  cases edge <;> first | rfl | cases unended

namespace Store

/-- A move that has read its run, and waits to write the row that it made of it. -/
structure Call where
  seen : Run
  row : Run
  deriving DecidableEq

/-- A write of a run with the move that made it; a recovery names none. -/
structure Update where
  call? : Option Call
  before : Run
  after : Run
  deriving DecidableEq

/-- A store with the moves that wait and the writes of runs that were made. -/
structure Contest where
  store : Store
  calls : List Call := []
  updates : List Update := []

/-- A half of a move or of a recovery. -/
inductive Half where
  | check (now : Int) (id : String) (next : RunStatus) (error : Option String)
  | write (number : Nat)
  | settle (now : Int)
  | resume (now : Int)

/-- What the write of a row makes of a run. -/
def written (row run : Run) : Run :=
  { run with
    status := row.status
    startedAt := row.startedAt
    endedAt := row.endedAt
    error := row.error }

namespace Contest

/-- The contest after a half; a move that fails its check is over. -/
def after (contest : Contest) : Half → Contest
  | .check now id next error =>
    match contest.store.tables.run? id, contest.store.checkMove now id next error with
    | some seen, .ok row => { contest with calls := contest.calls ++ [⟨seen, row⟩] }
    | _, _ => contest
  | .write number =>
    match contest.calls[number]? with
    | none => contest
    | some call =>
      let reached := contest.store.tables.runs.filter fun run => run.id = call.row.id
      { store := contest.store.writeMove call.row
        calls := contest.calls.eraseIdx number
        updates := contest.updates ++
          reached.map fun run => ⟨some call, run, written call.row run⟩ }
  | .settle now => { contest with store := contest.store.recoverResults now }
  | .resume now =>
    let reached := contest.store.tables.runs.filter isOpen
    { contest with
      store := contest.store.recoverRuns now
      updates := contest.updates ++ reached.map fun run => ⟨none, run, interrupted run now⟩ }

/-- The contest after a sequence of halves. -/
def afterAll (contest : Contest) (halves : List Half) : Contest :=
  halves.foldl after contest

/-- The writes of a run. -/
def updatesOf (contest : Contest) (id : String) : List Update :=
  contest.updates.filter fun update => update.before.id = id

end Contest

/-- A write finds its run in the state that its move has read. -/
def Update.Fresh (update : Update) : Prop :=
  ∀ call, update.call? = some call → update.before.status = call.seen.status

/-- The writes of a run are those of a single life. -/
structure Orderly (updates : List Update) : Prop where
  ended_once : updates.countP (fun update => update.after.status.isTerminal) ≤ 1
  stamped_once : updates.countP (fun update => update.after.endedAt ≠ update.before.endedAt) ≤ 1
  stamp_kept : ∀ update ∈ updates, update.before.endedAt.isSome = true →
    update.after.endedAt = update.before.endedAt
  edges : ∀ update ∈ updates, update.call?.isSome = true →
    RunStatus.Edge update.before.status update.after.status

/-- What a move knows of a run: a row that the run has had, from which it goes along an edge. -/
structure Known (run : Run) (updates : List Update) (call : Call) : Prop where
  seen : call.seen = run ∨ ∃ update ∈ updates, call.seen = update.after
  edge : RunStatus.Edge call.seen.status call.row.status
  stamp : call.row.status.isTerminal = false → call.row.endedAt = call.seen.endedAt

/-- The writes of a run lead from one row to another, each from where the last one left it. -/
inductive Trace (run : Run) : List Update → Run → Prop where
  | start : Trace run [] run
  | called {updates : List Update} {row : Run} {call : Call} (trace : Trace run updates row)
      (known : Known run updates call) :
      Trace run (updates ++ [⟨some call, row, written call.row row⟩]) (written call.row row)
  | recovered {updates : List Update} {row : Run} {now : Int} (trace : Trace run updates row)
      (unfinished : isOpen row = true) :
      Trace run (updates ++ [⟨none, row, interrupted row now⟩]) (interrupted row now)

variable {store : Store} {run row : Run} {updates : List Update}

section Traces

theorem Known.mono {call : Call} {more : List Update} (known : Known run updates call) :
    Known run (updates ++ more) call where
  seen := by
    rcases known.seen with first | ⟨update, present, same⟩
    · exact .inl first
    · exact .inr ⟨update, List.mem_append_left _ present, same⟩
  edge := known.edge
  stamp := known.stamp

theorem Trace.id_eq (trace : Trace run updates row) : row.id = run.id := by
  induction trace with
  | start => rfl
  | called _ _ inductionHypothesis => exact inductionHypothesis
  | recovered _ _ inductionHypothesis => exact inductionHypothesis

/-- The row of a run is the first one, or a write has left it. -/
theorem Trace.row_eq (trace : Trace run updates row) :
    row = run ∨ ∃ update ∈ updates, row = update.after := by
  cases trace with
  | start => exact .inl rfl
  | called => exact .inr ⟨_, List.mem_append_right _ (List.mem_singleton_self _), rfl⟩
  | recovered => exact .inr ⟨_, List.mem_append_right _ (List.mem_singleton_self _), rfl⟩

/-- A write by a move goes where its check allowed it to go. -/
theorem Trace.checked (trace : Trace run updates row) {update : Update} (present : update ∈ updates)
    {call : Call} (made : update.call? = some call) :
    RunStatus.Edge call.seen.status update.after.status := by
  induction trace with
  | start => cases present
  | called _ known inductionHypothesis =>
    rcases List.mem_append.1 present with earlier | last
    · exact inductionHypothesis earlier
    · obtain rfl := List.mem_singleton.1 last
      obtain rfl := Option.some.inj made
      exact known.edge
  | recovered _ _ inductionHypothesis =>
    rcases List.mem_append.1 present with earlier | last
    · exact inductionHypothesis earlier
    · obtain rfl := List.mem_singleton.1 last
      cases made

/-- A write by a recovery fails a run that has not ended. -/
theorem Trace.recovers (trace : Trace run updates row) {update : Update}
    (present : update ∈ updates) (made : update.call? = none) :
    update.before.status.isTerminal = false ∧
      ∃ now, update.after = interrupted update.before now := by
  induction trace with
  | start => cases present
  | called _ _ inductionHypothesis =>
    rcases List.mem_append.1 present with earlier | last
    · exact inductionHypothesis earlier
    · obtain rfl := List.mem_singleton.1 last
      cases made
  | @recovered _ _ now _ unfinished inductionHypothesis =>
    rcases List.mem_append.1 present with earlier | last
    · exact inductionHypothesis earlier
    · obtain rfl := List.mem_singleton.1 last
      exact ⟨isOpen_iff.1 unfinished, now, rfl⟩

/-- A write by a move goes along an edge exactly if it finds the state that the move has read. -/
theorem Trace.edge_iff (trace : Trace run updates row) {update : Update}
    (present : update ∈ updates) {call : Call} (made : update.call? = some call) :
    RunStatus.Edge update.before.status update.after.status ↔
      update.before.status = call.seen.status := by
  have checked := trace.checked present made
  constructor
  · exact fun edge => edge.source_eq checked
  · exact fun same => same ▸ checked

/-- What writes that find the states they have read make of a run that carries no end. -/
structure Settled (updates : List Update) (row : Run) : Prop where
  unqueued : ∀ update ∈ updates, update.after.status ≠ .queued
  unended : row.status.isTerminal = false →
    row.endedAt = none ∧ ∀ update ∈ updates, update.after.status.isTerminal = false
  ended_once : updates.countP (fun update => update.after.status.isTerminal) ≤ 1
  stamped : ∀ update ∈ updates, update.after.endedAt ≠ update.before.endedAt →
    update.after.status.isTerminal = true
  kept : ∀ update ∈ updates, update.before.endedAt = none

/-- One more write from a row that has not ended. -/
theorem Settled.append (settled : Settled updates row) (opened : row.status.isTerminal = false)
    {update : Update} (found : update.before = row) (unqueued : update.after.status ≠ .queued)
    (plain : update.after.status.isTerminal = false → update.after.endedAt = row.endedAt) :
    Settled (updates ++ [update]) update.after := by
  obtain ⟨unstamped, earlier⟩ := settled.unended opened
  have none : updates.countP (fun update => update.after.status.isTerminal) = 0 := by
    simpa [List.countP_eq_zero] using earlier
  refine ⟨?_, fun unended => ⟨(plain unended).trans unstamped, ?_⟩, ?_, ?_, ?_⟩
  · exact List.forall_mem_append.2 ⟨settled.unqueued, List.forall_mem_singleton.2 unqueued⟩
  · exact List.forall_mem_append.2 ⟨earlier, List.forall_mem_singleton.2 unended⟩
  · rw [List.countP_append, none, Nat.zero_add]
    exact List.countP_le_length
  · refine List.forall_mem_append.2 ⟨settled.stamped, List.forall_mem_singleton.2 fun stamped => ?_⟩
    by_contra unended
    exact stamped (found ▸ plain (by simpa using unended))
  · exact List.forall_mem_append.2
      ⟨settled.kept, List.forall_mem_singleton.2 (found ▸ unstamped)⟩

/-- Fresh writes take a run through a single life. -/
theorem Trace.settled (trace : Trace run updates row)
    (fresh : ∀ update ∈ updates, update.Fresh)
    (unended : run.status.isTerminal = false → run.endedAt = none) : Settled updates row := by
  -- No write leads back to a queued run, so a move that read one has read the first row.
  induction trace with
  | start =>
    exact {
      unqueued := List.forall_mem_nil _
      unended := fun opened => ⟨unended opened, List.forall_mem_nil _⟩
      ended_once := Nat.zero_le _
      stamped := List.forall_mem_nil _
      kept := List.forall_mem_nil _ }
  | @called updates row call trace known inductionHypothesis =>
    obtain ⟨earlier, last⟩ := List.forall_mem_append.1 fresh
    have settled := inductionHypothesis earlier
    have found : row.status = call.seen.status := List.forall_mem_singleton.1 last call rfl
    have edge := known.edge
    refine settled.append (found ▸ edge.unended) rfl edge.ne_queued fun plain => ?_
    have queued := edge.queued_of_unended plain
    have seen : call.seen = run := by
      rcases known.seen with first | ⟨update, present, same⟩
      · exact first
      · exact absurd (same ▸ queued) (settled.unqueued update present)
    have current : row = run := by
      rcases trace.row_eq with first | ⟨update, present, same⟩
      · exact first
      · exact absurd (same ▸ found.trans queued) (settled.unqueued update present)
    exact (known.stamp plain).trans (seen.trans current.symm ▸ rfl)
  | recovered _ unfinished inductionHypothesis =>
    obtain ⟨earlier, -⟩ := List.forall_mem_append.1 fresh
    refine (inductionHypothesis earlier).append (isOpen_iff.1 unfinished) rfl ?_ fun plain => ?_
    · simp [interrupted]
    · simp [interrupted, RunStatus.isTerminal] at plain

/-- The writes of a run are those of a single life exactly if each finds what its move has read. -/
theorem Trace.orderly_iff (trace : Trace run updates row)
    (unended : run.status.isTerminal = false → run.endedAt = none) :
    Orderly updates ↔ ∀ update ∈ updates, update.Fresh := by
  constructor
  · intro orderly update present call made
    exact (trace.edge_iff present made).1 (orderly.edges update present (made ▸ rfl))
  · intro fresh
    have settled := trace.settled fresh unended
    refine ⟨settled.ended_once, ?_, ?_, ?_⟩
    · refine (List.countP_mono_left fun update present stamped => ?_).trans settled.ended_once
      exact settled.stamped update present (by simpa using stamped)
    · intro update present stamped
      simp [settled.kept update present] at stamped
    · intro update present made
      obtain ⟨call, made⟩ := Option.isSome_iff_exists.1 made
      exact (trace.edge_iff present made).2 (fresh update present call made)

end Traces

section Halves

/-- What is known of a run in the middle of a contest. -/
structure Follows (run : Run) (contest : Contest) : Prop where
  sound : contest.store.tables.Sound
  row : ∃ row ∈ contest.store.tables.runs, Trace run (contest.updatesOf run.id) row
  calls : ∀ call ∈ contest.calls, call.row.id = run.id → Known run (contest.updatesOf run.id) call

theorem Follows.start (sound : store.tables.Sound) (present : run ∈ store.tables.runs) :
    Follows run { store } where
  sound := sound
  row := ⟨run, present, .start⟩
  calls := List.forall_mem_nil _

variable {contest : Contest}

/-- A move that passes its check has read the row of its run. -/
theorem checkMove_eq {now : Int} {id : String} {next : RunStatus} {error : Option String}
    {seen : Run} (found : store.tables.run? id = some seen)
    (checked : store.checkMove now id next error = .ok row) :
    RunStatus.Edge seen.status next ∧ row = moved seen now next error := by
  simp only [checkMove, found] at checked
  split at checked
  · next edge => exact ⟨RunStatus.canMoveTo_iff_edge.1 edge, (Except.ok.inj checked).symm⟩
  · cases checked

theorem Follows.check (follows : Follows run contest) (now : Int) (id : String)
    (next : RunStatus) (error : Option String) :
    Follows run (contest.after (.check now id next error)) := by
  simp only [Contest.after]
  split
  · next seen row found checked =>
    obtain ⟨edge, rfl⟩ := checkMove_eq found checked
    refine ⟨follows.sound, follows.row, fun call waiting own => ?_⟩
    rcases List.mem_append.1 waiting with earlier | last
    · exact follows.calls call earlier own
    · obtain rfl := List.mem_singleton.1 last
      obtain ⟨row, present, trace⟩ := follows.row
      have read := (follows.sound.keyed.run?_eq_some_iff.1 found).1
      obtain rfl : seen = row :=
        Rows.eq_of_key_eq follows.sound.keyed.runs read present (own.trans trace.id_eq.symm)
      refine ⟨trace.row_eq, edge, fun plain => ?_⟩
      have unended : next.isTerminal = false := plain
      simp [moved, unended]
  · exact follows

/-- Among the writes of some runs, those of a stored run are its own write or none. -/
theorem filter_updates {runs : List Run} (unique : (runs.map Run.id).Nodup) (present : row ∈ runs)
    (test : Run → Bool) (make : Run → Update) (found : ∀ run, (make run).before = run) :
    ((runs.filter test).map make).filter (fun update => decide (update.before.id = row.id)) =
      if test row then [make row] else [] := by
  have swapped : (runs.filter test).filter (fun run => decide (run.id = row.id)) =
      (runs.filter fun run => decide (run.id = row.id)).filter test := by
    simp only [List.filter_filter, Bool.and_comm]
  simp only [List.filter_map, Function.comp_def, found]
  rw [swapped, Rows.filter_key_eq unique present]
  by_cases tested : test row <;> simp [tested]

theorem Follows.write (follows : Follows run contest) (number : Nat) :
    Follows run (contest.after (.write number)) := by
  simp only [Contest.after]
  split
  · exact follows
  · next call waiting =>
    obtain ⟨row, present, trace⟩ := follows.row
    have reached := filter_updates follows.sound.keyed.runs present
      (fun run => decide (run.id = call.row.id))
      (fun run => ⟨some call, run, written call.row run⟩) fun _ => rfl
    rw [trace.id_eq] at reached
    have sound : (contest.store.writeMove call.row).tables.Sound :=
      follows.sound.updateRun call.row.id (fun _ => rfl) fun _ => rfl
    refine ⟨sound, ?_, fun other among own => ?_⟩
    · rw [Contest.updatesOf, List.filter_append, reached]
      by_cases own : call.row.id = run.id
      · have known := follows.calls call (List.mem_of_getElem? waiting) own
        have written := trace.called known
        simp only [own, decide_true, if_true]
        refine ⟨_, List.mem_map.2 ⟨row, present, ?_⟩, written⟩
        exact if_pos (trace.id_eq.trans own.symm)
      · simp only [Ne.symm own, decide_false, Bool.false_eq_true, if_false, List.append_nil]
        refine ⟨row, List.mem_map.2 ⟨row, present, ?_⟩, trace⟩
        exact if_neg fun same => own (same.symm.trans trace.id_eq)
    · have known := follows.calls other (List.mem_of_mem_eraseIdx among) own
      rw [Contest.updatesOf, List.filter_append]
      exact known.mono

theorem Follows.settle (follows : Follows run contest) (now : Int) :
    Follows run (contest.after (.settle now)) where
  sound := follows.sound.updateResults _ (fun _ => rfl) fun _ => rfl
  row := follows.row
  calls := follows.calls

theorem Follows.resume (follows : Follows run contest) (now : Int) :
    Follows run (contest.after (.resume now)) := by
  obtain ⟨row, present, trace⟩ := follows.row
  have reached := filter_updates follows.sound.keyed.runs present isOpen
    (fun run => ⟨none, run, interrupted run now⟩) fun _ => rfl
  rw [trace.id_eq] at reached
  have sound : (contest.store.recoverRuns now).tables.Sound := by
    refine follows.sound.mapRuns (fun run => ?_) fun run => ?_
    · split <;> rfl
    · split <;> rfl
  refine ⟨sound, ?_, fun call among own => ?_⟩
  · simp only [Contest.after, Contest.updatesOf, List.filter_append, reached]
    by_cases unfinished : isOpen row = true
    · rw [if_pos unfinished]
      exact ⟨_, List.mem_map.2 ⟨row, present, if_pos unfinished⟩, trace.recovered unfinished⟩
    · rw [if_neg unfinished, List.append_nil]
      exact ⟨row, List.mem_map.2 ⟨row, present, if_neg unfinished⟩, trace⟩
  · have known := follows.calls call among own
    simp only [Contest.after, Contest.updatesOf, List.filter_append]
    exact known.mono

/-- Every half keeps track of a run. -/
theorem Follows.after (follows : Follows run contest) (half : Half) :
    Follows run (contest.after half) := by
  cases half with
  | check now id next error => exact follows.check now id next error
  | write number => exact follows.write number
  | settle now => exact follows.settle now
  | resume now => exact follows.resume now

theorem Follows.afterAll (follows : Follows run contest) (halves : List Half) :
    Follows run (contest.afterAll halves) := by
  induction halves generalizing contest with
  | nil => exact follows
  | cons half halves inductionHypothesis => exact inductionHypothesis (follows.after half)

end Halves

section Whole

/-- A call whose halves follow one another without a break. -/
inductive Whole where
  | move (now : Int) (id : String) (next : RunStatus) (error : Option String)
  | recover (now : Int)

/-- The halves of an unbroken call. -/
def Whole.halves : Whole → List Half
  | .move now id next error => [.check now id next error, .write 0]
  | .recover now => [.settle now, .resume now]

/-- The call of the store that an unbroken call is. -/
def Whole.operation : Whole → Operation
  | .move now id next error => .moveRun now id next error
  | .recover now => .recover now

/-- No move waits, and every write has found the state that its move has read. -/
structure Unbroken (contest : Contest) : Prop where
  sound : contest.store.tables.Sound
  calls : contest.calls = []
  fresh : ∀ update ∈ contest.updates, update.Fresh

variable {contest : Contest}

/-- A check is refused, or its move waits with the row that it has read. -/
theorem after_check (contest : Contest) (now : Int) (id : String) (next : RunStatus)
    (error : Option String) :
    (∃ fault, contest.store.checkMove now id next error = .error fault ∧
      contest.after (.check now id next error) = contest) ∨
    ∃ seen row, contest.store.tables.run? id = some seen ∧
      contest.store.checkMove now id next error = .ok row ∧
      contest.after (.check now id next error) =
        { contest with calls := contest.calls ++ [⟨seen, row⟩] } := by
  cases found : contest.store.tables.run? id with
  | none =>
    have refused : contest.store.checkMove now id next error = .error (.notFound .run id) := by
      simp [checkMove, found]
    exact .inl ⟨_, refused, by simp only [Contest.after, found]⟩
  | some seen =>
    cases checked : contest.store.checkMove now id next error with
    | error fault => exact .inl ⟨fault, rfl, by simp only [Contest.after, found, checked]⟩
    | ok row => exact .inr ⟨seen, row, rfl, rfl, by simp only [Contest.after, found, checked]⟩

/-- The halves of a call one after the other are the call, and its writes are fresh. -/
theorem Unbroken.afterAll_halves (unbroken : Unbroken contest) (whole : Whole) :
    (contest.afterAll whole.halves).store = contest.store.perform whole.operation ∧
      Unbroken (contest.afterAll whole.halves) := by
  have sound := tables_perform unbroken.sound whole.operation
  cases whole with
  | recover now =>
    refine ⟨rfl, sound, unbroken.calls, fun update made => ?_⟩
    rcases List.mem_append.1 made with earlier | last
    · exact unbroken.fresh update earlier
    · obtain ⟨run, -, rfl⟩ := List.mem_map.1 last
      exact fun call made => nomatch made
  | move now id next error =>
    have idle : (contest.calls)[0]? = none := by simp [unbroken.calls]
    rcases after_check contest now id next error with
      ⟨fault, refused, same⟩ | ⟨seen, row, found, checked, waiting⟩
    · have unchanged : contest.afterAll (Whole.move now id next error).halves = contest := by
        simp only [Contest.afterAll, Whole.halves, List.foldl_cons, List.foldl_nil, same]
        simp only [Contest.after, idle]
      have kept : contest.store.perform (.moveRun now id next error) = contest.store := by
        simp [Store.perform, moveRun, refused, bind, Except.bind, Except.map, accepting]
      rw [unchanged]
      exact ⟨kept.symm, unbroken⟩
    · have moved : contest.store.perform (.moveRun now id next error) =
          contest.store.writeMove row := by
        simp [Store.perform, moveRun, checked, bind, Except.bind, pure, Except.pure, Except.map,
          accepting]
      have written : contest.afterAll (Whole.move now id next error).halves =
          { store := contest.store.writeMove row
            updates := contest.updates ++
              (contest.store.tables.runs.filter fun run => run.id = row.id).map
                fun run => ⟨some ⟨seen, row⟩, run, written row run⟩ } := by
        simp only [Contest.afterAll, Whole.halves, List.foldl_cons, List.foldl_nil, waiting]
        simp [Contest.after, unbroken.calls]
      rw [written]
      refine ⟨moved.symm, moved ▸ sound, rfl, fun update made => ?_⟩
      rcases List.mem_append.1 made with earlier | last
      · exact unbroken.fresh update earlier
      · obtain ⟨run, reached, rfl⟩ := List.mem_map.1 last
        obtain ⟨present, same⟩ := List.mem_filter.1 reached
        obtain ⟨-, rfl⟩ := checkMove_eq found checked
        have read := (unbroken.sound.keyed.run?_eq_some_iff.1 found).1
        obtain rfl : run = seen :=
          Rows.eq_of_key_eq unbroken.sound.keyed.runs present read (of_decide_eq_true same)
        intro call made
        obtain rfl := Option.some.inj made
        rfl

/-- Calls without breaks make fresh writes only. -/
theorem Unbroken.afterAll (unbroken : Unbroken contest) (wholes : List Whole) :
    (contest.afterAll (wholes.flatMap Whole.halves)).store =
        contest.store.performAll (wholes.map Whole.operation) ∧
      Unbroken (contest.afterAll (wholes.flatMap Whole.halves)) := by
  induction wholes generalizing contest with
  | nil => exact ⟨rfl, unbroken⟩
  | cons whole wholes inductionHypothesis =>
    obtain ⟨store, first⟩ := unbroken.afterAll_halves whole
    obtain ⟨stores, others⟩ := inductionHypothesis first
    rw [List.flatMap_cons, Contest.afterAll, List.foldl_append]
    exact ⟨stores.trans (by rw [store]; rfl), others⟩

end Whole

section Contests

/-- The writes of a run that halves of calls make from a store on. -/
def Contest.writes (store : Store) (halves : List Half) (id : String) : List Update :=
  (({ store } : Contest).afterAll halves).updatesOf id

/-- What any order of halves makes of a run. -/
structure Contested (store : Store) (run : Run) (halves : List Half) : Prop where
  /-- The writes lead from the run to its row. -/
  traced : ∃ row ∈ (({ store } : Contest).afterAll halves).store.tables.runs,
    Trace run (Contest.writes store halves run.id) row
  checked : ∀ update ∈ Contest.writes store halves run.id, ∀ call, update.call? = some call →
    RunStatus.Edge call.seen.status update.after.status
  recovers : ∀ update ∈ Contest.writes store halves run.id, update.call? = none →
    update.before.status.isTerminal = false ∧ ∃ now, update.after = interrupted update.before now
  edge_iff : ∀ update ∈ Contest.writes store halves run.id, ∀ call, update.call? = some call →
    (RunStatus.Edge update.before.status update.after.status ↔
      update.before.status = call.seen.status)
  orderly_iff : Orderly (Contest.writes store halves run.id) ↔
    ∀ update ∈ Contest.writes store halves run.id, update.Fresh
  /-- Calls that are not broken up leave the run a single life. -/
  whole : ∀ wholes : List Whole, halves = wholes.flatMap Whole.halves →
    Orderly (Contest.writes store halves run.id) ∧
      (({ store } : Contest).afterAll halves).store =
        store.performAll (wholes.map Whole.operation)

/-- A run has a single life exactly if no write of it rests on a row that is out of date. -/
theorem contested (sound : store.tables.Sound) (present : run ∈ store.tables.runs)
    (unended : run.status.isTerminal = false → run.endedAt = none) (halves : List Half) :
    Contested store run halves := by
  have follows := (Follows.start sound present).afterAll halves
  obtain ⟨row, stored, trace⟩ := follows.row
  have orderly := trace.orderly_iff unended
  exact {
    traced := ⟨row, stored, trace⟩
    checked := fun _ among _ made => trace.checked among made
    recovers := fun _ among made => trace.recovers among made
    edge_iff := fun _ among _ made => trace.edge_iff among made
    orderly_iff := orderly
    whole := by
      rintro wholes rfl
      have start : Unbroken { store } := ⟨sound, rfl, List.forall_mem_nil _⟩
      obtain ⟨same, unbroken⟩ := start.afterAll wholes
      refine ⟨orderly.2 fun update among => ?_, same⟩
      exact unbroken.fresh update (List.mem_filter.1 among).1 }

/-- A store with one run that has begun. -/
def sampleContest : Store :=
  let run : Run := ⟨"run", idOf 1, .chromium, .queued, 2, none, none⟩
  ({} : Store).performAll
    [.createProject 0 "Shop", .createTestCase 1 (idOf 0) "Login" [], .insertRun run,
      .moveRun 3 "run" .running none]

/-- Two moves read a run that goes on, and both of them end it. -/
def sampleHalves : List Half :=
  [.check 4 "run" .passed none, .check 5 "run" .failed none, .write 0, .write 0]

theorem contested_sampleContest :
    ∃ run, sampleContest.tables.run? "run" = some run ∧
      Contested sampleContest run sampleHalves := by
  have empty : ({} : Store).tables.Sound := .empty
  have sound : sampleContest.tables.Sound := tables_performAll empty _
  let run : Run := ⟨"run", idOf 1, .chromium, .running, 3, none, none⟩
  have found : sampleContest.tables.run? "run" = some run := by decide +kernel
  have present := (sound.keyed.run?_eq_some_iff.1 found).1
  exact ⟨run, found, contested sound present (fun _ => rfl) sampleHalves⟩

/--
A run ends twice, the end that a recovery wrote is written over, and so is the end that an open run
came with.
-/
theorem not_orderly_sampleHalves :
    ¬Orderly (Contest.writes sampleContest sampleHalves "run") ∧
      ¬Orderly (Contest.writes sampleContest
        [.check 4 "run" .passed none, .settle 5, .resume 5, .write 0] "run") ∧
      ¬Orderly (Contest.writes
        (sampleContest.perform
          (.insertRun ⟨"other", idOf 1, .chromium, .running, 1, some 5, none⟩))
        (Whole.move 6 "other" .passed none).halves "other") := by
  refine ⟨fun orderly => ?_, fun orderly => ?_, fun orderly => ?_⟩
  · exact absurd orderly.ended_once (by decide +kernel)
  · exact absurd orderly.ended_once (by decide +kernel)
  · exact absurd orderly.stamp_kept (by decide +kernel)

end Contests

end Store

end StepRunner
