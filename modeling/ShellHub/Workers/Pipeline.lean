import ShellHub.Workers.Heartbeat

set_option autoImplicit false

/- The channels between the asynq handlers and the worker goroutines (`Workers.Init`,
   `registerHeartbeat`, `registerSessionCleanup`, `HeartBeatWorker.Init`, `CleanUpWorker.Init`),
   and the API server's `time.AfterFunc(10*time.Second, func() { close(wrks.Channels["heartbeat"]) })`.
   Each channel is `make(chan Task)`: unbuffered, so a handler's `tasks <- Task{..}` blocks until
   the worker's `for task := range tasks` takes the task, and the handler then returns nil. Blocked
   senders are taken first come, first served (the runtime's send queue). Closing the channel makes
   every blocked and every later send panic, and ends the range loop when the worker comes back to
   it. A run is any interleaving of handler calls, receptions, loop bodies and the timer. -/
namespace ShellHub.Workers

-- A handler blocked in `tasks <- Task{..}`.
structure Sender where
  call : Nat
  task : Task

inductive Phase where
  | receiving
  | processing (call : Nat) (task : Task)
  | exited

def Phase.inflight : Phase → List Nat
  | .processing call _ => [call]
  | _ => []

/-- One channel with its worker. `handled` lists every handler call's task, in call order;
`returned` and `panicked` are the calls whose handler returned nil or panicked, in order; `stored`
the store calls the loop body made (`DeviceSetOnline`, `SessionDeleteRecordFrameByDate`). -/
structure Pipe (Call : Type) where
  closed : Bool
  senders : List Sender
  worker : Phase
  handled : List Task
  returned : List Nat
  panicked : List Nat
  stored : List Call

inductive Event where
  | handle (task : Task)
  | receive
  | loop (now : Int)
  | close

def Event.task? : Event → Option Task
  | .handle task => some task
  | _ => none

-- After `go worker.Init(w.Channels[id])`.
def Pipe.initial {Call : Type} : Pipe Call := ⟨false, [], .receiving, [], [], [], []⟩

section Steps

variable {Call : Type} (body : Int → Task → Call)

def Pipe.step (p : Pipe Call) : Event → Pipe Call
  | .handle task =>
      if p.closed then { p with handled := p.handled ++ [task], panicked := p.panicked ++ [p.handled.length] }
      else { p with handled := p.handled ++ [task], senders := p.senders ++ [⟨p.handled.length, task⟩] }
  | .receive =>
      match p.worker, p.senders with
      | .receiving, s :: rest =>
          { p with worker := .processing s.call s.task, senders := rest, returned := p.returned ++ [s.call] }
      | _, _ => p
  | .loop now =>
      match p.worker with
      | .processing _ task =>
          { p with worker := if p.closed then .exited else .receiving, stored := p.stored ++ [body now task] }
      | _ => p
  | .close =>
      -- the timer fires once; closing a closed channel would panic, and nothing else closes it
      if p.closed then p
      else
        { p with closed := true, senders := [], panicked := p.panicked ++ p.senders.map Sender.call,
                 worker := match p.worker with
                   | .receiving => .exited
                   | worker => worker }

def Pipe.run (p : Pipe Call) (es : List Event) : Pipe Call := es.foldl (Pipe.step body) p

theorem Pipe.run_cons (p : Pipe Call) (e : Event) (es : List Event) :
    Pipe.run body p (e :: es) = Pipe.run body (p.step body e) es := rfl

-- The invariant of every run from `Pipe.initial`.
structure Pipe.Sound (p : Pipe Call) : Prop where
  calls : p.returned ++ p.senders.map Sender.call ++ p.panicked = List.range p.handled.length
  returned : p.returned = List.range p.stored.length ++ p.worker.inflight
  senderTasks : ∀ s ∈ p.senders, p.handled[s.call]? = some s.task
  inflightTask : ∀ call task, p.worker = .processing call task → p.handled[call]? = some task
  outputs : ∃ nows : List Int, nows.length = p.stored.length ∧
    p.stored = List.zipWith body nows (p.handled.take p.stored.length)
  opened : p.closed = false → p.panicked = [] ∧ p.worker ≠ .exited
  shut : p.closed = true → p.senders = [] ∧ p.worker ≠ .receiving

theorem range_append_cons_head {k n x : Nat} {l : List Nat} (h : List.range k ++ x :: l = List.range n) :
    x = k := by
  have bound : k < n := by
    have lengths := congrArg List.length h
    simp only [List.length_append, List.length_range, List.length_cons] at lengths
    omega
  have lookup := congrArg (fun l => l[k]?) h
  simp only [List.getElem?_append_right (List.length_range k).le, List.length_range, Nat.sub_self,
    List.getElem?_range bound] at lookup
  simpa using lookup

theorem Pipe.initial_sound : (Pipe.initial : Pipe Call).Sound body where
  calls := rfl
  returned := rfl
  senderTasks := by simp [Pipe.initial]
  inflightTask := by simp [Pipe.initial]
  outputs := ⟨[], rfl, rfl⟩
  opened := fun _ => ⟨rfl, nofun⟩
  shut := by simp [Pipe.initial]

section Sound

variable {body} {p : Pipe Call} (sound : p.Sound body)
include sound

theorem Pipe.Sound.stored_le : p.stored.length ≤ p.handled.length := by
  have total := congrArg List.length sound.calls
  rw [sound.returned] at total
  simp only [List.length_append, List.length_range, List.length_map] at total
  omega

theorem Pipe.Sound.lt_of_mem {c : Nat} (mem : c ∈ p.returned ++ p.senders.map Sender.call ++ p.panicked) :
    c < p.handled.length := by
  rw [sound.calls] at mem
  exact List.mem_range.1 mem

theorem Pipe.Sound.sender_lt {s : Sender} (mem : s ∈ p.senders) : s.call < p.handled.length :=
  sound.lt_of_mem (List.mem_append_left _ (List.mem_append_right _ (List.mem_map_of_mem _ mem)))

theorem Pipe.Sound.inflight_eq {call : Nat} {task : Task} (working : p.worker = .processing call task) :
    call = p.stored.length ∧ p.handled[call]? = some task := by
  have calls := sound.calls
  rw [sound.returned, working] at calls
  simp only [Phase.inflight, List.append_assoc, List.singleton_append] at calls
  exact ⟨range_append_cons_head calls, sound.inflightTask call task working⟩

theorem Pipe.Sound.inflight_lt {call : Nat} {task : Task} (working : p.worker = .processing call task) :
    call < p.handled.length :=
  sound.lt_of_mem (List.mem_append_left _ (List.mem_append_left _ (by
    rw [sound.returned, working]
    simp [Phase.inflight])))

theorem Pipe.Sound.handle_sound (task : Task) : (p.step body (.handle task)).Sound body := by
  have extend : ∀ c, c < p.handled.length → (p.handled ++ [task])[c]? = p.handled[c]? :=
    fun c lt => List.getElem?_append_left lt
  have prefixTake : (p.handled ++ [task]).take p.stored.length = p.handled.take p.stored.length :=
    List.take_append_of_le_length (sound.stored_le)
  cases closed : p.closed
  · simp only [Pipe.step, closed, Bool.false_eq_true, if_false]
    obtain ⟨noPanic, _⟩ := sound.opened closed
    refine ⟨?_, sound.returned, ?_, ?_, ?_, fun _ => sound.opened closed, nofun⟩
    · have calls := sound.calls
      simp only [noPanic, List.append_nil] at calls ⊢
      simp [List.range_succ, ← calls]
    · intro s mem
      rcases List.mem_append.1 mem with old | new
      · rw [extend _ (sound.sender_lt old), sound.senderTasks s old]
      · simp [List.mem_singleton.1 new]
    · intro call task' working
      rw [extend _ (sound.inflight_lt working), sound.inflightTask call task' working]
    · simpa only [prefixTake] using sound.outputs
  · simp only [Pipe.step, closed, if_true]
    obtain ⟨noSenders, _⟩ := sound.shut closed
    refine ⟨?_, sound.returned, by simp [noSenders], ?_, ?_, nofun, fun _ => sound.shut closed⟩
    · have calls := sound.calls
      simp only [noSenders, List.map_nil, List.append_nil] at calls ⊢
      simp [List.range_succ, ← calls]
    · intro call task' working
      rw [extend _ (sound.inflight_lt working), sound.inflightTask call task' working]
    · simpa only [prefixTake] using sound.outputs

theorem Pipe.Sound.receive_sound : (p.step body .receive).Sound body := by
  cases working : p.worker with
  | processing | exited => simpa only [Pipe.step, working] using sound
  | receiving =>
    cases waiting : p.senders with
    | nil => simpa only [Pipe.step, working, waiting] using sound
    | cons first rest =>
      simp only [Pipe.step, working, waiting]
      have calls := sound.calls
      have returned := sound.returned
      rw [working] at returned
      rw [waiting, returned] at calls
      simp only [Phase.inflight, List.append_nil, List.map_cons, List.append_assoc, List.cons_append] at calls
      have next := range_append_cons_head calls
      refine ⟨?_, ?_, ?_, ?_, sound.outputs, fun _ => ⟨(sound.opened ‹_›).1, nofun⟩, ?_⟩
      · simpa [returned, List.append_assoc] using calls
      · simp [returned, next, Phase.inflight]
      · exact fun s mem => sound.senderTasks s (by simp [waiting, mem])
      · rintro call task ⟨⟩
        exact sound.senderTasks first (by simp [waiting])
      · intro closed
        simp [(sound.shut closed).1] at waiting

theorem Pipe.Sound.loop_sound (now : Int) : (p.step body (.loop now)).Sound body := by
  cases working : p.worker with
  | receiving | exited => simpa only [Pipe.step, working] using sound
  | processing call task =>
    simp only [Pipe.step, working]
    obtain ⟨rfl, taken⟩ := sound.inflight_eq working
    have returned : p.returned = List.range (p.stored.length + 1) := by
      rw [sound.returned, working, List.range_succ]
      rfl
    have idle : (if p.closed = true then Phase.exited else Phase.receiving).inflight = [] := by
      split <;> rfl
    refine ⟨sound.calls, by simp [returned, idle], sound.senderTasks, ?_, ?_, ?_, ?_⟩
    · intro call' task' working'
      split at working' <;> cases working'
    · obtain ⟨nows, lengths, stored⟩ := sound.outputs
      refine ⟨nows ++ [now], by simp [lengths], ?_⟩
      show p.stored ++ [body now task] = List.zipWith body (nows ++ [now]) (p.handled.take (p.stored ++ [body now task]).length)
      rw [List.length_append, List.length_singleton, List.take_succ, taken, Option.toList_some,
        List.zipWith_append _ _ _ _ _ (by simp [lengths, sound.stored_le]), ← stored]
      rfl
    · intro opened
      dsimp only at opened ⊢
      simp [opened, (sound.opened opened).1]
    · intro closed
      dsimp only at closed ⊢
      simp [closed, (sound.shut closed).1]

theorem Pipe.Sound.close_sound : (p.step body .close).Sound body := by
  cases closed : p.closed
  · simp only [Pipe.step, closed, Bool.false_eq_true, if_false]
    obtain ⟨noPanic, running⟩ := sound.opened closed
    have keeps : ∀ w : Phase, (match w with | .receiving => Phase.exited | w => w).inflight = w.inflight := by
      intro w
      cases w <;> rfl
    refine ⟨?_, by simpa [keeps] using sound.returned, by simp, ?_, sound.outputs, nofun, fun _ => ⟨rfl, ?_⟩⟩
    · simpa [noPanic] using sound.calls
    · intro call task working
      apply sound.inflightTask
      cases w : p.worker <;> simp_all
    · cases w : p.worker <;> simp_all
  · simpa only [Pipe.step, closed, if_true] using sound

theorem Pipe.Sound.closed_step (closed : p.closed = true) (e : Event) :
    (p.step body e).closed = true ∧ (p.step body e).returned = p.returned ∧ p.stored <+: (p.step body e).stored ∧
      (p.step body e).panicked = p.panicked ++ List.range' p.handled.length e.task?.toList.length := by
  cases e with
  | handle task =>
    rw [Pipe.step, if_pos closed]
    exact ⟨closed, rfl, List.prefix_refl _, rfl⟩
  | receive =>
    have unchanged : p.step body .receive = p := by
      cases working : p.worker <;> simp [Pipe.step, working, (sound.shut closed).1]
    rw [unchanged]
    exact ⟨closed, rfl, List.prefix_refl _, by simp [Event.task?]⟩
  | loop now =>
    cases working : p.worker with
    | processing call task =>
      rw [Pipe.step, working]
      exact ⟨closed, rfl, List.prefix_append _ _, by simp [Event.task?]⟩
    | receiving | exited =>
      rw [Pipe.step, working]
      exact ⟨closed, rfl, List.prefix_refl _, by simp [Event.task?]⟩
  | close =>
    rw [Pipe.step, if_pos closed]
    exact ⟨closed, rfl, List.prefix_refl _, by simp [Event.task?]⟩

theorem Pipe.Sound.step_sound (e : Event) : (p.step body e).Sound body := by
  cases e with
  | handle task => exact sound.handle_sound task
  | receive => exact sound.receive_sound
  | loop now => exact sound.loop_sound now
  | close => exact sound.close_sound

end Sound

theorem Pipe.run_sound (p : Pipe Call) (es : List Event) (sound : p.Sound body) : (p.run body es).Sound body := by
  induction es generalizing p with
  | nil => exact sound
  | cons e es ih => exact Pipe.run_cons body p e es ▸ ih _ (sound.step_sound e)

theorem filter_map_task_cons (e : Event) (es : List Event) :
    (e :: es).filterMap Event.task? = e.task?.toList ++ es.filterMap Event.task? := by
  cases e <;> rfl

theorem Pipe.step_handled (p : Pipe Call) (e : Event) : (p.step body e).handled = p.handled ++ e.task?.toList := by
  cases e with
  | handle task => simp only [Pipe.step]; split <;> rfl
  | receive | loop _ | close => simp only [Pipe.step, Event.task?, Option.toList, List.append_nil]; split <;> rfl

theorem Pipe.run_handled (p : Pipe Call) (es : List Event) :
    (p.run body es).handled = p.handled ++ es.filterMap Event.task? := by
  induction es generalizing p with
  | nil => simp [Pipe.run]
  | cons e es ih => rw [Pipe.run_cons, ih, Pipe.step_handled, filter_map_task_cons, List.append_assoc]

theorem Pipe.closed_run (p : Pipe Call) (es : List Event) (sound : p.Sound body) (closed : p.closed = true) :
    (p.run body es).closed = true ∧ (p.run body es).returned = p.returned ∧ p.stored <+: (p.run body es).stored ∧
      (p.run body es).panicked = p.panicked ++ List.range' p.handled.length (es.filterMap Event.task?).length := by
  induction es generalizing p with
  | nil => exact ⟨closed, rfl, List.prefix_refl _, by simp [Pipe.run]⟩
  | cons e es ih =>
    obtain ⟨closed', returned', stored', panicked'⟩ := sound.closed_step closed e
    obtain ⟨closedRun, returnedRun, storedRun, panickedRun⟩ := ih (p.step body e) (sound.step_sound e) closed'
    refine ⟨closedRun, returnedRun.trans returned', stored'.trans storedRun, ?_⟩
    rw [Pipe.run_cons, panickedRun, panicked', Pipe.step_handled, List.append_assoc, List.length_append,
      List.range'_append_1, filter_map_task_cons, List.length_append, Nat.add_comm]

theorem Pipe.step_close_closed (p : Pipe Call) : (p.step body .close).closed = true := by
  cases closed : p.closed <;> simp [Pipe.step, closed]

theorem Pipe.step_closed (p : Pipe Call) (e : Event) : (p.step body e).closed = true ↔ p.closed = true ∨ e = .close := by
  cases e with
  | close => simp [Pipe.step_close_closed]
  | handle _ | receive | loop _ => simp only [Pipe.step]; split <;> simp

theorem Pipe.run_closed (p : Pipe Call) (es : List Event) :
    (p.run body es).closed = true ↔ p.closed = true ∨ Event.close ∈ es := by
  induction es generalizing p with
  | nil => simp [Pipe.run]
  | cons e es ih => rw [Pipe.run_cons, ih, Pipe.step_closed, List.mem_cons, or_assoc, @eq_comm _ e]

theorem Pipe.run_initial_closed (es : List Event) :
    (Pipe.run body (Pipe.initial : Pipe Call) es).closed = true ↔ Event.close ∈ es := by
  simp [Pipe.run_closed, Pipe.initial]

theorem Pipe.run_initial_panicked (es : List Event) (noClose : Event.close ∉ es) :
    (Pipe.run body (Pipe.initial : Pipe Call) es).panicked = [] :=
  ((Pipe.run_sound body _ es (Pipe.initial_sound body)).opened
    (Bool.eq_false_iff.2 fun closed => noClose ((Pipe.run_initial_closed body es).1 closed))).1

theorem Pipe.mem_step_stored (p : Pipe Call) (e : Event) {x : Call} (mem : x ∈ (p.step body e).stored) :
    x ∈ p.stored ∨ ∃ now task, e = .loop now ∧ x = body now task := by
  cases e with
  | loop now =>
    simp only [Pipe.step] at mem
    split at mem
    · rcases List.mem_append.1 mem with old | new
      · exact .inl old
      · exact .inr ⟨now, _, rfl, List.mem_singleton.1 new⟩
    · exact .inl mem
  | handle _ | receive | close => simp only [Pipe.step] at mem; split at mem <;> exact .inl mem

theorem Pipe.mem_run_stored (p : Pipe Call) (es : List Event) {x : Call} (mem : x ∈ (p.run body es).stored) :
    x ∈ p.stored ∨ ∃ now task, Event.loop now ∈ es ∧ x = body now task := by
  induction es generalizing p with
  | nil => exact .inl mem
  | cons e es ih =>
    rcases ih (p.step body e) mem with old | ⟨now, task, loop, rfl⟩
    · rcases Pipe.mem_step_stored body p e old with older | ⟨now, task, rfl, rfl⟩
      · exact .inl older
      · exact .inr ⟨now, task, List.mem_cons_self _ _, rfl⟩
    · exact .inr ⟨now, task, List.mem_cons_of_mem _ loop, rfl⟩

end Steps

-- `HeartBeatWorker.Init`'s loop body: the devices of one task, handed to `DeviceSetOnline`.
def heartbeatBody (_ : Int) (task : Task) : List ConnectedDevice := (scanLines task.payload).filterMap parseHeartbeat

-- The loop body of `CleanUpWorker.Init`: `SessionDeleteRecordFrameByDate` with
-- `time.Now().UTC().AddDate(0, 0, w.SessionRecordCleanupRetention*(-1))`, in Unix seconds (a UTC day is 86400 s).
def cleanUpBody (retention : Int) (now : Int) (_ : Task) : Int := now - retention * 86400

-- `registerSessionCleanup`: with a retention below one day neither the handler nor the schedule is
-- installed, so asynq never calls a cleanup handler.
def registerSessionCleanup (retention : Int) : Bool := !(retention < 1)

theorem zip_with_heartbeat_body (nows : List Int) (tasks : List Task) (enough : tasks.length ≤ nows.length) :
    List.zipWith heartbeatBody nows tasks = heartBeatWorkerInit tasks := by
  induction tasks generalizing nows with
  | nil => simp [heartBeatWorkerInit]
  | cons task tasks ih =>
    cases nows with
    | nil => simp at enough
    | cons now nows =>
      simp only [List.zipWith_cons_cons, heartBeatWorkerInit, List.map_cons, List.cons.injEq]
      exact ⟨rfl, ih nows (by simpa using enough)⟩

theorem Pipe.Sound.heartbeat_stored {p : Pipe (List ConnectedDevice)} (sound : p.Sound heartbeatBody) :
    p.stored = heartBeatWorkerInit (p.handled.take p.stored.length) := by
  obtain ⟨nows, lengths, stored⟩ := sound.outputs
  conv_lhs => rw [stored]
  rw [zip_with_heartbeat_body nows _ (by rw [lengths]; exact List.length_take_le _ _)]

theorem heartbeat_pipeline_accounts_every_call (es : List Event) :
    let p := Pipe.run heartbeatBody Pipe.initial es
    p.handled = es.filterMap Event.task? ∧ (p.closed = true ↔ Event.close ∈ es) ∧
      p.returned ++ p.senders.map Sender.call ++ p.panicked = List.range (es.filterMap Event.task?).length ∧
      p.returned = List.range p.stored.length ++ p.worker.inflight ∧
      p.stored = heartBeatWorkerInit ((es.filterMap Event.task?).take p.stored.length) ∧
      (Event.close ∉ es → p.panicked = []) := by
  intro p
  have sound : p.Sound heartbeatBody := Pipe.run_sound heartbeatBody _ es (Pipe.initial_sound heartbeatBody)
  have handled : p.handled = es.filterMap Event.task? := Pipe.run_handled heartbeatBody _ es
  rw [← handled]
  exact ⟨rfl, Pipe.run_initial_closed _ es, sound.calls, sound.returned, sound.heartbeat_stored,
    Pipe.run_initial_panicked _ es⟩

theorem heartbeat_pipeline_dead_after_close (es es' : List Event) :
    let p := Pipe.run heartbeatBody Pipe.initial (es ++ [.close])
    let q := Pipe.run heartbeatBody p es'
    q.returned = p.returned ∧ q.senders = [] ∧ q.worker ≠ .receiving ∧
      p.stored <+: q.stored ∧ q.stored.length ≤ p.stored.length + p.worker.inflight.length ∧
      q.handled = p.handled ++ es'.filterMap Event.task? ∧
      q.panicked = p.panicked ++ List.range' p.handled.length (es'.filterMap Event.task?).length := by
  intro p q
  have sound : p.Sound heartbeatBody := Pipe.run_sound heartbeatBody _ _ (Pipe.initial_sound heartbeatBody)
  have closed : p.closed = true := (Pipe.run_initial_closed heartbeatBody _).2 (by simp)
  have soundAfter : q.Sound heartbeatBody := Pipe.run_sound heartbeatBody p es' sound
  obtain ⟨closedAfter, returned, stored, panicked⟩ := Pipe.closed_run heartbeatBody p es' sound closed
  have counted := congrArg List.length soundAfter.returned
  rw [returned, sound.returned] at counted
  simp only [List.length_append, List.length_range] at counted
  exact ⟨returned, (soundAfter.shut closedAfter).1, (soundAfter.shut closedAfter).2, stored, by omega,
    Pipe.run_handled heartbeatBody p es', panicked⟩

theorem clean_up_pipeline_deletes_only_old_records (retention : Int) (es : List Event)
    (routed : ∀ task, Event.handle task ∈ es → registerSessionCleanup retention = true) :
    let p := Pipe.run (cleanUpBody retention) Pipe.initial es
    p.stored.length ≤ (es.filterMap Event.task?).length ∧ (retention < 1 → p.stored = []) ∧
      ∀ cutoff ∈ p.stored, ∃ now : Int, Event.loop now ∈ es ∧ cutoff = now - retention * 86400 ∧
        cutoff ≤ now - 86400 := by
  intro p
  have bound : p.stored.length ≤ (es.filterMap Event.task?).length := by
    have stored := (Pipe.run_sound _ _ es (Pipe.initial_sound (cleanUpBody retention))).stored_le
    rwa [Pipe.run_handled] at stored
  have idle : retention < 1 → p.stored = [] := fun disabled => by
    have noTasks : es.filterMap Event.task? = [] := by
      rw [List.filterMap_eq_nil_iff]
      intro e mem
      cases e with
      | handle task => simpa [registerSessionCleanup, disabled] using routed task mem
      | receive | loop _ | close => rfl
    rwa [noTasks, List.length_nil, Nat.le_zero, List.length_eq_zero] at bound
  refine ⟨bound, idle, fun cutoff mem => ?_⟩
  by_cases disabled : retention < 1
  · simp [idle disabled] at mem
  · rcases Pipe.mem_run_stored _ _ es mem with initial | ⟨now, _, loop, rfl⟩
    · simp [Pipe.initial] at initial
    · exact ⟨now, loop, rfl, by simp only [cleanUpBody]; omega⟩

theorem clean_up_pipeline_deletes_only_old_records_after_one_call :
    let es := [Event.handle ⟨[]⟩, .receive, .loop 1000000]
    (∀ task, Event.handle task ∈ es → registerSessionCleanup 30 = true) ∧
      let p := Pipe.run (cleanUpBody 30) Pipe.initial es
      p.stored.length ≤ (es.filterMap Event.task?).length ∧ ((30 : Int) < 1 → p.stored = []) ∧
        ∀ cutoff ∈ p.stored, ∃ now : Int, Event.loop now ∈ es ∧ cutoff = now - 30 * 86400 ∧
          cutoff ≤ now - 86400 :=
  ⟨fun _ _ => by decide, clean_up_pipeline_deletes_only_old_records 30 _ fun _ _ => by decide⟩

end ShellHub.Workers
