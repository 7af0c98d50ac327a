import ShellHub.Channels.Loop

set_option autoImplicit false

/- The one-program-per-channel rule of RFC 4254 §6.5 as the loop enforces it with `started`:
   which events start a pipe, which program starts are answered and how, and what the flag
   records over a whole run. -/
namespace ShellHub.Channels

open ShellHub.Session

def Action.isPipe : Action → Bool
  | .pipe _ => true
  | _ => false

def Turn.startsPipe (t : Turn) : Bool := t.actions.any Action.isPipe

def Turn.acceptsProgram (t : Turn) : Bool :=
  match t.received with
  | some (.client, req) => isProgramStart req.type && t.replies.contains true
  | _ => false

-- A client program start that wants a reply, was forwarded, and whose reply went out.
def Event.answersProgram : Event → Bool
  | .client (some req) (.ok _) reply => isProgramStart req.type && req.wantReply && reply.isNone
  | _ => false

theorem reply_to_no_pipe (req : Request) (ok : Bool) (outcome : Option Error) :
    (replyTo req ok outcome).1.any Action.isPipe = false := by
  unfold replyTo
  split <;> (try split) <;> rfl

theorem reject_on_no_pipe (err : Option Error) : (rejectOn err).any Action.isPipe = false := by
  unfold rejectOn
  split <;> rfl

theorem handle_client_other (b : Broker) (req : Request) (ok : Bool) (reply : Option Error)
    (other : isProgramStart req.type = false) :
    (handleClient b req ok reply).1.started = b.started ∧
      (handleClient b req ok reply).2.1.any Action.isPipe = false := by
  rw [handleClient, if_neg (by simp [other])]
  split_ifs <;> simp [ptyRequest, windowChange, otherRequest, reply_to_no_pipe, reject_on_no_pipe]

theorem program_start_facts (b : Broker) (req : Request) (ok : Bool) (reply : Option Error) :
    let result := programStart b req ok reply
    result.1.started = (b.started || req.wantReply && reply.isNone) ∧
      result.2.1.any Action.isPipe = (!b.started && req.wantReply && reply.isNone) ∧
      result.2.1.filterMap Action.replyOf = if req.wantReply && reply.isNone then [ok && !b.started] else [] := by
  cases started : b.started <;> cases want : req.wantReply <;> cases reply <;>
    simp [programStart, replyTo, started, want, Action.isPipe, Action.replyOf]

theorem step_program_start (b : Broker) (req : Request) (ok : Bool) (reply : Option Error)
    (program : isProgramStart req.type = true) :
    step b (.client (some req) (.ok ok) reply) = ((programStart b req ok reply).1,
      ⟨some (.client, req), .send .agent req (some ok) :: (programStart b req ok reply).2.1,
        (programStart b req ok reply).2.2⟩) := by
  simp [step, clientRequest, handleClient, program]

theorem step_program_cases (b : Broker) (e : Event) :
    (∃ req ok reply, isProgramStart req.type = true ∧ e = .client (some req) (.ok ok) reply) ∨
      (step b e).1.started = b.started ∧ (step b e).2.startsPipe = false ∧ (step b e).2.acceptsProgram = false ∧
        e.answersProgram = false := by
  rcases e with _ | ⟨_ | req, keepAlive, reply⟩ | ⟨_ | req, sent, reply⟩ | ⟨_ | req, sent, reply⟩
  case global.some =>
    refine .inr ?_
    simp only [step, globalRequest]
    split <;> (try split) <;> simp [Turn.startsPipe, Turn.acceptsProgram, reply_to_no_pipe, Action.isPipe,
      Event.answersProgram]
  case client.some =>
    cases sent with
    | error => exact .inr ⟨rfl, rfl, by simp [step, clientRequest, Turn.acceptsProgram, Turn.replies, Action.replyOf,
        isProgramStart], rfl⟩
    | ok ok =>
      cases other : isProgramStart req.type
      · obtain ⟨same, noPipe⟩ := handle_client_other b req ok reply other
        exact .inr ⟨by simp [step, clientRequest, same], by simp [step, clientRequest, Turn.startsPipe, Action.isPipe,
          noPipe], by simp [step, clientRequest, Turn.acceptsProgram, other], by simp [Event.answersProgram, other]⟩
      · exact .inl ⟨req, ok, reply, other, rfl⟩
  case agent.some =>
    exact .inr (by cases sent <;> simp [step, agentRequest, Turn.startsPipe, Turn.acceptsProgram, reply_to_no_pipe,
      Action.isPipe, Event.answersProgram])
  all_goals exact .inr ⟨rfl, rfl, rfl, rfl⟩

theorem step_started (b : Broker) (e : Event) : (step b e).1.started = (b.started || e.answersProgram) := by
  rcases step_program_cases b e with ⟨req, ok, reply, program, rfl⟩ | ⟨same, -, -, quiet⟩
  · simp [step_program_start b req ok reply program, (program_start_facts b req ok reply).1, Event.answersProgram,
      program]
  · simp [same, quiet]

theorem step_starts_pipe (b : Broker) (e : Event) : (step b e).2.startsPipe = (!b.started && e.answersProgram) := by
  rcases step_program_cases b e with ⟨req, ok, reply, program, rfl⟩ | ⟨-, quiet, -, none⟩
  · simp only [step_program_start b req ok reply program, Turn.startsPipe, List.any_cons, Action.isPipe,
      (program_start_facts b req ok reply).2.1, Event.answersProgram, program]
    simp [Bool.and_assoc]
  · simp [quiet, none]

theorem final_started (b : Broker) (es : List Event) :
    (final b es).started = (b.started || (dequeued es).any Event.answersProgram) := by
  induction es generalizing b with
  | nil => simp [final, dequeued]
  | cons e es ih =>
    simp only [final, dequeued, step_exits, List.any_cons]
    split <;> simp [ih, step_started, Bool.or_assoc]

theorem started_before (b : Broker) (es : List Event) (i : Nat) (e : Event) (taken : (dequeued es)[i]? = some e) :
    (final b (es.take i)).started = (b.started || ((dequeued es).take i).any Event.answersProgram) := by
  rw [final_started, dequeued_take es i (List.getElem?_eq_some_iff.1 taken).1]

theorem pipe_start_ignores_agent_answer (b : Broker) (es : List Event) :
    (final b es).started = (b.started || (dequeued es).any Event.answersProgram) ∧
    ∀ i e, (dequeued es)[i]? = some e → ∃ t, (run b es)[i]? = some t ∧
      t.startsPipe = (!(b.started || ((dequeued es).take i).any Event.answersProgram) && e.answersProgram) := by
  refine ⟨final_started b es, fun i e taken => ⟨_, run_getElem? b es i e taken, ?_⟩⟩
  rw [step_starts_pipe, started_before b es i e taken]

theorem pipe_started_for_rejected_shell :
    let shell : Request := ⟨shellRequestType, true, []⟩
    run (initial default) [.client (some shell) (.ok false) none] =
      [⟨some (.client, shell), [.send .agent shell (some false), .reply false, .announce, .pipe "shell"], false⟩] := by
  decide

end ShellHub.Channels
