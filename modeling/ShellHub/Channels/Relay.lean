import ShellHub.Channels.Loop
import Mathlib.Data.List.Basic

set_option autoImplicit false

/- The loop as a relay: what it sends on each channel and how it answers what it dequeued, both
   read off the events: the request each one carries, what the other side answered to the
   forwarded copy, and what the `Reply` call returned. -/
namespace ShellHub.Channels

open ShellHub.Session

def Action.sendOf : Action → Option (Source × Request)
  | .send channel req _ => some (channel, req)
  | _ => none

def Source.peer : Source → Source
  | .client => .agent
  | .agent => .client
  | .global => .global

def Turn.sentOn (t : Turn) (channel : Source) : List Request :=
  (t.actions.filterMap Action.sendOf).filterMap fun (ch, req) => if ch = channel then some req else none

def Event.request (source : Source) (e : Event) : Option Request :=
  match e.received with
  | some (src, req) => if src = source then some req else none
  | none => none

def Event.answer : Event → Option Bool
  | .client _ (.ok ok) _ | .agent _ (.ok ok) _ => some ok
  | _ => none

-- Whether the request got past the event's first call: `SendRequest` to the other side, or
-- `sess.KeepAlive` for a keep-alive.
def Event.forwarded : Event → Bool
  | .global (some req) keepAlive _ => !(req.type = keepAliveRequestType && keepAlive.isSome)
  | e => e.answer.isSome

def Event.replyError : Event → Option Error
  | .global _ _ reply | .client _ _ reply | .agent _ _ reply => reply
  | .done => none

-- The part of a turn after the forwarding: no send, and one reply, `ok` or `false`, exactly when
-- the request wants one and the `Reply` call succeeds.
def Answered (req : Request) (ok : Bool) (outcome : Option Error) (actions : List Action) : Prop :=
  actions.filterMap Action.sendOf = [] ∧
    ∃ v, (v = ok ∨ v = false) ∧ actions.filterMap Action.replyOf = if req.wantReply && outcome.isNone then [v] else []

theorem reply_to_answered (req : Request) (ok v : Bool) (outcome : Option Error) (value : v = ok ∨ v = false) :
    Answered req ok outcome (replyTo req v outcome).1 := by
  refine ⟨?_, v, value, ?_⟩ <;> unfold replyTo <;> split <;> (try split) <;> simp_all [Action.sendOf, Action.replyOf]

theorem answered_after_reject (req : Request) (ok : Bool) (outcome err : Option Error) (actions : List Action)
    (answered : Answered req ok outcome actions) : Answered req ok outcome (rejectOn err ++ actions) := by
  unfold rejectOn
  split <;> simpa [Action.sendOf, Action.replyOf] using answered

theorem program_start_answered (b : Broker) (req : Request) (ok : Bool) (reply : Option Error) :
    Answered req ok reply (programStart b req ok reply).2.1 := by
  unfold programStart
  cases b.started <;> cases want : req.wantReply <;> cases reply <;>
    simp [replyTo, want, Answered, Action.sendOf, Action.replyOf]

theorem handle_client_answered (b : Broker) (req : Request) (ok : Bool) (reply : Option Error) :
    Answered req ok reply (handleClient b req ok reply).2.1 := by
  have replied := reply_to_answered req ok ok reply (.inl rfl)
  unfold handleClient
  split
  · exact program_start_answered b req ok reply
  split
  · exact answered_after_reject req ok reply _ _ replied
  split
  · exact answered_after_reject req ok reply _ _ replied
  · exact replied

theorem global_request_handled (b : Broker) (req : Request) (keepAlive reply : Option Error) :
    ((Event.global (some req) keepAlive reply).forwarded = false ∧
        (globalRequest b req keepAlive reply).2.actions = [.keepAlive]) ∨
      ((Event.global (some req) keepAlive reply).forwarded = true ∧
        Answered req false reply (globalRequest b req keepAlive reply).2.actions) := by
  have answered := reply_to_answered req false false reply (.inl rfl)
  unfold globalRequest
  split
  · split
    · exact .inl ⟨by simp [Event.forwarded, *], rfl⟩
    · refine .inr ⟨by simp [Event.forwarded, *], ?_, answered.2⟩
      simpa [Action.sendOf] using answered.1
  · exact .inr ⟨by simp [Event.forwarded, *], answered⟩

theorem step_handles (b : Broker) (e : Event) (src : Source) (req : Request) (received : e.received = some (src, req)) :
    (src = .global ∧ ((e.forwarded = false ∧ (step b e).2.actions = [.keepAlive]) ∨
        (e.forwarded = true ∧ Answered req false e.replyError (step b e).2.actions))) ∨
      (src ≠ .global ∧ ((e.answer = none ∧ (step b e).2.actions = [.send src.peer req none]) ∨
        ∃ ok, e.answer = some ok ∧ ∃ actions, (step b e).2.actions = .send src.peer req (some ok) :: actions ∧
          Answered req ok e.replyError actions)) := by
  rcases e with _ | ⟨_ | req', keepAlive, reply⟩ | ⟨_ | req', sent, reply⟩ | ⟨_ | req', sent, reply⟩
  case global.some =>
    cases received
    exact .inl ⟨rfl, global_request_handled b req keepAlive reply⟩
  case client.some =>
    cases received
    refine .inr ⟨by simp, ?_⟩
    cases sent with
    | error => exact .inl ⟨rfl, rfl⟩
    | ok ok => exact .inr ⟨ok, rfl, _, rfl, handle_client_answered b req ok reply⟩
  case agent.some =>
    cases received
    refine .inr ⟨by simp, ?_⟩
    cases sent with
    | error => exact .inl ⟨rfl, rfl⟩
    | ok ok => exact .inr ⟨ok, rfl, _, rfl, reply_to_answered req ok ok reply (.inl rfl)⟩
  all_goals cases received

theorem answered_replies (req : Request) (ok : Bool) (outcome : Option Error) (actions : List Action)
    (answered : Answered req ok outcome actions) :
    (actions.filterMap Action.replyOf).length ≤ 1 ∧ (req.wantReply = false → actions.filterMap Action.replyOf = []) ∧
      (req.wantReply = true → outcome = none → (actions.filterMap Action.replyOf).length = 1) ∧
      (outcome.isSome = true → actions.filterMap Action.replyOf = []) := by
  obtain ⟨-, v, -, replies⟩ := answered
  rw [replies]
  refine ⟨by split <;> simp, fun quiet => by simp [quiet], fun want sent => by simp [want, sent],
    fun failed => by simp [Option.isSome_iff_ne_none.1 failed]⟩

theorem forwarded_false_ends (e : Event) (src : Source) (req : Request) (received : e.received = some (src, req))
    (dropped : e.forwarded = false) : e.ends = (src = .global) := by
  rcases e with _ | ⟨_ | req', keepAlive, reply⟩ | ⟨_ | req', sent, reply⟩ | ⟨_ | req', sent, reply⟩ <;>
    cases received
  · simpa [Event.forwarded, Event.ends] using dropped
  all_goals cases sent <;> simp_all [Event.forwarded, Event.answer, Event.ends]

theorem reply_failed_ends (e : Event) (src : Source) (req : Request) (received : e.received = some (src, req))
    (want : req.wantReply = true) (forwarded : e.forwarded = true) (failed : e.replyError.isSome = true) :
    e.ends = !(src = .global || req.type = windowChangeRequestType && src = .client) := by
  rcases e with _ | ⟨_ | req', keepAlive, reply⟩ | ⟨_ | req', sent, reply⟩ | ⟨_ | req', sent, reply⟩ <;>
    cases received
  · cases keepAlive <;> simp_all [Event.forwarded, Event.ends]
  all_goals cases sent <;> simp_all [Event.forwarded, Event.answer, Event.ends, Event.replyError]

theorem forwarded_channel (e : Event) (src : Source) (req : Request) (received : e.received = some (src, req))
    (channel : src ≠ .global) : e.forwarded = e.answer.isSome := by
  rcases e with _ | ⟨_ | req', keepAlive, reply⟩ | ⟨_ | req', sent, reply⟩ | ⟨_ | req', sent, reply⟩ <;>
    cases received
  · exact absurd rfl channel
  all_goals rfl

theorem step_replies (b : Broker) (e : Event) (src : Source) (req : Request) (received : e.received = some (src, req)) :
    (step b e).2.replies.length ≤ 1 ∧ (req.wantReply = false → (step b e).2.replies = []) ∧
      (req.wantReply = true → e.forwarded = true → e.replyError = none → (step b e).2.replies.length = 1) ∧
      (e.forwarded = false → (step b e).2.replies = [] ∧ (step b e).2.exits = (src = .global)) ∧
      (req.wantReply = true → e.forwarded = true → e.replyError.isSome = true →
        (step b e).2.replies = [] ∧ (step b e).2.exits = !(src = .global || req.type = windowChangeRequestType && src = .client)) := by
  have exits := step_exits b e
  have dropping := forwarded_false_ends e src req received
  have failing := reply_failed_ends e src req received
  unfold Turn.replies
  rcases step_handles b e src req received with
    ⟨rfl, ⟨dropped, keepAlive⟩ | ⟨forwarded, answered⟩⟩ |
      ⟨channel, ⟨none, dropped⟩ | ⟨ok, answer, actions, sent, answered⟩⟩
  · simp [keepAlive, Action.replyOf, dropped, exits, dropping dropped]
  · obtain ⟨atMostOne, quiet, once, failed⟩ := answered_replies _ _ _ _ answered
    refine ⟨atMostOne, quiet, fun want _ ok => once want ok, by simp [forwarded], fun want _ error => ?_⟩
    exact ⟨failed error, by rw [exits, failing want forwarded error]⟩
  · have notForwarded : e.forwarded = false := by rw [forwarded_channel e src req received channel, none]; rfl
    simp [dropped, Action.replyOf, notForwarded, exits, dropping notForwarded, channel]
  · have forwarded : e.forwarded = true := by rw [forwarded_channel e src req received channel, answer]; rfl
    obtain ⟨atMostOne, quiet, once, failed⟩ := answered_replies _ _ _ _ answered
    simp only [sent, List.filterMap_cons, Action.replyOf, forwarded, Bool.true_eq_false, false_implies, true_and]
    exact ⟨atMostOne, quiet, fun want _ ok => once want ok,
      fun want _ error => ⟨failed error, by rw [exits, failing want forwarded error]⟩⟩

theorem answered_sent_on (req : Request) (ok : Bool) (outcome : Option Error) (actions : List Action)
    (channel : Source) (answered : Answered req ok outcome actions) :
    (actions.filterMap Action.sendOf).filterMap (fun (ch, req) => if ch = channel then some req else none) = [] := by
  rw [answered.1]
  rfl

theorem step_sent_on (b : Broker) (e : Event) (channel : Source) (peer : channel ≠ .global) :
    (step b e).2.sentOn channel = (e.request channel.peer).toList := by
  unfold Turn.sentOn Event.request
  cases received : e.received with
  | none =>
    have idle : (step b e).2.actions = [] := by
      rcases e with _ | ⟨_ | _, _, _⟩ | ⟨_ | _, _, _⟩ | ⟨_ | _, _, _⟩ <;> first | rfl | cases received
    simp [idle]
  | some pair =>
    obtain ⟨src, req⟩ := pair
    have sameSide : (src = channel.peer) = (src.peer = channel) := by
      cases src <;> cases channel <;> simp_all [Source.peer]
    rcases step_handles b e src req received with
      ⟨rfl, ⟨-, keepAlive⟩ | ⟨-, answered⟩⟩ | ⟨-, ⟨-, dropped⟩ | ⟨ok, -, actions, forwarded, answered⟩⟩
    · cases channel <;> simp_all [Action.sendOf, Source.peer]
    · rw [answered_sent_on _ _ _ _ _ answered]
      cases channel <;> simp_all [Source.peer]
    · by_cases side : src.peer = channel <;> simp [dropped, Action.sendOf, sameSide, side]
    · simp only [forwarded, List.filterMap_cons, Action.sendOf]
      rw [answered_sent_on _ _ _ _ _ answered]
      by_cases side : src.peer = channel <;> simp [sameSide, side]

theorem step_reply_value (b : Broker) (e : Event) (src : Source) (req : Request) (received : e.received = some (src, req))
    (channel : src ≠ .global) : ∀ ok ∈ (step b e).2.replies, ok = false ∨ e.answer = some ok := by
  intro ok replied
  unfold Turn.replies at replied
  rcases step_handles b e src req received with
    ⟨global, -⟩ | ⟨-, ⟨-, dropped⟩ | ⟨answer, answered, actions, forwarded, ⟨-, v, value, replies⟩⟩⟩
  · exact absurd global channel
  · simp [dropped, Action.replyOf] at replied
  · simp only [forwarded, List.filterMap_cons, Action.replyOf, replies] at replied
    have same : ok = v := by split at replied <;> simp_all
    rcases value with rfl | rfl
    · exact .inr (by rw [answered, same])
    · exact .inl same

theorem want_reply_answered_once (b : Broker) (es : List Event) :
    ∀ (i : Nat) (e : Event), (dequeued es)[i]? = some e → ∀ src req, e.received = some (src, req) →
      ∃ t, (run b es)[i]? = some t ∧ t.replies.length ≤ 1 ∧ (req.wantReply = false → t.replies = []) ∧
        (req.wantReply = true → e.forwarded = true → e.replyError = none → t.replies.length = 1) ∧
        (e.forwarded = false → t.replies = [] ∧ t.exits = (src = .global)) ∧
        (req.wantReply = true → e.forwarded = true → e.replyError.isSome = true →
          t.replies = [] ∧ t.exits = !(src = .global || req.type = windowChangeRequestType && src = .client)) :=
  fun i e taken src req received => ⟨_, run_getElem? b es i e taken, step_replies _ e src req received⟩

theorem want_reply_answered_once_shell :
    let shell : Request := ⟨shellRequestType, true, []⟩
    let e := Event.client (some shell) (.ok true) none
    ((dequeued [e])[0]? = some e ∧ e.received = some (.client, shell)) ∧
      ∃ t, (run (initial default) [e])[0]? = some t ∧ t.replies.length = 1 :=
  have taken : (dequeued [Event.client (some ⟨shellRequestType, true, []⟩) (.ok true) none])[0]? =
      some (Event.client (some ⟨shellRequestType, true, []⟩) (.ok true) none) := rfl
  have answered := want_reply_answered_once (initial default) _ 0 _ taken .client _ rfl
  ⟨⟨taken, rfl⟩, answered.elim fun t facts => ⟨t, facts.1, facts.2.2.2.1 rfl rfl rfl⟩⟩

theorem forward_failure_leaves_request_unanswered :
    let env : Request := ⟨"env", true, []⟩
    let exec : Request := ⟨execRequestType, true, []⟩
    run (initial default) [.client (some env) (.error "EOF") none, .client (some exec) (.ok true) none] =
      [⟨some (.client, env), [.send .agent env none], false⟩,
        ⟨some (.client, exec), [.send .agent exec (some true), .reply true, .pipe "exec"], false⟩] := by
  decide

theorem relay_forwards_in_order (b : Broker) (es : List Event) :
    (run b es).map Turn.received = (dequeued es).map Event.received ∧
    (run b es).flatMap (fun t => t.sentOn .agent) = (dequeued es).filterMap (Event.request .client) ∧
    (run b es).flatMap (fun t => t.sentOn .client) = (dequeued es).filterMap (Event.request .agent) ∧
    (∀ (i : Nat) (e : Event) req, (dequeued es)[i]? = some e → e.received = some (.global, req) →
      ∃ t, (run b es)[i]? = some t ∧ t.sentOn .agent = [] ∧ t.sentOn .client = []) ∧
    ∀ (i : Nat) (e : Event) src req, (dequeued es)[i]? = some e → e.received = some (src, req) → src ≠ .global →
      ∃ t, (run b es)[i]? = some t ∧ ∀ ok ∈ t.replies, ok = false ∨ e.answer = some ok := by
  have carried : ∀ channel, channel ≠ .global →
      (run b es).flatMap (fun t => t.sentOn channel) = (dequeued es).filterMap (Event.request channel.peer) := by
    intro channel peer
    rw [List.flatMap_def, run_map _ _ (fun b e => step_sent_on b e channel peer), List.filterMap_eq_flatMap_toList,
      List.flatMap_def]
  refine ⟨run_received b es, carried .agent (by simp), carried .client (by simp),
    fun i e req taken received => ⟨_, run_getElem? b es i e taken, ?_⟩,
    fun i e src req taken received channel => ⟨_, run_getElem? b es i e taken, step_reply_value _ e src req received channel⟩⟩
  simp [step_sent_on, Event.request, received, Source.peer]

end ShellHub.Channels
