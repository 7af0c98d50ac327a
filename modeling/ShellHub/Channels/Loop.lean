import ShellHub.Session.Wire

set_option autoImplicit false

/- The multiplex loop of `channels.DefaultSessionHandler` (lines 249 to 424). One iteration of
   `for { select { .. } }` is one `Event`: the case that fired, with what the parties answered
   to the calls the iteration makes (`SendRequest`, `Reply`, `sess.KeepAlive`). A list of events
   is any interleaving of the three request channels with any answers. An iteration yields a
   `Turn`: the request it dequeued, what it did that another party can see, and whether the
   handler returned. Logging is not modelled; `Announce` and `pipe` are recorded as calls.
   `dequeued` and `Event.ends` say from the events alone which of them the loop takes. -/
namespace ShellHub.Channels

open ShellHub.Session

structure Request where
  type : String
  wantReply : Bool
  payload : Bytes
deriving DecidableEq, Repr

def shellRequestType : String := "shell"

def execRequestType : String := "exec"

def subsystemRequestType : String := "subsystem"

def ptyRequestType : String := "pty-req"

def windowChangeRequestType : String := "window-change"

def keepAliveRequestType : String := "keepalive"

inductive Source where
  | global
  | client
  | agent
deriving DecidableEq, Repr

-- A closed channel is a `none` request; `done` is `<-ctx.Done()`.
inductive Event where
  | done
  | global (req : Option Request) (keepAlive : Option Error) (reply : Option Error)
  | client (req : Option Request) (sent : Except Error Bool) (reply : Option Error)
  | agent (req : Option Request) (sent : Except Error Bool) (reply : Option Error)

-- `replyFailed` is a `Reply` call that returned an error: nothing reached the requester.
inductive Action where
  | send (channel : Source) (req : Request) (answer : Option Bool)
  | reply (ok : Bool)
  | replyFailed (ok : Bool)
  | keepAlive
  | announce
  | pipe (type : String)
  | reject (msg : String)
deriving DecidableEq, Repr

structure Turn where
  received : Option (Source × Request)
  actions : List Action
  exits : Bool
deriving DecidableEq, Repr

def Action.replyOf : Action → Option Bool
  | .reply ok => some ok
  | _ => none

def Turn.replies (t : Turn) : List Bool := t.actions.filterMap Action.replyOf

structure Broker where
  started : Bool
  pty : Pty
deriving DecidableEq, Repr

def isProgramStart (type : String) : Bool :=
  type = shellRequestType || type = execRequestType || type = subsystemRequestType

-- `req.Reply(ok, ..)` of x/crypto/ssh sends nothing unless the request wants a reply; the flag is
-- the error the call returned.
def replyTo (req : Request) (ok : Bool) (outcome : Option Error) : List Action × Bool :=
  if req.wantReply then
    match outcome with
    | none => ([.reply ok], false)
    | some _ => ([.replyFailed ok], true)
  else ([], false)

def rejectOn (err : Option Error) : List Action :=
  if err.isSome then [.reject "failed to recover the session dimensions"] else []

-- Lines 302 to 362: the flag is set once a reply to a program start has gone out.
def programStart (b : Broker) (req : Request) (ok : Bool) (reply : Option Error) :
    Broker × List Action × Bool :=
  if !b.started then
    if req.wantReply then
      let (replied, failed) := replyTo req ok reply
      if failed then (b, replied, true)
      else
        ({ b with started := true },
          replied ++ (if req.type = shellRequestType then [.announce] else []) ++ [.pipe req.type], false)
    else (b, [], false)
  else
    let (replied, failed) := replyTo req false reply
    (b, replied, failed)

-- Lines 363 to 379.
def ptyRequest (b : Broker) (req : Request) (ok : Bool) (reply : Option Error) :
    Broker × List Action × Bool :=
  let (pty, err) := unmarshalPty req.payload
  let (replied, failed) := replyTo req ok reply
  ({ b with pty := pty }, rejectOn err ++ replied, failed)

-- Lines 380 to 392.
def windowChange (b : Broker) (req : Request) (ok : Bool) (reply : Option Error) :
    Broker × List Action × Bool :=
  let (dimensions, err) := unmarshalDimensions req.payload
  ({ b with pty := { b.pty with columns := dimensions.columns, rows := dimensions.rows } },
    rejectOn err ++ (replyTo req ok reply).1, false)

def otherRequest (b : Broker) (req : Request) (ok : Bool) (reply : Option Error) :
    Broker × List Action × Bool :=
  let (replied, failed) := replyTo req ok reply
  (b, replied, failed)

def handleClient (b : Broker) (req : Request) (ok : Bool) (reply : Option Error) :
    Broker × List Action × Bool :=
  if isProgramStart req.type then programStart b req ok reply
  else if req.type = ptyRequestType then ptyRequest b req ok reply
  else if req.type = windowChangeRequestType then windowChange b req ok reply
  else otherRequest b req ok reply

-- Lines 282 to 401.
def clientRequest (b : Broker) (req : Request) (sent : Except Error Bool) (reply : Option Error) :
    Broker × Turn :=
  match sent with
  | .error _ => (b, ⟨some (.client, req), [.send .agent req none], false⟩)
  | .ok ok =>
      let (next, actions, exits) := handleClient b req ok reply
      (next, ⟨some (.client, req), .send .agent req (some ok) :: actions, exits⟩)

-- Lines 402 to 422.
def agentRequest (b : Broker) (req : Request) (sent : Except Error Bool) (reply : Option Error) :
    Broker × Turn :=
  match sent with
  | .error _ => (b, ⟨some (.agent, req), [.send .client req none], false⟩)
  | .ok ok =>
      let (replied, failed) := replyTo req ok reply
      (b, ⟨some (.agent, req), .send .client req (some ok) :: replied, failed⟩)

-- Lines 255 to 281.
def globalRequest (b : Broker) (req : Request) (keepAlive reply : Option Error) : Broker × Turn :=
  if req.type = keepAliveRequestType then
    match keepAlive with
    | some _ => (b, ⟨some (.global, req), [.keepAlive], true⟩)
    | none => (b, ⟨some (.global, req), .keepAlive :: (replyTo req false reply).1, false⟩)
  else (b, ⟨some (.global, req), (replyTo req false reply).1, false⟩)

def step (b : Broker) : Event → Broker × Turn
  | .done => (b, ⟨none, [], true⟩)
  | .global none _ _ => (b, ⟨none, [], true⟩)
  | .client none _ _ => (b, ⟨none, [], true⟩)
  | .agent none _ _ => (b, ⟨none, [], true⟩)
  | .global (some req) keepAlive reply => globalRequest b req keepAlive reply
  | .client (some req) sent reply => clientRequest b req sent reply
  | .agent (some req) sent reply => agentRequest b req sent reply

def run (b : Broker) : List Event → List Turn
  | [] => []
  | e :: es => (step b e).2 :: if (step b e).2.exits then [] else run (step b e).1 es

def final (b : Broker) : List Event → Broker
  | [] => b
  | e :: es => if (step b e).2.exits then (step b e).1 else final (step b e).1 es

-- `started := false` at line 247; the pseudo-terminal is whatever the session holds.
def initial (pty : Pty) : Broker := ⟨false, pty⟩

def Event.received : Event → Option (Source × Request)
  | .global req _ _ => req.map (.global, ·)
  | .client req _ _ => req.map (.client, ·)
  | .agent req _ _ => req.map (.agent, ·)
  | .done => none

def Event.ends : Event → Bool
  | .global (some req) keepAlive _ => req.type = keepAliveRequestType && keepAlive.isSome
  | .client (some req) (.ok _) reply => req.type ≠ windowChangeRequestType && req.wantReply && reply.isSome
  | .agent (some req) (.ok _) reply => req.wantReply && reply.isSome
  | .client (some _) (.error _) _ | .agent (some _) (.error _) _ => false
  | _ => true

def dequeued : List Event → List Event
  | [] => []
  | e :: es => e :: if e.ends then [] else dequeued es

theorem step_received (b : Broker) (e : Event) : (step b e).2.received = e.received := by
  rcases e with _ | ⟨_ | req, keepAlive, reply⟩ | ⟨_ | req, sent, reply⟩ | ⟨_ | req, sent, reply⟩
  case global.some => simp only [step, globalRequest]; split <;> (try split) <;> rfl
  case client.some => cases sent <;> rfl
  case agent.some => cases sent <;> rfl
  all_goals rfl

theorem reply_to_failed (req : Request) (ok : Bool) (outcome : Option Error) :
    (replyTo req ok outcome).2 = (req.wantReply && outcome.isSome) := by
  unfold replyTo
  split <;> (try split) <;> simp_all

theorem step_exits (b : Broker) (e : Event) : (step b e).2.exits = e.ends := by
  rcases e with _ | ⟨_ | req, keepAlive, reply⟩ | ⟨_ | req, sent, reply⟩ | ⟨_ | req, sent, reply⟩
  case global.some =>
    simp only [step, globalRequest, Event.ends]
    split <;> (try split) <;> simp_all
  case client.some =>
    cases sent with
    | error => rfl
    | ok ok =>
      simp only [step, clientRequest, handleClient, Event.ends]
      split
      · rename_i program
        have other : req.type ≠ windowChangeRequestType := by
          intro resize
          simp [isProgramStart, resize, windowChangeRequestType, shellRequestType, execRequestType,
            subsystemRequestType] at program
        unfold programStart replyTo
        cases b.started <;> cases req.wantReply <;> cases reply <;> simp [other]
      split
      · rename_i pty
        have other : req.type ≠ windowChangeRequestType := by simp [pty, ptyRequestType, windowChangeRequestType]
        simp [ptyRequest, reply_to_failed, other]
      split
      · simp_all [windowChange]
      · simp_all [otherRequest, reply_to_failed]
  case agent.some => cases sent <;> simp [step, agentRequest, reply_to_failed, Event.ends]
  all_goals rfl

theorem run_map {α : Type} (f : Turn → α) (g : Event → α) (fixed : ∀ b e, f (step b e).2 = g e)
    (b : Broker) (es : List Event) : (run b es).map f = (dequeued es).map g := by
  induction es generalizing b with
  | nil => rfl
  | cons e es ih =>
    simp only [run, dequeued, List.map_cons, fixed, step_exits]
    split <;> simp [ih]

theorem run_received (b : Broker) (es : List Event) :
    (run b es).map Turn.received = (dequeued es).map Event.received :=
  run_map _ _ step_received b es

theorem run_getElem? (b : Broker) (es : List Event) (i : Nat) (e : Event) (taken : (dequeued es)[i]? = some e) :
    (run b es)[i]? = some (step (final b (es.take i)) e).2 := by
  induction es generalizing b i with
  | nil => simp [dequeued] at taken
  | cons e' es ih =>
    cases i with
    | zero =>
      simp only [dequeued, List.getElem?_cons_zero, Option.some.injEq] at taken
      simp [run, final, taken]
    | succ i =>
      simp only [dequeued, List.getElem?_cons_succ] at taken
      split at taken
      · simp at taken
      · rename_i continues
        simp only [run, final, List.take_succ_cons, step_exits, continues, Bool.false_eq_true, if_false,
          List.getElem?_cons_succ]
        exact ih (step b e').1 i taken

theorem dequeued_take (es : List Event) (i : Nat) (inside : i < (dequeued es).length) :
    dequeued (es.take i) = (dequeued es).take i := by
  induction es generalizing i with
  | nil => simp [dequeued]
  | cons e es ih =>
    cases i with
    | zero => rfl
    | succ i =>
      simp only [dequeued] at inside ⊢
      split at inside
      · simp at inside
      · rename_i continues
        simp only [List.take_succ_cons, dequeued, continues, Bool.false_eq_true, if_false]
        rw [ih i (by simpa using inside)]

end ShellHub.Channels
