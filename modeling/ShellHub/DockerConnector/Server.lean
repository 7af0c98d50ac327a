import ShellHub.DockerConnector.Connection

set_option autoImplicit false

/- The connector process: the `Connector` with its map of Connections (lines 143 to 199), the
   HTTP endpoints `main` registers (lines 261 to 341), and the goroutines `Connection.Start`
   runs. Each handler runs as one step, up to a send on a full `stop` channel, where it waits
   until a step resumes it; the Start goroutine and the listener goroutine it spawns move in
   steps of their own, and the events may come in any order. Pointers are indices into `heap`,
   which only grows. -/
namespace ShellHub.DockerConnector

abbrev Tenant := String

def errConnectorConnectionNotFound : Error := "connection not found"

inductive StartPhase where
  | spawned
  | selecting
  | returned
deriving DecidableEq, Repr

-- The listener goroutine of a Start: `sending` is blocked on `cherr <- err`; `stopped` has its
-- context cancelled, so Listen has returned or returns at once.
inductive ListenPhase where
  | notSpawned
  | spawned
  | listening
  | sending
  | stopped
deriving DecidableEq, Repr

structure StartRun where
  conn : Nat
  start : StartPhase
  listen : ListenPhase
deriving DecidableEq, Repr

-- A handler waiting in `c.stop <- struct{}{}`: /stop, or /disconnect with its tenant.
structure Waiter where
  conn : Nat
  disconnecting : Option Tenant
deriving DecidableEq, Repr

structure Connector where
  connections : Tenant → Option Nat
  heap : List Connection
  runs : List StartRun
  waiters : List Waiter

def Connector.initial : Connector := ⟨fun _ => none, [], [], []⟩

inductive Outcome where
  | ok
  | error (err : Error)
  | nilDeref
  | blocked
deriving DecidableEq, Repr

def Outcome.ofError : Option Error → Outcome
  | none => .ok
  | some err => .error err

def Connector.getConnection (s : Connector) (tenant : Tenant) : Option Nat × Option Error :=
  match s.connections tenant with
  | none => (none, some errConnectorConnectionNotFound)
  | some p => (some p, none)

def Connector.delConnection (s : Connector) (tenant : Tenant) : Connector × Option Error :=
  match s.getConnection tenant with
  | (_, some err) => (s, some err)
  | (_, none) => ({ s with connections := fun t => if t = tenant then none else s.connections t }, none)

def Connector.setConn (s : Connector) (p : Nat) (c : Connection) : Connector := { s with heap := s.heap.set p c }

def Connector.setRun (s : Connector) (i : Nat) (r : StartRun) : Connector := { s with runs := s.runs.set i r }

-- `conn, err := connector.GetConnection(tenant); if err != nil { return err }`, then `*conn`.
def Connector.withConnection (s : Connector) (tenant : Tenant) (k : Nat → Connection → Connector × Outcome) :
    Connector × Outcome :=
  match s.getConnection tenant with
  | (_, some err) => (s, .error err)
  | (none, none) => (s, .nilDeref)
  | (some p, none) =>
      match s.heap[p]? with
      | none => (s, .nilDeref)
      | some c => k p c

def connectEndpoint (s : Connector) (tenant : Tenant) (newClient : Option Error) : Connector × Outcome :=
  match s.getConnection tenant with
  | (_, none) => (s, .error errConnectionEstablished)
  | (_, some _) =>
      match newConnection.connect newClient with
      | (_, some _) => (s, .error errConnectionFailed)
      | (conn, none) =>
          ({ s with heap := s.heap ++ [conn],
                    connections := fun t => if t = tenant then some s.heap.length else s.connections t }, .ok)

def Connector.finishDisconnect (s : Connector) (p : Nat) (c : Connection) (tenant : Tenant)
    (close : Option Error) : Connector × Outcome :=
  match c.disconnect close with
  | (c, some err) => (s.setConn p c, .error err)
  | (c, none) =>
      let (s, err) := (s.setConn p c).delConnection tenant
      (s, .ofError err)

def disconnectEndpoint (s : Connector) (tenant : Tenant) (close : Option Error) : Connector × Outcome :=
  s.withConnection tenant fun p c =>
    match c.stop with
    | none => ({ s with waiters := s.waiters ++ [⟨p, some tenant⟩] }, .blocked)
    | some c => (s.setConn p c).finishDisconnect p c tenant close

def startEndpoint (s : Connector) (tenant : Tenant) : Connector × Outcome :=
  s.withConnection tenant fun p c =>
    if c.status = startedStatus then (s, .error "connection already started")
    else ({ s with runs := s.runs ++ [⟨p, .spawned, .notSpawned⟩] }, .ok)

def stopEndpoint (s : Connector) (tenant : Tenant) : Connector × Outcome :=
  s.withConnection tenant fun p c =>
    if c.status ≠ startedStatus then (s, .error "connection isn't started")
    else
      match c.stop with
      | none => ({ s with waiters := s.waiters ++ [⟨p, none⟩] }, .blocked)
      | some c => (s.setConn p c, .ok)

-- `conn, _ := connector.GetConnection(tenant)`: the error is dropped, and the `err` tested next is
-- `main`'s own, nil once the server runs; `conn.Ping` then reads `c.cli` through `conn`.
def pingEndpoint (s : Connector) (tenant : Tenant) (answer : Option Error) : Connector × Outcome :=
  match (s.getConnection tenant).1 with
  | none => (s, .nilDeref)
  | some p =>
      match s.heap[p]? with
      | none => (s, .nilDeref)
      | some c => (s.setConn p (c.ping answer).1, .ofError (c.ping answer).2)

def Connector.resume (s : Connector) (i : Nat) (close : Option Error) : Connector × Outcome :=
  match s.waiters[i]? with
  | none => (s, .ok)
  | some w =>
      match s.heap[w.conn]? with
      | none => (s, .ok)
      | some c =>
          match c.stop with
          | none => (s, .blocked)
          | some c =>
              let s := { s.setConn w.conn c with waiters := s.waiters.eraseIdx i }
              match w.disconnecting with
              | none => (s, .ok)
              | some tenant => s.finishDisconnect w.conn c tenant close

def Connector.startRun (s : Connector) (i : Nat) (ping newConnector : Option Error) : Connector :=
  match s.runs[i]? with
  | none => s
  | some r =>
      if r.start ≠ .spawned then s
      else
        match s.heap[r.conn]? with
        | none => s
        | some c =>
            let s := s.setConn r.conn (c.ping ping).1
            match (c.ping ping).2, newConnector with
            | none, none => s.setRun i { r with start := .selecting, listen := .spawned }
            | _, _ => s.setRun i { r with start := .returned }

-- The listener: `c.status = StartedStatus`, then Listen under Start's context.
def Connector.listen (s : Connector) (i : Nat) : Connector :=
  match s.runs[i]? with
  | none => s
  | some r =>
      if r.listen ≠ .spawned then s
      else
        match s.heap[r.conn]? with
        | none => s
        | some c =>
            (s.setConn r.conn { c with status := startedStatus }).setRun i
              { r with listen := if r.start = .selecting then .listening else .stopped }

def Connector.listenFails (s : Connector) (i : Nat) : Connector :=
  match s.runs[i]? with
  | none => s
  | some r => if r.listen = .listening then s.setRun i { r with listen := .sending } else s

-- `case err := <-cherr`: the status is FailedStatus and Start returns.
def Connector.receiveError (s : Connector) (i : Nat) : Connector :=
  match s.runs[i]? with
  | none => s
  | some r =>
      if r.start = .selecting ∧ r.listen = .sending then
        match s.heap[r.conn]? with
        | none => s
        | some c =>
            (s.setConn r.conn { c with status := failedStatus }).setRun i
              { r with start := .returned, listen := .stopped }
      else s

def ListenPhase.cancel : ListenPhase → ListenPhase
  | .spawned => .spawned
  | .notSpawned => .notSpawned
  | _ => .stopped

-- `case <-c.stop`: Start returns.
def Connector.receiveStop (s : Connector) (i : Nat) : Connector :=
  match s.runs[i]? with
  | none => s
  | some r =>
      if r.start ≠ .selecting then s
      else
        match s.heap[r.conn]? with
        | none => s
        | some c =>
            if c.stopQueued then
              (s.setConn r.conn { c with stopQueued := false }).setRun i
                { r with start := .returned, listen := r.listen.cancel }
            else s

inductive Event where
  | connect (tenant : Tenant) (newClient : Option Error)
  | disconnect (tenant : Tenant) (close : Option Error)
  | start (tenant : Tenant)
  | stop (tenant : Tenant)
  | ping (tenant : Tenant) (answer : Option Error)
  | resume (waiter : Nat) (close : Option Error)
  | startRun (run : Nat) (ping newConnector : Option Error)
  | listen (run : Nat)
  | listenFails (run : Nat)
  | receiveError (run : Nat)
  | receiveStop (run : Nat)

def step (s : Connector) : Event → Connector × Outcome
  | .connect tenant newClient => connectEndpoint s tenant newClient
  | .disconnect tenant close => disconnectEndpoint s tenant close
  | .start tenant => startEndpoint s tenant
  | .stop tenant => stopEndpoint s tenant
  | .ping tenant answer => pingEndpoint s tenant answer
  | .resume i close => s.resume i close
  | .startRun i ping newConnector => (s.startRun i ping newConnector, .ok)
  | .listen i => (s.listen i, .ok)
  | .listenFails i => (s.listenFails i, .ok)
  | .receiveError i => (s.receiveError i, .ok)
  | .receiveStop i => (s.receiveStop i, .ok)

def run (s : Connector) : List Event → Connector
  | [] => s
  | e :: es => run (step s e).1 es

def Connector.activeLoops (s : Connector) (p : Nat) : Nat :=
  s.runs.countP fun r => r.conn = p ∧ r.start = .selecting

def Connector.activeListens (s : Connector) (p : Nat) : Nat :=
  s.runs.countP fun r => r.conn = p ∧ r.listen = .listening

theorem two_starts_run_two_loops :
    let s : Connector := run Connector.initial [.connect "tenant" none, .start "tenant", .start "tenant",
      .startRun 0 none none, .startRun 1 none none, .listen 0, .listen 1]
    s.connections "tenant" = some 0 ∧ s.activeLoops 0 = 2 ∧ s.activeListens 0 = 2 := by
  decide

theorem ping_unknown_tenant_dereferences_nil :
    (step Connector.initial (.ping "tenant" none)).2 = .nilDeref := by
  decide

end ShellHub.DockerConnector
