import Mathlib.Data.List.Basic

set_option autoImplicit false

/- The connector's `Connection` to a Docker engine and its methods (lines 16 to 141). A
   `*client.Client` is `Option Client`, nil being `none`; what the engine answers (client
   creation, ping, close) is an argument. The `stop` channel has capacity one, so its state is
   whether it holds a value. The addresses a Connection keeps only reach the Docker connector
   library and are left out. -/
namespace ShellHub.DockerConnector

abbrev Error := String

def nilStatus : String := "nil"
def connectedStatus : String := "connected"
def disconnectedStatus : String := "disconnected"
def startedStatus : String := "started"
def failedStatus : String := "failed"
def stopedStatus : String := "stoped"

def errConnectionEstablished : Error := "connection to Docker Remote Engine already established"
def errConnectionFailed : Error := "connection to Docker Remote Engine failed"
def errConnectionUndefined : Error := "connection to Docker Remote Engine is undefined"

structure Client where
  closed : Bool
deriving DecidableEq, Repr

structure Connection where
  cli : Option Client
  -- the buffered `stop` channel holds its one value
  stopQueued : Bool
  status : String
deriving DecidableEq, Repr

-- `Connector.NewConnection`.
def newConnection : Connection := ⟨none, false, nilStatus⟩

def Connection.connect (c : Connection) (newClient : Option Error) : Connection × Option Error :=
  if c.cli.isSome then (c, some errConnectionEstablished)
  else
    match newClient with
    | some err => (c, some err)
    | none => ({ c with cli := some ⟨false⟩, status := connectedStatus }, none)

def Connection.disconnect (c : Connection) (close : Option Error) : Connection × Option Error :=
  match c.cli with
  | none => (c, some errConnectionUndefined)
  | some cli => ({ c with status := disconnectedStatus, cli := some { cli with closed := true } }, close)

def Connection.ping (c : Connection) (answer : Option Error) : Connection × Option Error :=
  match c.cli with
  | none => (c, some errConnectionUndefined)
  | some _ =>
      match answer with
      | none => (c, none)
      | some err => ((c.disconnect none).1, some err)

-- `c.stop <- struct{}{}` then the status; `none` while the channel is full and the send waits.
def Connection.stop (c : Connection) : Option Connection :=
  if c.stopQueued then none else some { c with stopQueued := true, status := stopedStatus }

theorem connect_client (c c' : Connection) (newClient : Option Error) (connected : c.connect newClient = (c', none)) :
    c'.cli.isSome := by
  unfold Connection.connect at connected
  split at connected
  · cases connected
  · split at connected
    · cases connected
    · cases connected
      rfl

theorem disconnect_client (c : Connection) (close : Option Error) (client : c.cli.isSome) :
    (c.disconnect close).1.cli.isSome := by
  unfold Connection.disconnect
  split
  · exact client
  · rfl

theorem ping_client (c : Connection) (answer : Option Error) (client : c.cli.isSome) :
    (c.ping answer).1.cli.isSome := by
  unfold Connection.ping
  split
  · exact client
  · split
    · exact client
    · exact disconnect_client c none client

theorem stop_client (c c' : Connection) (stopped : c.stop = some c') : c'.cli = c.cli := by
  unfold Connection.stop at stopped
  split at stopped
  · cases stopped
  · cases stopped
    rfl

end ShellHub.DockerConnector
