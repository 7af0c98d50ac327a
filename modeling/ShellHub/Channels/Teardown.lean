import ShellHub.Channels.Loop

set_option autoImplicit false

/- One SSH connection on which the client opens any number of "session" channels; the server
   runs `DefaultSessionHandler` for each, concurrently. A handler's setup (lines 194 to 247) is
   one move, each loop iteration another, and the scheduler interleaves the handlers' moves in
   any order. The handlers share the connection's context, hence the session and its
   pseudo-terminal; each keeps its own `started`. A returning handler runs its deferred calls
   in reverse order of `defer`. -/
namespace ShellHub.Channels

open ShellHub.Session

inductive Phase where
  | pending
  | looping (started : Bool)
  | returned
deriving DecidableEq, Repr

structure Connection where
  -- whether `ctx.Value("session").(*session.Session)` succeeds; the context is per connection
  session : Bool
  pty : Pty
  handlers : List Phase
deriving DecidableEq, Repr

def Connection.fresh (session : Bool) (pty : Pty) : Connection := ⟨session, pty, []⟩

def Connection.Sound (conn : Connection) : Prop :=
  ∀ (i : Nat) (started : Bool), conn.handlers[i]? = some (Phase.looping started) → conn.session = true

end ShellHub.Channels
