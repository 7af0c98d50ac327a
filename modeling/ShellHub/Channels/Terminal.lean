import ShellHub.Channels.Loop
import ShellHub.Session.Marshal

set_option autoImplicit false

/- The session's pseudo-terminal as the loop writes it (lines 363 to 392): a forwarded `pty-req`
   stores the whole decoded struct and a forwarded `window-change` stores the decoded columns and
   rows, zeros included; nothing else touches it. -/
namespace ShellHub.Channels

open ShellHub.Session

-- The columns and rows a forwarded `pty-req` or `window-change` stores.
def Event.dimensionsSet : Event → Option (UInt32 × UInt32)
  | .client (some req) (.ok _) _ =>
      if req.type = ptyRequestType then
        some ((unmarshalPty req.payload).1.columns, (unmarshalPty req.payload).1.rows)
      else if req.type = windowChangeRequestType then
        some ((unmarshalDimensions req.payload).1.columns, (unmarshalDimensions req.payload).1.rows)
      else none
  | _ => none

def Event.setsPty : Event → Bool
  | .client (some req) (.ok _) _ => req.type = ptyRequestType
  | _ => false

theorem program_start_pty (b : Broker) (req : Request) (ok : Bool) (reply : Option Error) :
    (programStart b req ok reply).1.pty = b.pty := by
  unfold programStart replyTo
  cases b.started <;> cases req.wantReply <;> cases reply <;> rfl

theorem handle_client_pty (b : Broker) (req : Request) (ok : Bool) (reply : Option Error) :
    (handleClient b req ok reply).1.pty =
      if req.type = ptyRequestType then (unmarshalPty req.payload).1
      else if req.type = windowChangeRequestType then
        { b.pty with columns := (unmarshalDimensions req.payload).1.columns,
                     rows := (unmarshalDimensions req.payload).1.rows }
      else b.pty := by
  unfold handleClient
  by_cases pty : req.type = ptyRequestType
  · simp [pty, ptyRequest, isProgramStart, ptyRequestType, shellRequestType, execRequestType,
      subsystemRequestType]
  by_cases resize : req.type = windowChangeRequestType
  · simp [resize, windowChange, isProgramStart, windowChangeRequestType, ptyRequestType,
      shellRequestType, execRequestType, subsystemRequestType]
  · simp only [pty, resize, if_false]
    split
    · exact program_start_pty b req ok reply
    · rfl

theorem step_pty (b : Broker) (e : Event) :
    (step b e).1.pty.dimensions = e.dimensionsSet.getD b.pty.dimensions ∧
      (e.setsPty = false → (step b e).1.pty.rest = b.pty.rest) := by
  rcases e with _ | ⟨_ | req, keepAlive, reply⟩ | ⟨_ | req, sent, reply⟩ | ⟨_ | req, sent, reply⟩
  case global.some =>
    simp only [step, globalRequest]
    split <;> (try split) <;> exact ⟨rfl, fun _ => rfl⟩
  case client.some =>
    cases sent with
    | error => exact ⟨rfl, fun _ => rfl⟩
    | ok ok =>
      simp only [step, clientRequest, handle_client_pty, Event.dimensionsSet, Event.setsPty]
      by_cases pty : req.type = ptyRequestType
      · simp [pty, Pty.dimensions]
      have distinct : windowChangeRequestType ≠ ptyRequestType := by decide
      by_cases resize : req.type = windowChangeRequestType <;>
        simp [pty, resize, distinct, Pty.dimensions, Pty.rest]
  case agent.some => cases sent <;> exact ⟨rfl, fun _ => rfl⟩
  all_goals exact ⟨rfl, fun _ => rfl⟩

theorem pty_request_stores_encoding (b : Broker) (wantReply ok : Bool) (reply : Option Error) (payload : Bytes)
    (pty : Pty) :
    ((step b (.client (some ⟨ptyRequestType, wantReply, payload⟩) (.ok ok) reply)).1.pty = pty ∧
        (unmarshalPty payload).2 = none) ↔
      payload = marshalPty pty ∧ pty.term.length < 2 ^ 32 ∧ pty.modes.length < 2 ^ 32 := by
  have stored : (step b (.client (some ⟨ptyRequestType, wantReply, payload⟩) (.ok ok) reply)).1.pty =
      (unmarshalPty payload).1 := by
    simp only [step, clientRequest, handle_client_pty, if_true]
  rw [stored, ← unmarshal_pty_ok, Prod.ext_iff]

theorem last_set_cons (e : Event) (rest : List Event) (initial : UInt32 × UInt32) :
    ((e :: rest).filterMap Event.dimensionsSet).getLast?.getD initial =
      (rest.filterMap Event.dimensionsSet).getLast?.getD (e.dimensionsSet.getD initial) := by
  cases set : e.dimensionsSet with
  | none => simp [set]
  | some v => simp only [List.filterMap_cons, set, List.getLast?_cons, Option.getD_some, Option.getD_some]

theorem terminal_follows_last_request (b : Broker) (es : List Event) :
    (final b es).pty.dimensions =
        ((es.take (run b es).length).filterMap Event.dimensionsSet).getLast?.getD b.pty.dimensions ∧
      ((es.take (run b es).length).any Event.setsPty = false → (final b es).pty.rest = b.pty.rest) := by
  induction es generalizing b with
  | nil => simp [final, run]
  | cons e es ih =>
    obtain ⟨dimensions, rest⟩ := step_pty b e
    simp only [final, run, List.length_cons]
    split
    · simp only [List.length_nil, List.take_succ_cons, List.take_zero, List.any_cons, List.any_nil,
        Bool.or_false]
      refine ⟨?_, rest⟩
      rw [last_set_cons, dimensions]
      rfl
    · simp only [List.take_succ_cons, List.any_cons, Bool.or_eq_false_iff, last_set_cons]
      obtain ⟨lastSet, untouched⟩ := ih (step b e).1
      refine ⟨by rw [lastSet, dimensions], fun ⟨quiet, restQuiet⟩ => ?_⟩
      rw [untouched restQuiet, rest quiet]

theorem window_change_zero_rows_overwrites :
    let ptyReq : Request :=
      ⟨ptyRequestType, false, [0, 0, 0, 5, 120, 116, 101, 114, 109, 0, 0, 0, 80, 0, 0, 0, 24,
        0, 0, 0, 0, 0, 0, 0, 0, 0, 0, 0, 0]⟩
    let resize : Request :=
      ⟨windowChangeRequestType, false, [0, 0, 0, 100, 0, 0, 0, 0, 0, 0, 0, 0, 0, 0, 0, 0]⟩
    (final (initial default) [.client (some ptyReq) (.ok true) none,
      .client (some resize) (.ok true) none]).pty.dimensions = (100, 0) := by
  decide

theorem malformed_payloads_overwrite_pty (b : Broker) (wantReply ok : Bool) :
    let ptyReq : Request := ⟨ptyRequestType, wantReply, []⟩
    let resize : Request := ⟨windowChangeRequestType, wantReply, [0, 0, 0, 100]⟩
    (unmarshalPty ptyReq.payload).2 = some (parseError 0) ∧
      (step b (.client (some ptyReq) (.ok ok) none)).1.pty = default ∧
      (unmarshalDimensions resize.payload).2 = some errShortRead ∧
      (step b (.client (some resize) (.ok ok) none)).1.pty = { b.pty with columns := 100, rows := 0 } := by
  have distinct : windowChangeRequestType ≠ ptyRequestType := by decide
  refine ⟨rfl, ?_, rfl, ?_⟩
  · simp only [step, clientRequest, handle_client_pty, if_true]
    rfl
  · simp only [step, clientRequest, handle_client_pty, distinct, if_false, if_true]
    rfl

end ShellHub.Channels
