import ShellHub.DockerConnector.Server

set_option autoImplicit false

namespace ShellHub.DockerConnector

-- Every allocated Connection holds a client, and the map only points at allocated ones.
def Connector.Sound (s : Connector) : Prop :=
  (∀ c ∈ s.heap, c.cli.isSome) ∧ ∀ tenant p, s.connections tenant = some p → p < s.heap.length

theorem initial_sound : Connector.initial.Sound :=
  ⟨by simp [Connector.initial], by simp [Connector.initial]⟩

theorem heap_client (s : Connector) (sound : s.Sound) (p : Nat) (c : Connection) (found : s.heap[p]? = some c) :
    c.cli.isSome :=
  sound.1 c (List.getElem?_mem found)

theorem set_conn_sound (s : Connector) (p : Nat) (c : Connection) (sound : s.Sound) (client : c.cli.isSome) :
    (s.setConn p c).Sound := by
  refine ⟨fun x mem => ?_, fun tenant q mapped => ?_⟩
  · rcases List.mem_or_eq_of_mem_set mem with old | rfl
    · exact sound.1 x old
    · exact client
  · simpa [Connector.setConn] using sound.2 tenant q mapped

theorem set_conn_sound_of_found (s : Connector) (p : Nat) (c c' : Connection) (sound : s.Sound)
    (found : s.heap[p]? = some c) (kept : c.cli.isSome → c'.cli.isSome) : (s.setConn p c').Sound :=
  set_conn_sound s p c' sound (kept (heap_client s sound p c found))

theorem del_connection_sound (s : Connector) (tenant : Tenant) (sound : s.Sound) :
    (s.delConnection tenant).1.Sound := by
  unfold Connector.delConnection
  split
  · exact sound
  · refine ⟨sound.1, fun t p mapped => ?_⟩
    simp only at mapped
    split at mapped
    · cases mapped
    · exact sound.2 t p mapped

theorem with_connection_sound (s : Connector) (tenant : Tenant) (k : Nat → Connection → Connector × Outcome)
    (sound : s.Sound) (next : ∀ p c, s.heap[p]? = some c → (k p c).1.Sound) :
    (s.withConnection tenant k).1.Sound := by
  unfold Connector.withConnection
  split
  · exact sound
  · exact sound
  · split
    · exact sound
    · exact next _ _ ‹_›

theorem connect_endpoint_sound (s : Connector) (tenant : Tenant) (newClient : Option Error) (sound : s.Sound) :
    (connectEndpoint s tenant newClient).1.Sound := by
  unfold connectEndpoint
  split
  · exact sound
  · split
    · exact sound
    · rename_i conn connected
      refine ⟨fun c mem => ?_, fun t p mapped => ?_⟩
      · rcases List.mem_append.1 mem with old | fresh
        · exact sound.1 c old
        · rw [List.mem_singleton.1 fresh]
          exact connect_client _ _ _ connected
      · simp only at mapped
        rw [List.length_append, List.length_singleton]
        split at mapped
        · cases mapped
          omega
        · have := sound.2 t p mapped
          omega

theorem finish_disconnect_sound (s : Connector) (p : Nat) (c : Connection) (tenant : Tenant)
    (close : Option Error) (sound : s.Sound) (client : c.cli.isSome) :
    (s.finishDisconnect p c tenant close).1.Sound := by
  have disconnected := set_conn_sound s p _ sound (disconnect_client c close client)
  unfold Connector.finishDisconnect
  split
  · rename_i c' err result
    rw [result] at disconnected
    exact disconnected
  · rename_i c' result
    rw [result] at disconnected
    exact del_connection_sound _ tenant disconnected

theorem disconnect_endpoint_sound (s : Connector) (tenant : Tenant) (close : Option Error) (sound : s.Sound) :
    (disconnectEndpoint s tenant close).1.Sound := by
  refine with_connection_sound s tenant _ sound fun p c found => ?_
  split
  · exact sound
  · rename_i c' stopped
    have client : c'.cli.isSome := by
      rw [stop_client c c' stopped]
      exact heap_client s sound p c found
    exact finish_disconnect_sound _ p c' tenant close (set_conn_sound s p c' sound client) client

theorem start_endpoint_sound (s : Connector) (tenant : Tenant) (sound : s.Sound) :
    (startEndpoint s tenant).1.Sound := by
  refine with_connection_sound s tenant _ sound fun p c found => ?_
  split
  · exact sound
  · exact sound

theorem stop_endpoint_sound (s : Connector) (tenant : Tenant) (sound : s.Sound) :
    (stopEndpoint s tenant).1.Sound := by
  refine with_connection_sound s tenant _ sound fun p c found => ?_
  split
  · exact sound
  · split
    · exact sound
    · rename_i c' stopped
      exact set_conn_sound_of_found s p c c' sound found fun client => by rwa [stop_client c c' stopped]

theorem ping_endpoint_sound (s : Connector) (tenant : Tenant) (answer : Option Error) (sound : s.Sound) :
    (pingEndpoint s tenant answer).1.Sound := by
  unfold pingEndpoint
  split
  · exact sound
  · split
    · exact sound
    · exact set_conn_sound_of_found s _ _ _ sound ‹_› (ping_client _ answer)

theorem resume_sound (s : Connector) (i : Nat) (close : Option Error) (sound : s.Sound) :
    (s.resume i close).1.Sound := by
  unfold Connector.resume
  cases s.waiters[i]? with
  | none => exact sound
  | some w =>
    dsimp only
    cases found : s.heap[w.conn]? with
    | none => exact sound
    | some c =>
      dsimp only
      cases stopped : c.stop with
      | none => exact sound
      | some c' =>
        dsimp only
        have client : c'.cli.isSome := by
          rw [stop_client c c' stopped]
          exact heap_client s sound _ c found
        have resumed : ({ s.setConn w.conn c' with waiters := s.waiters.eraseIdx i } : Connector).Sound :=
          set_conn_sound s _ c' sound client
        cases w.disconnecting with
        | none => exact resumed
        | some tenant => exact finish_disconnect_sound _ _ c' tenant close resumed client

theorem start_run_sound (s : Connector) (i : Nat) (ping newConnector : Option Error) (sound : s.Sound) :
    (s.startRun i ping newConnector).Sound := by
  unfold Connector.startRun
  cases s.runs[i]? with
  | none => exact sound
  | some r =>
    dsimp only
    split
    · exact sound
    · cases found : s.heap[r.conn]? with
      | none => exact sound
      | some c =>
        have pinged := set_conn_sound_of_found s _ c _ sound found (ping_client c ping)
        dsimp only
        split <;> exact pinged

theorem set_status_sound (s : Connector) (p : Nat) (c : Connection) (sound : s.Sound)
    (found : s.heap[p]? = some c) (stopQueued : Bool) (status : String) :
    (s.setConn p { c with stopQueued := stopQueued, status := status }).Sound :=
  set_conn_sound_of_found s p c _ sound found id

theorem listen_sound (s : Connector) (i : Nat) (sound : s.Sound) : (s.listen i).Sound := by
  unfold Connector.listen
  cases s.runs[i]? with
  | none => exact sound
  | some r =>
    dsimp only
    split
    · exact sound
    · cases found : s.heap[r.conn]? with
      | none => exact sound
      | some c => exact set_status_sound s _ c sound found c.stopQueued startedStatus

theorem listen_fails_sound (s : Connector) (i : Nat) (sound : s.Sound) : (s.listenFails i).Sound := by
  unfold Connector.listenFails
  split
  · exact sound
  · split <;> exact sound

theorem receive_error_sound (s : Connector) (i : Nat) (sound : s.Sound) : (s.receiveError i).Sound := by
  unfold Connector.receiveError
  cases s.runs[i]? with
  | none => exact sound
  | some r =>
    dsimp only
    split
    · cases found : s.heap[r.conn]? with
      | none => exact sound
      | some c => exact set_status_sound s _ c sound found c.stopQueued failedStatus
    · exact sound

theorem receive_stop_sound (s : Connector) (i : Nat) (sound : s.Sound) : (s.receiveStop i).Sound := by
  unfold Connector.receiveStop
  cases s.runs[i]? with
  | none => exact sound
  | some r =>
    dsimp only
    split
    · exact sound
    · cases found : s.heap[r.conn]? with
      | none => exact sound
      | some c =>
        dsimp only
        split
        · exact set_status_sound s _ c sound found false c.status
        · exact sound

theorem step_sound (s : Connector) (e : Event) (sound : s.Sound) : (step s e).1.Sound := by
  cases e with
  | connect tenant newClient => exact connect_endpoint_sound s tenant newClient sound
  | disconnect tenant close => exact disconnect_endpoint_sound s tenant close sound
  | start tenant => exact start_endpoint_sound s tenant sound
  | stop tenant => exact stop_endpoint_sound s tenant sound
  | ping tenant answer => exact ping_endpoint_sound s tenant answer sound
  | resume i close => exact resume_sound s i close sound
  | startRun i ping newConnector => exact start_run_sound s i ping newConnector sound
  | listen i => exact listen_sound s i sound
  | listenFails i => exact listen_fails_sound s i sound
  | receiveError i => exact receive_error_sound s i sound
  | receiveStop i => exact receive_stop_sound s i sound

theorem run_sound (s : Connector) (es : List Event) (sound : s.Sound) : (run s es).Sound := by
  induction es generalizing s with
  | nil => exact sound
  | cons e es ih => exact ih _ (step_sound s e sound)

theorem of_error_ne_nil_deref (err : Option Error) : Outcome.ofError err ≠ .nilDeref := by
  cases err <;> simp [Outcome.ofError]

theorem get_connection_found (s : Connector) (tenant : Tenant) (ptr : Option Nat)
    (found : s.getConnection tenant = (ptr, none)) : ∃ p, ptr = some p ∧ s.connections tenant = some p := by
  unfold Connector.getConnection at found
  split at found
  · cases found
  · cases found
    exact ⟨_, rfl, ‹_›⟩

theorem with_connection_unknown (s : Connector) (tenant : Tenant) (k : Nat → Connection → Connector × Outcome)
    (unknown : s.connections tenant = none) :
    s.withConnection tenant k = (s, .error errConnectorConnectionNotFound) := by
  simp [Connector.withConnection, Connector.getConnection, unknown]

theorem with_connection_outcome (s : Connector) (tenant : Tenant) (k : Nat → Connection → Connector × Outcome)
    (sound : s.Sound) (next : ∀ p c, (k p c).2 ≠ .nilDeref) : (s.withConnection tenant k).2 ≠ .nilDeref := by
  unfold Connector.withConnection
  split
  · simp
  · rename_i found
    obtain ⟨p, none_eq, -⟩ := get_connection_found s tenant none found
    cases none_eq
  · rename_i p found
    obtain ⟨_, same, mapped⟩ := get_connection_found s tenant _ found
    cases same
    split
    · rename_i missing
      exact absurd missing (by simp [List.getElem?_eq_getElem (sound.2 tenant _ mapped)])
    · exact next _ _

theorem finish_disconnect_outcome (s : Connector) (p : Nat) (c : Connection) (tenant : Tenant)
    (close : Option Error) : (s.finishDisconnect p c tenant close).2 ≠ .nilDeref := by
  unfold Connector.finishDisconnect
  split
  · simp
  · exact of_error_ne_nil_deref _

theorem ping_endpoint_nil_deref (s : Connector) (tenant : Tenant) (answer : Option Error) (sound : s.Sound) :
    (pingEndpoint s tenant answer).2 = .nilDeref ↔ s.connections tenant = none := by
  unfold pingEndpoint Connector.getConnection
  cases mapped : s.connections tenant with
  | none => simp
  | some p =>
    have found := List.getElem?_eq_getElem (sound.2 tenant p mapped)
    simp only [found, reduceCtorEq, iff_false]
    exact of_error_ne_nil_deref _

theorem step_nil_deref (s : Connector) (e : Event) (sound : s.Sound) :
    (step s e).2 = .nilDeref ↔ ∃ tenant answer, e = .ping tenant answer ∧ s.connections tenant = none := by
  cases e with
  | ping tenant answer => simpa using ping_endpoint_nil_deref s tenant answer sound
  | connect tenant newClient =>
    simp only [step, reduceCtorEq, false_and, exists_false, iff_false]
    unfold connectEndpoint
    split
    · simp
    · split <;> simp
  | disconnect tenant close =>
    simp only [step, reduceCtorEq, false_and, exists_false, iff_false]
    refine with_connection_outcome s tenant _ sound fun p c => ?_
    split
    · simp
    · exact finish_disconnect_outcome _ _ _ _ _
  | start tenant =>
    simp only [step, reduceCtorEq, false_and, exists_false, iff_false]
    refine with_connection_outcome s tenant _ sound fun p c => ?_
    split <;> simp
  | stop tenant =>
    simp only [step, reduceCtorEq, false_and, exists_false, iff_false]
    refine with_connection_outcome s tenant _ sound fun p c => ?_
    split
    · simp
    · split <;> simp
  | resume i close =>
    simp only [step, reduceCtorEq, false_and, exists_false, iff_false]
    unfold Connector.resume
    split
    · simp
    · split
      · simp
      · split
        · simp
        · split
          · simp
          · exact finish_disconnect_outcome _ _ _ _ _
  | startRun | listen | listenFails | receiveError | receiveStop => simp [step]

theorem connector_nil_safety (es : List Event) :
    let s := run Connector.initial es
    (∀ tenant p, s.connections tenant = some p → ∃ c, s.heap[p]? = some c ∧ c.cli.isSome) ∧
      (∀ e, (step s e).2 = .nilDeref ↔ ∃ tenant answer, e = .ping tenant answer ∧ s.connections tenant = none) ∧
      ∀ tenant, s.connections tenant = none →
        (∀ close, step s (.disconnect tenant close) = (s, .error errConnectorConnectionNotFound)) ∧
        step s (.start tenant) = (s, .error errConnectorConnectionNotFound) ∧
        step s (.stop tenant) = (s, .error errConnectorConnectionNotFound) := by
  have sound := run_sound _ es initial_sound
  refine ⟨fun tenant p mapped => ?_, fun e => step_nil_deref _ e sound, fun tenant unknown => ?_⟩
  · have inside := sound.2 tenant p mapped
    exact ⟨_, List.getElem?_eq_getElem inside, sound.1 _ (List.getElem_mem inside)⟩
  · exact ⟨fun close => with_connection_unknown _ tenant _ unknown, with_connection_unknown _ tenant _ unknown,
      with_connection_unknown _ tenant _ unknown⟩

end ShellHub.DockerConnector
