import VibeBridge.Bindings

/-!
Calls that fail. Every handler reads its payload and finds its agent before it
changes anything, so a JSON line that is answered by an error has changed
nothing. A message of the board could fail after a change only where the agent
it answers is gone, and the queue never names such an agent.
-/
namespace VibeBridge.Failures
open Transitions
open VibeBridge.Core VibeBridge.Protocol VibeBridge.Agent VibeBridge.Envelope VibeBridge.Daemon
open VibeBridge.Bridge VibeBridge.Sessions VibeBridge.Events VibeBridge.Bindings

/-- A call on the daemon that fails has left it as it was. -/
def Atomic {α : Type} (daemon : BridgeDaemon) (result : BridgeDaemon × Except String α) : Prop :=
  ∀ err, result.2 = .error err → result.1 = daemon

section
variable {α : Type} (daemon : BridgeDaemon)

theorem atomic_error (err : String) : Atomic (α := α) daemon (daemon,.error err) := by
  intro _ _
  rfl

theorem atomic_ok (changed : BridgeDaemon) (answer : α) : Atomic daemon (changed,.ok answer) := by
  intro err failed
  cases failed

end

/-! ## JSON messages -/

section
variable (daemon : BridgeDaemon) (request : RegistrationEnvelope)

theorem register_atomic : Atomic daemon (agent_register daemon request) := by
  unfold agent_register
  split
  · exact atomic_error daemon _
  · exact atomic_ok daemon _ _

theorem activity_atomic : Atomic daemon (agent_activity daemon request) := by
  unfold agent_activity
  split
  · exact atomic_error daemon _
  · exact atomic_ok daemon _ _

theorem token_atomic : Atomic daemon (token_update daemon request) := by
  unfold token_update
  split
  · exact atomic_error daemon _
  · split
    · exact atomic_error daemon _
    · exact atomic_ok daemon _ _

theorem turn_atomic : Atomic daemon (turn_append daemon request) := by
  unfold turn_append
  split
  · exact atomic_error daemon _
  · split
    · exact atomic_error daemon _
    · exact atomic_ok daemon _ _

theorem request_atomic : Atomic daemon (permission_request daemon request) := by
  unfold permission_request
  split
  · exact atomic_error daemon _
  · split
    · exact atomic_error daemon _
    · exact atomic_ok daemon _ _

theorem resolve_atomic : Atomic daemon (permission_resolve daemon request) := by
  unfold permission_resolve
  split
  · exact atomic_error daemon _
  · split
    · exact atomic_error daemon _
    · exact atomic_ok daemon _ _

theorem poll_atomic : Atomic daemon (permission_poll daemon request) := by
  unfold permission_poll
  split
  · exact atomic_error daemon _
  · split
    · exact atomic_error daemon _
    · split
      · exact atomic_ok daemon _ _
      · exact atomic_ok daemon _ _

theorem stream_atomic : Atomic daemon (terminal_stream daemon request) := by
  unfold terminal_stream
  split
  · exact atomic_error daemon _
  · split
    · exact atomic_error daemon _
    · exact atomic_ok daemon _ _

theorem abort_atomic : Atomic daemon (session_abort daemon request) := by
  unfold session_abort
  split
  · exact atomic_error daemon _
  · split
    · exact atomic_error daemon _
    · exact atomic_ok daemon _ _

end

/-- A JSON line that is no snapshot. -/
theorem json_atomic (daemon : BridgeDaemon) (line : Except String RegistrationEnvelope)
    (polled : Except String AgentPollSnapshot)
    (stays : ∀ request, line = .ok request → request.message_type ≠ "daemon.snapshot") :
    Atomic daemon (handle_json_line daemon line polled) := by
  cases line with
  | error err => exact atomic_error daemon _
  | ok request =>
    simp only [handle_json_line]
    split
    · exact register_atomic daemon request
    · exact activity_atomic daemon request
    · rename_i type; exact absurd type (stays request rfl)
    · exact token_atomic daemon request
    · exact turn_atomic daemon request
    · exact request_atomic daemon request
    · exact resolve_atomic daemon request
    · exact poll_atomic daemon request
    · exact stream_atomic daemon request
    · exact abort_atomic daemon request
    · exact atomic_error daemon _

/-! ## Messages of the board -/

/-- A grant that somebody waits for finds its agent and succeeds. -/
theorem response_atomic {daemon : BridgeDaemon} (sound : Sound daemon) (sid : UInt16) (payload : List UInt8) :
    Atomic daemon (handle_session_response daemon sid payload) := by
  by_cases grants : Grants sid payload
  · cases queue : daemon.pending_board_sessions with
    | nil =>
      obtain ⟨err,same⟩ := response_unsolicited daemon sid payload queue
      rw [same]
      exact atomic_error daemon err
    | cons key waiting =>
      obtain ⟨agent,found,_⟩ := pending_unbound sound (show key ∈ _ by rw [queue]; simp)
      obtain ⟨granted,result,_⟩ := response_granted grants queue found
      rw [result]
      exact atomic_ok daemon granted ()
  · obtain ⟨err,same⟩ := response_refused daemon grants
    rw [same]
    exact atomic_error daemon err

theorem decision_atomic (daemon : BridgeDaemon) (sid : UInt16) (payload : List UInt8) :
    Atomic daemon (handle_permission_response daemon sid payload) := by
  unfold handle_permission_response
  split
  · exact atomic_error daemon _
  · split
    · exact atomic_error daemon _
    · simp only
      split
      · exact atomic_error daemon _
      · exact atomic_ok daemon _ _

theorem board_atomic {daemon : BridgeDaemon} (sound : Sound daemon) (msg : HidMessage) :
    Atomic daemon (handle_board_message daemon msg) := by
  unfold handle_board_message
  split
  · exact response_atomic sound msg.sid msg.payload
  · exact atomic_ok daemon _ _
  · exact decision_atomic daemon msg.sid msg.payload
  · unfold handle_session_invalid
    split
    · exact atomic_ok daemon _ _
    · exact atomic_ok daemon _ _
  · exact atomic_ok daemon _ _
  · exact atomic_ok daemon _ _
  · exact atomic_error daemon _

/-- In every state that the daemon reaches, a JSON line other than
    `daemon.snapshot` and a message of the board leave all of it as it is when
    they fail. -/
theorem failures_change_nothing {daemon : BridgeDaemon} (reachable : Reachable daemon) :
    (∀ line polled err, (∀ request, line = .ok request → request.message_type ≠ "daemon.snapshot") →
      (handle_json_line daemon line polled).2 = .error err → (handle_json_line daemon line polled).1 = daemon) ∧
    ∀ msg err, (handle_board_message daemon msg).2 = .error err → (handle_board_message daemon msg).1 = daemon := by
  constructor
  · intro line polled err stays failed
    exact json_atomic daemon line polled stays err failed
  · intro msg err failed
    exact board_atomic (reachable_sound reachable) msg err failed

/-- One agent has a sid and another one waits; a permission is polled of an
    agent that is not there, and the board refuses the one that waits. -/
theorem failures_change_nothing_refused :
    let daemon := finish handle BridgeDaemon.new (reused_sid.take 4)
    (handle daemon (polling "claude" "z" 1)).1 = daemon ∧
      (handle_board_message daemon ⟨.SessionResponse,8,[SessionStatusByte.PoolFull.byte]⟩).1 = daemon := by
  have unchanged := failures_change_nothing ⟨_,run_events (reused_sid.take 4)⟩
  constructor
  · refine unchanged.1 _ _ (no_agent "poll" (.Claude,"z")) ?_ (by decide)
    rintro request ⟨⟩
    decide
  · exact unchanged.2 _ "SESSION_RESPONSE failed status=0x04" (by decide)

end VibeBridge.Failures
