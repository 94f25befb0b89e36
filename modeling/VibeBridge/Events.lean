import VibeBridge.Abstraction

/-!
What an event says, in the words of the protocol: which agent asks for which
permission, withdraws it, polls for it or aborts, and which sid the board
grants, invalidates or decides a permission for. Each action on the directory
has its cause in such an event (`actions_cause`), and each such event has its
action (`cause_actions`).
-/
namespace VibeBridge.Events
open Transitions Leases
open VibeBridge.Core VibeBridge.Protocol VibeBridge.Payloads VibeBridge.Agent VibeBridge.Envelope VibeBridge.Daemon
open VibeBridge.Bridge VibeBridge.Sessions VibeBridge.Abstraction

/-! ## Events -/

/-- The event is a JSON line of this message type. -/
def Carries (event : Event) (message_type : String) (request : RegistrationEnvelope) : Prop :=
  ∃ polled, event = .json_line (.ok request) polled ∧ request.message_type = message_type

def Registers (event : Event) (fresh : RegisteredAgent) : Prop :=
  ∃ request, Carries event "agent.register" request ∧ request.read_agent = .ok fresh

def Requests (event : Event) (key : AgentKey) (perm : PermissionRequestPayload) : Prop :=
  ∃ request, Carries event "permission.request" request ∧ request.read_permission = .ok (key,perm)

def Resolves (event : Event) (key : AgentKey) (req_id : UInt64) : Prop :=
  ∃ request, Carries event "permission.resolve" request ∧ request.read_resolve = .ok (key,req_id)

def Polls (event : Event) (key : AgentKey) (req_id : UInt64) : Prop :=
  ∃ request, Carries event "permission.poll" request ∧ request.read_poll = .ok (key,req_id)

def Aborts (event : Event) (key : AgentKey) : Prop :=
  ∃ request, Carries event "session.abort" request ∧ request.read_abort = .ok key

/-- The board grants the sid to whoever asked first. -/
def GrantsSid (event : Event) (sid : UInt16) : Prop :=
  ∃ payload, event = .board_message ⟨.SessionResponse,sid,payload⟩ ∧ Grants sid payload

def Invalidates (event : Event) (sid : UInt16) : Prop :=
  ∃ payload, event = .board_message ⟨.SessionInvalid,sid,payload⟩ ∧ sid ≠ 0

/-- The board answers the permission of the agent that has the sid. -/
def Decides (event : Event) (sid : UInt16) (req_id : UInt64) (decision : PermissionDecision) : Prop :=
  ∃ payload byte, event = .board_message ⟨.PermissionRes,sid,payload⟩ ∧ sid ≠ 0 ∧
    decode_permission_response payload = some (req_id,byte) ∧ permission_decision_from_byte byte = decision

/-- The record of a permission request, with the sid that the agent has at the time. -/
def recorded (agent : RegisteredAgent) (perm : PermissionRequestPayload) : PermissionRequest :=
  ⟨perm.req_id,agent.board_sid.getD .BROADCAST,perm.tool,perm.args_summary⟩

/-! ## Causes of actions -/

/-- What brings about an action on the directory. -/
inductive Cause (daemon : BridgeDaemon) (event : Event) : AgentAction → Prop
  | register {fresh : RegisteredAgent} (told : Registers event fresh) :
      Cause daemon event (.enroll fresh.key (is_transport_only_terminal (registered_agent daemon fresh)))
  | discover {sessions : List AgentSession} {session : AgentSession} (told : event = .discovered_sessions sessions)
      (among : session ∈ sessions) : Cause daemon event (.discover (session.kind,session.agent_id))
  | request {key : AgentKey} {perm : PermissionRequestPayload} {agent : RegisteredAgent}
      (told : Requests event key perm) (found : daemon.registered.lookup key = some agent) :
      Cause daemon event (.ask key (recorded agent perm))
  | resolve {key : AgentKey} {req_id : UInt64} (told : Resolves event key req_id) :
      Cause daemon event (.withdraw key req_id)
  | poll {key : AgentKey} {req_id : UInt64} (told : Polls event key req_id) : Cause daemon event (.take key req_id)
  | abort {key : AgentKey} (told : Aborts event key) (known : (daemon.registered.lookup key).isSome) :
      Cause daemon event (.leave key)
  | prune {key : AgentKey} {latest : List AgentSession} (told : event = .prune latest)
      (among : key ∈ (prune_missing_passive_sessions daemon latest).2) : Cause daemon event (.leave key)
  | grant {sid : UInt16} (told : GrantsSid event sid) : Cause daemon event (.grant ⟨sid⟩)
  | revoke {sid : UInt16} (told : Invalidates event sid) : Cause daemon event (.revoke ⟨sid⟩)
  | decide {key : AgentKey} {agent : RegisteredAgent} {sid : UInt16} {req_id : UInt64} {decision : PermissionDecision}
      (told : Decides event sid req_id decision)
      (owner : daemon.registered.findEntry (fun _ agent => agent.board_sid == some ⟨sid⟩) = some (key,agent)) :
      Cause daemon event (.decide key req_id decision)

theorem json_cause {daemon : BridgeDaemon} {line : Except String RegistrationEnvelope}
    {polled : Except String AgentPollSnapshot} {a : AgentAction} (member : a ∈ json_actions daemon line) :
    Cause daemon (.json_line line polled) a := by
  cases line with
  | error err => simp [json_actions] at member
  | ok request =>
    simp only [json_actions] at member
    split at member <;> rename_i type
    · unfold register_actions at member
      split at member
      · rename_i fresh reading
        rw [List.mem_singleton.mp member]
        exact .register ⟨request,⟨polled,rfl,type⟩,reading⟩
      · simp at member
    · unfold request_actions at member
      split at member
      · rename_i reading
        split at member
        · rename_i found
          rw [List.mem_singleton.mp member]
          exact .request ⟨request,⟨polled,rfl,type⟩,reading⟩ found
        · simp at member
      · simp at member
    · unfold resolve_actions at member
      split at member
      · rename_i reading
        rw [List.mem_singleton.mp member]
        exact .resolve ⟨request,⟨polled,rfl,type⟩,reading⟩
      · simp at member
    · unfold poll_actions at member
      split at member
      · rename_i reading
        rw [List.mem_singleton.mp member]
        exact .poll ⟨request,⟨polled,rfl,type⟩,reading⟩
      · simp at member
    · unfold abort_actions at member
      split at member
      · rename_i reading
        split at member
        · rename_i known
          rw [List.mem_singleton.mp member]
          exact .abort ⟨request,⟨polled,rfl,type⟩,reading⟩ known
        · simp at member
      · simp at member
    · simp at member

theorem board_cause {daemon : BridgeDaemon} {msg : HidMessage} {a : AgentAction} (member : a ∈ board_actions daemon msg) :
    Cause daemon (.board_message msg) a := by
  obtain ⟨cmd,sid,payload⟩ := msg
  cases cmd with
  | SessionResponse =>
    simp only [board_actions,response_actions] at member
    split at member
    · rename_i grants
      rw [List.mem_singleton.mp member]
      exact .grant ⟨payload,rfl,grants⟩
    · simp at member
  | SessionInvalid =>
    simp only [board_actions] at member
    split at member
    · simp at member
    · rename_i nonzero
      rw [List.mem_singleton.mp member]
      exact .revoke ⟨payload,rfl,nonzero⟩
  | PermissionRes =>
    simp only [board_actions,decision_actions] at member
    split at member
    · simp at member
    · rename_i nonzero
      split at member
      · simp at member
      · rename_i reading
        split at member
        · rename_i owner
          rw [List.mem_singleton.mp member]
          exact .decide ⟨payload,_,rfl,nonzero,reading,rfl⟩ owner
        · simp at member
  | _ => simp [board_actions] at member

/-- An action is brought about by what the event says. -/
theorem actions_cause {daemon : BridgeDaemon} {event : Event} {a : AgentAction} (member : a ∈ actions daemon event) :
    Cause daemon event a := by
  cases event with
  | json_line line polled => exact json_cause member
  | board_message msg => exact board_cause member
  | discovered_sessions sessions =>
    obtain ⟨session,among,rfl⟩ := List.mem_map.mp member
    exact .discover rfl among
  | prune latest =>
    obtain ⟨key,among,rfl⟩ := List.mem_map.mp member
    exact .prune rfl among
  | _ => simp [actions] at member

/-- What an event says brings about its action. -/
theorem cause_actions {daemon : BridgeDaemon} {event : Event} {a : AgentAction} (cause : Cause daemon event a) :
    a ∈ actions daemon event := by
  cases cause with
  | register told =>
    obtain ⟨request,⟨polled,rfl,type⟩,reading⟩ := told
    simp [actions,json_actions,type,register_actions,reading]
  | discover told among => subst told; exact List.mem_map.mpr ⟨_,among,rfl⟩
  | request told found =>
    obtain ⟨request,⟨polled,rfl,type⟩,reading⟩ := told
    simp [actions,json_actions,type,request_actions,reading,found,recorded]
  | resolve told =>
    obtain ⟨request,⟨polled,rfl,type⟩,reading⟩ := told
    simp [actions,json_actions,type,resolve_actions,reading]
  | poll told =>
    obtain ⟨request,⟨polled,rfl,type⟩,reading⟩ := told
    simp [actions,json_actions,type,poll_actions,reading]
  | abort told known =>
    obtain ⟨request,⟨polled,rfl,type⟩,reading⟩ := told
    simp [actions,json_actions,type,abort_actions,reading,known]
  | prune told among => subst told; exact List.mem_map.mpr ⟨_,among,rfl⟩
  | grant told =>
    obtain ⟨payload,rfl,grants⟩ := told
    simp [actions,board_actions,response_actions,grants]
  | revoke told =>
    obtain ⟨payload,rfl,nonzero⟩ := told
    simp [actions,board_actions,nonzero]
  | decide told owner =>
    obtain ⟨payload,byte,rfl,nonzero,reading,rfl⟩ := told
    simp [actions,board_actions,decision_actions,nonzero,reading,owner]

/-! ## What a move does to an agent -/

/-- An event has one action, or it only discovers agents and drops them. -/
theorem actions_shape (daemon : BridgeDaemon) (event : Event) : (∃ a, actions daemon event = [a]) ∨
    ∀ a ∈ actions daemon event, ∃ key, a = .discover key ∨ a = .leave key := by
  cases event with
  | json_line line polled =>
    cases line with
    | error err => right; simp [actions,json_actions]
    | ok request =>
      simp only [actions,json_actions]
      split
      · unfold register_actions; split <;> simp
      · unfold request_actions; split
        · split <;> simp
        · simp
      · unfold resolve_actions; split <;> simp
      · unfold poll_actions; split <;> simp
      · unfold abort_actions; split
        · split <;> simp
        · simp
      · simp
  | board_message msg =>
    simp only [actions,board_actions]
    split
    · unfold response_actions; split <;> simp
    · unfold decision_actions; split
      · simp
      · split
        · simp
        · split <;> simp
    · split <;> simp
    · simp
  | discovered_sessions sessions => right; simp only [actions,List.mem_map]; rintro a ⟨session,_,rfl⟩; exact ⟨_,.inl rfl⟩
  | prune latest => right; simp only [actions,List.mem_map]; rintro a ⟨key,_,rfl⟩; exact ⟨_,.inr rfl⟩
  | _ => right; simp [actions]

/-- Discovering and dropping agents leaves the agents that are there as they are. -/
theorem discovered_entry {as : List AgentAction} (only : ∀ a ∈ as, ∃ key, a = .discover key ∨ a = .leave key)
    {D : AgentDirectory} {key : AgentKey} {e : AgentEntry} (after : (act D as).entry key = some e) :
    D.entry key = some e ∨ ∃ exempt, e = .fresh exempt := by
  induction as generalizing D with
  | nil => exact .inl after
  | cons a rest ih =>
    rcases ih (fun a later => only a (List.mem_cons_of_mem _ later)) after with middle | fresh
    · rcases entry_apply middle with ⟨_,fresh⟩ | ⟨e',before,change⟩
      · exact .inr fresh
      · obtain ⟨other,rfl | rfl⟩ := only a List.mem_cons_self
        · cases change; exact .inl before
        · cases change; exact .inl before
    · exact .inr fresh

/-- An action that neither discovers an agent nor drops one is all that its event does. -/
theorem cause_single {daemon : BridgeDaemon} {event : Event} {a : AgentAction} (cause : Cause daemon event a)
    (stays : ∀ key, a ≠ .discover key ∧ a ≠ .leave key) : actions daemon event = [a] := by
  have member := cause_actions cause
  rcases actions_shape daemon event with ⟨a',single⟩ | only
  · rw [single] at member
    rw [single,List.mem_singleton.mp member]
  · obtain ⟨key,rfl | rfl⟩ := only a member
    · exact absurd rfl (stays key).1
    · exact absurd rfl (stays key).2

/-- An agent after a move is new, is as it was, or was changed by the action
    of the event, its only one. -/
theorem move_entry {m : BridgeMove} (move : bridge m) {key : AgentKey} {e : AgentEntry}
    (after : (directory m.post).entry key = some e) : (∃ exempt, e = .fresh exempt) ∨
      (directory m.pre).entry key = some e ∨ ∃ daemon e' a, Rehashed m.pre daemon ∧
        (directory m.pre).entry key = some e' ∧ Cause daemon m.input a ∧
        Changed PermissionRequest.req_id (directory m.pre) key e' a e := by
  obtain ⟨daemon,same,effect⟩ := move_simulates move
  rw [effect] at after
  rcases actions_shape daemon m.input with ⟨a,single⟩ | only
  · rw [single] at after
    rcases entry_apply after with ⟨_,fresh⟩ | ⟨e',before,change⟩
    · exact .inl fresh
    · exact .inr (.inr ⟨daemon,e',a,same,before,actions_cause (by rw [single]; simp),change⟩)
  · rcases discovered_entry only after with before | fresh
    · exact .inr (.inl before)
    · exact .inl fresh

/-! ## Messages in their simplest form -/

/-- A hook or a launcher registers an agent. -/
def registration (kind agent_id : String) (from_launch : Bool) : Event :=
  .json_line (.ok { message_type := "agent.register", agent := some { agent_id, kind, from_launch } }) (.ok ⟨[],[],[]⟩)

def abortion (kind agent_id : String) : Event :=
  .json_line (.ok { message_type := "session.abort", abort := some { agent_id, kind } }) (.ok ⟨[],[],[]⟩)

/-- A hook reports the status of an agent. -/
def reporting (kind agent_id status : String) : Event :=
  .json_line (.ok { message_type := "agent.activity", activity := some { agent_id, kind, activity := "seen", status } })
    (.ok ⟨[],[],[]⟩)

/-- A hook asks for a permission. -/
def asking (kind agent_id : String) (req_id : UInt64) : Event :=
  .json_line (.ok { message_type := "permission.request", permission := some { agent_id, kind, req_id, tool := "Bash" } })
    (.ok ⟨[],[],[]⟩)

def polling (kind agent_id : String) (req_id : UInt64) : Event :=
  .json_line (.ok { message_type := "permission.poll", poll := some { agent_id, kind, req_id } }) (.ok ⟨[],[],[]⟩)

/-- A terminal sends what it shows, in hexadecimal digits. -/
def streaming (kind agent_id data_hex : String) : Event :=
  .json_line (.ok { message_type := "terminal.stream", stream := some { agent_id, kind, data_hex } }) (.ok ⟨[],[],[]⟩)

/-- The board decides a permission. -/
def permission_response (sid : UInt16) (req_id : UInt64) (decision : PermissionDecisionByte) : Event :=
  .board_message ⟨.PermissionRes,sid,encode_permission_response req_id decision⟩

/-- The board answers a request for a session. -/
def session_response (sid : UInt16) (status : SessionStatusByte) : Event :=
  .board_message ⟨.SessionResponse,sid,[status.byte]⟩

/-- The board opens the screen of a sid. -/
def session_focus (sid : UInt16) : Event := .board_message ⟨.SessionFocus,sid,[]⟩

def session_invalid (sid : UInt16) : Event := .board_message ⟨.SessionInvalid,sid,[]⟩

/-- A flush whose frames all reach the board. -/
def full_flush : Event := .flush true (fun _ => .ok ())

end VibeBridge.Events
