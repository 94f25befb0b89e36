import VibeBridge.Sessions
import VibeBridge.Leases

/-!
The daemon as a directory of agents. The agents are the clients, the board's
sids are the leases, the queue of pending board sessions is the queue of those
who wait, and a launched terminal needs no lease. Every event acts on the
directory as the actions that `actions` lists for it (`handle_simulates`), so
what every action keeps, every move of the daemon keeps (`move_keeps`).
-/
namespace VibeBridge.Abstraction
open Transitions Leases
open VibeBridge.Core VibeBridge.Protocol VibeBridge.Payloads VibeBridge.Agent VibeBridge.Envelope VibeBridge.Daemon
open VibeBridge.Bridge VibeBridge.Sessions

abbrev AgentEntry := Entry BoardSid PermissionRequest UInt64 PermissionDecision
abbrev AgentDirectory := Directory AgentKey BoardSid PermissionRequest UInt64 PermissionDecision
abbrev AgentAction := Action AgentKey BoardSid PermissionRequest UInt64 PermissionDecision

/-- What the directory knows of a registered agent. -/
def entry_of (agent : RegisteredAgent) : AgentEntry where
  held := agent.board_sid
  exempt := is_transport_only_terminal agent
  asked := agent.pending_permissions
  decided := fun req_id => agent.resolved_permissions.lookup req_id

def directory (daemon : BridgeDaemon) : AgentDirectory where
  entry key := (daemon.registered.lookup key).map entry_of
  waiting := daemon.pending_board_sessions

/-! ## The actions of an event -/

def register_actions (daemon : BridgeDaemon) (request : RegistrationEnvelope) : List AgentAction :=
  match request.read_agent with
  | .ok fresh => [.enroll fresh.key (is_transport_only_terminal (registered_agent daemon fresh))]
  | .error _ => []

def request_actions (daemon : BridgeDaemon) (request : RegistrationEnvelope) : List AgentAction :=
  match request.read_permission with
  | .ok (key, perm) =>
    match daemon.registered.lookup key with
    | some agent => [.ask key ⟨perm.req_id, agent.board_sid.getD .BROADCAST, perm.tool, perm.args_summary⟩]
    | none => []
  | .error _ => []

def resolve_actions (request : RegistrationEnvelope) : List AgentAction :=
  match request.read_resolve with
  | .ok (key, req_id) => [.withdraw key req_id]
  | .error _ => []

def poll_actions (request : RegistrationEnvelope) : List AgentAction :=
  match request.read_poll with
  | .ok (key, req_id) => [.take key req_id]
  | .error _ => []

def abort_actions (daemon : BridgeDaemon) (request : RegistrationEnvelope) : List AgentAction :=
  match request.read_abort with
  | .ok key => if (daemon.registered.lookup key).isSome then [.leave key] else []
  | .error _ => []

def json_actions (daemon : BridgeDaemon) : Except String RegistrationEnvelope → List AgentAction
  | .error _ => []
  | .ok request =>
    match request.message_type with
    | "agent.register" => register_actions daemon request
    | "permission.request" => request_actions daemon request
    | "permission.resolve" => resolve_actions request
    | "permission.poll" => poll_actions request
    | "session.abort" => abort_actions daemon request
    | _ => []

def response_actions (sid : UInt16) (payload : List UInt8) : List AgentAction :=
  if Grants sid payload then [.grant ⟨sid⟩] else []

def decision_actions (daemon : BridgeDaemon) (sid : UInt16) (payload : List UInt8) : List AgentAction :=
  if sid = 0 then []
  else
    match decode_permission_response payload with
    | none => []
    | some (req_id, byte) =>
      match daemon.registered.findEntry (fun _ agent => agent.board_sid == some ⟨sid⟩) with
      | some (key, _) => [.decide key req_id (permission_decision_from_byte byte)]
      | none => []

def board_actions (daemon : BridgeDaemon) (msg : HidMessage) : List AgentAction :=
  match msg.cmd with
  | .SessionResponse => response_actions msg.sid msg.payload
  | .PermissionRes => decision_actions daemon msg.sid msg.payload
  | .SessionInvalid => if msg.sid = 0 then [] else [.revoke ⟨msg.sid⟩]
  | _ => []

/-- What an event does to the directory. -/
def actions (daemon : BridgeDaemon) : Event → List AgentAction
  | .json_line line _ => json_actions daemon line
  | .board_message msg => board_actions daemon msg
  | .discovered_sessions sessions => sessions.map (fun session => .discover (session.kind, session.agent_id))
  | .prune latest => (prune_missing_passive_sessions daemon latest).2.map .leave
  | _ => []

/-- The effect of actions on a directory of agents. -/
abbrev act (D : AgentDirectory) (as : List AgentAction) : AgentDirectory := applyAll PermissionRequest.req_id D as

/-! ## The parts of the state -/

theorem directory_entry (daemon : BridgeDaemon) (key : AgentKey) :
    (directory daemon).entry key = (daemon.registered.lookup key).map entry_of := rfl

theorem directory_rehashed {daemon other : BridgeDaemon} (same : Rehashed daemon other) :
    directory other = directory daemon := by
  have lookups := rehashed_lookup same
  obtain ⟨registered,order,rfl⟩ := same
  simp only [directory,lookups]

theorem directory_insert (daemon : BridgeDaemon) (key : AgentKey) (agent : RegisteredAgent) :
    directory (daemon.insert_agent key agent) =
      ⟨Function.update (directory daemon).entry key (some (entry_of agent)),daemon.pending_board_sessions⟩ := by
  simp only [directory,BridgeDaemon.insert_agent,Directory.mk.injEq,and_true]
  funext key'
  rw [KeyedMap.lookup_insert,Function.update_apply]
  split <;> rfl

/-- Writing back an agent that the directory cannot tell from the old one changes nothing. -/
theorem directory_insert_same {daemon : BridgeDaemon} {key : AgentKey} {agent new : RegisteredAgent}
    (found : daemon.registered.lookup key = some agent) (same : entry_of new = entry_of agent) :
    directory (daemon.insert_agent key new) = directory daemon := by
  rw [directory_insert,same]
  have old : (directory daemon).entry key = some (entry_of agent) := by rw [directory_entry,found]; rfl
  rw [← old,Function.update_eq_self]
  rfl

/-- Writing back a changed agent changes its entry. -/
theorem directory_insert_modify {daemon : BridgeDaemon} {key : AgentKey} {agent new : RegisteredAgent}
    {f : AgentEntry → AgentEntry} (found : daemon.registered.lookup key = some agent)
    (changed : entry_of new = f (entry_of agent)) :
    directory (daemon.insert_agent key new) = (directory daemon).modify key f := by
  rw [directory_insert,changed,Directory.modify,directory_entry,found]
  rfl

theorem modify_unknown {D : AgentDirectory} {key : AgentKey} {f : AgentEntry → AgentEntry}
    (unknown : D.entry key = none) : D.modify key f = D := by
  rw [Directory.modify,unknown,Option.map_none,← unknown,Function.update_eq_self]

@[simp] theorem directory_push_outbox (daemon : BridgeDaemon) (msgs : List HidMessage) :
    directory (daemon.push_outbox msgs) = directory daemon := rfl

@[simp] theorem directory_push_activity (daemon : BridgeDaemon) (activity : AgentActivity) :
    directory (daemon.push_activity activity) = directory daemon := rfl

@[simp] theorem directory_push_live_view (daemon : BridgeDaemon) (agent : RegisteredAgent) :
    directory (push_live_view daemon agent) = directory daemon := by
  unfold push_live_view
  split <;> rfl

/-! ## JSON messages -/

theorem quiet_activity (daemon : BridgeDaemon) (request : RegistrationEnvelope) :
    directory (agent_activity daemon request).1 = directory daemon := by
  unfold agent_activity
  split
  · rfl
  · simp only [directory_push_activity]
    split
    · rename_i found
      rw [directory_push_outbox]
      exact directory_insert_same found rfl
    · rfl

theorem quiet_token (daemon : BridgeDaemon) (request : RegistrationEnvelope) :
    directory (token_update daemon request).1 = directory daemon := by
  unfold token_update
  split
  · rfl
  · split
    · rfl
    · rename_i found
      rw [directory_push_outbox]
      exact directory_insert_same found rfl

theorem quiet_turn (daemon : BridgeDaemon) (request : RegistrationEnvelope) :
    directory (turn_append daemon request).1 = directory daemon := by
  unfold turn_append
  split
  · rfl
  · split
    · rfl
    · rename_i found
      rw [directory_push_live_view]
      exact directory_insert_same found rfl

theorem entry_append_bytes (agent : RegisteredAgent) (bytes : List UInt8) :
    entry_of (agent.append_terminal_bytes bytes) = entry_of agent :=
  append_bytes_kept entry_of (fun _ _ _ => rfl) agent bytes

theorem quiet_mirror (bytes : List UInt8) (daemon : BridgeDaemon) (key : AgentKey) :
    directory (mirror_bytes bytes daemon key) = directory daemon := by
  unfold mirror_bytes
  split
  · rfl
  · rename_i agent found
    have same := directory_insert_same found (entry_append_bytes agent bytes)
    simp only
    split
    · split
      · rw [directory_push_outbox]; exact same
      · exact same
    · exact same

theorem quiet_stream (daemon : BridgeDaemon) (request : RegistrationEnvelope) :
    directory (terminal_stream daemon request).1 = directory daemon := by
  have mirrors : ∀ (bytes : List UInt8) (keys : List AgentKey) (daemon : BridgeDaemon),
      directory (keys.foldl (mirror_bytes bytes) daemon) = directory daemon := by
    intro bytes keys
    induction keys with
    | nil => intro daemon; rfl
    | cons key rest ih => intro daemon; rw [List.foldl_cons,ih,quiet_mirror]
  unfold terminal_stream
  split
  · rfl
  · split
    · rfl
    · simp only
      split
      · rfl
      · exact mirrors _ _ _

theorem quiet_snapshot (daemon : BridgeDaemon) (polled : Except String AgentPollSnapshot) :
    directory (daemon_snapshot daemon polled).1 = directory daemon := by
  unfold daemon_snapshot poll_once
  cases polled <;> rfl

/-- A new registration is a client entered for the first time. -/
theorem entry_fresh {request : RegistrationEnvelope} {fresh : RegisteredAgent}
    (reading : request.read_agent = .ok fresh) : entry_of fresh = .fresh (is_transport_only_terminal fresh) := by
  simp only [RegistrationEnvelope.read_agent,bind,Except.bind] at reading
  split at reading
  · cases reading
  · obtain ⟨unbound,asked,decided,_,_⟩ := registration_fresh reading
    simp [entry_of,Entry.fresh,unbound,asked,decided]

/-- The agent that a registration leaves has the key of the registration. -/
theorem registered_agent_key (daemon : BridgeDaemon) (fresh : RegisteredAgent) :
    (registered_agent daemon fresh).key = fresh.key := by
  unfold registered_agent
  split <;> rfl

theorem entry_registered {daemon : BridgeDaemon} {request : RegistrationEnvelope} {fresh : RegisteredAgent}
    (reading : request.read_agent = .ok fresh) : entry_of (registered_agent daemon fresh) =
      enrolled (is_transport_only_terminal (registered_agent daemon fresh)) ((directory daemon).entry fresh.key) := by
  rw [directory_entry]
  unfold registered_agent
  cases found : daemon.registered.lookup fresh.key with
  | none => exact entry_fresh reading
  | some existing => rfl

/-- An agent that was bound is bound after its registration, and no other. -/
theorem registered_sid {daemon : BridgeDaemon} {request : RegistrationEnvelope} {fresh : RegisteredAgent}
    (reading : request.read_agent = .ok fresh) : (registered_agent daemon fresh).board_sid =
      (daemon.registered.lookup fresh.key).bind (·.board_sid) := by
  unfold registered_agent
  cases found : daemon.registered.lookup fresh.key with
  | none => exact congrArg Entry.held (entry_fresh reading)
  | some existing => rfl

theorem register_simulates (daemon : BridgeDaemon) (request : RegistrationEnvelope) :
    directory (agent_register daemon request).1 = act (directory daemon) (register_actions daemon request) := by
  unfold agent_register register_actions
  cases reading : request.read_agent with
  | error err => rfl
  | ok fresh =>
    simp only [act,applyAll,List.foldl_cons,List.foldl_nil,apply,directory_insert,Directory.enroll]
    rw [← entry_registered reading]
    obtain ⟨queue,agents⟩ := announce_queue
      (daemon.push_activity ⟨(registered_agent daemon fresh).agent_id,(registered_agent daemon fresh).kind,.Seen,
        (registered_agent daemon fresh).status,""⟩)
      ((daemon.registered.lookup fresh.key).bind (·.board_sid)).isSome (registered_agent daemon fresh)
      (by rw [registered_sid reading])
    rw [queue,registered_agent_key]
    simp only [directory,agents,Directory.mk.injEq]
    refine ⟨rfl,?_⟩
    by_cases asks : (registered_agent daemon fresh).board_sid = none ∧
        is_transport_only_terminal (registered_agent daemon fresh) = false ∧ fresh.key ∉ daemon.pending_board_sessions
    · exact (if_pos asks).trans (if_pos asks).symm
    · exact (if_neg asks).trans (if_neg asks).symm

theorem request_simulates (daemon : BridgeDaemon) (request : RegistrationEnvelope) :
    directory (permission_request daemon request).1 = act (directory daemon) (request_actions daemon request) := by
  unfold permission_request request_actions
  cases request.read_permission with
  | error err => rfl
  | ok named =>
    obtain ⟨key,perm⟩ := named
    cases found : daemon.registered.lookup key with
    | none => simp only [found]; rfl
    | some agent =>
      simp only [found,directory_push_live_view,directory_push_outbox]
      refine directory_insert_modify found ?_
      simp only [entry_of,Entry.mk.injEq,true_and]
      refine ⟨rfl,?_⟩
      funext req_id
      rw [KeyedMap.lookup_erase,Function.update_apply]

/-- Both ways to say that an element is dropped. -/
theorem filter_bne {α β : Type} [DecidableEq β] [BEq β] [LawfulBEq β] (l : List α) (f : α → β) (b : β) :
    l.filter (fun a => f a != b) = l.filter (fun a => f a ≠ b) := by
  refine List.filter_congr ?_
  intro a _
  by_cases same : f a = b
  · simp [same]
  · simp [same]

theorem resolve_simulates (daemon : BridgeDaemon) (request : RegistrationEnvelope) :
    directory (permission_resolve daemon request).1 = act (directory daemon) (resolve_actions request) := by
  unfold permission_resolve resolve_actions
  cases request.read_resolve with
  | error err => rfl
  | ok named =>
    obtain ⟨key,req_id⟩ := named
    cases found : daemon.registered.lookup key with
    | none => simp only [found]; exact (modify_unknown (by rw [directory_entry,found]; rfl)).symm
    | some agent =>
      simp only [found]
      refine directory_insert_modify found ?_
      simp only [entry_of,filter_bne]
      rfl

theorem poll_simulates (daemon : BridgeDaemon) (request : RegistrationEnvelope) :
    directory (permission_poll daemon request).1 = act (directory daemon) (poll_actions request) := by
  unfold permission_poll poll_actions
  cases request.read_poll with
  | error err => rfl
  | ok named =>
    obtain ⟨key,req_id⟩ := named
    cases found : daemon.registered.lookup key with
    | none => simp only [found]; exact (modify_unknown (by rw [directory_entry,found]; rfl)).symm
    | some agent =>
      simp only [found]
      cases decided : agent.resolved_permissions.lookup req_id with
      | some decision =>
        refine directory_insert_modify found ?_
        simp only [entry_of,Entry.mk.injEq,true_and]
        refine ⟨rfl,?_⟩
        funext other
        rw [KeyedMap.lookup_erase,Function.update_apply]
      | none =>
        -- There is no decision to take, so taking it changes nothing.
        have same : Function.update (entry_of agent).decided req_id none = (entry_of agent).decided := by
          rw [← decided]
          exact Function.update_eq_self req_id _
        simp only [act,applyAll,List.foldl_cons,List.foldl_nil,apply,Directory.modify,directory_entry,found,
          Option.map_some,same]
        have old : (directory daemon).entry key = some (entry_of agent) := by rw [directory_entry,found]; rfl
        rw [← old,Function.update_eq_self]

theorem abort_simulates (daemon : BridgeDaemon) (request : RegistrationEnvelope) :
    directory (session_abort daemon request).1 = act (directory daemon) (abort_actions daemon request) := by
  unfold session_abort abort_actions
  cases request.read_abort with
  | error err => rfl
  | ok key =>
    cases found : daemon.registered.lookup key with
    | none => simp [found,act,applyAll]
    | some agent =>
      simp only [found,Option.isSome_some,↓reduceIte,act,applyAll,List.foldl_cons,List.foldl_nil,apply,directory,
        Directory.mk.injEq]
      refine ⟨?_,filter_bne _ _ _⟩
      funext other
      rw [KeyedMap.lookup_erase,Function.update_apply]
      split <;> rfl

theorem json_simulates (daemon : BridgeDaemon) (line : Except String RegistrationEnvelope)
    (polled : Except String AgentPollSnapshot) :
    directory (handle_json_line daemon line polled).1 = act (directory daemon) (json_actions daemon line) := by
  cases line with
  | error err => rfl
  | ok request =>
    simp only [handle_json_line,json_actions]
    split <;> rename_i type
    · simp only [type]; exact register_simulates daemon request
    · simp only [type]; exact quiet_activity daemon request
    · simp only [type]; exact quiet_snapshot daemon polled
    · simp only [type]; exact quiet_token daemon request
    · simp only [type]; exact quiet_turn daemon request
    · simp only [type]; exact request_simulates daemon request
    · simp only [type]; exact resolve_simulates daemon request
    · simp only [type]; exact poll_simulates daemon request
    · simp only [type]; exact quiet_stream daemon request
    · simp only [type]; exact abort_simulates daemon request
    · split
      · contradiction
      · contradiction
      · contradiction
      · contradiction
      · contradiction
      · rfl

/-! ## Messages of the board -/

theorem entry_without (sid : BoardSid) (agent : RegisteredAgent) :
    entry_of (without_sid sid agent) = (entry_of agent).release sid := by
  unfold without_sid Entry.release
  by_cases owns : agent.board_sid = some sid
  · simp [entry_of,owns,is_transport_only_terminal]
  · simp [entry_of,owns]

theorem response_simulates (daemon : BridgeDaemon) (sid : UInt16) (payload : List UInt8) :
    directory (handle_session_response daemon sid payload).1 =
      act (directory daemon) (response_actions sid payload) := by
  unfold response_actions
  by_cases grants : Grants sid payload
  · rw [if_pos grants]
    simp only [act,applyAll,List.foldl_cons,List.foldl_nil,apply]
    cases queue : daemon.pending_board_sessions with
    | nil =>
      obtain ⟨err,same⟩ := response_unsolicited daemon sid payload queue
      rw [same]
      simp [directory,queue]
    | cons key waiting =>
      cases found : daemon.registered.lookup key with
      | none =>
        obtain ⟨cleared,result,pending,_,lookups⟩ := response_disappeared grants queue found
        rw [result]
        simp only [directory,queue,pending,lookups,Directory.mk.injEq,and_true]
        funext other
        by_cases same : other = key
        · subst same; simp [found]
        · simp [same,Function.comp_def,entry_without]
      | some agent =>
        obtain ⟨granted,result,pending,_,lookups⟩ := response_granted grants queue found
        rw [result]
        simp only [directory,queue,pending,lookups,Directory.mk.injEq,and_true]
        funext other
        by_cases same : other = key
        · subst same; simp [found,entry_of,with_sid,is_transport_only_terminal]
        · simp [same,Function.comp_def,entry_without]
  · obtain ⟨err,same⟩ := response_refused daemon grants
    rw [same,if_neg grants]
    rfl

theorem invalid_simulates (daemon : BridgeDaemon) (sid : UInt16) :
    directory (handle_session_invalid daemon sid).1 =
      act (directory daemon) (if sid = 0 then [] else [.revoke ⟨sid⟩]) := by
  unfold handle_session_invalid
  by_cases zero : sid = 0
  · subst zero; rfl
  · have other : sid ≠ BoardSid.BROADCAST.raw := zero
    simp only [if_neg zero,if_neg other,act,applyAll,List.foldl_cons,List.foldl_nil,apply,directory,
      Directory.mk.injEq]
    refine ⟨?_,rfl⟩
    funext key
    rw [clear_lookup,if_neg (by simp),Option.map_map,Option.map_map]
    congr 1
    funext agent
    exact entry_without ⟨sid⟩ agent

theorem quiet_focus (daemon : BridgeDaemon) (sid : UInt16) :
    directory (focus_board_sid daemon sid) = directory daemon := by
  unfold focus_board_sid
  split
  · rfl
  · simp only
    split <;> rfl

theorem decision_simulates (daemon : BridgeDaemon) (sid : UInt16) (payload : List UInt8) :
    directory (handle_permission_response daemon sid payload).1 =
      act (directory daemon) (decision_actions daemon sid payload) := by
  unfold handle_permission_response decision_actions
  by_cases zero : sid = 0
  · simp only [if_pos zero]; rfl
  · simp only [if_neg zero]
    cases decode_permission_response payload with
    | none => rfl
    | some answer =>
      obtain ⟨req_id,byte⟩ := answer
      simp only
      cases owner : daemon.registered.findEntry (fun _ agent => agent.board_sid == some ⟨sid⟩) with
      | none => rfl
      | some entry =>
        obtain ⟨key,agent⟩ := entry
        obtain ⟨found,_⟩ := KeyedMap.findEntry_some owner
        refine directory_insert_modify found ?_
        simp only [entry_of,filter_bne,KeyedMap.lookup_insert,Entry.mk.injEq,true_and]
        refine ⟨rfl,?_⟩
        funext other
        rw [Function.update_apply]

theorem board_simulates (daemon : BridgeDaemon) (msg : HidMessage) :
    directory (handle_board_message daemon msg).1 = act (directory daemon) (board_actions daemon msg) := by
  unfold handle_board_message board_actions
  cases msg.cmd with
  | SessionResponse => exact response_simulates daemon msg.sid msg.payload
  | SessionFocus => exact quiet_focus daemon msg.sid
  | PermissionRes => exact decision_simulates daemon msg.sid msg.payload
  | SessionInvalid => exact invalid_simulates daemon msg.sid
  | _ => rfl

/-! ## Discovery -/

theorem discovered_simulates (state : BridgeDaemon × Nat) (session : AgentSession) :
    directory (register_discovered_session state session).1 =
      apply PermissionRequest.req_id (directory state.1) (.discover (session.kind,session.agent_id)) := by
  unfold register_discovered_session
  simp only [apply,directory_entry,Option.isSome_map]
  cases found : state.1.registered.lookup (session.kind,session.agent_id) with
  | some agent => rfl
  | none =>
    have fresh : entry_of (RegisteredAgent.from_session session) = Entry.fresh false := by
      simp [entry_of,RegisteredAgent.from_session,Entry.fresh,is_transport_only_terminal]
    simp only [Option.isSome_none,Bool.false_eq_true,↓reduceIte,Directory.enroll,directory_insert]
    simp only [directory,enqueue_registered,enqueue_pending,fresh,found,Directory.mk.injEq]
    refine ⟨rfl,?_⟩
    by_cases waits : (session.kind,session.agent_id) ∈ state.1.pending_board_sessions
    · exact (if_pos waits).trans (if_neg (fun new => new.2.2 waits)).symm
    · exact (if_neg waits).trans (if_pos ⟨rfl,trivial,waits⟩).symm

theorem sessions_simulate (daemon : BridgeDaemon) (sessions : List AgentSession) :
    directory (register_discovered_sessions daemon sessions).1 =
      act (directory daemon) (sessions.map (fun session => .discover (session.kind,session.agent_id))) := by
  have each : ∀ (sessions : List AgentSession) (state : BridgeDaemon × Nat),
      directory (sessions.foldl register_discovered_session state).1 =
        act (directory state.1) (sessions.map (fun session => .discover (session.kind,session.agent_id))) := by
    intro sessions
    induction sessions with
    | nil => intro state; rfl
    | cons session rest ih =>
      intro state
      rw [List.foldl_cons,ih,discovered_simulates]
      rfl
  exact each sessions (daemon,0)

theorem quiet_turns (daemon : BridgeDaemon) (turns : List DiscoveredTurn) :
    directory (ingest_discovered_turns daemon turns).1 = directory daemon := by
  have each : ∀ (turns : List DiscoveredTurn) (state : BridgeDaemon × Nat),
      directory (turns.foldl ingest_discovered_turn state).1 = directory state.1 := by
    intro turns
    induction turns with
    | nil => intro state; rfl
    | cons turn rest ih =>
      intro state
      rw [List.foldl_cons,ih]
      unfold ingest_discovered_turn
      simp only
      split
      · rfl
      · rename_i found
        exact directory_insert_same found rfl
  exact each turns (daemon,0)

theorem drop_simulates (daemon : BridgeDaemon) (key : AgentKey) :
    directory (drop_agent daemon key) = apply PermissionRequest.req_id (directory daemon) (.leave key) := by
  simp only [drop_agent,directory,apply,Directory.mk.injEq]
  refine ⟨?_,filter_bne _ _ _⟩
  funext other
  rw [KeyedMap.lookup_erase,Function.update_apply]
  split <;> rfl

theorem prune_simulates (daemon : BridgeDaemon) (latest : List AgentSession) :
    directory (prune_missing_passive_sessions daemon latest).1 =
      act (directory daemon) ((prune_missing_passive_sessions daemon latest).2.map .leave) := by
  have each : ∀ (keys : List AgentKey) (daemon : BridgeDaemon),
      directory (keys.foldl drop_agent daemon) = act (directory daemon) (keys.map .leave) := by
    intro keys
    induction keys with
    | nil => intro daemon; rfl
    | cons key rest ih =>
      intro daemon
      rw [List.foldl_cons,ih,drop_simulates]
      rfl
  exact each _ _

theorem quiet_flush (daemon : BridgeDaemon) (is_connected : Bool) (send : Sends) :
    directory (flush_board_outbox daemon is_connected send).1 = directory daemon := by
  unfold flush_board_outbox
  split <;> rfl

/-! ## Runs -/

/-- Every event acts on the directory as its actions do. -/
theorem handle_simulates (daemon : BridgeDaemon) (event : Event) :
    directory (handle daemon event).1 = act (directory daemon) (actions daemon event) := by
  cases event with
  | json_line line polled => exact json_simulates daemon line polled
  | board_message msg => exact board_simulates daemon msg
  | discovered_sessions sessions => exact sessions_simulate daemon sessions
  | discovered_turns turns => exact quiet_turns daemon turns
  | prune latest => exact prune_simulates daemon latest
  | heartbeat => rfl
  | flush is_connected send => exact quiet_flush daemon is_connected send
  | drain => rfl

/-- A move of the daemon is a move of the directory. -/
theorem move_simulates {m : BridgeMove} (move : bridge m) :
    ∃ daemon, Rehashed m.pre daemon ∧ directory m.post = act (directory m.pre) (actions daemon m.input) := by
  obtain ⟨daemon,same,result⟩ := move
  refine ⟨daemon,same,?_⟩
  rw [← directory_rehashed same,← handle_simulates,result]

/-- What the actions of every event keep, every move of the daemon keeps. -/
theorem move_keeps {P : AgentDirectory → Prop}
    (kept : ∀ D daemon event, ∀ a ∈ actions daemon event, P D → P (apply PermissionRequest.req_id D a))
    {m : BridgeMove} (move : bridge m) (before : P (directory m.pre)) : P (directory m.post) := by
  obtain ⟨daemon,_,same⟩ := move_simulates move
  rw [same]
  exact applyAll_keeps (fun D => kept D daemon m.input) before

end VibeBridge.Abstraction
