import Mathlib.Logic.Relation
import VibeBridge.Sessions

/-!
What the handlers write. Apart from handing out sids, dropping agents and
emptying the outbox, every call is a sequence of a few writes: it appends
messages that are made from an agent's record, queues a request for a session,
writes an agent's record over the old one, or touches what neither the agents
nor the board see (`Write`). What each write keeps, these calls keep.
-/
namespace VibeBridge.Handlers
open Relation
open VibeBridge.Core VibeBridge.Protocol VibeBridge.Agent VibeBridge.Envelope VibeBridge.Daemon
open VibeBridge.Bridge VibeBridge.Sessions

/-- A message that is made from the record of an agent, or a heartbeat. -/
inductive AgentMessage : HidMessage → Prop
  | sync {agent : RegisteredAgent} {msg : HidMessage} (among : msg ∈ board_sync_messages agent) : AgentMessage msg
  | replay {agent : RegisteredAgent} {msg : HidMessage} (made : terminal_replay_message_for_agent agent = some msg) :
      AgentMessage msg
  | stream {sid : UInt16} {bytes : List UInt8} : AgentMessage ⟨.Vt100Stream,sid,bytes⟩
  | heartbeat {sid : UInt16} : AgentMessage (heartbeat_message sid)

/-- The new record of an agent has the marks of the old one: a hook or a launch has registered it. -/
structure Marked (agent new : RegisteredAgent) : Prop where
  hook : agent.from_hook = true → new.from_hook = true
  launch : agent.from_launch = true → new.from_launch = true

theorem marked_refl (agent : RegisteredAgent) : Marked agent agent := ⟨id,id⟩

theorem marked_trans {a b c : RegisteredAgent} (first : Marked a b) (second : Marked b c) : Marked a c :=
  ⟨second.hook ∘ first.hook,second.launch ∘ first.launch⟩

/-- One write of a handler. -/
inductive Write : BridgeDaemon → BridgeDaemon → Prop
  | tells {daemon : BridgeDaemon} {msgs : List HidMessage} (made : ∀ msg ∈ msgs, AgentMessage msg) :
      Write daemon (daemon.push_outbox msgs)
  | asks {daemon : BridgeDaemon} {agent : RegisteredAgent} (new : agent.key ∉ daemon.pending_board_sessions) :
      Write daemon { daemon with
        pending_board_sessions := daemon.pending_board_sessions ++ [agent.key]
        board_outbox := daemon.board_outbox ++ [request_session_message agent] }
  | records {daemon : BridgeDaemon} {key : AgentKey} {new : RegisteredAgent}
      (marks : ∀ agent, daemon.registered.lookup key = some agent → Marked agent new) :
      Write daemon (daemon.insert_agent key new)
  | notes {daemon : BridgeDaemon} (activities : List AgentActivity) (counts : KeyedMap AgentKey UInt8)
      (focused : Option BoardSid) : Write daemon { daemon with
        activities := activities
        passive_missing_counts := counts
        focused_board_sid := focused }

/-- The writes of a call, one after another. -/
abbrev Writes : BridgeDaemon → BridgeDaemon → Prop := ReflTransGen Write

variable {a b : BridgeDaemon}

theorem writes_tell (writes : Writes a b) {msgs : List HidMessage} (made : ∀ msg ∈ msgs, AgentMessage msg) :
    Writes a (b.push_outbox msgs) := writes.tail (.tells made)

theorem writes_insert (writes : Writes a b) {key : AgentKey} {new : RegisteredAgent}
    (marks : ∀ agent, b.registered.lookup key = some agent → Marked agent new) : Writes a (b.insert_agent key new) :=
  writes.tail (.records marks)

/-- Writing back an agent that was found. -/
theorem writes_update {daemon : BridgeDaemon} {key : AgentKey} {agent new : RegisteredAgent}
    (found : daemon.registered.lookup key = some agent) (marks : Marked agent new) :
    Writes daemon (daemon.insert_agent key new) := by
  refine writes_insert .refl ?_
  intro old there
  rw [found] at there
  cases there
  exact marks

theorem writes_activity (writes : Writes a b) (activity : AgentActivity) : Writes a (b.push_activity activity) :=
  writes.tail (.notes (b.activities ++ [activity]) b.passive_missing_counts b.focused_board_sid)

theorem writes_enqueue (writes : Writes a b) (agent : RegisteredAgent) :
    Writes a (enqueue_board_session_request b agent) := by
  unfold enqueue_board_session_request
  split
  · exact writes
  · rename_i new
    exact writes.tail (.asks new)

/-- What each turn of a loop does, the loop does. -/
theorem writes_fold {σ β : Type} (state : σ → BridgeDaemon) {turn : σ → β → σ}
    (each : ∀ s b, Writes (state s) (state (turn s b))) (bs : List β) (s : σ) :
    Writes (state s) (state (bs.foldl turn s)) := by
  induction bs generalizing s with
  | nil => exact .refl
  | cons b rest ih => exact (each s b).trans (ih (turn s b))

/-! ## Messages of an agent -/

/-- None of them asks for a session. -/
theorem made_requests_nothing {msg : HidMessage} (made : AgentMessage msg) : msg.cmd ≠ .RequestSession := by
  cases made with
  | @sync agent msg among => exact sync_requests_nothing agent msg among
  | @replay agent msg replayed =>
    simp only [terminal_replay_message_for_agent,Option.bind_eq_bind,Option.bind_eq_some_iff] at replayed
    obtain ⟨sid,_,same⟩ := replayed
    split at same
    · cases same; simp
    · split at same
      · cases same
      · split at same <;> (cases same; simp)
  | stream => simp
  | heartbeat => simp [heartbeat_message]

theorem status_made (agent : RegisteredAgent) : ∀ msg ∈ (status_message_for_agent agent).toList, AgentMessage msg := by
  intro msg member
  have among : msg ∈ board_sync_messages agent := by
    simp only [board_sync_messages,List.mem_append]
    tauto
  exact .sync among

theorem token_made (agent : RegisteredAgent) : ∀ msg ∈ (token_message_for_agent agent).toList, AgentMessage msg := by
  intro msg member
  have among : msg ∈ board_sync_messages agent := by
    simp only [board_sync_messages,List.mem_append]
    tauto
  exact .sync among

theorem permission_made {agent : RegisteredAgent} {permission : PermissionRequest}
    (pending : permission ∈ agent.pending_permissions) :
    ∀ msg ∈ (permission_message_for_agent agent permission).toList, AgentMessage msg := by
  intro msg member
  have among : msg ∈ board_sync_messages agent := by
    simp only [board_sync_messages,List.mem_append]
    exact .inr (List.mem_filterMap.mpr ⟨permission,pending,Option.mem_toList.mp member⟩)
  exact .sync among

theorem replay_made (agent : RegisteredAgent) :
    ∀ msg ∈ (terminal_replay_message_for_agent agent).toList, AgentMessage msg := by
  intro msg member
  exact .replay (Option.mem_toList.mp member)

theorem writes_live_view (writes : Writes a b) (agent : RegisteredAgent) : Writes a (push_live_view b agent) := by
  unfold push_live_view
  split
  · exact writes_tell writes (replay_made agent)
  · exact writes

/-! ## JSON messages -/

/-- A registration leaves an agent that a hook has registered, with the launch mark of the one before it. -/
theorem registered_marks {daemon : BridgeDaemon} {request : RegistrationEnvelope} {fresh : RegisteredAgent}
    (reading : request.read_agent = .ok fresh) : (registered_agent daemon fresh).from_hook = true ∧
      ∀ existing, daemon.registered.lookup fresh.key = some existing →
        Marked existing (registered_agent daemon fresh) := by
  unfold registered_agent
  cases found : daemon.registered.lookup fresh.key with
  | none =>
    simp only [RegistrationEnvelope.read_agent,bind,Except.bind] at reading
    split at reading
    · cases reading
    · exact ⟨(registration_fresh reading).2.2.2.1,by simp⟩
  | some existing =>
    refine ⟨rfl,?_⟩
    rintro _ ⟨⟩
    exact ⟨fun _ => rfl,fun launched => by simp [carry_over,launched]⟩

theorem writes_announce (writes : Writes a b) (bound : Bool) (agent : RegisteredAgent) :
    Writes a (announce_registration b bound agent) := by
  unfold announce_registration
  split
  · exact writes
  · split
    · exact writes_tell writes (fun msg among => .sync among)
    · split
      · exact writes
      · exact writes_enqueue writes agent

theorem announce_agents (daemon : BridgeDaemon) (bound : Bool) (agent : RegisteredAgent) :
    (announce_registration daemon bound agent).registered = daemon.registered := by
  unfold announce_registration
  split
  · rfl
  · split
    · rfl
    · split
      · rfl
      · exact enqueue_registered daemon agent

theorem writes_register (daemon : BridgeDaemon) (request : RegistrationEnvelope) :
    Writes daemon (agent_register daemon request).1 := by
  unfold agent_register
  split
  · exact .refl
  · rename_i fresh reading
    simp only
    refine writes_insert (writes_announce (writes_activity .refl _) _ _) ?_
    intro agent found
    rw [announce_agents] at found
    exact (registered_marks reading).2 agent found

theorem writes_agent_activity (daemon : BridgeDaemon) (request : RegistrationEnvelope) :
    Writes daemon (agent_activity daemon request).1 := by
  unfold agent_activity
  split
  · exact .refl
  · refine writes_activity ?_ _
    split
    · rename_i found
      refine writes_tell (writes_update found ?_) (status_made _)
      exact ⟨id,id⟩
    · exact .refl

theorem writes_snapshot (daemon : BridgeDaemon) (polled : Except String AgentPollSnapshot) :
    Writes daemon (daemon_snapshot daemon polled).1 := by
  unfold daemon_snapshot poll_once
  cases polled with
  | error err => exact .refl
  | ok found => exact .single (.notes _ daemon.passive_missing_counts daemon.focused_board_sid)

theorem writes_token (daemon : BridgeDaemon) (request : RegistrationEnvelope) :
    Writes daemon (token_update daemon request).1 := by
  unfold token_update
  split
  · exact .refl
  · split
    · exact .refl
    · rename_i found
      refine writes_tell (writes_update found ?_) (token_made _)
      exact ⟨id,id⟩

theorem writes_turn (daemon : BridgeDaemon) (request : RegistrationEnvelope) :
    Writes daemon (turn_append daemon request).1 := by
  unfold turn_append
  split
  · exact .refl
  · split
    · exact .refl
    · rename_i found
      refine writes_live_view (writes_update found ?_) _
      exact ⟨id,id⟩

theorem writes_request (daemon : BridgeDaemon) (request : RegistrationEnvelope) :
    Writes daemon (permission_request daemon request).1 := by
  unfold permission_request
  split
  · exact .refl
  · split
    · exact .refl
    · rename_i found
      refine writes_live_view ?_ _
      refine writes_tell (writes_update found ?_) (permission_made (by simp))
      exact ⟨id,id⟩

theorem writes_resolve (daemon : BridgeDaemon) (request : RegistrationEnvelope) :
    Writes daemon (permission_resolve daemon request).1 := by
  unfold permission_resolve
  split
  · exact .refl
  · split
    · exact .refl
    · rename_i found
      exact writes_update found ⟨id,id⟩

theorem writes_poll (daemon : BridgeDaemon) (request : RegistrationEnvelope) :
    Writes daemon (permission_poll daemon request).1 := by
  unfold permission_poll
  split
  · exact .refl
  · split
    · exact .refl
    · rename_i found
      split
      · exact writes_update found ⟨id,id⟩
      · exact .refl

theorem marked_append_bytes (agent : RegisteredAgent) (bytes : List UInt8) :
    Marked agent (agent.append_terminal_bytes bytes) := by
  unfold RegisteredAgent.append_terminal_bytes
  split
  · exact marked_refl agent
  · split <;> exact ⟨id,id⟩

theorem writes_mirror (bytes : List UInt8) (daemon : BridgeDaemon) (key : AgentKey) :
    Writes daemon (mirror_bytes bytes daemon key) := by
  unfold mirror_bytes
  split
  · exact .refl
  · rename_i agent found
    have written := writes_update found (marked_append_bytes agent bytes)
    simp only
    split
    · split
      · refine writes_tell written ?_
        intro msg among
        rw [List.mem_singleton.mp among]
        exact .stream
      · exact written
    · exact written

theorem writes_stream (daemon : BridgeDaemon) (request : RegistrationEnvelope) :
    Writes daemon (terminal_stream daemon request).1 := by
  unfold terminal_stream
  split
  · exact .refl
  · split
    · exact .refl
    · simp only
      split
      · exact .refl
      · exact writes_fold id (writes_mirror _) _ daemon

/-- A JSON line that is no abort. -/
theorem writes_json (daemon : BridgeDaemon) (line : Except String RegistrationEnvelope)
    (polled : Except String AgentPollSnapshot) (stays : ∀ request, line = .ok request →
      request.message_type ≠ "session.abort") : Writes daemon (handle_json_line daemon line polled).1 := by
  cases line with
  | error err => exact .refl
  | ok request =>
    simp only [handle_json_line]
    split
    · exact writes_register daemon request
    · exact writes_agent_activity daemon request
    · exact writes_snapshot daemon polled
    · exact writes_token daemon request
    · exact writes_turn daemon request
    · exact writes_request daemon request
    · exact writes_resolve daemon request
    · exact writes_poll daemon request
    · exact writes_stream daemon request
    · rename_i type; exact absurd type (stays request rfl)
    · exact .refl

/-! ## The other calls -/

theorem writes_focus (daemon : BridgeDaemon) (sid : UInt16) : Writes daemon (focus_board_sid daemon sid) := by
  unfold focus_board_sid
  split
  · exact .refl
  · have focused : Writes daemon { daemon with focused_board_sid := some ⟨sid⟩ } :=
      .single (.notes daemon.activities daemon.passive_missing_counts (some ⟨sid⟩))
    simp only
    split
    · exact focused
    · exact writes_tell focused (replay_made _)

theorem writes_decision (daemon : BridgeDaemon) (sid : UInt16) (payload : List UInt8) :
    Writes daemon (handle_permission_response daemon sid payload).1 := by
  unfold handle_permission_response
  split
  · exact .refl
  · split
    · exact .refl
    · simp only
      split
      · exact .refl
      · rename_i owner
        exact writes_update (KeyedMap.findEntry_some owner).1 ⟨id,id⟩

theorem writes_discovered (state : BridgeDaemon × Nat) (session : AgentSession) :
    Writes state.1 (register_discovered_session state session).1 := by
  unfold register_discovered_session
  simp only
  split
  · exact .single (.notes state.1.activities _ state.1.focused_board_sid)
  · rename_i new
    have queued := writes_enqueue (writes_activity (a := state.1) .refl ⟨(RegisteredAgent.from_session session).agent_id,
      (RegisteredAgent.from_session session).kind,.Seen,(RegisteredAgent.from_session session).status,
      session.transcript_path⟩) (RegisteredAgent.from_session session)
    refine writes_insert (queued.tail (.notes _ _ _)) ?_
    intro agent found
    simp only [enqueue_registered] at found
    cases new.symm.trans found

theorem writes_turns (state : BridgeDaemon × Nat) (turn : DiscoveredTurn) :
    Writes state.1 (ingest_discovered_turn state turn).1 := by
  unfold ingest_discovered_turn
  simp only
  split
  · exact .refl
  · rename_i found
    exact writes_update found ⟨id,id⟩

theorem writes_heartbeat (daemon : BridgeDaemon) : Writes daemon (push_heartbeats daemon) := by
  refine writes_tell .refl ?_
  intro msg member
  rcases List.mem_cons.mp member with rfl | later
  · exact .heartbeat
  · obtain ⟨sid,_,rfl⟩ := List.mem_map.mp later
    exact .heartbeat

end VibeBridge.Handlers
