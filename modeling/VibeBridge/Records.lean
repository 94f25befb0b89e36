import VibeBridge.Registrations

/-!
Where the record of an agent comes from. A record has the key of its agent and
the marks of who registered it; a call that is no registration and no discovery
leaves both (`Traces`). So a record after a move was there before, with the same
marks, or the move registers the agent, or discovers it (`record_move`).
-/
namespace VibeBridge.Records
open Transitions
open VibeBridge.Core VibeBridge.Protocol VibeBridge.Agent VibeBridge.Envelope VibeBridge.Daemon
open VibeBridge.Bridge VibeBridge.Sessions VibeBridge.Abstraction VibeBridge.Events

/-- The records have the same key, and the same marks of a hook and of a launch. -/
structure SameMarks (agent new : RegisteredAgent) : Prop where
  key : new.key = agent.key
  hook : new.from_hook = agent.from_hook
  launch : new.from_launch = agent.from_launch

theorem same_marks_refl (agent : RegisteredAgent) : SameMarks agent agent := ⟨rfl,rfl,rfl⟩

theorem same_marks_trans {a b c : RegisteredAgent} (first : SameMarks a b) (second : SameMarks b c) : SameMarks a c :=
  ⟨second.key.trans first.key,second.hook.trans first.hook,second.launch.trans first.launch⟩

/-- The agent was in the one state, with the marks it has in the other. -/
def TracedTo (pre : BridgeDaemon) (key : AgentKey) (new : RegisteredAgent) : Prop :=
  ∃ agent, pre.registered.lookup key = some agent ∧ SameMarks agent new

/-- Every agent of the second state was in the first one, with its marks. -/
def Traces (pre post : BridgeDaemon) : Prop := ∀ key new, post.registered.lookup key = some new → TracedTo pre key new

theorem traces_same {pre post : BridgeDaemon} (agents : post.registered = pre.registered) : Traces pre post := by
  intro key new found
  rw [agents] at found
  exact ⟨new,found,same_marks_refl new⟩

theorem traces_refl (daemon : BridgeDaemon) : Traces daemon daemon := traces_same rfl

theorem traces_trans {a b c : BridgeDaemon} (first : Traces a b) (second : Traces b c) : Traces a c := by
  intro key new found
  obtain ⟨middle,there,marks'⟩ := second key new found
  obtain ⟨agent,there',marks⟩ := first key middle there
  exact ⟨agent,there',same_marks_trans marks marks'⟩

/-- A record is written over one with the same marks. -/
theorem traces_update {daemon post : BridgeDaemon} {key : AgentKey} {agent new : RegisteredAgent}
    (found : daemon.registered.lookup key = some agent) (agents : post.registered = daemon.registered.insert key new)
    (marks : SameMarks agent new) : Traces daemon post := by
  intro other newer there
  rw [agents,KeyedMap.lookup_insert] at there
  split at there
  · rename_i same
    cases there
    exact ⟨agent,by rw [same]; exact found,marks⟩
  · exact ⟨newer,there,same_marks_refl newer⟩

theorem traces_erase {daemon post : BridgeDaemon} {key : AgentKey}
    (agents : post.registered = daemon.registered.erase key) : Traces daemon post := by
  intro other new there
  rw [agents,KeyedMap.lookup_erase] at there
  split at there
  · cases there
  · exact ⟨new,there,same_marks_refl new⟩

theorem traces_fold {σ β : Type} (state : σ → BridgeDaemon) {turn : σ → β → σ}
    (each : ∀ s b, Traces (state s) (state (turn s b))) (bs : List β) (s : σ) :
    Traces (state s) (state (bs.foldl turn s)) := by
  induction bs generalizing s with
  | nil => exact traces_refl (state s)
  | cons b rest ih => exact traces_trans (each s b) (ih (turn s b))

/-! ## JSON messages -/

section
variable (daemon : BridgeDaemon) (request : RegistrationEnvelope)

theorem traces_activity : Traces daemon (agent_activity daemon request).1 := by
  unfold agent_activity
  split
  · exact traces_refl daemon
  · simp only
    split
    · rename_i found
      exact traces_update found rfl ⟨rfl,rfl,rfl⟩
    · exact traces_same rfl

theorem traces_snapshot (polled : Except String AgentPollSnapshot) : Traces daemon (daemon_snapshot daemon polled).1 := by
  cases polled with
  | error err => exact traces_refl daemon
  | ok polled => exact traces_same rfl

theorem traces_token : Traces daemon (token_update daemon request).1 := by
  unfold token_update
  split
  · exact traces_refl daemon
  · split
    · exact traces_refl daemon
    · rename_i found
      exact traces_update found rfl ⟨rfl,rfl,rfl⟩

theorem live_view_agents (agent : RegisteredAgent) : (push_live_view daemon agent).registered = daemon.registered := by
  unfold push_live_view
  split <;> rfl

theorem traces_turn : Traces daemon (turn_append daemon request).1 := by
  unfold turn_append
  split
  · exact traces_refl daemon
  · split
    · exact traces_refl daemon
    · rename_i found
      exact traces_update found (live_view_agents _ _) ⟨rfl,rfl,rfl⟩

theorem traces_request : Traces daemon (permission_request daemon request).1 := by
  unfold permission_request
  split
  · exact traces_refl daemon
  · split
    · exact traces_refl daemon
    · rename_i found
      exact traces_update found (live_view_agents _ _) ⟨rfl,rfl,rfl⟩

theorem traces_resolve : Traces daemon (permission_resolve daemon request).1 := by
  unfold permission_resolve
  split
  · exact traces_refl daemon
  · split
    · exact traces_refl daemon
    · rename_i found
      exact traces_update found rfl ⟨rfl,rfl,rfl⟩

theorem traces_poll : Traces daemon (permission_poll daemon request).1 := by
  unfold permission_poll
  split
  · exact traces_refl daemon
  · split
    · exact traces_refl daemon
    · rename_i found
      split
      · exact traces_update found rfl ⟨rfl,rfl,rfl⟩
      · exact traces_refl daemon

theorem traces_mirror (bytes : List UInt8) (key : AgentKey) : Traces daemon (mirror_bytes bytes daemon key) := by
  unfold mirror_bytes
  split
  · exact traces_refl daemon
  · rename_i agent found
    have marks : SameMarks agent (agent.append_terminal_bytes bytes) := by
      constructor
      · exact append_bytes_kept (·.key) (fun _ _ _ => rfl) agent bytes
      · exact append_bytes_kept (·.from_hook) (fun _ _ _ => rfl) agent bytes
      · exact append_bytes_kept (·.from_launch) (fun _ _ _ => rfl) agent bytes
    simp only
    split
    · split
      · exact traces_update found rfl marks
      · exact traces_update found rfl marks
    · exact traces_update found rfl marks

theorem traces_stream : Traces daemon (terminal_stream daemon request).1 := by
  unfold terminal_stream
  split
  · exact traces_refl daemon
  · split
    · exact traces_refl daemon
    · simp only
      split
      · exact traces_refl daemon
      · exact traces_fold id (fun daemon key => traces_mirror daemon _ key) _ daemon

theorem traces_abort : Traces daemon (session_abort daemon request).1 := by
  unfold session_abort
  split
  · exact traces_refl daemon
  · split
    · exact traces_refl daemon
    · exact traces_erase rfl

end

/-- A JSON line that is no registration. -/
theorem traces_json (daemon : BridgeDaemon) (line : Except String RegistrationEnvelope)
    (polled : Except String AgentPollSnapshot)
    (unregistered : ∀ fresh, ¬ Registers (.json_line line polled) fresh) :
    Traces daemon (handle_json_line daemon line polled).1 := by
  cases line with
  | error err => exact traces_refl daemon
  | ok request =>
    simp only [handle_json_line]
    split
    · rename_i type
      cases reading : request.read_agent with
      | error err =>
        simp only [agent_register,reading]
        exact traces_refl daemon
      | ok fresh => exact absurd ⟨request,⟨polled,rfl,type⟩,reading⟩ (unregistered fresh)
    · exact traces_activity daemon request
    · exact traces_snapshot daemon polled
    · exact traces_token daemon request
    · exact traces_turn daemon request
    · exact traces_request daemon request
    · exact traces_resolve daemon request
    · exact traces_poll daemon request
    · exact traces_stream daemon request
    · exact traces_abort daemon request
    · exact traces_refl daemon

/-! ## The other calls -/

theorem same_marks_without (sid : BoardSid) (agent : RegisteredAgent) : SameMarks agent (without_sid sid agent) := by
  unfold without_sid
  split <;> exact ⟨rfl,rfl,rfl⟩

/-- Taking a sid from its owners leaves their marks. -/
theorem traced_without {daemon : BridgeDaemon} {sid : BoardSid} {key : AgentKey} {new : RegisteredAgent}
    (found : (daemon.registered.lookup key).map (without_sid sid) = some new) : TracedTo daemon key new := by
  obtain ⟨agent,there,rfl⟩ := Option.map_eq_some_iff.mp found
  exact ⟨agent,there,same_marks_without sid agent⟩

theorem traces_response (daemon : BridgeDaemon) (sid : UInt16) (payload : List UInt8) :
    Traces daemon (handle_session_response daemon sid payload).1 := by
  by_cases grants : Grants sid payload
  · cases queue : daemon.pending_board_sessions with
    | nil =>
      obtain ⟨err,same⟩ := response_unsolicited daemon sid payload queue
      rw [same]
      exact traces_refl daemon
    | cons first waiting =>
      intro key new there
      cases found : daemon.registered.lookup first with
      | none =>
        obtain ⟨cleared,result,_,_,lookups⟩ := response_disappeared grants queue found
        rw [result,lookups] at there
        exact traced_without there
      | some bound =>
        obtain ⟨granted,result,_,_,lookups⟩ := response_granted grants queue found
        rw [result,lookups] at there
        split at there
        · rename_i same
          cases there
          exact ⟨bound,by rw [same]; exact found,rfl,rfl,rfl⟩
        · exact traced_without there
  · obtain ⟨err,same⟩ := response_refused daemon grants
    rw [same]
    exact traces_refl daemon

theorem traces_invalid (daemon : BridgeDaemon) (sid : UInt16) : Traces daemon (handle_session_invalid daemon sid).1 := by
  unfold handle_session_invalid
  split
  · exact traces_refl daemon
  · intro key new there
    rw [clear_lookup,if_neg (by simp)] at there
    exact traced_without there

theorem traces_focus (daemon : BridgeDaemon) (sid : UInt16) : Traces daemon (focus_board_sid daemon sid) := by
  unfold focus_board_sid
  split
  · exact traces_refl daemon
  · simp only
    split
    · exact traces_same rfl
    · exact traces_same rfl

theorem traces_decision (daemon : BridgeDaemon) (sid : UInt16) (payload : List UInt8) :
    Traces daemon (handle_permission_response daemon sid payload).1 := by
  unfold handle_permission_response
  split
  · exact traces_refl daemon
  · split
    · exact traces_refl daemon
    · simp only
      split
      · exact traces_refl daemon
      · rename_i owner
        exact traces_update (KeyedMap.findEntry_some owner).1 rfl ⟨rfl,rfl,rfl⟩

theorem traces_board (daemon : BridgeDaemon) (msg : HidMessage) : Traces daemon (handle_board_message daemon msg).1 := by
  unfold handle_board_message
  split
  · exact traces_response daemon msg.sid msg.payload
  · exact traces_focus daemon msg.sid
  · exact traces_decision daemon msg.sid msg.payload
  · exact traces_invalid daemon msg.sid
  · exact traces_refl daemon
  · exact traces_refl daemon
  · exact traces_refl daemon

theorem traces_turns (state : BridgeDaemon × Nat) (turn : DiscoveredTurn) :
    Traces state.1 (ingest_discovered_turn state turn).1 := by
  unfold ingest_discovered_turn
  simp only
  split
  · exact traces_refl state.1
  · rename_i found
    exact traces_update found rfl ⟨rfl,rfl,rfl⟩

theorem traces_prune (daemon : BridgeDaemon) (latest : List AgentSession) :
    Traces daemon (prune_missing_passive_sessions daemon latest).1 := by
  unfold prune_missing_passive_sessions
  simp only
  exact traces_trans (traces_same rfl) (traces_fold id (fun daemon key => traces_erase rfl) _ _)

theorem traces_flush (daemon : BridgeDaemon) (is_connected : Bool) (send : Sends) :
    Traces daemon (flush_board_outbox daemon is_connected send).1 := by
  unfold flush_board_outbox
  split
  · exact traces_refl daemon
  · exact traces_same rfl

/-! ## Registrations and discoveries -/

/-- A registration writes the record of its agent, and no other. -/
theorem register_lookup {daemon : BridgeDaemon} {request : RegistrationEnvelope} {fresh : RegisteredAgent}
    (reading : request.read_agent = .ok fresh) (key : AgentKey) :
    (agent_register daemon request).1.registered.lookup key =
      if key = fresh.key then some (registered_agent daemon fresh) else daemon.registered.lookup key := by
  simp only [agent_register,reading,BridgeDaemon.insert_agent,KeyedMap.lookup_insert,Handlers.announce_agents]
  rfl

/-- The record of an agent that is discovered now. -/
def Discovered (daemon : BridgeDaemon) (sessions : List AgentSession) (key : AgentKey) (new : RegisteredAgent) : Prop :=
  daemon.registered.lookup key = none ∧
    ∃ session ∈ sessions, (session.kind,session.agent_id) = key ∧ new = RegisteredAgent.from_session session

theorem discovered_lookup (state : BridgeDaemon × Nat) (session : AgentSession) (key : AgentKey) :
    (register_discovered_session state session).1.registered.lookup key =
      if key = (session.kind,session.agent_id) ∧ state.1.registered.lookup key = none
      then some (RegisteredAgent.from_session session) else state.1.registered.lookup key := by
  unfold register_discovered_session
  simp only
  cases found : state.1.registered.lookup (session.kind,session.agent_id) with
  | some agent =>
    simp only
    rw [if_neg]
    rintro ⟨rfl,unknown⟩
    rw [found] at unknown
    cases unknown
  | none =>
    simp only [BridgeDaemon.insert_agent,KeyedMap.lookup_insert,enqueue_registered]
    by_cases own : key = (session.kind,session.agent_id)
    · rw [if_pos own,if_pos ⟨own,by rw [own]; exact found⟩]
    · rw [if_neg own,if_neg (fun both => own both.1)]
      rfl

/-- Discovery leaves the records that are there, and adds those of the sessions that are new. -/
theorem discovered_records (sessions : List AgentSession) (state : BridgeDaemon × Nat) (key : AgentKey) :
    (∀ agent, state.1.registered.lookup key = some agent →
      (sessions.foldl register_discovered_session state).1.registered.lookup key = some agent) ∧
    (state.1.registered.lookup key = none → ∀ new,
      (sessions.foldl register_discovered_session state).1.registered.lookup key = some new →
        Discovered state.1 sessions key new) := by
  induction sessions generalizing state with
  | nil =>
    refine ⟨fun agent found => found,?_⟩
    intro unknown new there
    rw [List.foldl_nil,unknown] at there
    cases there
  | cons session rest ih =>
    obtain ⟨kept,added⟩ := ih (register_discovered_session state session)
    rw [List.foldl_cons]
    rw [discovered_lookup] at kept added
    constructor
    · intro agent found
      refine kept agent ?_
      rw [if_neg]
      · exact found
      · rintro ⟨_,unknown⟩
        rw [found] at unknown
        cases unknown
    · intro unknown new there
      by_cases own : key = (session.kind,session.agent_id)
      · have first := kept (RegisteredAgent.from_session session) (if_pos ⟨own,unknown⟩)
        rw [first] at there
        exact ⟨unknown,session,by simp,own.symm,(Option.some.inj there).symm⟩
      · obtain ⟨_,session',member,same,made⟩ := added (by rw [if_neg (fun both => own both.1)]; exact unknown) new there
        exact ⟨unknown,session',by simp [member],same,made⟩

/-! ## Moves -/

/-- Where the record of an agent after an event comes from. -/
inductive RecordOrigin (daemon : BridgeDaemon) (event : Event) (key : AgentKey) (new : RegisteredAgent) : Prop
  | kept (traced : TracedTo daemon key new)
  | registered {fresh : RegisteredAgent} (told : Registers event fresh) (own : fresh.key = key)
      (made : new = registered_agent daemon fresh)
  | discovered {sessions : List AgentSession} (told : event = .discovered_sessions sessions)
      (made : Discovered daemon sessions key new)

theorem handle_records (daemon : BridgeDaemon) (event : Event) {key : AgentKey} {new : RegisteredAgent}
    (found : (handle daemon event).1.registered.lookup key = some new) : RecordOrigin daemon event key new := by
  cases event with
  | json_line line polled =>
    by_cases registers : ∃ fresh, Registers (.json_line line polled) fresh
    · obtain ⟨fresh,told⟩ := registers
      have told' := told
      obtain ⟨request,⟨polled',input,type⟩,reading⟩ := told'
      cases input
      simp only [handle,handle_json_line,type] at found
      rw [register_lookup reading] at found
      split at found
      · rename_i own
        cases found
        exact .registered told own.symm rfl
      · exact .kept ⟨new,found,same_marks_refl new⟩
    · exact .kept (traces_json daemon line polled (fun fresh told => registers ⟨fresh,told⟩) key new found)
  | board_message msg => exact .kept (traces_board daemon msg key new found)
  | discovered_sessions sessions =>
    obtain ⟨kept,added⟩ := discovered_records sessions (daemon,0) key
    cases before : daemon.registered.lookup key with
    | some agent =>
      have same := kept agent before
      rw [show (sessions.foldl register_discovered_session (daemon,0)).1.registered.lookup key = some new from found] at same
      cases same
      exact .kept ⟨new,before,same_marks_refl new⟩
    | none => exact .discovered rfl (added before new found)
  | discovered_turns turns => exact .kept (traces_fold Prod.fst traces_turns turns (daemon,0) key new found)
  | prune latest => exact .kept (traces_prune daemon latest key new found)
  | heartbeat => exact .kept ⟨new,found,same_marks_refl new⟩
  | flush is_connected send => exact .kept (traces_flush daemon is_connected send key new found)
  | drain => exact .kept ⟨new,found,same_marks_refl new⟩

theorem registered_rehashed {daemon other : BridgeDaemon} (same : Rehashed daemon other) (fresh : RegisteredAgent) :
    registered_agent other fresh = registered_agent daemon fresh := by
  rw [registered_agent,rehashed_lookup same,registered_agent]

/-- A record after a move was there with its marks, or the move registers or discovers its agent. -/
theorem record_move {m : BridgeMove} (move : bridge m) {key : AgentKey} {new : RegisteredAgent}
    (found : m.post.registered.lookup key = some new) : RecordOrigin m.pre m.input key new := by
  obtain ⟨daemon,same,result⟩ := move
  have after : (handle daemon m.input).1.registered.lookup key = some new := by
    rw [result]
    exact found
  have origin := handle_records daemon m.input after
  cases origin with
  | kept traced =>
    obtain ⟨agent,there,marks⟩ := traced
    exact .kept ⟨agent,(rehashed_lookup same key).symm.trans there,marks⟩
  | registered told own made => exact .registered told own (by rw [made,registered_rehashed same])
  | discovered told made =>
    obtain ⟨unknown,session⟩ := made
    exact .discovered told ⟨(rehashed_lookup same key).symm.trans unknown,session⟩

/-- Every agent is registered under its own key. -/
def OwnKeys (daemon : BridgeDaemon) : Prop := ∀ key agent, daemon.registered.lookup key = some agent → agent.key = key

theorem own_keys_move {m : BridgeMove} (move : bridge m) (own : OwnKeys m.pre) : OwnKeys m.post := by
  intro key new found
  cases record_move move found with
  | kept traced =>
    obtain ⟨agent,there,marks⟩ := traced
    rw [marks.key]
    exact own key agent there
  | registered told own' made => rw [made,registered_agent_key,own']
  | discovered told made =>
    obtain ⟨_,session,_,same,rfl⟩ := made
    exact same

theorem own_keys_run {ms : List BridgeMove} {daemon : BridgeDaemon} (run : Run ms daemon) : OwnKeys daemon :=
  path_invariant (fun _ move => own_keys_move move) run (by intro key agent found; cases found)

end VibeBridge.Records
