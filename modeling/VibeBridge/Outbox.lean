import VibeBridge.Bindings
import VibeBridge.Handlers

/-!
What a move adds to the outbox. Every call but a flush or a drain appends
messages to it (`move_appends`), and the messages that ask for a session are
those of the agents that the call queues, in the same order (`Grown`).
-/
namespace VibeBridge.Outbox
open Transitions
open VibeBridge.Core VibeBridge.Protocol VibeBridge.Agent VibeBridge.Envelope VibeBridge.Daemon
open VibeBridge.Bridge VibeBridge.Sessions VibeBridge.Handlers VibeBridge.Abstraction VibeBridge.Events
open VibeBridge.Bindings

/-- The message is a REQUEST_SESSION. -/
def asks_session (msg : HidMessage) : Bool := msg.cmd == .RequestSession

/-- The message is the REQUEST_SESSION of an agent with this key. -/
def AsksFor (msg : HidMessage) (key : AgentKey) : Prop := ∃ agent, agent.key = key ∧ msg = request_session_message agent

/-- From one state to the other messages were appended to the outbox, and the
    agents of its new requests to the queue. -/
structure Grown (pre post : BridgeDaemon) (keys : List AgentKey) : Prop where
  pending : post.pending_board_sessions = pre.pending_board_sessions ++ keys
  outbox : ∃ news, post.board_outbox = pre.board_outbox ++ news ∧ List.Forall₂ AsksFor (news.filter asks_session) keys

theorem grown_refl (daemon : BridgeDaemon) : Grown daemon daemon [] := ⟨by simp,[],by simp,.nil⟩

theorem grown_trans {a b c : BridgeDaemon} {keys keys' : List AgentKey} (first : Grown a b keys)
    (second : Grown b c keys') : Grown a c (keys ++ keys') := by
  obtain ⟨pending,news,outbox,asked⟩ := first
  obtain ⟨pending',news',outbox',asked'⟩ := second
  refine ⟨by rw [pending',pending,List.append_assoc],news ++ news',by rw [outbox',outbox,List.append_assoc],?_⟩
  rw [List.filter_append]
  exact List.rel_append asked asked'

/-- States with the same queue and the same outbox are alike here. -/
theorem grown_same {a b c : BridgeDaemon} {keys : List AgentKey} (grown : Grown a b keys)
    (pending : c.pending_board_sessions = b.pending_board_sessions) (outbox : c.board_outbox = b.board_outbox) :
    Grown a c keys := by
  obtain ⟨pending',news,outbox',asked⟩ := grown
  exact ⟨by rw [pending,pending'],news,by rw [outbox,outbox'],asked⟩

/-- Every write of a handler only appends. -/
theorem grown_writes {a b : BridgeDaemon} (writes : Writes a b) : ∃ keys, Grown a b keys := by
  induction writes with
  | refl => exact ⟨[],grown_refl a⟩
  | @tail daemon c _ write ih =>
    obtain ⟨keys,grown⟩ := ih
    cases write with
    | @tells msgs made =>
      have none : msgs.filter asks_session = [] := by
        rw [List.filter_eq_nil_iff]
        intro msg member
        simpa [asks_session] using made_requests_nothing (made msg member)
      have pushed : Grown daemon (daemon.push_outbox msgs) [] :=
        ⟨by simp [BridgeDaemon.push_outbox],msgs,rfl,by rw [none]; exact .nil⟩
      exact ⟨_,grown_trans grown pushed⟩
    | @asks agent new =>
      refine ⟨_,grown_trans grown ⟨rfl,[request_session_message agent],rfl,?_⟩⟩
      exact .cons ⟨agent,rfl,rfl⟩ .nil
    | records marks => exact ⟨keys,grown_same grown rfl rfl⟩
    | notes activities counts focused => exact ⟨keys,grown_same grown rfl rfl⟩

/-! ## Calls that are no writes -/

/-- An abort leaves the outbox, and the agents that wait beside the one that goes. -/
theorem abort_appends (daemon : BridgeDaemon) (request : RegistrationEnvelope) :
    (session_abort daemon request).1.board_outbox = daemon.board_outbox := by
  unfold session_abort
  split
  · rfl
  · split <;> rfl

/-- Only an agent is pruned that is bound, and that neither a hook nor a launch has registered. -/
theorem pruned_candidate {daemon : BridgeDaemon} {latest : List AgentSession} {key : AgentKey}
    (dropped : key ∈ (prune_missing_passive_sessions daemon latest).2) :
    ∃ agent, daemon.registered.lookup key = some agent ∧ agent.from_launch = false ∧ agent.from_hook = false ∧
      agent.board_sid.isSome = true := by
  have counted : ∀ (keys : List AgentKey) (state : KeyedMap AgentKey UInt8 × List AgentKey),
      key ∈ (keys.foldl (count_missing daemon.registered (latest.map (fun s => (s.kind,s.agent_id)))) state).2 →
        key ∈ keys ∨ key ∈ state.2 := by
    intro keys
    induction keys with
    | nil => intro state member; exact .inr member
    | cons first rest ih =>
      intro state member
      rcases ih _ member with later | before
      · exact .inl (List.mem_cons_of_mem _ later)
      · unfold count_missing at before
        split at before
        · exact .inr before
        · split at before
          · simp only at before
            split at before
            · rcases List.mem_append.mp before with old | new
              · exact .inr old
              · exact .inl (by simp [List.mem_singleton.mp new])
            · exact .inr before
          · split at before
            · exact .inr before
            · exact .inr before
  rcases counted _ _ dropped with candidate | none
  · obtain ⟨agent,found,passes⟩ := KeyedMap.mem_keysWhere.mp candidate
    simp only [Bool.and_eq_true,Bool.not_eq_true'] at passes
    exact ⟨agent,found,passes.1.1,passes.1.2,passes.2⟩
  · cases none

theorem pruned_bound {daemon : BridgeDaemon} {latest : List AgentSession} {key : AgentKey}
    (dropped : key ∈ (prune_missing_passive_sessions daemon latest).2) : ∃ sid, sid_of daemon key = some sid := by
  obtain ⟨agent,found,_,_,bound⟩ := pruned_candidate dropped
  obtain ⟨sid,bound⟩ := Option.isSome_iff_exists.mp bound
  exact ⟨sid,sid_of_iff.mpr ⟨agent,found,bound⟩⟩

/-- Pruning leaves the outbox, and the queue when only unbound agents are in it. -/
theorem grown_prune {daemon : BridgeDaemon} (sound : Sound daemon) (latest : List AgentSession) :
    Grown daemon (prune_missing_passive_sessions daemon latest).1 [] := by
  have each : ∀ (keys : List AgentKey) (other : BridgeDaemon), Grown daemon other [] →
      (∀ key ∈ keys, key ∉ daemon.pending_board_sessions) → Grown daemon (keys.foldl drop_agent other) [] := by
    intro keys
    induction keys with
    | nil => intro other grown _; exact grown
    | cons key rest ih =>
      intro other grown out
      refine ih _ (grown_same grown ?_ rfl) (fun key later => out key (List.mem_cons_of_mem _ later))
      rw [drop_agent,grown.pending,List.append_nil,List.filter_eq_self]
      intro pending waits
      rw [bne_iff_ne]
      rintro rfl
      exact out pending (by simp) waits
  have unbound : ∀ key ∈ (prune_missing_passive_sessions daemon latest).2, key ∉ daemon.pending_board_sessions := by
    intro key dropped waits
    obtain ⟨sid,bound⟩ := pruned_bound dropped
    obtain ⟨agent,found,bound⟩ := sid_of_iff.mp bound
    obtain ⟨agent',found',unbound⟩ := pending_unbound sound waits
    rw [found] at found'
    cases found'
    rw [unbound] at bound
    cases bound
  exact each (prune_missing_passive_sessions daemon latest).2 _ (grown_same (grown_refl daemon) rfl rfl) unbound

theorem grown_invalid (daemon : BridgeDaemon) (sid : UInt16) : Grown daemon (handle_session_invalid daemon sid).1 [] := by
  unfold handle_session_invalid
  split
  · exact grown_refl daemon
  · exact grown_same (grown_refl daemon) rfl rfl

/-- A message of the board other than SESSION_RESPONSE. -/
theorem grown_board (daemon : BridgeDaemon) (msg : HidMessage) (other : msg.cmd ≠ .SessionResponse) :
    ∃ keys, Grown daemon (handle_board_message daemon msg).1 keys := by
  unfold handle_board_message
  split
  · rename_i response; exact absurd response other
  · exact grown_writes (writes_focus daemon msg.sid)
  · exact grown_writes (writes_decision daemon msg.sid msg.payload)
  · exact ⟨[],grown_invalid daemon msg.sid⟩
  · exact ⟨[],grown_refl daemon⟩
  · exact ⟨[],grown_refl daemon⟩
  · exact ⟨[],grown_refl daemon⟩

/-- A SESSION_RESPONSE appends what the agent it answers has to tell. -/
theorem response_makes (daemon : BridgeDaemon) (sid : UInt16) (payload : List UInt8) :
    ∃ news, (handle_session_response daemon sid payload).1.board_outbox = daemon.board_outbox ++ news ∧
      ∀ msg ∈ news, AgentMessage msg := by
  by_cases grants : Grants sid payload
  · cases queue : daemon.pending_board_sessions with
    | nil =>
      obtain ⟨err,same⟩ := response_unsolicited daemon sid payload queue
      exact ⟨[],by simp [same],by simp⟩
    | cons key waiting =>
      cases found : daemon.registered.lookup key with
      | none =>
        obtain ⟨cleared,result,_,outbox,_⟩ := response_disappeared grants queue found
        exact ⟨[],by simp [result,outbox],by simp⟩
      | some agent =>
        obtain ⟨granted,result,_,outbox,_⟩ := response_granted grants queue found
        exact ⟨_,by rw [result,outbox],fun msg among => .sync among⟩
  · obtain ⟨err,same⟩ := response_refused daemon grants
    exact ⟨[],by simp [same],by simp⟩

/-- None of it asks for a session. -/
theorem response_appends (daemon : BridgeDaemon) (sid : UInt16) (payload : List UInt8) :
    ∃ news, (handle_session_response daemon sid payload).1.board_outbox = daemon.board_outbox ++ news ∧
      ∀ msg ∈ news, msg.cmd ≠ .RequestSession := by
  obtain ⟨news,outbox,made⟩ := response_makes daemon sid payload
  exact ⟨news,outbox,fun msg among => made_requests_nothing (made msg among)⟩

/-! ## Moves -/

/-- The event is neither a flush nor a drain of the outbox. -/
def Keeps (event : Event) : Prop := event ≠ .drain ∧ ∀ is_connected send, event ≠ .flush is_connected send

/-- The event is an answer to a REQUEST_SESSION. -/
def Answers (event : Event) (sid : UInt16) (payload : List UInt8) : Prop :=
  event = .board_message ⟨.SessionResponse,sid,payload⟩

/-- What a call appends to the outbox and to the queue, unless it aborts an
    agent or answers a request. -/
theorem handle_grows {daemon : BridgeDaemon} (sound : Sound daemon) {event : Event} (keeps : Keeps event)
    (stays : ∀ request, ¬ Carries event "session.abort" request) (unanswered : ∀ sid payload, ¬ Answers event sid payload) :
    ∃ keys, Grown daemon (handle daemon event).1 keys := by
  cases event with
  | json_line line polled =>
    refine grown_writes (writes_json daemon line polled ?_)
    rintro request rfl type
    exact stays request ⟨polled,rfl,type⟩
  | board_message msg =>
    refine grown_board daemon msg ?_
    intro response
    exact unanswered msg.sid msg.payload (by rw [Answers,← response])
  | discovered_sessions sessions => exact grown_writes (writes_fold Prod.fst writes_discovered sessions (daemon,0))
  | discovered_turns turns => exact grown_writes (writes_fold Prod.fst writes_turns turns (daemon,0))
  | prune latest => exact ⟨[],grown_prune sound latest⟩
  | heartbeat => exact grown_writes (writes_heartbeat daemon)
  | flush is_connected send => exact absurd rfl (keeps.2 is_connected send)
  | drain => exact absurd rfl keeps.1

theorem prune_outbox (daemon : BridgeDaemon) (latest : List AgentSession) :
    (prune_missing_passive_sessions daemon latest).1.board_outbox = daemon.board_outbox := by
  have each : ∀ (keys : List AgentKey) (other : BridgeDaemon),
      (keys.foldl drop_agent other).board_outbox = other.board_outbox := by
    intro keys
    induction keys with
    | nil => intro other; rfl
    | cons key rest ih => intro other; rw [List.foldl_cons,ih]; rfl
  exact each _ _

theorem handle_appends (daemon : BridgeDaemon) {event : Event} (keeps : Keeps event) :
    ∃ news, (handle daemon event).1.board_outbox = daemon.board_outbox ++ news := by
  have grows : ∀ {post}, (∃ keys, Grown daemon post keys) → ∃ news, post.board_outbox = daemon.board_outbox ++ news := by
    rintro post ⟨_,_,news,outbox,_⟩
    exact ⟨news,outbox⟩
  cases event with
  | json_line line polled =>
    by_cases aborts : ∃ request, line = .ok request ∧ request.message_type = "session.abort"
    · obtain ⟨request,rfl,type⟩ := aborts
      refine ⟨[],?_⟩
      simp only [handle,handle_json_line,type,abort_appends,List.append_nil]
    · exact grows (grown_writes (writes_json daemon line polled (fun request same type => aborts ⟨request,same,type⟩)))
  | board_message msg =>
    by_cases response : msg.cmd = .SessionResponse
    · obtain ⟨news,outbox,_⟩ := response_appends daemon msg.sid msg.payload
      exact ⟨news,by simp only [handle,handle_board_message,response,outbox]⟩
    · exact grows (grown_board daemon msg response)
  | discovered_sessions sessions => exact grows (grown_writes (writes_fold Prod.fst writes_discovered sessions (daemon,0)))
  | discovered_turns turns => exact grows (grown_writes (writes_fold Prod.fst writes_turns turns (daemon,0)))
  | prune latest => exact ⟨[],by simp only [handle,prune_outbox,List.append_nil]⟩
  | heartbeat => exact grows (grown_writes (writes_heartbeat daemon))
  | flush is_connected send => exact absurd rfl (keeps.2 is_connected send)
  | drain => exact absurd rfl keeps.1

theorem rehashed_outbox {daemon other : BridgeDaemon} (same : Rehashed daemon other) :
    other.board_outbox = daemon.board_outbox ∧ other.pending_board_sessions = daemon.pending_board_sessions := by
  obtain ⟨registered,_,rfl⟩ := same
  exact ⟨rfl,rfl⟩

/-- The messages that a move appends to the outbox. -/
def enqueued (m : BridgeMove) : List HidMessage := m.post.board_outbox.drop m.pre.board_outbox.length

/-- Every move but a flush or a drain leaves in the outbox what is there. -/
theorem move_appends {m : BridgeMove} (move : bridge m) (keeps : Keeps m.input) :
    m.post.board_outbox = m.pre.board_outbox ++ enqueued m := by
  obtain ⟨daemon,same,result⟩ := move
  obtain ⟨news,outbox⟩ := handle_appends daemon keeps
  rw [result,(rehashed_outbox same).1] at outbox
  rw [enqueued,outbox,List.drop_left]

/-! ## Answers of the board -/

/-- An answer that grants nothing, or that nobody waits for, leaves queue and sids as they are. -/
theorem refused_step {m : BridgeMove} (move : bridge m) {sid : UInt16} {payload : List UInt8}
    (answers : Answers m.input sid payload) (refused : ¬ Grants sid payload ∨ m.pre.pending_board_sessions = []) :
    m.post.pending_board_sessions = m.pre.pending_board_sessions ∧ (∀ key, sid_of m.post key = sid_of m.pre key) ∧
      m.output ≠ .board (.ok ()) := by
  obtain ⟨daemon,same,result⟩ := move
  have error : ∃ err, handle_session_response daemon sid payload = (daemon,.error err) := by
    rcases refused with refuses | nobody
    · exact response_refused daemon refuses
    · exact response_unsolicited daemon sid payload ((rehashed_outbox same).2.trans nobody)
  obtain ⟨err,unchanged⟩ := error
  rw [answers] at result
  simp only [handle,handle_board_message,unchanged,Prod.mk.injEq] at result
  obtain ⟨rfl,output⟩ := result
  refine ⟨(rehashed_outbox same).2,fun key => ?_,by rw [← output]; simp⟩
  rw [sid_of,rehashed_lookup same]
  rfl

/-- A grant goes to the first agent that waits. -/
theorem granted_step {m : BridgeMove} (move : bridge m) (sound : Sound m.pre) {sid : UInt16} {payload : List UInt8}
    (answers : Answers m.input sid payload) (grants : Grants sid payload) {key : AgentKey} {waiting : List AgentKey}
    (queue : m.pre.pending_board_sessions = key :: waiting) :
    m.post.pending_board_sessions = waiting ∧ m.output = .board (.ok ()) ∧ sid_of m.post key = some ⟨sid⟩ ∧
      sid_of m.pre key = none := by
  obtain ⟨daemon,same,result⟩ := move
  obtain ⟨agent,found,unbound⟩ := pending_unbound sound (show key ∈ _ by rw [queue]; simp)
  obtain ⟨granted,response,pending,_,lookups⟩ := response_granted grants
    ((rehashed_outbox same).2.trans queue) ((rehashed_lookup same key).trans found)
  rw [answers] at result
  simp only [handle,handle_board_message,response,Prod.mk.injEq] at result
  obtain ⟨rfl,output⟩ := result
  refine ⟨pending,output.symm,?_,?_⟩
  · simp [sid_of,lookups,with_sid]
  · simp [sid_of,found,unbound]

/-- An answer appends to the outbox what the agent that it binds has to tell. -/
theorem response_move {m : BridgeMove} (move : bridge m) {sid : UInt16} {payload : List UInt8}
    (answers : Answers m.input sid payload) :
    ∃ news, m.post.board_outbox = m.pre.board_outbox ++ news ∧ ∀ msg ∈ news, msg.cmd ≠ .RequestSession := by
  obtain ⟨daemon,same,result⟩ := move
  obtain ⟨news,outbox,others⟩ := response_appends daemon sid payload
  have post : (handle_session_response daemon sid payload).1 = m.post := by
    rw [answers] at result
    exact congrArg Prod.fst result
  rw [post,(rehashed_outbox same).1] at outbox
  exact ⟨news,outbox,others⟩

end VibeBridge.Outbox
