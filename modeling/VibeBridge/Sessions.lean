import VibeBridge.Bridge

/-!
What the calls that hand out the board's sids do: queueing a request for a
session, taking a sid from its owners, and answering the request of the first
agent that waits. The agents are told by their lookups, since the order of the
map matters to none of these calls.
-/
namespace VibeBridge.Sessions
open VibeBridge.Core VibeBridge.Protocol VibeBridge.Agent VibeBridge.Daemon VibeBridge.Bridge

/-! ## Requests for a session -/

@[simp] theorem enqueue_registered (daemon : BridgeDaemon) (agent : RegisteredAgent) :
    (enqueue_board_session_request daemon agent).registered = daemon.registered := by
  unfold enqueue_board_session_request
  split <;> rfl

theorem enqueue_pending (daemon : BridgeDaemon) (agent : RegisteredAgent) :
    (enqueue_board_session_request daemon agent).pending_board_sessions =
      if agent.key ∈ daemon.pending_board_sessions then daemon.pending_board_sessions
      else daemon.pending_board_sessions ++ [agent.key] := by
  unfold enqueue_board_session_request
  split <;> rfl

/-- A registration adds its agent to the queue when it needs a sid, has none
    and does not wait yet; it leaves the agents to be written. -/
theorem announce_queue (daemon : BridgeDaemon) (bound : Bool) (agent : RegisteredAgent)
    (same : bound = agent.board_sid.isSome) :
    (announce_registration daemon bound agent).pending_board_sessions =
      (if agent.board_sid = none ∧ is_transport_only_terminal agent = false ∧
          agent.key ∉ daemon.pending_board_sessions
        then daemon.pending_board_sessions ++ [agent.key] else daemon.pending_board_sessions) ∧
    (announce_registration daemon bound agent).registered = daemon.registered := by
  unfold announce_registration
  cases sid : agent.board_sid with
  | some board_sid => simp [same,sid]
  | none =>
    cases exempt : is_transport_only_terminal agent with
    | true => simp [same,sid]
    | false =>
      simp only [same,sid,Option.isSome_none,Bool.false_eq_true,↓reduceIte,enqueue_registered,enqueue_pending,true_and,
        and_true]
      by_cases waits : agent.key ∈ daemon.pending_board_sessions
      · simp [waits]
      · simp [waits]

/-! ## The owners of a sid -/

/-- The agent after the sid is taken from it, if it has it. -/
def without_sid (sid : BoardSid) (agent : RegisteredAgent) : RegisteredAgent :=
  if agent.board_sid = some sid then { agent with board_sid := none } else agent

/-- The agent with a sid. -/
def with_sid (sid : BoardSid) (agent : RegisteredAgent) : RegisteredAgent := { agent with board_sid := some sid }

/-- What is left of the agents after a sid is taken from them. -/
theorem clear_lookup (daemon : BridgeDaemon) (sid : BoardSid) (keep : Option AgentKey) (key : AgentKey) :
    (clear_board_sid_owners daemon sid keep).1.registered.lookup key =
      if keep = some key then daemon.registered.lookup key
      else (daemon.registered.lookup key).map (without_sid sid) := by
  unfold clear_board_sid_owners
  simp only [KeyedMap.lookup_update_all _ (fun agent : RegisteredAgent => { agent with board_sid := none })
    (fun agent => rfl),KeyedMap.mem_keysWhere]
  cases found : daemon.registered.lookup key with
  | none => simp
  | some agent =>
    by_cases owns : agent.board_sid = some sid
    · cases keep with
      | none => simp [owns,without_sid]
      | some kept =>
        by_cases same : kept = key
        · simp [same]
        · simp [owns,same,without_sid]
    · simp [owns,without_sid]

/-! ## The answers of the board -/

/-- A SESSION_RESPONSE that grants a sid. -/
def Grants (sid : UInt16) (payload : List UInt8) : Prop :=
  sid ≠ 0 ∧ (response_status payload = SessionStatusByte.Ok.byte ∨
    response_status payload = SessionStatusByte.Created.byte)

instance (sid : UInt16) (payload : List UInt8) : Decidable (Grants sid payload) :=
  inferInstanceAs (Decidable (_ ∧ _))

/-- A SESSION_RESPONSE that grants nothing is an error and changes nothing. -/
theorem response_refused (daemon : BridgeDaemon) {sid : UInt16} {payload : List UInt8} (refuses : ¬ Grants sid payload) :
    ∃ err, handle_session_response daemon sid payload = (daemon,.error err) := by
  unfold handle_session_response
  split
  · exact ⟨_,rfl⟩
  · rename_i nonzero
    have failed := not_or.mp (fun status => refuses ⟨nonzero,status⟩)
    exact ⟨_,if_pos failed⟩

theorem grants_accepted {sid : UInt16} {payload : List UInt8} (grants : Grants sid payload) :
    ¬ (response_status payload ≠ SessionStatusByte.Ok.byte ∧
      response_status payload ≠ SessionStatusByte.Created.byte) := by
  rintro ⟨not_ok,not_created⟩
  exact grants.2.elim not_ok not_created

/-- A SESSION_RESPONSE that nobody waits for is an error and changes nothing. -/
theorem response_unsolicited (daemon : BridgeDaemon) (sid : UInt16) (payload : List UInt8)
    (nobody : daemon.pending_board_sessions = []) :
    ∃ err, handle_session_response daemon sid payload = (daemon,.error err) := by
  by_cases grants : Grants sid payload
  · unfold handle_session_response
    simp only [if_neg grants.1,if_neg (grants_accepted grants),nobody]
    exact ⟨_,rfl⟩
  · exact response_refused daemon grants

/-- A grant goes to the first that waits, away from whoever had the sid. -/
theorem response_granted {daemon : BridgeDaemon} {sid : UInt16} {payload : List UInt8} {key : AgentKey}
    {waiting : List AgentKey} {agent : RegisteredAgent} (grants : Grants sid payload)
    (queue : daemon.pending_board_sessions = key :: waiting) (found : daemon.registered.lookup key = some agent) :
    ∃ granted, handle_session_response daemon sid payload = (granted,.ok ()) ∧
      granted.pending_board_sessions = waiting ∧
      granted.board_outbox = daemon.board_outbox ++ board_sync_messages (with_sid ⟨sid⟩ agent) ∧
      ∀ other, granted.registered.lookup other = if other = key then some (with_sid ⟨sid⟩ agent)
        else (daemon.registered.lookup other).map (without_sid ⟨sid⟩) := by
  have cleared := clear_lookup { daemon with pending_board_sessions := waiting } ⟨sid⟩ (some key)
  have kept := cleared key
  rw [if_pos rfl,found] at kept
  unfold handle_session_response
  simp only [if_neg grants.1,if_neg (grants_accepted grants),queue,kept]
  refine ⟨_,rfl,rfl,rfl,?_⟩
  intro other
  simp only [BridgeDaemon.push_outbox,BridgeDaemon.insert_agent,KeyedMap.lookup_insert]
  by_cases same : other = key
  · simp [same,with_sid]
  · rw [if_neg same,if_neg same,cleared,if_neg (fun eq => same (Option.some.inj eq).symm)]

/-- A grant to an agent that is gone takes the sid from whoever had it. -/
theorem response_disappeared {daemon : BridgeDaemon} {sid : UInt16} {payload : List UInt8} {key : AgentKey}
    {waiting : List AgentKey} (grants : Grants sid payload)
    (queue : daemon.pending_board_sessions = key :: waiting) (gone : daemon.registered.lookup key = none) :
    ∃ cleared, handle_session_response daemon sid payload =
        (cleared,.error "pending agent disappeared before SESSION_RESPONSE") ∧
      cleared.pending_board_sessions = waiting ∧ cleared.board_outbox = daemon.board_outbox ∧
      ∀ other, cleared.registered.lookup other = (daemon.registered.lookup other).map (without_sid ⟨sid⟩) := by
  have cleared := clear_lookup { daemon with pending_board_sessions := waiting } ⟨sid⟩ (some key)
  have still := cleared key
  rw [if_pos rfl,gone] at still
  unfold handle_session_response
  simp only [if_neg grants.1,if_neg (grants_accepted grants),queue,still]
  refine ⟨_,rfl,rfl,rfl,?_⟩
  intro other
  by_cases same : other = key
  · subst same; rw [still,gone]; rfl
  · rw [cleared,if_neg (fun eq => same (Option.some.inj eq).symm)]

end VibeBridge.Sessions
