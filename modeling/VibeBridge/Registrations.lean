import VibeBridge.Approvals
import VibeBridge.Outbox

/-!
How an agent came to be registered. A record tells whether a hook or a launch
has registered its agent, and no call takes that back: what is written over a
record keeps both marks (`Retains`). Pruning drops neither kind of agent, so an
agent that a hook registers is there until it is aborted (`hooked_move`).
-/
namespace VibeBridge.Registrations
open Transitions Leases
open VibeBridge.Core VibeBridge.Protocol VibeBridge.Agent VibeBridge.Envelope VibeBridge.Daemon
open VibeBridge.Bridge VibeBridge.Sessions VibeBridge.Handlers VibeBridge.Abstraction VibeBridge.Events
open VibeBridge.Bindings VibeBridge.Outbox VibeBridge.Approvals

/-- The agent after a call that leaves it in the map. -/
def KeptIn (post : BridgeDaemon) (key : AgentKey) (agent : RegisteredAgent) : Prop :=
  ∃ new, post.registered.lookup key = some new ∧ Marked agent new

/-- Every agent of the one state is in the other, with its marks. -/
def Retains (pre post : BridgeDaemon) : Prop :=
  ∀ key agent, pre.registered.lookup key = some agent → KeptIn post key agent

theorem retains_refl (daemon : BridgeDaemon) : Retains daemon daemon :=
  fun _ agent found => ⟨agent,found,marked_refl agent⟩

theorem retains_trans {a b c : BridgeDaemon} (first : Retains a b) (second : Retains b c) : Retains a c := by
  intro key agent found
  obtain ⟨middle,there,marks⟩ := first key agent found
  obtain ⟨new,there',marks'⟩ := second key middle there
  exact ⟨new,there',marked_trans marks marks'⟩

/-- States with the same agents are alike here. -/
theorem retains_same {a b c : BridgeDaemon} (kept : Retains a b) (agents : c.registered = b.registered) : Retains a c := by
  intro key agent found
  rw [KeptIn,agents]
  exact kept key agent found

/-- Writing an agent over a record keeps the agents when it keeps the marks of the record. -/
theorem retains_insert {a b : BridgeDaemon} (kept : Retains a b) {key : AgentKey} {new : RegisteredAgent}
    (marks : ∀ agent, b.registered.lookup key = some agent → Marked agent new) : Retains a (b.insert_agent key new) := by
  refine retains_trans kept ?_
  intro other agent found
  rw [KeptIn,BridgeDaemon.insert_agent,KeyedMap.lookup_insert]
  by_cases same : other = key
  · subst same
    exact ⟨new,if_pos rfl,marks agent found⟩
  · exact ⟨agent,(if_neg same).trans found,marked_refl agent⟩

/-- Every write of a handler leaves the agents in the map, with their marks. -/
theorem retains_writes {a b : BridgeDaemon} (writes : Writes a b) : Retains a b := by
  induction writes with
  | refl => exact retains_refl a
  | tail _ write ih =>
    cases write with
    | tells made => exact retains_same ih rfl
    | asks new => exact retains_same ih rfl
    | records marks => exact retains_insert ih marks
    | notes activities counts focused => exact retains_same ih rfl

/-! ## JSON messages -/

/-- An abort drops the agent that it names, and no other. -/
theorem abort_keeps (daemon : BridgeDaemon) (request : RegistrationEnvelope) {key : AgentKey} {agent : RegisteredAgent}
    (found : daemon.registered.lookup key = some agent) (other : request.read_abort ≠ .ok key) :
    KeptIn (session_abort daemon request).1 key agent := by
  unfold session_abort
  split
  · exact retains_refl daemon key agent found
  · rename_i aborted reading
    split
    · exact retains_refl daemon key agent found
    · refine ⟨agent,?_,marked_refl agent⟩
      rw [KeyedMap.lookup_erase,if_neg]
      · exact found
      · rintro rfl; exact other reading

/-- A JSON line that does not abort the agent. -/
theorem json_keeps (daemon : BridgeDaemon) (line : Except String RegistrationEnvelope)
    (polled : Except String AgentPollSnapshot) {key : AgentKey} {agent : RegisteredAgent}
    (found : daemon.registered.lookup key = some agent) (stays : ¬ Aborts (.json_line line polled) key) :
    KeptIn (handle_json_line daemon line polled).1 key agent := by
  by_cases aborts : ∃ request, line = .ok request ∧ request.message_type = "session.abort"
  · obtain ⟨request,rfl,type⟩ := aborts
    simp only [handle_json_line,type]
    exact abort_keeps daemon request found (fun reading => stays ⟨request,⟨polled,rfl,type⟩,reading⟩)
  · exact retains_writes (writes_json daemon line polled (fun request same type => aborts ⟨request,same,type⟩)) key
      agent found

/-! ## The other calls -/

theorem marked_without (sid : BoardSid) (agent : RegisteredAgent) : Marked agent (without_sid sid agent) := by
  unfold without_sid
  split <;> exact ⟨id,id⟩

theorem retains_response (daemon : BridgeDaemon) (sid : UInt16) (payload : List UInt8) :
    Retains daemon (handle_session_response daemon sid payload).1 := by
  by_cases grants : Grants sid payload
  · cases queue : daemon.pending_board_sessions with
    | nil =>
      obtain ⟨err,same⟩ := response_unsolicited daemon sid payload queue
      rw [same]
      exact retains_refl daemon
    | cons first waiting =>
      intro key agent there
      cases found : daemon.registered.lookup first with
      | none =>
        obtain ⟨cleared,result,_,_,lookups⟩ := response_disappeared grants queue found
        refine ⟨without_sid ⟨sid⟩ agent,?_,marked_without _ _⟩
        rw [result,lookups,there]
        rfl
      | some bound =>
        obtain ⟨granted,result,_,_,lookups⟩ := response_granted grants queue found
        rw [KeptIn,result,lookups,there]
        by_cases same : key = first
        · subst same
          rw [there] at found
          cases found
          exact ⟨_,if_pos rfl,⟨id,id⟩⟩
        · exact ⟨_,if_neg same,marked_without _ _⟩
  · obtain ⟨err,same⟩ := response_refused daemon grants
    rw [same]
    exact retains_refl daemon

theorem retains_invalid (daemon : BridgeDaemon) (sid : UInt16) : Retains daemon (handle_session_invalid daemon sid).1 := by
  unfold handle_session_invalid
  split
  · exact retains_refl daemon
  · intro key agent found
    refine ⟨without_sid ⟨sid⟩ agent,?_,marked_without _ _⟩
    rw [clear_lookup,if_neg (by simp),found]
    rfl

theorem retains_board (daemon : BridgeDaemon) (msg : HidMessage) : Retains daemon (handle_board_message daemon msg).1 := by
  unfold handle_board_message
  split
  · exact retains_response daemon msg.sid msg.payload
  · exact retains_writes (writes_focus daemon msg.sid)
  · exact retains_writes (writes_decision daemon msg.sid msg.payload)
  · exact retains_invalid daemon msg.sid
  · exact retains_refl daemon
  · exact retains_refl daemon
  · exact retains_refl daemon

/-- Pruning leaves the agents that a hook has registered. -/
theorem prune_keeps (daemon : BridgeDaemon) (latest : List AgentSession) {key : AgentKey} {agent : RegisteredAgent}
    (found : daemon.registered.lookup key = some agent) (hooked : agent.from_hook = true) :
    KeptIn (prune_missing_passive_sessions daemon latest).1 key agent := by
  have each : ∀ (keys : List AgentKey) (other : BridgeDaemon), key ∉ keys → other.registered.lookup key = some agent →
      (keys.foldl drop_agent other).registered.lookup key = some agent := by
    intro keys
    induction keys with
    | nil => intro other _ there; exact there
    | cons first rest ih =>
      intro other out there
      refine ih _ (fun later => out (List.mem_cons_of_mem _ later)) ?_
      rw [drop_agent,KeyedMap.lookup_erase,if_neg]
      · exact there
      · rintro rfl; exact out List.mem_cons_self
  refine ⟨agent,each _ _ ?_ found,marked_refl agent⟩
  intro dropped
  obtain ⟨agent',found',_,unhooked,_⟩ := pruned_candidate dropped
  rw [found] at found'
  cases found'
  rw [hooked] at unhooked
  cases unhooked

theorem retains_flush (daemon : BridgeDaemon) (is_connected : Bool) (send : Sends) :
    Retains daemon (flush_board_outbox daemon is_connected send).1 := by
  unfold flush_board_outbox
  split
  · exact retains_refl daemon
  · exact retains_same (retains_refl daemon) rfl

/-! ## Moves -/

/-- A hook has registered the agent. -/
def Hooked (daemon : BridgeDaemon) (key : AgentKey) : Prop :=
  ∃ agent, daemon.registered.lookup key = some agent ∧ agent.from_hook = true

theorem hooked_known {daemon : BridgeDaemon} {key : AgentKey} (hooked : Hooked daemon key) : Known daemon key := by
  obtain ⟨agent,found,_⟩ := hooked
  exact ⟨agent,found⟩

theorem handle_hooked {daemon : BridgeDaemon} {event : Event} {key : AgentKey} (hooked : Hooked daemon key)
    (stays : ¬ Aborts event key) : Hooked (handle daemon event).1 key := by
  obtain ⟨agent,found,mark⟩ := hooked
  have kept : KeptIn (handle daemon event).1 key agent := by
    cases event with
    | json_line line polled => exact json_keeps daemon line polled found stays
    | board_message msg => exact retains_board daemon msg key agent found
    | discovered_sessions sessions =>
      exact retains_writes (writes_fold Prod.fst writes_discovered sessions (daemon,0)) key agent found
    | discovered_turns turns =>
      exact retains_writes (writes_fold Prod.fst writes_turns turns (daemon,0)) key agent found
    | prune latest => exact prune_keeps daemon latest found mark
    | heartbeat => exact retains_refl daemon key agent found
    | flush is_connected send => exact retains_flush daemon is_connected send key agent found
    | drain => exact retains_refl daemon key agent found
  obtain ⟨new,there,marks⟩ := kept
  exact ⟨new,there,marks.hook mark⟩

theorem hooked_rehashed {daemon other : BridgeDaemon} (same : Rehashed daemon other) {key : AgentKey}
    (hooked : Hooked daemon key) : Hooked other key := by
  obtain ⟨agent,found,mark⟩ := hooked
  exact ⟨agent,(rehashed_lookup same key).trans found,mark⟩

/-- An agent that a hook has registered stays so until it is aborted. -/
theorem hooked_move {m : BridgeMove} (move : bridge m) {key : AgentKey} (hooked : Hooked m.pre key)
    (stays : ¬ Aborts m.input key) : Hooked m.post key := by
  obtain ⟨daemon,same,result⟩ := move
  have kept := handle_hooked (hooked_rehashed same hooked) stays
  rwa [result] at kept

/-- It is not pruned. -/
theorem hooked_stays {m : BridgeMove} (move : bridge m) {key : AgentKey} (hooked : Hooked m.pre key)
    (stays : ¬ Aborts m.input key) : Stays m key := by
  refine ⟨stays,?_⟩
  rintro keys output among
  obtain ⟨daemon,same,result⟩ := move
  obtain ⟨agent,found,mark⟩ := hooked_rehashed same hooked
  rw [output] at result
  cases input : m.input with
  | prune latest =>
    rw [input] at result
    simp only [handle,Prod.mk.injEq,Reply.dropped.injEq] at result
    obtain ⟨agent',found',_,unhooked,_⟩ := pruned_candidate (result.2 ▸ among)
    rw [found] at found'
    cases found'
    rw [mark] at unhooked
    cases unhooked
  | _ => rw [input] at result; cases congrArg Prod.snd result

/-- It has its sid until the board grants or invalidates one. -/
theorem sid_move {m : BridgeMove} (move : bridge m) {key : AgentKey} {sid : BoardSid} (bound : sid_of m.pre key = some sid)
    (stays : Stays m key) (unanswered : ∀ sid, ¬ GrantsSid m.input sid ∧ ¬ Invalidates m.input sid) :
    sid_of m.post key = some sid := by
  obtain ⟨agent,found,bound⟩ := sid_of_iff.mp bound
  obtain ⟨e,after,held⟩ := entry_kept (P := fun e => e.held = some sid) move stays (by
    intro daemon D a e e' _ cause change held
    cases change with
    | granted first => cases cause with | grant told => exact absurd told (unanswered _).1
    | stolen had other notFirst => cases cause with | grant told => exact absurd told (unanswered _).1
    | revoked had => cases cause with | revoke told => exact absurd told (unanswered _).2
    | _ => exact held) ⟨_,entry_lookup found,bound⟩
  obtain ⟨new,there,rfl⟩ := lookup_entry after
  exact sid_of_iff.mpr ⟨new,there,held⟩

/-- A registration that is accepted leaves an agent that a hook has registered. -/
theorem registers_hooked {m : BridgeMove} (move : bridge m) {fresh : RegisteredAgent} (told : Registers m.input fresh) :
    Hooked m.post fresh.key := by
  obtain ⟨daemon,same,result⟩ := move
  obtain ⟨request,⟨polled,input,type⟩,reading⟩ := told
  rw [input] at result
  simp only [handle,handle_json_line,type,agent_register,reading,Prod.mk.injEq] at result
  refine ⟨registered_agent daemon fresh,?_,(registered_marks reading).1⟩
  rw [← result.1,BridgeDaemon.insert_agent,KeyedMap.lookup_insert,if_pos rfl]

end VibeBridge.Registrations
