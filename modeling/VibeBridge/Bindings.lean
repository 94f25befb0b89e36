import VibeBridge.Events

/-!
Which agent has which sid. In every state that the daemon reaches a sid has at
most one owner and is never the broadcast id, and those who wait for a session
are registered agents without a sid that wait once (`Sound`). So a
SESSION_RESPONSE always finds the agent it answers, and never gives an agent
another sid than it has.
-/
namespace VibeBridge.Bindings
open Transitions Leases
open VibeBridge.Core VibeBridge.Protocol VibeBridge.Agent VibeBridge.Envelope VibeBridge.Daemon
open VibeBridge.Bridge VibeBridge.Sessions VibeBridge.Abstraction VibeBridge.Events

/-- The directory of the agents is well formed, and the board assigned every sid in it. -/
structure Sound (daemon : BridgeDaemon) : Prop where
  valid : WellFormed (directory daemon)
  assigned : ∀ key e, (directory daemon).entry key = some e → e.held ≠ some .BROADCAST

theorem sound_new : Sound BridgeDaemon.new :=
  ⟨wellFormed_empty,by intro key e found; simp [directory,BridgeDaemon.new] at found⟩

theorem sound_move {m : BridgeMove} (move : bridge m) (sound : Sound m.pre) : Sound m.post := by
  refine ⟨move_keeps (fun D _ _ a _ => wellFormed_apply a) move sound.valid,?_⟩
  refine move_keeps (P := fun D => ∀ key e, D.entry key = some e → e.held ≠ some .BROADCAST) ?_ move sound.assigned
  intro D daemon event a member assigned key e after broadcast
  rcases held_apply after broadcast with ⟨e',before,held⟩ | ⟨rfl,_⟩
  · exact assigned key e' before held
  · cases actions_cause member with
    | grant told =>
      obtain ⟨payload,_,nonzero,_⟩ := told
      exact nonzero rfl

theorem sound_path {start daemon : BridgeDaemon} {ms : List BridgeMove} (path : Path bridge start ms daemon)
    (sound : Sound start) : Sound daemon :=
  path_invariant (fun _ move => sound_move move) path sound

theorem reachable_sound {daemon : BridgeDaemon} (reachable : Reachable daemon) : Sound daemon := by
  obtain ⟨ms,run⟩ := reachable
  exact sound_path run sound_new

theorem sound_rehashed {daemon other : BridgeDaemon} (same : Rehashed daemon other) (sound : Sound daemon) :
    Sound other := by
  obtain ⟨valid,assigned⟩ := sound
  rw [← directory_rehashed same] at valid assigned
  exact ⟨valid,assigned⟩

/-! ## Owners and those who wait -/

theorem entry_lookup {daemon : BridgeDaemon} {key : AgentKey} {agent : RegisteredAgent}
    (found : daemon.registered.lookup key = some agent) : (directory daemon).entry key = some (entry_of agent) := by
  rw [directory_entry,found]
  rfl

theorem lookup_entry {daemon : BridgeDaemon} {key : AgentKey} {e : AgentEntry}
    (found : (directory daemon).entry key = some e) :
    ∃ agent, daemon.registered.lookup key = some agent ∧ entry_of agent = e :=
  Option.map_eq_some_iff.mp found

/-- A sid has one owner. -/
theorem owner_unique {daemon : BridgeDaemon} (sound : Sound daemon) {key key' : AgentKey} {sid : BoardSid}
    (owner : sid_of daemon key = some sid) (owner' : sid_of daemon key' = some sid) : key = key' := by
  obtain ⟨agent,found,bound⟩ := sid_of_iff.mp owner
  obtain ⟨agent',found',bound'⟩ := sid_of_iff.mp owner'
  exact sound.valid.exclusive key key' _ _ sid (entry_lookup found) (entry_lookup found') bound bound'

/-- Who waits is registered and has no sid. -/
theorem pending_unbound {daemon : BridgeDaemon} (sound : Sound daemon) {key : AgentKey}
    (waits : key ∈ daemon.pending_board_sessions) :
    ∃ agent, daemon.registered.lookup key = some agent ∧ agent.board_sid = none := by
  obtain ⟨e,found,unheld⟩ := sound.valid.unheld key waits
  obtain ⟨agent,registered,rfl⟩ := lookup_entry found
  exact ⟨agent,registered,unheld⟩

/-- The search for the owner of a sid finds it, in any order of the agents. -/
theorem owner_found {daemon other : BridgeDaemon} (sound : Sound daemon) (same : Rehashed daemon other)
    {key : AgentKey} {agent : RegisteredAgent} {sid : BoardSid} :
    other.registered.findEntry (fun _ agent => agent.board_sid == some sid) = some (key,agent) ↔
      daemon.registered.lookup key = some agent ∧ agent.board_sid = some sid := by
  rw [← rehashed_lookup same]
  constructor
  · intro search
    obtain ⟨found,bound⟩ := KeyedMap.findEntry_some search
    exact ⟨found,by simpa using bound⟩
  · rintro ⟨found,bound⟩
    refine KeyedMap.findEntry_unique found (by simpa using bound) ?_
    intro key' agent' found' bound'
    exact owner_unique (sound_rehashed same sound) (sid_of_iff.mpr ⟨agent',found',by simpa using bound'⟩)
      (sid_of_iff.mpr ⟨agent,found,bound⟩)

/-- No agent holds the broadcast sid and no two agents hold the same sid. -/
theorem sids_exclusive {daemon : BridgeDaemon} (reachable : Reachable daemon) :
    (∀ key agent, daemon.registered.lookup key = some agent → agent.board_sid ≠ some .BROADCAST) ∧
      ∀ key key' agent agent' sid, daemon.registered.lookup key = some agent →
        daemon.registered.lookup key' = some agent' → agent.board_sid = some sid → agent'.board_sid = some sid →
        key = key' := by
  have sound := reachable_sound reachable
  constructor
  · intro key agent found
    exact sound.assigned key _ (entry_lookup found)
  · intro key key' agent agent' sid found found' bound bound'
    exact owner_unique sound (sid_of_iff.mpr ⟨agent,found,bound⟩) (sid_of_iff.mpr ⟨agent',found',bound'⟩)

/-- Two agents register, and the board grants one sid to both, one after the other. -/
def reused_sid : List Event :=
  [registration "claude" "x" false,registration "codex" "y" false,full_flush,session_response 7 .Ok,
    session_response 7 .Created]

theorem sids_exclusive_reused :
    sid_of (finish handle BridgeDaemon.new reused_sid) (.Codex,"y") = some ⟨7⟩ ∧
      sid_of (finish handle BridgeDaemon.new reused_sid) (.Claude,"x") ≠ some ⟨7⟩ := by
  have later : sid_of (finish handle BridgeDaemon.new reused_sid) (.Codex,"y") = some ⟨7⟩ := by decide
  refine ⟨later,?_⟩
  intro earlier
  obtain ⟨agent,found,bound⟩ := sid_of_iff.mp later
  obtain ⟨agent',found',bound'⟩ := sid_of_iff.mp earlier
  have same := (sids_exclusive ⟨_,run_events reused_sid⟩).2 _ _ agent agent' _ found found' bound bound'
  simp at same

/-! ## The queue of those who wait -/

/-- The error of a SESSION_RESPONSE whose agent is gone. -/
def disappeared : String := "pending agent disappeared before SESSION_RESPONSE"

/-- The agent that a SESSION_RESPONSE answers is there. -/
theorem response_never_disappears {daemon : BridgeDaemon} (sound : Sound daemon) (sid : UInt16) (payload : List UInt8) :
    (handle_session_response daemon sid payload).2 ≠ .error disappeared := by
  unfold handle_session_response
  split
  · simp [disappeared]
  · simp only
    split
    · intro failed
      have texts := congrArg String.toList (Except.error.inj failed)
      simp [toString,disappeared] at texts
    · cases queue : daemon.pending_board_sessions with
      | nil => simp [disappeared]
      | cons key waiting =>
        obtain ⟨agent,found,_⟩ := pending_unbound sound (show key ∈ _ by rw [queue]; simp)
        have kept := clear_lookup { daemon with pending_board_sessions := waiting } ⟨sid⟩ (some key) key
        rw [if_pos rfl,found] at kept
        simp [kept]

/-- An agent that has a sid has no other one after a SESSION_RESPONSE. -/
theorem response_never_rebinds {daemon : BridgeDaemon} (sound : Sound daemon) (sid : UInt16) (payload : List UInt8)
    {key : AgentKey} {old new : BoardSid} (before : sid_of daemon key = some old)
    (after : sid_of (handle_session_response daemon sid payload).1 key = some new) : new = old := by
  by_cases grants : Grants sid payload
  · cases queue : daemon.pending_board_sessions with
    | nil =>
      obtain ⟨err,same⟩ := response_unsolicited daemon sid payload queue
      rw [same,before] at after
      exact (Option.some.inj after).symm
    | cons first waiting =>
      obtain ⟨agent,found,unbound⟩ := pending_unbound sound (show first ∈ _ by rw [queue]; simp)
      obtain ⟨granted,result,_,_,lookups⟩ := response_granted grants queue found
      obtain ⟨owner,held,bound⟩ := sid_of_iff.mp before
      rw [result,sid_of,lookups] at after
      by_cases same : key = first
      · subst same
        rw [found] at held
        cases held
        rw [unbound] at bound
        cases bound
      · rw [if_neg same,held] at after
        simp only [Option.map_some,Option.bind_some,without_sid] at after
        split at after
        · cases after
        · rw [bound] at after; exact (Option.some.inj after).symm
  · obtain ⟨err,same⟩ := response_refused daemon grants
    rw [same,before] at after
    exact (Option.some.inj after).symm

/-- No message of the board finds that the agent it answers is gone. -/
theorem board_never_disappears {daemon : BridgeDaemon} (sound : Sound daemon) (msg : HidMessage) :
    (handle_board_message daemon msg).2 ≠ .error disappeared := by
  unfold handle_board_message
  split
  · exact response_never_disappears sound msg.sid msg.payload
  · simp
  · unfold handle_permission_response
    split
    · simp [disappeared]
    · split
      · simp [disappeared]
      · simp only
        split
        · intro failed
          have texts := congrArg String.toList (Except.error.inj failed)
          simp [toString,disappeared] at texts
        · simp
  · unfold handle_session_invalid
    split <;> simp
  · simp
  · simp
  · intro failed
    have texts := congrArg String.toList (Except.error.inj failed)
    simp [toString,disappeared] at texts

/-- The queue names each agent once, and only registered agents without a sid.
    So no answer of the board finds its agent gone, and none gives another sid
    to an agent that has one. -/
theorem pending_sound {daemon : BridgeDaemon} (reachable : Reachable daemon) :
    daemon.pending_board_sessions.Nodup ∧
      (∀ key ∈ daemon.pending_board_sessions,
        ∃ agent, daemon.registered.lookup key = some agent ∧ agent.board_sid = none) ∧
      ∀ m : BridgeMove, bridge m → m.pre = daemon → ∀ msg, m.input = .board_message msg →
        m.output ≠ .board (.error "pending agent disappeared before SESSION_RESPONSE") ∧
          (msg.cmd = .SessionResponse → ∀ key old new, sid_of daemon key = some old →
            sid_of m.post key = some new → new = old) := by
  have sound := reachable_sound reachable
  refine ⟨sound.valid.distinct,fun key waits => pending_unbound sound waits,?_⟩
  rintro ⟨pre,input,post,output⟩ ⟨other,same,result⟩ rfl msg rfl
  have sound' := sound_rehashed same sound
  cases result
  constructor
  · intro failed
    exact board_never_disappears sound' msg (Reply.board.inj failed)
  · intro response key old new before after
    rw [sid_of,← rehashed_lookup same] at before
    simp only [handle_board_message,response] at after
    exact response_never_rebinds sound' msg.sid msg.payload before after

/-- Two agents wait, and the first is granted the sid that the board then gives to the second. -/
theorem pending_sound_reused :
    (finish handle BridgeDaemon.new (reused_sid.take 4)).pending_board_sessions = [(.Codex,"y")] ∧
      ∃ agent, (finish handle BridgeDaemon.new (reused_sid.take 4)).registered.lookup (.Codex,"y") = some agent ∧
        agent.board_sid = none := by
  have waits : (finish handle BridgeDaemon.new (reused_sid.take 4)).pending_board_sessions = [(.Codex,"y")] := by decide
  exact ⟨waits,(pending_sound ⟨_,run_events (reused_sid.take 4)⟩).2.1 _ (by rw [waits]; simp)⟩

end VibeBridge.Bindings
