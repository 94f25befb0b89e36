import VibeBridge.Mirroring
import VibeBridge.Records
import VibeBridge.TerminalBuffer

/-!
What the terminal buffers hold. Most calls edit only the status, the sid, the usage,
the turns and the permissions of an agent (`Edits`). Its terminal is changed by
registrations, which carry the buffer over, and by streams. So the buffer of an agent
holds the last bytes of what was streamed to it, or to the terminal that it was
attached to, since it came (`snapshots_recorded`).
-/
namespace VibeBridge.Recordings
open Transitions
open VibeBridge.Core VibeBridge.Protocol VibeBridge.Agent VibeBridge.Envelope VibeBridge.Daemon
open VibeBridge.Bridge VibeBridge.Sessions VibeBridge.Events VibeBridge.Views VibeBridge.Mirroring VibeBridge.Records

/-- The records differ only in what the board and the agent's own events change. -/
def Edited (agent new : RegisteredAgent) : Prop :=
  new = { agent with
    status := new.status
    board_sid := new.board_sid
    usage := new.usage
    turns := new.turns
    pending_permissions := new.pending_permissions
    resolved_permissions := new.resolved_permissions }

theorem edited_refl (agent : RegisteredAgent) : Edited agent agent := rfl

theorem edited_trans {a b c : RegisteredAgent} (first : Edited a b) (second : Edited b c) : Edited a c := by
  unfold Edited at *
  rw [second,first]

/-- Every agent of the second state was in the first one, and was only edited. -/
abbrev Edits (pre post : BridgeDaemon) : Prop := KeyedMap.Inherits Edited pre.registered post.registered

theorem edits_same {pre post : BridgeDaemon} (agents : post.registered = pre.registered) : Edits pre post := by
  rw [Edits,agents]
  exact KeyedMap.inherits_refl edited_refl _

theorem edits_refl (daemon : BridgeDaemon) : Edits daemon daemon := edits_same rfl

theorem edits_trans {a b c : BridgeDaemon} (first : Edits a b) (second : Edits b c) : Edits a c :=
  KeyedMap.inherits_trans (R := Edited) edited_trans first second

theorem edits_update {daemon post : BridgeDaemon} {key : AgentKey} {agent new : RegisteredAgent}
    (found : daemon.registered.lookup key = some agent) (agents : post.registered = daemon.registered.insert key new)
    (edited : Edited agent new) : Edits daemon post := by
  rw [Edits,agents]
  exact KeyedMap.inherits_insert edited_refl found edited

theorem edits_erase {daemon post : BridgeDaemon} {key : AgentKey} (agents : post.registered = daemon.registered.erase key) :
    Edits daemon post := by
  rw [Edits,agents]
  exact KeyedMap.inherits_erase edited_refl _ key

theorem edits_fold {σ β : Type} (state : σ → BridgeDaemon) {turn : σ → β → σ}
    (each : ∀ s b, Edits (state s) (state (turn s b))) (bs : List β) (s : σ) :
    Edits (state s) (state (bs.foldl turn s)) := by
  induction bs generalizing s with
  | nil => exact edits_refl (state s)
  | cons b rest ih => exact edits_trans (each s b) (ih (turn s b))

/-! ## JSON messages -/

section
variable (daemon : BridgeDaemon) (request : RegistrationEnvelope)

theorem edits_activity : Edits daemon (agent_activity daemon request).1 := by
  unfold agent_activity
  split
  · exact edits_refl daemon
  · simp only
    split
    · rename_i found
      exact edits_update found rfl rfl
    · exact edits_same rfl

theorem edits_snapshot (polled : Except String AgentPollSnapshot) : Edits daemon (daemon_snapshot daemon polled).1 := by
  cases polled with
  | error err => exact edits_refl daemon
  | ok polled => exact edits_same rfl

theorem edits_token : Edits daemon (token_update daemon request).1 := by
  unfold token_update
  split
  · exact edits_refl daemon
  · split
    · exact edits_refl daemon
    · rename_i found
      exact edits_update found rfl rfl

theorem edits_turn : Edits daemon (turn_append daemon request).1 := by
  unfold turn_append
  split
  · exact edits_refl daemon
  · split
    · exact edits_refl daemon
    · rename_i found
      exact edits_update found (live_view_agents _ _) rfl

theorem edits_request : Edits daemon (permission_request daemon request).1 := by
  unfold permission_request
  split
  · exact edits_refl daemon
  · split
    · exact edits_refl daemon
    · rename_i found
      exact edits_update found (live_view_agents _ _) rfl

theorem edits_resolve : Edits daemon (permission_resolve daemon request).1 := by
  unfold permission_resolve
  split
  · exact edits_refl daemon
  · split
    · exact edits_refl daemon
    · rename_i found
      exact edits_update found rfl rfl

theorem edits_poll : Edits daemon (permission_poll daemon request).1 := by
  unfold permission_poll
  split
  · exact edits_refl daemon
  · split
    · exact edits_refl daemon
    · rename_i found
      split
      · exact edits_update found rfl rfl
      · exact edits_refl daemon

theorem edits_abort : Edits daemon (session_abort daemon request).1 := by
  unfold session_abort
  split
  · exact edits_refl daemon
  · split
    · exact edits_refl daemon
    · exact edits_erase rfl

end

/-! ## The other calls -/

theorem edited_without (sid : BoardSid) (agent : RegisteredAgent) : Edited agent (without_sid sid agent) := by
  unfold without_sid
  split <;> rfl

theorem edits_without {daemon post : BridgeDaemon} {sid : BoardSid}
    (lookups : ∀ key, post.registered.lookup key = (daemon.registered.lookup key).map (without_sid sid)) :
    Edits daemon post := by
  intro key new there
  rw [lookups] at there
  obtain ⟨agent,found,rfl⟩ := Option.map_eq_some_iff.mp there
  exact ⟨agent,found,edited_without sid agent⟩

theorem edits_response (daemon : BridgeDaemon) (sid : UInt16) (payload : List UInt8) :
    Edits daemon (handle_session_response daemon sid payload).1 := by
  by_cases grants : Grants sid payload
  · cases queue : daemon.pending_board_sessions with
    | nil =>
      obtain ⟨err,same⟩ := response_unsolicited daemon sid payload queue
      rw [same]
      exact edits_refl daemon
    | cons first waiting =>
      cases found : daemon.registered.lookup first with
      | none =>
        obtain ⟨cleared,result,_,_,lookups⟩ := response_disappeared grants queue found
        rw [result]
        exact edits_without lookups
      | some bound =>
        obtain ⟨granted,result,_,_,lookups⟩ := response_granted grants queue found
        intro key new there
        rw [result,lookups] at there
        split at there
        · rename_i same
          cases there
          exact ⟨bound,by rw [same]; exact found,rfl⟩
        · obtain ⟨agent,found',rfl⟩ := Option.map_eq_some_iff.mp there
          exact ⟨agent,found',edited_without _ agent⟩
  · obtain ⟨err,same⟩ := response_refused daemon grants
    rw [same]
    exact edits_refl daemon

theorem edits_invalid (daemon : BridgeDaemon) (sid : UInt16) : Edits daemon (handle_session_invalid daemon sid).1 := by
  unfold handle_session_invalid
  split
  · exact edits_refl daemon
  · exact edits_without (fun key => by rw [clear_lookup,if_neg (by simp)])

theorem edits_focus (daemon : BridgeDaemon) (sid : UInt16) : Edits daemon (focus_board_sid daemon sid) := by
  unfold focus_board_sid
  split
  · exact edits_refl daemon
  · simp only
    split
    · exact edits_same rfl
    · exact edits_same rfl

theorem edits_decision (daemon : BridgeDaemon) (sid : UInt16) (payload : List UInt8) :
    Edits daemon (handle_permission_response daemon sid payload).1 := by
  unfold handle_permission_response
  split
  · exact edits_refl daemon
  · split
    · exact edits_refl daemon
    · simp only
      split
      · exact edits_refl daemon
      · rename_i owner
        exact edits_update (KeyedMap.findEntry_some owner).1 rfl rfl

theorem edits_board (daemon : BridgeDaemon) (msg : HidMessage) : Edits daemon (handle_board_message daemon msg).1 := by
  unfold handle_board_message
  split
  · exact edits_response daemon msg.sid msg.payload
  · exact edits_focus daemon msg.sid
  · exact edits_decision daemon msg.sid msg.payload
  · exact edits_invalid daemon msg.sid
  · exact edits_refl daemon
  · exact edits_refl daemon
  · exact edits_refl daemon

theorem edits_turns (state : BridgeDaemon × Nat) (turn : DiscoveredTurn) : Edits state.1 (ingest_discovered_turn state turn).1 := by
  unfold ingest_discovered_turn
  simp only
  split
  · exact edits_refl state.1
  · rename_i found
    exact edits_update found rfl rfl

theorem edits_prune (daemon : BridgeDaemon) (latest : List AgentSession) :
    Edits daemon (prune_missing_passive_sessions daemon latest).1 := by
  unfold prune_missing_passive_sessions
  simp only
  exact edits_trans (edits_same rfl) (edits_fold id (fun daemon key => edits_erase rfl) _ _)

theorem edits_flush (daemon : BridgeDaemon) (is_connected : Bool) (send : Sends) :
    Edits daemon (flush_board_outbox daemon is_connected send).1 := by
  unfold flush_board_outbox
  split
  · exact edits_refl daemon
  · exact edits_same rfl

/-! ## Streams -/

/-- The terminal that a line streams for, and the bytes. -/
def streamed_line : Except String RegistrationEnvelope → Option (AgentKey × List UInt8)
  | .ok request => if request.message_type = "terminal.stream" then request.read_stream.toOption else none
  | .error _ => none

def streamed : Event → Option (AgentKey × List UInt8)
  | .json_line line _ => streamed_line line
  | _ => none

/-- How often a stream for the terminal is appended to the agent. -/
def copies (source key : AgentKey) (agent : RegisteredAgent) : Nat :=
  (if key = source then 1 else 0) + if agent.attached_terminal = some source then 1 else 0

/-- The bytes that an event brings to the terminal buffer of an agent. -/
def brought (daemon : BridgeDaemon) (event : Event) (key : AgentKey) (agent : RegisteredAgent) : List UInt8 :=
  match streamed event with
  | none => []
  | some (source,bytes) =>
    if (daemon.registered.lookup source).isSome then (List.replicate (copies source key agent) bytes).flatten else []

theorem keeps_appended (bytes : List UInt8) (n : Nat) {agent : RegisteredAgent} {recorded : List UInt8}
    (keeps : Keeps agent recorded) : Keeps (appended bytes n agent) (recorded ++ (List.replicate n bytes).flatten) := by
  induction n generalizing agent recorded with
  | zero => simpa [appended] using keeps
  | succ n ih =>
    rw [List.replicate_succ,List.flatten_cons,← List.append_assoc]
    exact ih (keeps_append keeps bytes).2

theorem keeps_nothing {agent : RegisteredAgent} (empty : agent.terminal_buffer = []) (zero : agent.terminal_buffer_len = 0) :
    Keeps agent [] := by
  have none : agent.terminal_snapshot = [] := by rw [RegisteredAgent.terminal_snapshot,empty]; rfl
  exact ⟨by rw [none]; rfl,by rw [none,zero]; rfl⟩

/-- The terminal of an agent goes on: the bytes of the event come after those in its buffer, and where the
    agent is not registered again, it stays attached to what it was. -/
structure GoesOn (daemon : BridgeDaemon) (event : Event) (key : AgentKey) (agent new : RegisteredAgent) : Prop where
  buffer : ∀ recorded, Keeps agent recorded → Keeps new (recorded ++ brought daemon event key agent)
  attached : (∀ fresh, Registers event fresh → fresh.key ≠ key) → new.attached_terminal = agent.attached_terminal

/-- An agent has come, and there is nothing in its buffer. -/
structure Comes (event : Event) (key : AgentKey) (new : RegisteredAgent) : Prop where
  buffer : Keeps new []
  attached : (∀ fresh, Registers event fresh → fresh.key ≠ key) → new.attached_terminal = none

/-- Where the record of an agent after an event has its terminal from. -/
def Continues (daemon : BridgeDaemon) (event : Event) (key : AgentKey) (new : RegisteredAgent) : Prop :=
  (daemon.registered.lookup key = none ∧ Comes event key new) ∨
    ∃ agent, daemon.registered.lookup key = some agent ∧ GoesOn daemon event key agent new

theorem goes_on_edited {daemon : BridgeDaemon} {event : Event} {key : AgentKey} {agent new : RegisteredAgent}
    (edited : Edited agent new) (silent : brought daemon event key agent = []) : GoesOn daemon event key agent new := by
  rw [edited]
  refine ⟨fun recorded keeps => ?_,fun _ => rfl⟩
  rw [silent,List.append_nil]
  exact ⟨keeps.last,keeps.counted⟩

theorem continues_edits {daemon post : BridgeDaemon} {event : Event} (edits : Edits daemon post) (silent : streamed event = none)
    {key : AgentKey} {new : RegisteredAgent} (found : post.registered.lookup key = some new) :
    Continues daemon event key new := by
  obtain ⟨agent,there,edited⟩ := edits key new found
  exact .inr ⟨agent,there,goes_on_edited edited (by rw [brought,silent])⟩

theorem continues_stream {daemon : BridgeDaemon} {request : RegistrationEnvelope} {polled : Except String AgentPollSnapshot}
    (type : request.message_type = "terminal.stream") {key : AgentKey} {new : RegisteredAgent}
    (found : (terminal_stream daemon request).1.registered.lookup key = some new) :
    Continues daemon (.json_line (.ok request) polled) key new := by
  have told : streamed (.json_line (.ok request) polled) = request.read_stream.toOption := if_pos type
  cases reading : request.read_stream with
  | error err =>
    rw [reading] at told
    simp only [terminal_stream,reading] at found
    exact continues_edits (edits_refl daemon) told found
  | ok stream =>
    obtain ⟨source,bytes⟩ := stream
    rw [reading] at told
    simp only [terminal_stream,reading] at found
    cases there : daemon.registered.lookup source with
    | none =>
      rw [there] at found
      exact .inr ⟨new,found,goes_on_edited rfl (by simp [brought,told,Except.toOption,there])⟩
    | some terminal =>
      simp only [there] at found
      split at found
      · rename_i empty
        refine .inr ⟨new,found,goes_on_edited rfl ?_⟩
        simp [brought,told,Except.toOption,there,List.isEmpty_iff.mp empty]
      · obtain ⟨agent,before⟩ : ∃ agent, daemon.registered.lookup key = some agent := by
          obtain ⟨agents,_⟩ := mirror_loop bytes (source :: attached_keys daemon source) daemon
          have after := agents key
          rw [attached_keys,found] at after
          obtain ⟨agent,before,_⟩ := Option.map_eq_some_iff.mp after.symm
          exact ⟨agent,before⟩
        have looped : (source :: attached_keys daemon source).foldl (mirror_bytes bytes) daemon =
            (source :: attached_keys daemon source).foldl (mirror_bytes bytes) daemon := rfl
        have after := stream_lookup bytes looped before
        rw [attached_keys,found] at after
        cases after
        refine .inr ⟨agent,before,fun recorded keeps => ?_,fun _ => ?_⟩
        · simp only [brought,told,Except.toOption,there,Option.isSome_some,if_true]
          exact keeps_appended bytes _ keeps
        · exact appended_kept (·.attached_terminal) (fun _ _ _ => rfl) bytes _ agent

/-! ## Registrations and discoveries -/

theorem registration_terminal {request : RegistrationEnvelope} {fresh : RegisteredAgent}
    (reading : request.read_agent = .ok fresh) : Keeps fresh [] := by
  simp only [RegistrationEnvelope.read_agent,RegistrationAgentPayload.into_registered_agent,bind,Except.bind] at reading
  repeat' split at reading
  all_goals cases reading
  exact keeps_nothing rfl rfl

theorem continues_register {daemon : BridgeDaemon} {request : RegistrationEnvelope} {polled : Except String AgentPollSnapshot}
    (type : request.message_type = "agent.register") {key : AgentKey} {new : RegisteredAgent}
    (found : (agent_register daemon request).1.registered.lookup key = some new) :
    Continues daemon (.json_line (.ok request) polled) key new := by
  have silent : streamed (.json_line (.ok request) polled) = none := by simp [streamed,streamed_line,type]
  cases reading : request.read_agent with
  | error err =>
    simp only [agent_register,reading] at found
    exact continues_edits (edits_refl daemon) silent found
  | ok fresh =>
    have told : Registers (.json_line (.ok request) polled) fresh := ⟨request,⟨polled,rfl,type⟩,reading⟩
    rw [register_lookup reading] at found
    split at found
    · rename_i own
      subst own
      cases found
      rw [registered_agent]
      cases there : daemon.registered.lookup fresh.key with
      | none => exact .inl ⟨there,registration_terminal reading,fun other => absurd rfl (other fresh told)⟩
      | some existing =>
        refine .inr ⟨existing,there,fun recorded keeps => ?_,fun other => absurd rfl (other fresh told)⟩
        rw [brought,silent,List.append_nil]
        exact ⟨keeps.last,keeps.counted⟩
    · exact continues_edits (edits_refl daemon) silent found

theorem continues_discovered {daemon : BridgeDaemon} {sessions : List AgentSession} {key : AgentKey} {new : RegisteredAgent}
    (found : (register_discovered_sessions daemon sessions).1.registered.lookup key = some new) :
    Continues daemon (.discovered_sessions sessions) key new := by
  obtain ⟨kept,added⟩ := discovered_records sessions (daemon,0) key
  cases before : daemon.registered.lookup key with
  | some agent =>
    have same := kept agent before
    rw [show (sessions.foldl register_discovered_session (daemon,0)).1.registered.lookup key = some new from found] at same
    cases same
    exact .inr ⟨new,before,goes_on_edited rfl rfl⟩
  | none =>
    obtain ⟨_,session,_,_,rfl⟩ := added before new found
    exact .inl ⟨before,keeps_nothing rfl rfl,fun _ => rfl⟩

/-! ## Runs -/

theorem continues_json {daemon : BridgeDaemon} {line : Except String RegistrationEnvelope} {polled : Except String AgentPollSnapshot}
    {key : AgentKey} {new : RegisteredAgent} (found : (handle_json_line daemon line polled).1.registered.lookup key = some new) :
    Continues daemon (.json_line line polled) key new := by
  cases line with
  | error err => exact continues_edits (edits_refl daemon) rfl found
  | ok request =>
    have silent : request.message_type ≠ "terminal.stream" → streamed (.json_line (.ok request) polled) = none :=
      fun other => if_neg other
    simp only [handle_json_line] at found
    split at found
    · exact continues_register ‹_› found
    · exact continues_edits (edits_activity daemon request) (silent (by simp [*])) found
    · exact continues_edits (edits_snapshot daemon polled) (silent (by simp [*])) found
    · exact continues_edits (edits_token daemon request) (silent (by simp [*])) found
    · exact continues_edits (edits_turn daemon request) (silent (by simp [*])) found
    · exact continues_edits (edits_request daemon request) (silent (by simp [*])) found
    · exact continues_edits (edits_resolve daemon request) (silent (by simp [*])) found
    · exact continues_edits (edits_poll daemon request) (silent (by simp [*])) found
    · exact continues_stream ‹_› found
    · exact continues_edits (edits_abort daemon request) (silent (by simp [*])) found
    · exact continues_edits (edits_refl daemon) (silent ‹request.message_type = "terminal.stream" → False›) found

theorem continues_handle (daemon : BridgeDaemon) (event : Event) {key : AgentKey} {new : RegisteredAgent}
    (found : (handle daemon event).1.registered.lookup key = some new) : Continues daemon event key new := by
  cases event with
  | json_line line polled => exact continues_json found
  | board_message msg => exact continues_edits (edits_board daemon msg) rfl found
  | discovered_sessions sessions => exact continues_discovered found
  | discovered_turns turns => exact continues_edits (edits_fold Prod.fst edits_turns turns (daemon,0)) rfl found
  | prune latest => exact continues_edits (edits_prune daemon latest) rfl found
  | heartbeat => exact continues_edits (edits_refl daemon) rfl found
  | flush is_connected send => exact continues_edits (edits_flush daemon is_connected send) rfl found
  | drain => exact continues_edits (edits_same rfl) rfl found

theorem brought_rehashed {daemon other : BridgeDaemon} (same : Rehashed daemon other) (event : Event) (key : AgentKey)
    (agent : RegisteredAgent) : brought other event key agent = brought daemon event key agent := by
  simp only [brought,rehashed_lookup same]

theorem continues_move {m : BridgeMove} (move : bridge m) {key : AgentKey} {new : RegisteredAgent}
    (found : m.post.registered.lookup key = some new) : Continues m.pre m.input key new := by
  obtain ⟨daemon,same,result⟩ := move
  have after : (handle daemon m.input).1.registered.lookup key = some new := by
    rw [result]
    exact found
  rcases continues_handle daemon m.input after with ⟨away,comes⟩ | ⟨agent,there,goes_on⟩
  · exact .inl ⟨(rehashed_lookup same key).symm.trans away,comes⟩
  · refine .inr ⟨agent,(rehashed_lookup same key).symm.trans there,fun recorded keeps => ?_,goes_on.attached⟩
    rw [← brought_rehashed same]
    exact goes_on.buffer recorded keeps

/-- What was streamed to an agent since it was last away. -/
def recorded (key : AgentKey) (ms : List BridgeMove) : List UInt8 :=
  ms.foldl (fun bytes m => match m.pre.registered.lookup key with
    | none => []
    | some agent => bytes ++ brought m.pre m.input key agent) []

theorem recorded_snoc (key : AgentKey) (ms : List BridgeMove) (m : BridgeMove) : recorded key (ms ++ [m]) =
    match m.pre.registered.lookup key with
    | none => []
    | some agent => recorded key ms ++ brought m.pre m.input key agent := by
  rw [recorded,List.foldl_append]
  rfl

theorem keeps_run {ms : List BridgeMove} {daemon : BridgeDaemon} (run : Run ms daemon) {key : AgentKey}
    {agent : RegisteredAgent} (found : daemon.registered.lookup key = some agent) : Keeps agent (recorded key ms) := by
  induction run generalizing agent with
  | refl => cases found
  | @next ms m before move ih =>
    rw [recorded_snoc]
    rcases continues_move move found with ⟨away,comes⟩ | ⟨earlier,there,goes_on⟩
    · rw [away]
      exact comes.buffer
    · rw [there]
      exact goes_on.buffer _ (ih there)

/-- In every run the terminal buffer of an agent holds the last 64 KiB of what was streamed for it or for the
    terminal that it was attached to, since it came. -/
theorem snapshots_recorded {ms : List BridgeMove} {daemon : BridgeDaemon} (run : Run ms daemon) {key : AgentKey}
    {agent : RegisteredAgent} (found : daemon.registered.lookup key = some agent) :
    agent.terminal_snapshot = (recorded key ms).rtake VT100_BUFFER_BYTES ∧
      agent.terminal_buffer_len = agent.terminal_snapshot.length :=
  ⟨(keeps_run run found).last,(keeps_run run found).counted⟩

/-- An agent comes to a terminal that has written already, and hears what it writes then. -/
def overheard : List Event :=
  [registration "terminal" "t" true,streaming "terminal" "t" "68",attached_registration "codex" "c" "terminal" "t" true,
    streaming "terminal" "t" "6921"]

theorem snapshots_recorded_overheard : ∃ agent,
    (finish handle BridgeDaemon.new overheard).registered.lookup (.Codex,"c") = some agent ∧
      agent.terminal_snapshot = [0x69,0x21] := by
  have there : ((finish handle BridgeDaemon.new overheard).registered.lookup (.Codex,"c")).isSome := by decide
  obtain ⟨agent,found⟩ := Option.isSome_iff_exists.mp there
  refine ⟨agent,found,?_⟩
  rw [(snapshots_recorded (run_events overheard) found).1]
  decide

end VibeBridge.Recordings
