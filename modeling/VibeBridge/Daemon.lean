import VibeBridge.Envelope

/-!
The daemon (`BridgeDaemon`): its state and everything that changes it. A
function that changes the state returns the new state, together with what the
source returns; after an error the state is the one it left. The iteration
order of the hash map `registered` is the order of its entries.

Two sources of input are arguments: a JSON line comes as its deserialization,
and `poll_once` is given what the transcript poller found.
-/
namespace VibeBridge.Daemon
open VibeBridge.Text VibeBridge.Core VibeBridge.Protocol VibeBridge.Payloads VibeBridge.Agent VibeBridge.Envelope

def PASSIVE_MISSING_GRACE_POLLS : UInt8 := 3

/-- `vb_host::max_retained_turns_per_agent` -/
def max_retained_turns_per_agent : Nat := 50

structure BridgeDaemon where
  registered : KeyedMap AgentKey RegisteredAgent
  activities : List AgentActivity
  pending_board_sessions : List AgentKey
  passive_missing_counts : KeyedMap AgentKey UInt8
  board_outbox : List HidMessage
  focused_board_sid : Option BoardSid
  deriving DecidableEq

def BridgeDaemon.new : BridgeDaemon where
  registered := ∅
  activities := []
  pending_board_sessions := []
  passive_missing_counts := ∅
  board_outbox := []
  focused_board_sid := none

structure DaemonSnapshot where
  sessions : List AgentSession
  activities : List AgentActivity
  registered_agents : Nat

/-- The answer to a JSON line. -/
abbrev Answer := Except String Response

def BridgeDaemon.push_outbox (daemon : BridgeDaemon) (msgs : List HidMessage) : BridgeDaemon :=
  { daemon with board_outbox := daemon.board_outbox ++ msgs }

def BridgeDaemon.push_activity (daemon : BridgeDaemon) (activity : AgentActivity) : BridgeDaemon :=
  { daemon with activities := daemon.activities ++ [activity] }

def BridgeDaemon.insert_agent (daemon : BridgeDaemon) (key : AgentKey) (agent : RegisteredAgent) : BridgeDaemon :=
  { daemon with registered := daemon.registered.insert key agent }

/-! ## Sessions of the board -/

def enqueue_board_session_request (daemon : BridgeDaemon) (agent : RegisteredAgent) : BridgeDaemon :=
  if agent.key ∈ daemon.pending_board_sessions then daemon
  else
    { daemon with
      pending_board_sessions := daemon.pending_board_sessions ++ [agent.key]
      board_outbox := daemon.board_outbox ++ [request_session_message agent] }

/-- Takes the sid from every agent that has it, `keep` excepted, and says from how many. -/
def clear_board_sid_owners (daemon : BridgeDaemon) (sid : BoardSid) (keep : Option AgentKey) : BridgeDaemon × Nat :=
  let stale_keys := daemon.registered.keysWhere
    (fun key agent => agent.board_sid == some sid && (keep.isNone || keep != some key))
  let registered := stale_keys.foldl
    (fun registered key => registered.update key (fun agent => { agent with board_sid := none })) daemon.registered
  let focused := if keep.isNone && daemon.focused_board_sid == some sid then none else daemon.focused_board_sid
  ({ daemon with registered := registered, focused_board_sid := focused }, stale_keys.length)

/-- The status of a SESSION_RESPONSE, OK when there is none. -/
def response_status (payload : List UInt8) : UInt8 := payload.head?.getD SessionStatusByte.Ok.byte

def handle_session_response (daemon : BridgeDaemon) (sid : UInt16) (payload : List UInt8) :
    BridgeDaemon × Except String Unit :=
  if sid = 0 then (daemon, .error "SESSION_RESPONSE with sid=0")
  else
    let status := response_status payload
    if status ≠ SessionStatusByte.Ok.byte ∧ status ≠ SessionStatusByte.Created.byte then
      (daemon, .error s!"SESSION_RESPONSE failed status=0x{format_02x status}")
    else
      match daemon.pending_board_sessions with
      | [] => (daemon, .error "SESSION_RESPONSE without pending agent")
      | key :: waiting =>
        let daemon := { daemon with pending_board_sessions := waiting }
        let board_sid : BoardSid := ⟨sid⟩
        let old_sid := (daemon.registered.lookup key).bind (·.board_sid)
        let daemon := (clear_board_sid_owners daemon board_sid (some key)).1
        match daemon.registered.lookup key with
        | none => (daemon, .error "pending agent disappeared before SESSION_RESPONSE")
        | some agent =>
          let agent := { agent with board_sid := some board_sid }
          let daemon := daemon.insert_agent key agent
          let focused := if old_sid.isSome && daemon.focused_board_sid == old_sid then some board_sid
            else daemon.focused_board_sid
          let daemon := { daemon with focused_board_sid := focused }
          (daemon.push_outbox (board_sync_messages agent), .ok ())

def handle_session_invalid (daemon : BridgeDaemon) (sid : UInt16) : BridgeDaemon × Except String Unit :=
  if sid = BoardSid.BROADCAST.raw then (daemon, .ok ())
  else ((clear_board_sid_owners daemon ⟨sid⟩ none).1, .ok ())

def focus_board_sid (daemon : BridgeDaemon) (sid : UInt16) : BridgeDaemon :=
  if sid = 0 then daemon
  else
    let board_sid : BoardSid := ⟨sid⟩
    let daemon := { daemon with focused_board_sid := some board_sid }
    match daemon.registered.findEntry (fun _ agent => agent.board_sid == some board_sid) with
    | none => daemon
    | some (_, agent) => daemon.push_outbox (terminal_replay_message_for_agent agent).toList

def handle_permission_response (daemon : BridgeDaemon) (sid : UInt16) (payload : List UInt8) :
    BridgeDaemon × Except String Unit :=
  if sid = 0 then (daemon, .error "PERMISSION_RES with sid=0")
  else
    match decode_permission_response payload with
    | none => (daemon, .error "invalid PERMISSION_RES payload")
    | some (req_id, decision_byte) =>
      let decision := permission_decision_from_byte decision_byte
      match daemon.registered.findEntry (fun _ agent => agent.board_sid == some ⟨sid⟩) with
      | none => (daemon, .error s!"PERMISSION_RES for unknown sid={sid.toNat}")
      | some (key, agent) =>
        let agent := { agent with
          pending_permissions := agent.pending_permissions.filter (fun permission => permission.req_id != req_id)
          resolved_permissions := agent.resolved_permissions.insert req_id decision }
        (daemon.insert_agent key agent, .ok ())

def handle_board_message (daemon : BridgeDaemon) (msg : HidMessage) : BridgeDaemon × Except String Unit :=
  match msg.cmd with
  | .SessionResponse => handle_session_response daemon msg.sid msg.payload
  | .SessionFocus => (focus_board_sid daemon msg.sid, .ok ())
  | .PermissionRes => handle_permission_response daemon msg.sid msg.payload
  | .SessionInvalid => handle_session_invalid daemon msg.sid
  | .EncoderEvent => (daemon, .ok ())
  | .KeyEvent => (daemon, .ok ())
  | cmd => (daemon, .error s!"unsupported board message for daemon binding: {cmd.debug}")

/-! ## JSON messages -/

/-- What a re-registration takes over from the agent that is already there. -/
def carry_over (agent existing : RegisteredAgent) : RegisteredAgent :=
  { agent with
    board_sid := existing.board_sid
    usage := existing.usage
    turns := existing.turns
    pending_permissions := existing.pending_permissions
    resolved_permissions := existing.resolved_permissions
    from_hook := true
    terminal_buffer := existing.terminal_buffer
    terminal_buffer_len := existing.terminal_buffer_len
    attached_terminal := if agent.attached_terminal.isNone then existing.attached_terminal else agent.attached_terminal
    from_launch := agent.from_launch || existing.from_launch }

/-- The agent that a registration leaves in the map. -/
def registered_agent (daemon : BridgeDaemon) (fresh : RegisteredAgent) : RegisteredAgent :=
  match daemon.registered.lookup fresh.key with
  | some existing => carry_over fresh existing
  | none => fresh

/-- What a registration sends to the board. Hook adapters register before each
    event, so an agent that was bound already has nothing replayed. -/
def announce_registration (daemon : BridgeDaemon) (was_already_bound : Bool) (agent : RegisteredAgent) :
    BridgeDaemon :=
  if was_already_bound then daemon
  else if agent.board_sid.isSome then daemon.push_outbox (board_sync_messages agent)
  else if is_transport_only_terminal agent then daemon
  else enqueue_board_session_request daemon agent

def agent_register (daemon : BridgeDaemon) (request : RegistrationEnvelope) : BridgeDaemon × Answer :=
  match request.read_agent with
  | .error err => (daemon, .error err)
  | .ok fresh =>
    let key := fresh.key
    let agent := registered_agent daemon fresh
    let was_already_bound := ((daemon.registered.lookup key).bind (·.board_sid)).isSome
    let daemon := daemon.push_activity ⟨agent.agent_id, agent.kind, .Seen, agent.status, ""⟩
    let daemon := announce_registration daemon was_already_bound agent
    (daemon.insert_agent key agent, .ok .registered)

def agent_activity (daemon : BridgeDaemon) (request : RegistrationEnvelope) : BridgeDaemon × Answer :=
  match request.read_activity with
  | .error err => (daemon, .error err)
  | .ok event =>
    let key := (event.kind, event.agent_id)
    let daemon := match daemon.registered.lookup key with
      | some agent =>
        let agent := { agent with status := event.status }
        (daemon.insert_agent key agent).push_outbox (status_message_for_agent agent).toList
      | none => daemon
    (daemon.push_activity event, .ok .activity_accepted)

/-- The error of a message that names an agent which is not registered. -/
def no_agent (what : String) (key : AgentKey) : String :=
  s!"no registered agent for {what}: {key.1.as_str}/{key.2}"

def token_update (daemon : BridgeDaemon) (request : RegistrationEnvelope) : BridgeDaemon × Answer :=
  match request.read_token with
  | .error err => (daemon, .error err)
  | .ok (key, usage) =>
    match daemon.registered.lookup key with
    | none => (daemon, .error (no_agent "token update" key))
    | some agent =>
      let agent := { agent with usage := usage }
      ((daemon.insert_agent key agent).push_outbox (token_message_for_agent agent).toList, .ok .token_accepted)

/-- Appends a turn and drops the oldest ones above the limit. -/
def push_turn (agent : RegisteredAgent) (event : ConversationTurn) : RegisteredAgent :=
  let turns := agent.turns ++ [event]
  let cap := max_retained_turns_per_agent
  { agent with turns := if turns.length > cap then turns.drop (turns.length - cap) else turns }

/-- Renders a passive agent's view again when the board is focused on it. -/
def push_live_view (daemon : BridgeDaemon) (agent : RegisteredAgent) : BridgeDaemon :=
  if !agent.from_launch && agent.board_sid.isSome && agent.board_sid == daemon.focused_board_sid then
    daemon.push_outbox (terminal_replay_message_for_agent agent).toList
  else daemon

def turn_append (daemon : BridgeDaemon) (request : RegistrationEnvelope) : BridgeDaemon × Answer :=
  match request.read_turn with
  | .error err => (daemon, .error err)
  | .ok (key, role, turn) =>
    match daemon.registered.lookup key with
    | none => (daemon, .error (no_agent "turn" key))
    | some agent =>
      let agent := push_turn agent ⟨agent.board_sid.getD .BROADCAST, role, turn.text, turn.ts_ms⟩
      (push_live_view (daemon.insert_agent key agent) agent, .ok .turn_accepted)

def permission_request (daemon : BridgeDaemon) (request : RegistrationEnvelope) : BridgeDaemon × Answer :=
  match request.read_permission with
  | .error err => (daemon, .error err)
  | .ok (key, perm) =>
    match daemon.registered.lookup key with
    | none => (daemon, .error (no_agent "permission" key))
    | some agent =>
      let event : PermissionRequest :=
        ⟨perm.req_id, agent.board_sid.getD .BROADCAST, perm.tool, perm.args_summary⟩
      let agent := { agent with
        resolved_permissions := agent.resolved_permissions.erase event.req_id
        pending_permissions := agent.pending_permissions ++ [event] }
      let daemon := (daemon.insert_agent key agent).push_outbox (permission_message_for_agent agent event).toList
      (push_live_view daemon agent, .ok .permission_queued)

def permission_resolve (daemon : BridgeDaemon) (request : RegistrationEnvelope) : BridgeDaemon × Answer :=
  match request.read_resolve with
  | .error err => (daemon, .error err)
  | .ok (key, req_id) =>
    match daemon.registered.lookup key with
    | none => (daemon, .error (no_agent "resolve" key))
    | some agent =>
      let before := agent.pending_permissions.length
      let kept := agent.pending_permissions.filter (fun p => p.req_id != req_id)
      (daemon.insert_agent key { agent with pending_permissions := kept },
        .ok (.permission_resolved (before - kept.length)))

def permission_poll (daemon : BridgeDaemon) (request : RegistrationEnvelope) : BridgeDaemon × Answer :=
  match request.read_poll with
  | .error err => (daemon, .error err)
  | .ok (key, req_id) =>
    match daemon.registered.lookup key with
    | none => (daemon, .error (no_agent "poll" key))
    | some agent =>
      match agent.resolved_permissions.lookup req_id with
      | some decision =>
        let agent := { agent with resolved_permissions := agent.resolved_permissions.erase req_id }
        (daemon.insert_agent key agent, .ok (.permission_decision req_id decision.as_str))
      | none =>
        let pending := agent.pending_permissions.any (fun perm => perm.req_id == req_id)
        (daemon, .ok (.permission_pending req_id pending))

/-- One turn of the mirror loop of `terminal.stream`. -/
def mirror_bytes (bytes : List UInt8) (daemon : BridgeDaemon) (mirror_key : AgentKey) : BridgeDaemon :=
  match daemon.registered.lookup mirror_key with
  | none => daemon
  | some agent =>
    let agent := agent.append_terminal_bytes bytes
    let daemon := daemon.insert_agent mirror_key agent
    match agent.board_sid with
    | some sid =>
      if agent.board_sid = daemon.focused_board_sid then daemon.push_outbox [⟨.Vt100Stream, sid.raw, bytes⟩]
      else daemon
    | none => daemon

def terminal_stream (daemon : BridgeDaemon) (request : RegistrationEnvelope) : BridgeDaemon × Answer :=
  match request.read_stream with
  | .error err => (daemon, .error err)
  | .ok (key, bytes) =>
    match daemon.registered.lookup key with
    | none => (daemon, .error (no_agent "terminal stream" key))
    | some _ =>
      let mirror_keys := key :: daemon.registered.keysWhere (fun _ agent => agent.attached_terminal == some key)
      let daemon := if bytes.isEmpty then daemon else mirror_keys.foldl (mirror_bytes bytes) daemon
      (daemon, .ok .stream_accepted)

def session_abort (daemon : BridgeDaemon) (request : RegistrationEnvelope) : BridgeDaemon × Answer :=
  match request.read_abort with
  | .error err => (daemon, .error err)
  | .ok key =>
    match daemon.registered.lookup key with
    | none => (daemon, .error (no_agent "abort" key))
    | some _ =>
      ({ daemon with
        registered := daemon.registered.erase key
        pending_board_sessions := daemon.pending_board_sessions.filter (fun pending => pending != key) },
        .ok .abort_accepted)

/-- The poller's sessions, then those of the registered agents that it did not find. -/
def merge_sessions (sessions : List AgentSession) (agents : List RegisteredAgent) : List AgentSession :=
  agents.foldl (fun sessions registered =>
    if sessions.any (fun session => session.kind == registered.kind && session.agent_id == registered.agent_id)
    then sessions else sessions ++ [registered.to_session]) sessions

def poll_once (daemon : BridgeDaemon) (polled : Except String AgentPollSnapshot) :
    BridgeDaemon × Except String DaemonSnapshot :=
  match polled with
  | .error err => (daemon, .error err)
  | .ok polled =>
    let daemon := { daemon with activities := daemon.activities ++ polled.activities }
    let sessions := merge_sessions polled.sessions (daemon.registered.entries.map (·.2))
    let sorted := sessions.mergeSort (fun a b => decide (b.agent_id ≤ a.agent_id))
    (daemon, .ok ⟨sorted, daemon.activities, daemon.registered.keys.length⟩)

def daemon_snapshot (daemon : BridgeDaemon) (polled : Except String AgentPollSnapshot) : BridgeDaemon × Answer :=
  match poll_once daemon polled with
  | (daemon, .error err) => (daemon, .error err)
  | (daemon, .ok snapshot) =>
    (daemon, .ok (.snapshot snapshot.sessions.length snapshot.activities.length snapshot.registered_agents))

def handle_json_line (daemon : BridgeDaemon) (line : Except String RegistrationEnvelope)
    (polled : Except String AgentPollSnapshot) : BridgeDaemon × Answer :=
  match line with
  | .error err => (daemon, .error s!"invalid json: {err}")
  | .ok request =>
    match request.message_type with
    | "agent.register" => agent_register daemon request
    | "agent.activity" => agent_activity daemon request
    | "daemon.snapshot" => daemon_snapshot daemon polled
    | "token.update" => token_update daemon request
    | "turn.append" => turn_append daemon request
    | "permission.request" => permission_request daemon request
    | "permission.resolve" => permission_resolve daemon request
    | "permission.poll" => permission_poll daemon request
    | "terminal.stream" => terminal_stream daemon request
    | "session.abort" => session_abort daemon request
    | other => (daemon, .error s!"unknown message type: {other}")

/-! ## Passive discovery -/

/-- One turn of the loop of `ingest_discovered_turns`, which counts the turns it took. -/
def ingest_discovered_turn (state : BridgeDaemon × Nat) (turn : DiscoveredTurn) : BridgeDaemon × Nat :=
  let key := (turn.kind, turn.agent_id)
  match state.1.registered.lookup key with
  | none => state
  | some agent =>
    let agent := push_turn agent ⟨agent.board_sid.getD .BROADCAST, turn.role, turn.text, 0⟩
    (state.1.insert_agent key agent, state.2 + 1)

def ingest_discovered_turns (daemon : BridgeDaemon) (turns : List DiscoveredTurn) : BridgeDaemon × Nat :=
  turns.foldl ingest_discovered_turn (daemon, 0)

/-- `u8::saturating_add` of one. -/
def saturating_succ (count : UInt8) : UInt8 := if count = 255 then 255 else count + 1

/-- One turn of the counting loop of `prune_missing_passive_sessions`: the
    counts, and the keys to drop so far. -/
def count_missing (registered : KeyedMap AgentKey RegisteredAgent) (seen : List AgentKey)
    (state : KeyedMap AgentKey UInt8 × List AgentKey) (key : AgentKey) : KeyedMap AgentKey UInt8 × List AgentKey :=
  if key ∈ seen then state
  else
    match state.1.lookup key with
    | some count =>
      let count := saturating_succ count
      let counts := state.1.insert key count
      if count ≥ PASSIVE_MISSING_GRACE_POLLS then (counts, state.2 ++ [key]) else (counts, state.2)
    | none => if (registered.lookup key).isSome then (state.1.insert key 1, state.2) else state

/-- One turn of the dropping loop of `prune_missing_passive_sessions`. -/
def drop_agent (daemon : BridgeDaemon) (key : AgentKey) : BridgeDaemon :=
  { daemon with
    registered := daemon.registered.erase key
    pending_board_sessions := daemon.pending_board_sessions.filter (fun pending => pending != key)
    passive_missing_counts := daemon.passive_missing_counts.erase key }

def prune_missing_passive_sessions (daemon : BridgeDaemon) (latest : List AgentSession) :
    BridgeDaemon × List AgentKey :=
  let seen := latest.map (fun s => (s.kind, s.agent_id))
  let counts := seen.foldl (fun counts key => counts.erase key) daemon.passive_missing_counts
  let candidates := daemon.registered.keysWhere
    (fun _ agent => !agent.from_launch && !agent.from_hook && agent.board_sid.isSome)
  let counted := candidates.foldl (count_missing daemon.registered seen) (counts, [])
  (counted.2.foldl drop_agent { daemon with passive_missing_counts := counted.1 }, counted.2)

/-- One turn of the loop of `register_discovered_sessions`, which counts the new agents. -/
def register_discovered_session (state : BridgeDaemon × Nat) (session : AgentSession) : BridgeDaemon × Nat :=
  let key := (session.kind, session.agent_id)
  match state.1.registered.lookup key with
  | some _ => ({ state.1 with passive_missing_counts := state.1.passive_missing_counts.erase key }, state.2)
  | none =>
    let agent := RegisteredAgent.from_session session
    let daemon := state.1.push_activity ⟨agent.agent_id, agent.kind, .Seen, agent.status, session.transcript_path⟩
    let daemon := enqueue_board_session_request daemon agent
    let daemon := { daemon with passive_missing_counts := daemon.passive_missing_counts.erase key }
    (daemon.insert_agent key agent, state.2 + 1)

def register_discovered_sessions (daemon : BridgeDaemon) (sessions : List AgentSession) : BridgeDaemon × Nat :=
  sessions.foldl register_discovered_session (daemon, 0)

/-! ## The outbox -/

def drain_board_outbox (daemon : BridgeDaemon) : BridgeDaemon × List HidMessage :=
  ({ daemon with board_outbox := [] }, daemon.board_outbox)

/-- The tick of the heartbeat thread of `run_tcp_hid_daemon`, before it flushes. -/
def push_heartbeats (daemon : BridgeDaemon) : BridgeDaemon :=
  let sids := (daemon.registered.entries.map (·.2)).filterMap (fun agent => agent.board_sid.map (·.raw))
  daemon.push_outbox (heartbeat_message BoardSid.BROADCAST.raw :: sids.map heartbeat_message)

/-- What `hid.send` answers to the calls of one flush, in order. -/
abbrev Sends := Nat → Except TransportError Unit

/-- Sends the frames of one message, the first of them with call number `call`:
    the frames delivered, and the error of the call that failed. -/
def send_frames (send : Sends) : Nat → List HidFrame → List HidMessage × Option TransportError
  | _, [] => ([], none)
  | call, frame :: frames =>
    match send call with
    | .error err => ([], some err)
    | .ok () =>
      let rest := send_frames send (call + 1) frames
      (⟨frame.cmd, frame.sid, frame.payload⟩ :: rest.1, rest.2)

/-- The loop of `flush_board_outbox`: what stays in the outbox, the frames
    delivered and the result. The message whose frame fails stays whole. -/
def flush_messages (send : Sends) : Nat → List HidMessage → List HidMessage × List HidMessage × Except String Unit
  | _, [] => ([], [], .ok ())
  | call, msg :: outbox =>
    let frames := split_host_to_board msg.cmd msg.sid msg.payload
    match send_frames send call frames with
    | (delivered, some err) =>
      (msg :: outbox, delivered, .error s!"HID send {msg.cmd.debug}/sid {msg.sid.toNat}: {err.display}")
    | (delivered, none) =>
      let rest := flush_messages send (call + frames.length) outbox
      (rest.1, delivered ++ rest.2.1, rest.2.2)

def flush_board_outbox (daemon : BridgeDaemon) (is_connected : Bool) (send : Sends) :
    BridgeDaemon × List HidMessage × Except String Unit :=
  if !is_connected then (daemon, [], .ok ())
  else
    let flushed := flush_messages send 0 daemon.board_outbox
    ({ daemon with board_outbox := flushed.1 }, flushed.2.1, flushed.2.2)

end VibeBridge.Daemon
