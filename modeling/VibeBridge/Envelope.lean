import VibeBridge.Agent

/-!
The JSON messages of the registration protocol, as they come out of their
deserialization: the envelope with one optional payload for each message type,
and the conversions of a payload to the daemon's own types. Missing optional
fields have their defaults by then. What the daemon answers is `Response`, one
constructor for each JSON object.
-/
namespace VibeBridge.Envelope
open VibeBridge.Text VibeBridge.Core VibeBridge.Agent

structure RegistrationAgentPayload where
  agent_id : String
  kind : String
  name : String := ""
  cwd : String := ""
  focus_target : Option String := none
  terminal_hwnd : Option Nat := none
  status : Option String := none
  parent_agent_id : Option String := none
  parent_kind : Option String := none
  from_launch : Bool := false

structure ActivityPayload where
  agent_id : String
  kind : String
  activity : String
  status : String
  transcript_path : String := ""

structure TokenUpdatePayload where
  agent_id : String
  kind : String
  input : UInt64 := 0
  output : UInt64 := 0
  cost_cents : UInt64 := 0

structure TurnPayload where
  agent_id : String
  kind : String
  role : String
  text : String
  ts_ms : UInt64 := 0

structure PermissionRequestPayload where
  agent_id : String
  kind : String
  req_id : UInt64
  tool : String
  args_summary : String := ""

structure PermissionResolvePayload where
  agent_id : String
  kind : String
  req_id : UInt64

structure PermissionPollPayload where
  agent_id : String
  kind : String
  req_id : UInt64

structure AbortPayload where
  agent_id : String
  kind : String

structure TerminalStreamPayload where
  agent_id : String
  kind : String
  data_hex : String

structure RegistrationEnvelope where
  message_type : String
  agent : Option RegistrationAgentPayload := none
  activity : Option ActivityPayload := none
  token : Option TokenUpdatePayload := none
  turn : Option TurnPayload := none
  permission : Option PermissionRequestPayload := none
  resolve : Option PermissionResolvePayload := none
  poll : Option PermissionPollPayload := none
  abort : Option AbortPayload := none
  stream : Option TerminalStreamPayload := none

/-- The JSON objects with `"ok": true`: their `"type"` and what else they carry. -/
inductive Response
  /-- `agent.registered` -/
  | registered
  /-- `agent.activity.accepted` -/
  | activity_accepted
  /-- `daemon.snapshot` -/
  | snapshot (sessions activities registered_agents : Nat)
  /-- `token.accepted` -/
  | token_accepted
  /-- `turn.accepted` -/
  | turn_accepted
  /-- `permission.queued` -/
  | permission_queued
  /-- `permission.resolved` -/
  | permission_resolved (removed : Nat)
  /-- `permission.decision` -/
  | permission_decision (req_id : UInt64) (decision : String)
  /-- `permission.pending` -/
  | permission_pending (req_id : UInt64) (pending : Bool)
  /-- `terminal.stream.accepted` -/
  | stream_accepted
  /-- `session.abort.accepted` -/
  | abort_accepted
  deriving DecidableEq, Repr

/-! ## Labels -/

def parse_kind (value : String) : Except String AgentKind :=
  let kind := AgentKind.from_label value
  if kind = .Unknown then .error s!"unknown agent kind: {value}" else .ok kind

def parse_role (value : String) : Except String TurnRole :=
  let label := to_ascii_lowercase (trim value)
  if label = "user" then .ok .User
  else if label ∈ ["assistant", "model"] then .ok .Assistant
  else if label ∈ ["tool", "tool_use", "tool_result"] then .ok .Tool
  else if label = "system" then .ok .System
  else .error s!"unknown turn role: {label}"

def status_from_label (value : String) : AgentStatus :=
  let label := to_ascii_lowercase (trim value)
  if label = "running" then .Running
  else if label ∈ ["waiting-input", "waiting_input", "waiting"] then .WaitingInput
  else if label = "idle" then .Idle
  else if label ∈ ["done", "completed", "complete"] then .Done
  else if label ∈ ["error", "failed"] then .Error
  else .Unknown

def activity_from_label (value : String) : AgentActivityKind :=
  let label := to_ascii_lowercase (trim value)
  if label = "seen" then .Seen
  else if label ∈ ["user-input", "user_input", "user"] then .UserInput
  else if label ∈ ["assistant-output", "assistant_output", "assistant"] then .AssistantOutput
  else if label ∈ ["waiting-input", "waiting_input", "waiting"] then .WaitingInput
  else if label ∈ ["completed", "complete", "done"] then .Completed
  else if label ∈ ["error", "failed"] then .Error
  else .ToolActivity

/-! ## Conversions -/

/-- The kind of a registration or an activity, whose id must not be blank. -/
def checked_identity (kind agent_id : String) : Except String AgentKind :=
  let parsed := AgentKind.from_label kind
  if parsed = .Unknown then .error s!"unknown agent kind: {kind}"
  else if (trim agent_id).isEmpty then .error "agent_id is required"
  else .ok parsed

/-- The terminal that a registration names as its parent. -/
def RegistrationAgentPayload.attached_terminal (payload : RegistrationAgentPayload) :
    Except String (Option AgentKey) :=
  match payload.parent_kind, payload.parent_agent_id with
  | some parent_kind, some parent_agent_id =>
    if (trim parent_agent_id).isEmpty then .ok none
    else
      let parent := AgentKind.from_label parent_kind
      if parent = .Unknown then .error "unknown parent kind: Unknown" else .ok (some (parent, parent_agent_id))
  | _, _ => .ok none

def RegistrationAgentPayload.into_registered_agent (payload : RegistrationAgentPayload) :
    Except String RegisteredAgent := do
  let kind ← checked_identity payload.kind payload.agent_id
  let attached_terminal ← payload.attached_terminal
  return {
    agent_id := payload.agent_id
    kind := kind
    name := payload.name
    cwd := payload.cwd
    focus_target := payload.focus_target
    terminal_hwnd := payload.terminal_hwnd
    status := status_from_label (payload.status.getD "running")
    board_sid := none
    usage := {}
    turns := []
    pending_permissions := []
    resolved_permissions := ∅
    from_hook := true
    from_launch := payload.from_launch
    terminal_buffer := []
    terminal_buffer_len := 0
    attached_terminal := attached_terminal }

def ActivityPayload.into_agent_activity (payload : ActivityPayload) : Except String AgentActivity := do
  let kind ← checked_identity payload.kind payload.agent_id
  return {
    agent_id := payload.agent_id
    kind := kind
    activity := activity_from_label payload.activity
    status := status_from_label payload.status
    transcript_path := payload.transcript_path }

/-- A new registration has no sid, no history and no permission of its own. -/
theorem registration_fresh {payload : RegistrationAgentPayload} {agent : RegisteredAgent}
    (accepted : payload.into_registered_agent = .ok agent) :
    agent.board_sid = none ∧ agent.pending_permissions = [] ∧ agent.resolved_permissions = ∅ ∧
      agent.from_hook = true ∧ agent.from_launch = payload.from_launch := by
  simp only [RegistrationAgentPayload.into_registered_agent,bind,Except.bind] at accepted
  split at accepted
  · cases accepted
  · split at accepted
    · cases accepted
    · cases accepted; simp

/-! ## Hexadecimal -/

def hex_nibble (byte : UInt8) : Option UInt8 :=
  if 0x30 ≤ byte ∧ byte ≤ 0x39 then some (byte - 0x30)
  else if 0x61 ≤ byte ∧ byte ≤ 0x66 then some (byte - 0x61 + 10)
  else if 0x41 ≤ byte ∧ byte ≤ 0x46 then some (byte - 0x41 + 10)
  else none

/-- The loop of `hex_decode`, two digits a byte. -/
def hex_decode_bytes : List UInt8 → Option (List UInt8)
  | hi :: lo :: rest => do
    let hi ← hex_nibble hi
    let lo ← hex_nibble lo
    let out ← hex_decode_bytes rest
    return ((hi <<< 4) ||| lo) :: out
  | _ => some []

def hex_decode (input : String) : Option (List UInt8) :=
  let bytes := as_bytes input
  if bytes.length % 2 ≠ 0 then none else hex_decode_bytes bytes

/-! ## What a handler reads

Each handler reads its payload before it looks at the daemon, and reports the
first thing that is wrong with it.
-/

/-- The payload of a message type, which must be there. -/
def required {α : Type} (payload : Option α) (message_type field : String) : Except String α :=
  match payload with
  | some payload => .ok payload
  | none => .error s!"{message_type} requires {field} payload"

/-- The key of the agent that a payload names. -/
def parse_key (kind agent_id : String) : Except String AgentKey := do
  return (← parse_kind kind, agent_id)

def RegistrationEnvelope.read_agent (request : RegistrationEnvelope) : Except String RegisteredAgent := do
  (← required request.agent "agent.register" "agent").into_registered_agent

def RegistrationEnvelope.read_activity (request : RegistrationEnvelope) : Except String AgentActivity := do
  (← required request.activity "agent.activity" "activity").into_agent_activity

def RegistrationEnvelope.read_token (request : RegistrationEnvelope) : Except String (AgentKey × TokenUsage) := do
  let update ← required request.token "token.update" "token"
  return (← parse_key update.kind update.agent_id, ⟨update.input, update.output, update.cost_cents⟩)

def RegistrationEnvelope.read_turn (request : RegistrationEnvelope) :
    Except String (AgentKey × TurnRole × TurnPayload) := do
  let turn ← required request.turn "turn.append" "turn"
  let key ← parse_key turn.kind turn.agent_id
  return (key, ← parse_role turn.role, turn)

def RegistrationEnvelope.read_permission (request : RegistrationEnvelope) :
    Except String (AgentKey × PermissionRequestPayload) := do
  let perm ← required request.permission "permission.request" "permission"
  return (← parse_key perm.kind perm.agent_id, perm)

def RegistrationEnvelope.read_resolve (request : RegistrationEnvelope) : Except String (AgentKey × UInt64) := do
  let resolve ← required request.resolve "permission.resolve" "resolve"
  return (← parse_key resolve.kind resolve.agent_id, resolve.req_id)

def RegistrationEnvelope.read_poll (request : RegistrationEnvelope) : Except String (AgentKey × UInt64) := do
  let poll ← required request.poll "permission.poll" "poll"
  return (← parse_key poll.kind poll.agent_id, poll.req_id)

def RegistrationEnvelope.read_stream (request : RegistrationEnvelope) :
    Except String (AgentKey × List UInt8) := do
  let stream ← required request.stream "terminal.stream" "stream"
  let key ← parse_key stream.kind stream.agent_id
  match hex_decode stream.data_hex with
  | some bytes => return (key, bytes)
  | none => .error "terminal.stream dataHex invalid"

def RegistrationEnvelope.read_abort (request : RegistrationEnvelope) : Except String AgentKey := do
  let abort ← required request.abort "session.abort" "abort"
  parse_key abort.kind abort.agent_id

end VibeBridge.Envelope
