import VibeBridge.KeyedMap
import VibeBridge.Payloads

/-!
A registered agent: the record that the daemon keeps of it, the buffer of its
terminal bytes, and the messages to the board that are made from it. An agent
without a board sid has no message. Lengths and window handles (`usize`) are
natural numbers.
-/
namespace VibeBridge.Agent
open VibeBridge.Text VibeBridge.Core VibeBridge.Protocol VibeBridge.Payloads

def VT100_BUFFER_BYTES : Nat := 64 * 1024

/-- `"\x1b[2J\x1b[H"` -/
def SCREEN_CLEAR : List UInt8 := [0x1b, 0x5b, 0x32, 0x4a, 0x1b, 0x5b, 0x48]

/-- An agent is known by its kind and its id. -/
abbrev AgentKey := AgentKind × String

structure RegisteredAgent where
  agent_id : String
  kind : AgentKind
  name : String
  cwd : String
  focus_target : Option String
  terminal_hwnd : Option Nat
  status : AgentStatus
  board_sid : Option BoardSid
  usage : TokenUsage
  turns : List ConversationTurn
  pending_permissions : List PermissionRequest
  resolved_permissions : KeyedMap UInt64 PermissionDecision
  from_hook : Bool
  from_launch : Bool
  terminal_buffer : List (List UInt8)
  terminal_buffer_len : Nat
  attached_terminal : Option AgentKey
  deriving DecidableEq

def RegisteredAgent.key (agent : RegisteredAgent) : AgentKey := (agent.kind, agent.agent_id)

/-- A passively discovered session as an agent: neither a hook nor a launch has registered it. -/
def RegisteredAgent.from_session (session : AgentSession) : RegisteredAgent where
  agent_id := session.agent_id
  kind := session.kind
  name := session.name
  cwd := session.cwd
  focus_target := none
  terminal_hwnd := session.terminal_hwnd
  status := session.status
  board_sid := none
  usage := {}
  turns := []
  pending_permissions := []
  resolved_permissions := ∅
  from_hook := false
  from_launch := false
  terminal_buffer := []
  terminal_buffer_len := 0
  attached_terminal := none

def RegisteredAgent.to_session (agent : RegisteredAgent) : AgentSession where
  agent_id := agent.agent_id
  kind := agent.kind
  name := if agent.name.isEmpty then String.ofList (agent.agent_id.toList.take 8) else agent.name
  cwd := agent.cwd
  transcript_path := ""
  status := agent.status
  terminal_hwnd := agent.terminal_hwnd

/-! ## The terminal buffer -/

/-- The loop of `append_terminal_bytes`: drops bytes at the front while the
    buffer is too long. -/
def trim_front : List (List UInt8) → Nat → List (List UInt8) × Nat
  | [], len => if len > VT100_BUFFER_BYTES then ([], 0) else ([], len)
  | front :: rest, len =>
    if len > VT100_BUFFER_BYTES then
      let overflow := len - VT100_BUFFER_BYTES
      if front.length ≤ overflow then trim_front rest (len - front.length)
      else (front.drop overflow :: rest, len - overflow)
    else (front :: rest, len)

def RegisteredAgent.append_terminal_bytes (agent : RegisteredAgent) (bytes : List UInt8) : RegisteredAgent :=
  if bytes.isEmpty then agent
  else if bytes.length ≥ VT100_BUFFER_BYTES then
    let keep_from := bytes.length - VT100_BUFFER_BYTES
    { agent with terminal_buffer := [bytes.drop keep_from], terminal_buffer_len := VT100_BUFFER_BYTES }
  else
    let trimmed := trim_front (agent.terminal_buffer ++ [bytes]) (agent.terminal_buffer_len + bytes.length)
    { agent with terminal_buffer := trimmed.1, terminal_buffer_len := trimmed.2 }

/-- Appending changes the buffer of an agent and nothing else. -/
theorem append_bytes_kept {α : Type} (field : RegisteredAgent → α) (kept : ∀ (agent : RegisteredAgent) buffer len,
    field { agent with terminal_buffer := buffer, terminal_buffer_len := len } = field agent) (agent : RegisteredAgent)
    (bytes : List UInt8) : field (agent.append_terminal_bytes bytes) = field agent := by
  unfold RegisteredAgent.append_terminal_bytes
  split
  · rfl
  · split <;> exact kept _ _ _

def RegisteredAgent.terminal_snapshot (agent : RegisteredAgent) : List UInt8 := agent.terminal_buffer.flatten

/-! ## Bytes of the protocol -/

def agent_kind_byte : AgentKind → UInt8
  | .Claude => 0
  | .Codex => 1
  | .Terminal => 0xFF
  | .Unknown => 0xFF

def status_byte : AgentStatus → SessionStateByte
  | .Running => .Run
  | .WaitingInput => .Wait
  | .Idle => .Connected
  | .Done => .Done
  | .Error => .Error
  | .Unknown => .Connected

def turn_role_byte : TurnRole → TurnRoleByte
  | .User => .User
  | .Assistant => .Assistant
  | .Tool => .Tool
  | .System => .System

def permission_decision_from_byte : PermissionDecisionByte → PermissionDecision
  | .Allow => .Allow
  | .Deny => .Deny
  | .Always => .Always

/-! ## Messages to the board -/

def is_transport_only_terminal (agent : RegisteredAgent) : Bool :=
  agent.kind == .Terminal && agent.from_launch

def meta_message_for_agent (agent : RegisteredAgent) : Option HidMessage := do
  let sid := (← agent.board_sid).raw
  return ⟨.AgentMeta, sid, encode_agent_meta (agent_kind_byte agent.kind) agent.cwd ""⟩

def status_message_for_agent (agent : RegisteredAgent) : Option HidMessage := do
  let sid := (← agent.board_sid).raw
  return ⟨.StatusUpdate, sid, [(status_byte agent.status).byte]⟩

def token_message_for_agent (agent : RegisteredAgent) : Option HidMessage :=
  if agent.usage = {} then none
  else do
    let sid := (← agent.board_sid).raw
    return ⟨.TokenUsage, sid, encode_token_usage agent.usage⟩

def turn_message_for_agent (agent : RegisteredAgent) (turn : ConversationTurn) : Option HidMessage := do
  let sid := (← agent.board_sid).raw
  return ⟨.TurnAppend, sid, encode_turn_append (turn_role_byte turn.role) turn.text⟩

def permission_message_for_agent (agent : RegisteredAgent) (permission : PermissionRequest) : Option HidMessage := do
  let sid := (← agent.board_sid).raw
  return ⟨.PermissionReq, sid, encode_permission_request permission.req_id permission.tool permission.args_summary⟩

def board_sync_messages (agent : RegisteredAgent) : List HidMessage :=
  (meta_message_for_agent agent).toList ++ (status_message_for_agent agent).toList ++
    (token_message_for_agent agent).toList ++
    (if agent.from_launch then (agent.turns.getLast?.bind (turn_message_for_agent agent)).toList else []) ++
    agent.pending_permissions.filterMap (permission_message_for_agent agent)

def RESET : String := "\x1b[0m"
def BOLD : String := "\x1b[1m"
def DIM : String := "\x1b[90m"
def FG_KIND : String := "\x1b[36m"
def FG_NAME : String := "\x1b[33m"

def render_passive_placeholder (agent : RegisteredAgent) : String :=
  let name := if agent.name.isEmpty then agent.agent_id else agent.name
  BOLD ++ FG_KIND ++ agent.kind.as_str ++ RESET ++ "  " ++ FG_NAME ++ name ++ RESET ++ "\r\n" ++
    DIM ++ "No live terminal capture for this passive session." ++ RESET ++ "\r\n" ++
    DIM ++ "Open a Vibe-captured Windows Terminal profile for 1:1 replay." ++ RESET ++ "\r\n"

def terminal_replay_message_for_agent (agent : RegisteredAgent) : Option HidMessage := do
  let sid := (← agent.board_sid).raw
  let snapshot := agent.terminal_snapshot
  if !snapshot.isEmpty then return ⟨.Vt100Stream, sid, SCREEN_CLEAR ++ snapshot⟩
  else if agent.attached_terminal.isSome then none
  else if agent.from_launch then return ⟨.Vt100Stream, sid, SCREEN_CLEAR⟩
  else return ⟨.Vt100Stream, sid, SCREEN_CLEAR ++ as_bytes (render_passive_placeholder agent)⟩

/-- The REQUEST_SESSION of an agent: its name, or its id when it has none, as a hint. -/
def request_session_message (agent : RegisteredAgent) : HidMessage :=
  let hint := if agent.name.isEmpty then as_bytes agent.agent_id else as_bytes agent.name
  ⟨.RequestSession, BoardSid.BROADCAST.raw, hint.take PLUGIN_HINT_MAX⟩

/-- The SESSION_HEARTBEAT of a sid. -/
def heartbeat_message (sid : UInt16) : HidMessage := ⟨.SessionHeartbeat, sid, []⟩

/-! ## What the messages say -/

theorem permission_message_bound {agent : RegisteredAgent} {sid : BoardSid} (bound : agent.board_sid = some sid)
    (permission : PermissionRequest) : permission_message_for_agent agent permission =
      some ⟨.PermissionReq, sid.raw,
        encode_permission_request permission.req_id permission.tool permission.args_summary⟩ := by
  simp [permission_message_for_agent,bound]

/-- No message that an agent's record gives asks for a session. -/
theorem sync_requests_nothing (agent : RegisteredAgent) :
    ∀ msg ∈ board_sync_messages agent, msg.cmd ≠ .RequestSession := by
  intro msg member
  simp only [board_sync_messages,List.mem_append,Option.mem_toList] at member
  rcases member with (((meta_m | status) | token) | turn) | permission
  · simp [meta_message_for_agent,Option.bind_eq_some_iff] at meta_m
    obtain ⟨sid,_,rfl⟩ := meta_m
    simp
  · simp [status_message_for_agent,Option.bind_eq_some_iff] at status
    obtain ⟨sid,_,rfl⟩ := status
    simp
  · simp [token_message_for_agent,Option.bind_eq_some_iff] at token
    obtain ⟨_,sid,_,rfl⟩ := token
    simp
  · split at turn
    · simp [turn_message_for_agent,Option.bind_eq_some_iff] at turn
      obtain ⟨_,_,sid,_,rfl⟩ := turn
      simp
    · simp at turn
  · simp [permission_message_for_agent,Option.bind_eq_some_iff] at permission
    obtain ⟨_,_,sid,_,rfl⟩ := permission
    simp

end VibeBridge.Agent
