import VibeBridge.Text

/-!
The host-side types of `vb-core` that the daemon keeps or passes on: agents,
their sessions and activities, board session ids, token usage, conversation
turns and permission requests.
-/
namespace VibeBridge.Core
open VibeBridge.Text

inductive AgentKind
  | Claude
  | Codex
  | Terminal
  | Unknown
  deriving DecidableEq, Repr

def AgentKind.as_str : AgentKind → String
  | .Claude => "claude"
  | .Codex => "codex"
  | .Terminal => "terminal"
  | .Unknown => "unknown"

def AgentKind.from_label (value : String) : AgentKind :=
  let label := to_ascii_lowercase (trim value)
  if label ∈ ["claude", "claude-code"] then .Claude
  else if label ∈ ["codex", "codex-cli", "codex-tui"] then .Codex
  else if label ∈ ["terminal", "shell", "vibe-terminal", "capture-shell"] then .Terminal
  else .Unknown

inductive AgentStatus
  | Running
  | WaitingInput
  | Idle
  | Done
  | Error
  | Unknown
  deriving DecidableEq, Repr

inductive AgentActivityKind
  | Seen
  | UserInput
  | AssistantOutput
  | ToolActivity
  | WaitingInput
  | Completed
  | Error
  deriving DecidableEq, Repr

structure AgentSession where
  agent_id : String
  kind : AgentKind
  name : String
  cwd : String
  transcript_path : String
  status : AgentStatus
  terminal_hwnd : Option Nat
  deriving DecidableEq, Repr

structure AgentActivity where
  agent_id : String
  kind : AgentKind
  activity : AgentActivityKind
  status : AgentStatus
  transcript_path : String
  deriving DecidableEq, Repr

/-- A session id the board assigned; 0 is the broadcast id. -/
structure BoardSid where
  raw : UInt16
  deriving DecidableEq, Repr

def BoardSid.BROADCAST : BoardSid := ⟨0⟩

structure TokenUsage where
  input : UInt64 := 0
  output : UInt64 := 0
  cost_cents : UInt64 := 0
  deriving DecidableEq, Repr

inductive TurnRole
  | User
  | Assistant
  | Tool
  | System
  deriving DecidableEq, Repr

structure ConversationTurn where
  sid : BoardSid
  role : TurnRole
  text : String
  ts_ms : UInt64
  deriving DecidableEq, Repr

structure PermissionRequest where
  req_id : UInt64
  sid : BoardSid
  tool : String
  args_summary : String
  deriving DecidableEq, Repr

inductive PermissionDecision
  | Allow
  | Deny
  | Always
  deriving DecidableEq, Repr

def PermissionDecision.as_str : PermissionDecision → String
  | .Allow => "allow"
  | .Deny => "deny"
  | .Always => "always"

/-- A decision is told by its text. -/
theorem decision_text_injective {d e : PermissionDecision} (same : d.as_str = e.as_str) : d = e := by
  cases d <;> cases e <;> simp_all [PermissionDecision.as_str]

/-- A turn that the transcript scan of `vb-host` found. -/
structure DiscoveredTurn where
  kind : AgentKind
  agent_id : String
  role : TurnRole
  text : String
  deriving DecidableEq, Repr

/-- What one poll of the transcript sources yields. -/
structure AgentPollSnapshot where
  sessions : List AgentSession
  activities : List AgentActivity
  turns : List DiscoveredTurn
  deriving DecidableEq, Repr

end VibeBridge.Core
