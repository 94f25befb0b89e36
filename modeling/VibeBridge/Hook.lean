import VibeBridge.Daemon

/-!
The PreToolUse hook of the coding agent, a process that runs for each use of a
tool: it registers the agent, asks for the permission, and polls until there is
a decision. Every message waits for its answer, so the process is told by its
state, the message that it sends in that state and what an answer, or the lack of
one, makes of it.
-/
namespace VibeBridge.Hook
open VibeBridge.Envelope VibeBridge.Daemon

def KIND : String := "claude"

/-- What the hook has read from its input, its environment and the clock before
    it sends anything: the agent and its working directory, the time as the id of
    the request, and the tool. -/
structure HookInput where
  /-- `resolveAgentId(input)` -/
  agent_id : String
  /-- `path.basename(cwd)` -/
  name : String
  cwd : String
  /-- `Date.now()` -/
  req_id : UInt64
  tool : String
  args_summary : String

inductive HookState
  | registering
  | requesting
  | polling
  | decided (decision : String)
  | failed (error : String)
  deriving DecidableEq

/-! ## Messages -/

/-- The message of `registerAgent`. -/
def register_message (input : HookInput) : RegistrationEnvelope where
  message_type := "agent.register"
  agent := some { agent_id := input.agent_id, kind := KIND, name := input.name, cwd := input.cwd }

def request_message (input : HookInput) : RegistrationEnvelope where
  message_type := "permission.request"
  permission := some {
    agent_id := input.agent_id
    kind := KIND
    req_id := input.req_id
    tool := input.tool
    args_summary := input.args_summary }

/-- The message of `pollPermission`. -/
def poll_message (input : HookInput) : RegistrationEnvelope where
  message_type := "permission.poll"
  poll := some { agent_id := input.agent_id, kind := KIND, req_id := input.req_id }

/-- The message that the hook sends next. -/
def next_message (input : HookInput) : HookState → Option RegistrationEnvelope
  | .registering => some (register_message input)
  | .requesting => some (request_message input)
  | .polling => some (poll_message input)
  | .decided _ => none
  | .failed _ => none

/-! ## Answers -/

/-- What `pollPermission` returns on an answer, if it does not poll again. -/
def poll_result : Response → Option String
  | .permission_decision _ decision => some decision
  | .permission_pending _ false => some "ask"
  | _ => none

/-- The hook after an answer; `sendChecked` throws when the daemon rejects its message. -/
def HookState.receive : HookState → Answer → HookState
  | .registering, .ok _ => .requesting
  | .requesting, .ok _ => .polling
  | .polling, .ok resp =>
    match poll_result resp with
    | some decision => .decided decision
    | none => .polling
  | .decided decision, _ => .decided decision
  | .failed error, _ => .failed error
  | _, .error error => .failed error

/-- The hook when its connection ends without an answer, which `sendDaemon` returns as an empty one. -/
def HookState.unanswered : HookState → HookState
  | .registering => .requesting
  | .requesting => .polling
  | state => state

/-- The hook at the deadline of `pollPermission`. -/
def HookState.expire : HookState → HookState
  | .polling => .decided "ask"
  | state => state

/-- The hook when its connection fails or times out. -/
def HookState.give_up (error : String) : HookState → HookState
  | .decided decision => .decided decision
  | _ => .failed error

/-! ## Output -/

/-- What the hook prints: a permission decision and its reason, or `{"continue": true}`. -/
inductive HookOutput
  | pre_tool_decision (permissionDecision permissionDecisionReason : String)
  | continue
  deriving DecidableEq

def HookState.output : HookState → Option HookOutput
  | .decided decision =>
    let reason := if decision = "ask" then "AIKB board did not return a permission decision before timeout."
      else s!"AIKB board permission decision: {decision}"
    some (.pre_tool_decision (if decision = "deny" then "deny" else if decision = "always" then "allow" else decision)
      reason)
  | .failed _ => some .continue
  | _ => none

end VibeBridge.Hook
