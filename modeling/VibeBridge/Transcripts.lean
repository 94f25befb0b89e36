import VibeBridge.Core
import VibeBridge.Json

/-!
What one line of a transcript says (`vb-host`, `agent_discovery`): the activity
it shows and the conversation turn it holds. `parse` stands for
`serde_json::from_str`, which rejects a line that is not one JSON value.
-/
namespace VibeBridge.Transcripts
open VibeBridge.Text VibeBridge.Core VibeBridge.Json

/-! ## Status -/

def codex_event_status (payload : Value) : Option AgentStatus := do
  let event_type ← payload.text_at "type"
  if contains event_type "approval" || contains event_type "permission" || contains event_type "input" then
    some .WaitingInput
  else if event_type = "user_message" || event_type = "task_started" then some .Running
  else if event_type = "agent_message" then some .Idle
  else if event_type = "task_complete" then some .Done
  else if event_type = "exec_command_end" || event_type = "patch_apply_end" then
    let status := payload.text_at "status"
    if status = some "failed" || status = some "error" then some .Error else some .Running
  else none

def codex_response_status (payload : Value) : Option AgentStatus := do
  let response_type ← payload.text_at "type"
  if response_type ∈ ["reasoning", "function_call", "function_call_output", "custom_tool_call",
      "custom_tool_call_output"] then some .Running
  else if response_type = "message" then
    let role := payload.text_at "role"
    if role = some "assistant" then some .Idle
    else if role = some "user" then some .Running
    else none
  else none

def message_has_tool_use (message : Value) : Bool :=
  match (message.get "content").bind (·.as_array) with
  | some items => items.any (fun item => item.text_at "type" = some "tool_use" || item.text_at "type" = some "tool_result")
  | none => false

def claude_status (value : Value) : Option AgentStatus := do
  let line_type ← value.text_at "type"
  if line_type = "user" then some .Running
  else if line_type = "assistant" then
    if (value.get "error").isSome || (value.get "isApiErrorMessage").bind (·.as_bool) = some true then some .Error
    else if ((value.get "message").map message_has_tool_use).getD false then some .Running
    else some .Idle
  else if line_type = "progress" then some .Running
  else if line_type = "system" then
    let subtype := value.text_at "subtype"
    if subtype = some "turn_duration" || subtype = some "stop_hook_summary" then some .Done else none
  else none

/-! ## Activity -/

def codex_line_activity_status (value : Value) : Option (AgentActivityKind × AgentStatus) := do
  let line_type ← value.text_at "type"
  let payload := (value.get "payload").getD value
  if line_type = "event_msg" then
    let status ← codex_event_status payload
    match status with
    | .WaitingInput => some (.WaitingInput, status)
    | .Done => some (.Completed, status)
    | .Error => some (.Error, status)
    | .Idle => some (.AssistantOutput, status)
    | .Running => some (if payload.text_at "type" = some "user_message" then .UserInput else .ToolActivity, status)
    | .Unknown => none
  else if line_type = "response_item" then
    let status ← codex_response_status payload
    let activity :=
      if payload.text_at "type" = some "message" then
        if payload.text_at "role" = some "user" then .UserInput else .AssistantOutput
      else .ToolActivity
    some (activity, status)
  else none

def claude_line_activity_status (value : Value) : Option (AgentActivityKind × AgentStatus) := do
  let status ← claude_status value
  match status with
  | .Done => some (.Completed, status)
  | .Error => some (.Error, status)
  | .Idle => some (.AssistantOutput, status)
  | .Running => some (if value.text_at "type" = some "user" then .UserInput else .ToolActivity, status)
  | .WaitingInput => some (.WaitingInput, status)
  | .Unknown => none

/-- The two readers of activities, by the kind of the agent. -/
def line_activity_status (kind : AgentKind) (value : Value) : Option (AgentActivityKind × AgentStatus) :=
  match kind with
  | .Codex => codex_line_activity_status value
  | .Claude => claude_line_activity_status value
  | .Terminal => none
  | .Unknown => none

section
variable (parse : String → Option Value)

def line_to_activity (kind : AgentKind) (agent_id path line : String) : Option AgentActivity := do
  let value ← parse line
  let (activity, status) ← line_activity_status kind value
  some ⟨agent_id, kind, activity, status, path⟩

end

/-! ## Turns -/

/-- Placeholders that the agents write for events without content. -/
def is_pseudo_turn_text (text : String) : Bool :=
  let lower := to_ascii_lowercase text
  lower ∈ ["<turn_aborted>", "<user_interrupt>", "<system>", "<interrupted>", "[turn aborted]", "[user interrupted]"] ||
    starts_with lower "<system>" && ends_with lower "</system>"

/-- A loop that collects texts with a blank between them. -/
def join_texts (buf : String) : List String → String
  | [] => buf
  | text :: texts => join_texts ((if buf.isEmpty then buf else buf.push ' ') ++ text) texts

def extract_message_text (message : Value) (skip_tool_use : Bool) : Option String := do
  let content ← message.get "content"
  match content.as_str with
  | some s => some s
  | none =>
    let items ← content.as_array
    let kept := items.filter (fun item =>
      let item_type := (item.text_at "type").getD ""
      !(skip_tool_use && (item_type = "tool_use" || item_type = "tool_result")) && item_type ≠ "tool_result")
    let buf := join_texts "" (kept.filterMap (·.text_at "text"))
    if buf.isEmpty then none else some buf

def claude_line_to_turn (value : Value) : Option (TurnRole × String) := do
  let kind ← value.text_at "type"
  let message ← value.get "message"
  if kind = "user" then (extract_message_text message false).map (TurnRole.User, ·)
  else if kind = "assistant" then (extract_message_text message true).map (TurnRole.Assistant, ·)
  else none

def codex_line_to_turn (value : Value) : Option (TurnRole × String) := do
  let outer_type ← value.text_at "type"
  let payload := (value.get "payload").getD value
  if outer_type = "event_msg" then
    let payload_type ← payload.text_at "type"
    let role ←
      if payload_type = "user_message" then some TurnRole.User
      else if payload_type = "agent_message" then some TurnRole.Assistant
      else none
    let text ← payload.text_at "message"
    some (role, text)
  else if outer_type = "response_item" then
    let payload_type ← payload.text_at "type"
    if payload_type ≠ "message" then none
    else
      let role_text ← payload.text_at "role"
      let role ←
        if role_text = "user" then some TurnRole.User
        else if role_text = "assistant" then some TurnRole.Assistant
        else none
      let content ← payload.get "content"
      match content.as_str with
      | some s => some (role, s)
      | none =>
        let items ← content.as_array
        let kept := items.filter (fun item => (item.text_at "type").getD "" ∈ ["input_text", "output_text", "text"])
        let buf := join_texts "" (kept.filterMap (·.text_at "text"))
        if buf.isEmpty then none else some (role, buf)
  else none

/-- The two readers of turns, by the kind of the agent. -/
def line_to_turn (kind : AgentKind) (value : Value) : Option (TurnRole × String) :=
  match kind with
  | .Claude => claude_line_to_turn value
  | .Codex => codex_line_to_turn value
  | .Terminal => none
  | .Unknown => none

section
variable (parse : String → Option Value)

def line_to_discovered_turn (kind : AgentKind) (agent_id line : String) : Option DiscoveredTurn := do
  let value ← parse line
  let (role, text) ← line_to_turn kind value
  let text := trim text
  if text.isEmpty || is_pseudo_turn_text text then none else some ⟨kind, agent_id, role, text⟩

/-- A turn is told of the agent that it was read for. -/
theorem turn_of_agent {kind : AgentKind} {agent_id line : String} {turn : DiscoveredTurn}
    (found : line_to_discovered_turn parse kind agent_id line = some turn) :
    turn.kind = kind ∧ turn.agent_id = agent_id := by
  simp only [line_to_discovered_turn,Option.bind_eq_bind,Option.bind_eq_some_iff] at found
  obtain ⟨value,parsed,⟨role,text⟩,read,told⟩ := found
  split at told
  · cases told
  · cases told
    exact ⟨rfl,rfl⟩

/-- An agent of neither kind has no records. -/
theorem no_records {kind : AgentKind} (foreign : kind = .Terminal ∨ kind = .Unknown) (agent_id path line : String) :
    line_to_activity parse kind agent_id path line = none ∧ line_to_discovered_turn parse kind agent_id line = none := by
  rcases foreign with rfl | rfl <;> cases parsed : parse line <;>
    simp [line_to_activity,line_to_discovered_turn,line_activity_status,line_to_turn,parsed]

end

/-! ## A record -/

def user_line : String := "\x7b\"type\":\"user\",\"message\":\x7b\"content\":\"hi\"\x7d\x7d"

/-- `serde_json::from_str` on the line and on no other text. -/
def parse_user_line (line : String) : Option Value :=
  if line = user_line then
    some (.object [("type", .string "user"), ("message", .object [("content", .string "hi")])])
  else none

def first_session : AgentSession := ⟨"a", .Claude, "a", "/", "/a.jsonl", .Running, none⟩

example : line_to_discovered_turn parse_user_line .Claude "a" user_line = some ⟨.Claude, "a", .User, "hi"⟩ := by decide

end VibeBridge.Transcripts
