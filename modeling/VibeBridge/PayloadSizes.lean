import VibeBridge.Flushing

/-!
The sizes of what the board is sent. Whatever is in the outbox was made from the
record of an agent, or asks for a session, or is a heartbeat (`outbox_produced`).
Each maker cuts the texts that it is given so that the payload fits in one report,
and only the terminal stream is left to `split_host_to_board` (`records_whole`).
-/
namespace VibeBridge.PayloadSizes
open Transitions Relation
open VibeBridge.Text VibeBridge.Core VibeBridge.Protocol VibeBridge.Payloads VibeBridge.Agent VibeBridge.Envelope
open VibeBridge.Daemon VibeBridge.Bridge VibeBridge.Events VibeBridge.Handlers VibeBridge.Outbox VibeBridge.Flushing

/-! ## The makers -/

/-- The message fits in one report, unless it is a piece of a terminal stream. -/
def Fits (msg : HidMessage) : Prop := msg.cmd ≠ .Vt100Stream → msg.payload.length ≤ HID_MAX_PAYLOAD

theorem fits_of_size {msg : HidMessage} (size : msg.payload.length ≤ HID_MAX_PAYLOAD) : Fits msg := fun _ => size

variable {agent : RegisteredAgent} {msg : HidMessage}

theorem meta_fits (made : meta_message_for_agent agent = some msg) : Fits msg := by
  simp only [meta_message_for_agent,Option.bind_eq_bind,Option.bind_eq_some_iff,Option.pure_def,Option.some.injEq] at made
  obtain ⟨sid,_,rfl⟩ := made
  exact fits_of_size (agent_meta_size _ _ _)

theorem status_fits (made : status_message_for_agent agent = some msg) : Fits msg := by
  simp only [status_message_for_agent,Option.bind_eq_bind,Option.bind_eq_some_iff,Option.pure_def,Option.some.injEq] at made
  obtain ⟨sid,_,rfl⟩ := made
  exact fits_of_size (by simp [HID_MAX_PAYLOAD,HID_REPORT_LEN,HID_HEADER_SIZE])

theorem token_fits (made : token_message_for_agent agent = some msg) : Fits msg := by
  rw [token_message_for_agent] at made
  split at made
  · cases made
  · simp only [Option.bind_eq_bind,Option.bind_eq_some_iff,Option.pure_def,Option.some.injEq] at made
    obtain ⟨sid,_,rfl⟩ := made
    refine fits_of_size ?_
    rw [token_usage_size]
    decide

theorem turn_fits {turn : ConversationTurn} (made : turn_message_for_agent agent turn = some msg) : Fits msg := by
  simp only [turn_message_for_agent,Option.bind_eq_bind,Option.bind_eq_some_iff,Option.pure_def,Option.some.injEq] at made
  obtain ⟨sid,_,rfl⟩ := made
  exact fits_of_size (turn_append_size _ _)

theorem permission_fits {permission : PermissionRequest}
    (made : permission_message_for_agent agent permission = some msg) : Fits msg := by
  simp only [permission_message_for_agent,Option.bind_eq_bind,Option.bind_eq_some_iff,Option.pure_def,Option.some.injEq]
    at made
  obtain ⟨sid,_,rfl⟩ := made
  exact fits_of_size (permission_request_size _ _ _)

theorem sync_fits (among : msg ∈ board_sync_messages agent) : Fits msg := by
  simp only [board_sync_messages,List.mem_append,Option.mem_toList] at among
  rcases among with (((described | status) | token) | turn) | permission
  · exact meta_fits described
  · exact status_fits status
  · exact token_fits token
  · split at turn
    · rw [Option.mem_toList,Option.bind_eq_some_iff] at turn
      obtain ⟨last,_,made⟩ := turn
      exact turn_fits made
    · cases turn
  · obtain ⟨permission,_,made⟩ := List.mem_filterMap.mp permission
    exact permission_fits made

/-- What shows a screen anew is a piece of a terminal stream. -/
theorem replay_streams (made : terminal_replay_message_for_agent agent = some msg) : msg.cmd = .Vt100Stream := by
  simp only [terminal_replay_message_for_agent,Option.bind_eq_bind,Option.bind_eq_some_iff] at made
  obtain ⟨sid,_,same⟩ := made
  split at same
  · cases same; rfl
  · split at same
    · cases same
    · split at same <;> (cases same; rfl)

theorem made_fits (made : AgentMessage msg) : Fits msg := by
  cases made with
  | sync among => exact sync_fits among
  | replay replayed => exact fun other => absurd (replay_streams replayed) other
  | stream => exact fun other => absurd rfl other
  | heartbeat => exact fits_of_size (Nat.zero_le _)

theorem request_fits (agent : RegisteredAgent) : Fits (request_session_message agent) := by
  refine fits_of_size ?_
  simp only [request_session_message,List.length_take]
  exact Nat.le_trans (Nat.min_le_left _ _) (by decide)

/-! ## What is in the outbox -/

/-- A message that one of the makers has made. -/
inductive Produced : HidMessage → Prop
  | tells {msg : HidMessage} (made : AgentMessage msg) : Produced msg
  | asks (agent : RegisteredAgent) : Produced (request_session_message agent)

theorem produced_fits (produced : Produced msg) : Fits msg := by
  cases produced with
  | tells made => exact made_fits made
  | asks agent => exact request_fits agent

/-- Every message in the outbox has its maker. -/
def AllProduced (daemon : BridgeDaemon) : Prop := ∀ msg ∈ daemon.board_outbox, Produced msg

theorem produced_append {daemon post : BridgeDaemon} {news : List HidMessage} (all : AllProduced daemon)
    (outbox : post.board_outbox = daemon.board_outbox ++ news) (made : ∀ msg ∈ news, Produced msg) : AllProduced post := by
  intro msg member
  rw [outbox,List.mem_append] at member
  exact member.elim (all msg) (made msg)

theorem produced_same {daemon post : BridgeDaemon} (all : AllProduced daemon)
    (outbox : post.board_outbox = daemon.board_outbox) : AllProduced post :=
  produced_append all (outbox.trans (List.append_nil _).symm) (by simp)

theorem produced_writes {daemon post : BridgeDaemon} (writes : Writes daemon post) (all : AllProduced daemon) :
    AllProduced post := by
  induction writes with
  | refl => exact all
  | tail before write ih =>
    cases write with
    | tells made => exact produced_append ih rfl (fun msg member => .tells (made msg member))
    | @asks agent new =>
      refine produced_append ih rfl ?_
      intro msg member
      rw [List.mem_singleton.mp member]
      exact .asks agent
    | records marks => exact produced_same ih rfl
    | notes activities counts focused => exact produced_same ih rfl

theorem invalid_outbox (daemon : BridgeDaemon) (sid : UInt16) :
    (handle_session_invalid daemon sid).1.board_outbox = daemon.board_outbox := by
  rw [handle_session_invalid]
  split <;> rfl

theorem produced_board {daemon : BridgeDaemon} (msg : HidMessage) (all : AllProduced daemon) :
    AllProduced (handle_board_message daemon msg).1 := by
  rw [handle_board_message]
  split
  · obtain ⟨news,outbox,made⟩ := response_makes daemon msg.sid msg.payload
    exact produced_append all outbox (fun new member => .tells (made new member))
  · exact produced_writes (writes_focus daemon msg.sid) all
  · exact produced_writes (writes_decision daemon msg.sid msg.payload) all
  · exact produced_same all (invalid_outbox daemon msg.sid)
  · exact all
  · exact all
  · exact all

/-- No call puts into the outbox what has no maker; a flush and a drain take out. -/
theorem produced_move {m : BridgeMove} (move : bridge m) (all : AllProduced m.pre) : AllProduced m.post := by
  by_cases flushes : ∃ is_connected send, m.input = .flush is_connected send
  · obtain ⟨is_connected,send,input⟩ := flushes
    obtain ⟨sent,_,outbox,_⟩ := flush_flow move input
    intro msg member
    exact all msg (by rw [outbox]; exact List.mem_append_right sent member)
  obtain ⟨daemon,same,result⟩ := move
  have before : AllProduced daemon := produced_same all (rehashed_outbox same).1
  rw [← show (handle daemon m.input).1 = m.post from congrArg Prod.fst result]
  cases input : m.input with
  | json_line line polled =>
    by_cases aborts : ∃ request, line = .ok request ∧ request.message_type = "session.abort"
    · obtain ⟨request,rfl,type⟩ := aborts
      exact produced_same before (by simp only [handle,handle_json_line,type,abort_appends])
    · exact produced_writes (writes_json daemon line polled (fun request same type => aborts ⟨request,same,type⟩)) before
  | board_message msg => exact produced_board msg before
  | discovered_sessions sessions => exact produced_writes (writes_fold Prod.fst writes_discovered sessions (daemon,0)) before
  | discovered_turns turns => exact produced_writes (writes_fold Prod.fst writes_turns turns (daemon,0)) before
  | prune latest => exact produced_same before (prune_outbox daemon latest)
  | heartbeat => exact produced_writes (writes_heartbeat daemon) before
  | flush is_connected send => exact absurd ⟨is_connected,send,input⟩ flushes
  | drain => exact fun msg member => (List.not_mem_nil member).elim

theorem outbox_produced {daemon : BridgeDaemon} (reachable : Reachable daemon) : AllProduced daemon := by
  obtain ⟨ms,run⟩ := reachable
  exact path_invariant (fun m move all => produced_move move all) run (fun msg member => (List.not_mem_nil member).elim)

/-- In every reachable state a message of the outbox that is no piece of a terminal stream has at
    most 58 bytes of payload, and goes to the board as one frame with all of it. -/
theorem records_whole {daemon : BridgeDaemon} (reachable : Reachable daemon) :
    ∀ msg ∈ daemon.board_outbox, msg.cmd ≠ .Vt100Stream → msg.payload.length ≤ 58 ∧
      split_host_to_board msg.cmd msg.sid msg.payload = [⟨REPORT_ID_DEVICE_BOUND,msg.cmd,msg.sid,msg.payload⟩] := by
  intro msg member record
  have fits := produced_fits (outbox_produced reachable msg member) record
  exact ⟨fits,split_short msg.cmd msg.sid msg.payload fits⟩

/-- An agent registers under a long path, and the board grants it a sid. -/
def long_path : List Event :=
  let cwd := "/home/user/projects/vibe-bridge/crates/vb-protocol/src/payloads.rs"
  [.json_line (.ok { message_type := "agent.register", agent := some { agent_id := "x", kind := "claude", cwd } })
    (.ok ⟨[],[],[]⟩),full_flush,session_response 7 .Ok]

theorem records_whole_long_path :
    let payload := 0 :: 56 :: (as_bytes "/home/user/projects/vibe-bridge/crates/vb-protocol/src/payloads.rs").take 56
    split_host_to_board .AgentMeta 7 payload = [⟨REPORT_ID_DEVICE_BOUND,.AgentMeta,7,payload⟩] := by
  intro payload
  have member : (⟨.AgentMeta,7,payload⟩ : HidMessage) ∈ (finish handle BridgeDaemon.new long_path).board_outbox := by decide
  exact (records_whole ⟨_,run_events long_path⟩ _ member (by decide)).2

end VibeBridge.PayloadSizes
