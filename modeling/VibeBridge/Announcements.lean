import VibeBridge.Outbox

/-!
What the board is told of pending permissions. A permission that is asked while
its agent is bound is announced at once, and the permissions that are pending
when an agent is bound are announced then. So all that are pending for a bound
agent were announced under its sid since it was bound (`announced_run`).
-/
namespace VibeBridge.Announcements
open Transitions Leases
open VibeBridge.Core VibeBridge.Protocol VibeBridge.Payloads VibeBridge.Agent VibeBridge.Envelope VibeBridge.Daemon
open VibeBridge.Bridge VibeBridge.Sessions VibeBridge.Abstraction VibeBridge.Events VibeBridge.Bindings VibeBridge.Outbox

/-- The PERMISSION_REQ that tells the board of a permission under a sid. -/
def announcement (sid : BoardSid) (permission : PermissionRequest) : HidMessage :=
  ⟨.PermissionReq,sid.raw,encode_permission_request permission.req_id permission.tool permission.args_summary⟩

/-- Since the agent was bound to the sid, each of the permissions was announced to the board, in this order. -/
def Announced (ms : List BridgeMove) (key : AgentKey) (sid : BoardSid) (pending : List PermissionRequest) : Prop :=
  ∃ before after, ms = before ++ after ∧ (∀ m ∈ after, sid_of m.post key = some sid) ∧
    (pending.map (announcement sid)).Sublist (after.flatMap enqueued)

/-- What was announced stays announced while the agent is bound, together with
    what the next move announces. -/
theorem announced_next {ms : List BridgeMove} {m : BridgeMove} {key : AgentKey} {sid : BoardSid}
    {pending pending' news : List PermissionRequest} (announced : Announced ms key sid pending)
    (bound : sid_of m.post key = some sid) (fewer : pending'.Sublist (pending ++ news))
    (told : (news.map (announcement sid)).Sublist (enqueued m)) : Announced (ms ++ [m]) key sid pending' := by
  obtain ⟨before,after,rfl,since,earlier⟩ := announced
  refine ⟨before,after ++ [m],List.append_assoc _ _ _,?_,?_⟩
  · intro m' member
    rcases List.mem_append.mp member with old | new
    · exact since m' old
    · rw [List.mem_singleton.mp new]; exact bound
  · have all := earlier.append told
    rw [← List.map_append] at all
    simpa using (fewer.map (announcement sid)).trans all

theorem announced_kept {ms : List BridgeMove} {m : BridgeMove} {key : AgentKey} {sid : BoardSid}
    {pending pending' : List PermissionRequest} (announced : Announced ms key sid pending)
    (bound : sid_of m.post key = some sid) (fewer : pending'.Sublist pending) :
    Announced (ms ++ [m]) key sid pending' :=
  announced_next announced bound (show pending'.Sublist (pending ++ []) by simpa using fewer) (List.nil_sublist _)

/-- What the move announces that binds the agent is announced. -/
theorem announced_now {ms : List BridgeMove} {m : BridgeMove} {key : AgentKey} {sid : BoardSid}
    {pending : List PermissionRequest} (bound : sid_of m.post key = some sid)
    (told : (pending.map (announcement sid)).Sublist (enqueued m)) : Announced (ms ++ [m]) key sid pending :=
  ⟨ms,[m],rfl,by simpa using bound,by simpa using told⟩

theorem enqueued_news {m : BridgeMove} {news : List HidMessage}
    (outbox : m.post.board_outbox = m.pre.board_outbox ++ news) : enqueued m = news := by
  rw [enqueued,outbox,List.drop_left]

theorem live_view_outbox (daemon : BridgeDaemon) (agent : RegisteredAgent) :
    ∃ view, (push_live_view daemon agent).board_outbox = daemon.board_outbox ++ view := by
  unfold push_live_view
  split
  · exact ⟨_,rfl⟩
  · exact ⟨[],by simp⟩

theorem request_outbox {daemon : BridgeDaemon} {request : RegistrationEnvelope} {key : AgentKey}
    {perm : PermissionRequestPayload} {agent : RegisteredAgent} {sid : BoardSid}
    (reading : request.read_permission = .ok (key,perm)) (found : daemon.registered.lookup key = some agent)
    (bound : agent.board_sid = some sid) : ∃ view, (permission_request daemon request).1.board_outbox =
      daemon.board_outbox ++ announcement sid (recorded agent perm) :: view := by
  simp only [permission_request,reading,found]
  obtain ⟨view,outbox⟩ := live_view_outbox _ _
  refine ⟨view,outbox.trans ?_⟩
  simp [BridgeDaemon.push_outbox,BridgeDaemon.insert_agent,permission_message_for_agent,announcement,recorded,bound]

/-- A permission that a bound agent asks for is announced. -/
theorem request_announces {m : BridgeMove} (move : bridge m) {key : AgentKey} {perm : PermissionRequestPayload}
    {agent : RegisteredAgent} {sid : BoardSid} (told : Requests m.input key perm)
    (found : m.pre.registered.lookup key = some agent) (bound : agent.board_sid = some sid) :
    announcement sid (recorded agent perm) ∈ enqueued m := by
  obtain ⟨daemon,same,result⟩ := move
  obtain ⟨request,⟨polled,input,type⟩,reading⟩ := told
  rw [← rehashed_lookup same] at found
  have post : (permission_request daemon request).1 = m.post := by
    rw [input] at result
    simp only [handle,handle_json_line,type,Prod.mk.injEq] at result
    exact result.1
  obtain ⟨view,outbox⟩ := request_outbox reading found bound
  rw [post,(rehashed_outbox same).1] at outbox
  rw [enqueued_news outbox]
  exact List.mem_cons_self

/-- When the board binds an agent, all its pending permissions are announced. -/
theorem grant_announces {m : BridgeMove} (move : bridge m) {sid : UInt16} (told : GrantsSid m.input sid)
    {key : AgentKey} (first : m.pre.pending_board_sessions.head? = some key) {agent : RegisteredAgent}
    (found : m.pre.registered.lookup key = some agent) :
    (agent.pending_permissions.map (announcement ⟨sid⟩)).Sublist (enqueued m) := by
  obtain ⟨daemon,same,result⟩ := move
  obtain ⟨payload,input,grants⟩ := told
  obtain ⟨waiting,queue⟩ := List.head?_eq_some_iff.mp first
  obtain ⟨granted,response,_,outbox,_⟩ := response_granted grants ((rehashed_outbox same).2.trans queue)
    ((rehashed_lookup same key).trans found)
  rw [input] at result
  simp only [handle,handle_board_message,response,Prod.mk.injEq] at result
  obtain ⟨rfl,_⟩ := result
  rw [(rehashed_outbox same).1] at outbox
  rw [enqueued_news outbox]
  have told : agent.pending_permissions.filterMap (permission_message_for_agent (with_sid ⟨sid⟩ agent)) =
      agent.pending_permissions.map (announcement ⟨sid⟩) := by
    rw [← List.filterMap_eq_map']
    refine List.filterMap_congr ?_
    intro permission _
    exact permission_message_bound rfl permission
  rw [← told]
  exact List.sublist_append_right _ _

/-- After a move the permissions of a bound agent are announced, if they were before. -/
theorem announced_move {ms : List BridgeMove} {m : BridgeMove} (move : bridge m)
    (announced : ∀ key agent sid, m.pre.registered.lookup key = some agent → agent.board_sid = some sid →
      Announced ms key sid agent.pending_permissions)
    {key : AgentKey} {agent : RegisteredAgent} {sid : BoardSid} (found : m.post.registered.lookup key = some agent)
    (bound : agent.board_sid = some sid) : Announced (ms ++ [m]) key sid agent.pending_permissions := by
  have now : sid_of m.post key = some sid := sid_of_iff.mpr ⟨agent,found,bound⟩
  rcases move_entry move (entry_lookup found) with ⟨exempt,fresh⟩ | before | ⟨daemon,e',a,same,before,cause,change⟩
  · have unbound := congrArg Entry.held fresh
    rw [show (entry_of agent).held = _ from bound] at unbound
    cases unbound
  · obtain ⟨agent',found',entry⟩ := lookup_entry before
    have held : agent'.board_sid = some sid := (congrArg Entry.held entry).trans bound
    have asked : agent'.pending_permissions = agent.pending_permissions := congrArg Entry.asked entry
    exact announced_kept (announced key agent' sid found' held) now (by rw [asked])
  · obtain ⟨agent',found',rfl⟩ := lookup_entry before
    -- The sid and the permissions of the agent are told by its entry.
    have held : (entry_of agent).held = some sid := bound
    have asked : (entry_of agent).asked = agent.pending_permissions := rfl
    rw [← asked]
    generalize entry_of agent = e at change held
    have earlier : (entry_of agent').held = some sid → Announced ms key sid (entry_of agent').asked :=
      fun held => announced key agent' sid found' held
    cases change with
    | same => exact announced_kept (earlier held) now (List.Sublist.refl _)
    | exempted => exact announced_kept (earlier held) now (List.Sublist.refl _)
    | granted first =>
      cases held
      cases cause with
      | grant told => exact announced_now now (grant_announces move told first found')
    | stolen _ _ _ => cases held
    | revoked _ => cases held
    | asked =>
      refine announced_next (earlier held) now (List.Sublist.refl _) ?_
      cases cause with
      | request told found'' =>
        rw [rehashed_lookup same,found'] at found''
        cases found''
        simpa using request_announces move told found' held
    | withdrawn => exact announced_kept (earlier held) now List.filter_sublist
    | taken => exact announced_kept (earlier held) now (List.Sublist.refl _)
    | decided => exact announced_kept (earlier held) now List.filter_sublist

/-- In every state that the daemon reaches, the pending permissions of an agent
    that has a sid were announced under this sid since the agent was bound to it. -/
theorem announced_run {ms : List BridgeMove} {daemon : BridgeDaemon} (run : Run ms daemon) {key : AgentKey}
    {agent : RegisteredAgent} {sid : BoardSid} (found : daemon.registered.lookup key = some agent)
    (bound : agent.board_sid = some sid) :
    ∃ before after, ms = before ++ after ∧ (∀ m ∈ after, sid_of m.post key = some sid) ∧
      (agent.pending_permissions.map (announcement sid)).Sublist (after.flatMap enqueued) := by
  have all : ∀ key agent sid, daemon.registered.lookup key = some agent → agent.board_sid = some sid →
      Announced ms key sid agent.pending_permissions := by
    clear found bound
    induction run with
    | refl => intro key agent sid found; cases found
    | next before move ih =>
      intro key agent sid found bound
      exact announced_move move ih found bound
  exact all key agent sid found bound

/-- A permission is asked before the agent is bound, another one after it, and the agent is bound anew. -/
def rebound : List Event :=
  [registration "claude" "x" false,asking "claude" "x" 1,full_flush,session_response 7 .Ok,asking "claude" "x" 2,
    session_invalid 7,registration "claude" "x" false,full_flush,session_response 9 .Created]

theorem announced_run_rebound : ∃ agent, (finish handle BridgeDaemon.new rebound).registered.lookup (.Claude,"x") =
    some agent ∧ agent.pending_permissions.map (·.req_id) = [1,2] ∧
      ∃ before after, moves handle BridgeDaemon.new rebound = before ++ after ∧
        (∀ m ∈ after, sid_of m.post (.Claude,"x") = some ⟨9⟩) ∧
        (agent.pending_permissions.map (announcement ⟨9⟩)).Sublist (after.flatMap enqueued) := by
  have there : ((finish handle BridgeDaemon.new rebound).registered.lookup (.Claude,"x")).isSome := by decide
  exact ⟨_,(Option.some_get there).symm,rfl,announced_run (run_events rebound) (Option.some_get there).symm rfl⟩

end VibeBridge.Announcements
