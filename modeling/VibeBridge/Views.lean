import VibeBridge.Flushing

/-!
What the board shows of an agent: its screen, its status, its directory and its
usage. The messages that change this are sent by few calls. While an agent keeps
its sid, each move does one of the things of `Told` to the agent, and sends to
its sid exactly the messages that go with it (`told_move`).
-/
namespace VibeBridge.Views
open Transitions Leases
open VibeBridge.Text VibeBridge.Core VibeBridge.Protocol VibeBridge.Payloads VibeBridge.Agent VibeBridge.Envelope VibeBridge.Daemon
open VibeBridge.Bridge VibeBridge.Sessions VibeBridge.Handlers VibeBridge.Abstraction VibeBridge.Events
open VibeBridge.Bindings VibeBridge.Outbox VibeBridge.Flushing

/-! ## Messages -/

/-- The commands that change what the board shows of an agent. -/
def shows (cmd : Cmd) : Bool :=
  cmd == .Vt100Stream || cmd == .StatusUpdate || cmd == .AgentMeta || cmd == .TokenUsage

/-- The messages that change what the board shows under a sid. -/
def about (sid : BoardSid) (msgs : List HidMessage) : List HidMessage :=
  msgs.filter (fun msg => msg.sid == sid.raw && shows msg.cmd)

theorem sid_raw {sid sid' : BoardSid} (same : sid.raw = sid'.raw) : sid = sid' := by
  cases sid; cases sid'; cases same; rfl

theorem about_append (sid : BoardSid) (msgs msgs' : List HidMessage) :
    about sid (msgs ++ msgs') = about sid msgs ++ about sid msgs' := List.filter_append _ _

theorem about_none {sid : BoardSid} {msgs : List HidMessage}
    (none : ∀ msg ∈ msgs, msg.sid = sid.raw → shows msg.cmd = false) : about sid msgs = [] := by
  rw [about,List.filter_eq_nil_iff]
  intro msg member
  simpa using none msg member

/-- Every message of an agent carries its sid. -/
def CarriesSid (agent : RegisteredAgent) (msgs : List HidMessage) : Prop :=
  ∀ msg ∈ msgs, ∃ sid, agent.board_sid = some sid ∧ msg.sid = sid.raw

/-- A message that is made for the sid of an agent, if it has one. -/
def made (agent : RegisteredAgent) (cmd : Cmd) (payload : List UInt8) : Option HidMessage :=
  agent.board_sid.map (fun sid => ⟨cmd,sid.raw,payload⟩)

theorem made_sid (agent : RegisteredAgent) (cmd : Cmd) (payload : List UInt8) :
    CarriesSid agent (made agent cmd payload).toList := by
  intro msg member
  obtain ⟨sid,bound,rfl⟩ := Option.map_eq_some_iff.mp (Option.mem_toList.mp member)
  exact ⟨sid,bound,rfl⟩

theorem made_about {agent : RegisteredAgent} {sid : BoardSid} (bound : agent.board_sid = some sid) {cmd : Cmd}
    (shown : shows cmd = true) (payload : List UInt8) :
    about sid (made agent cmd payload).toList = [⟨cmd,sid.raw,payload⟩] := by
  simp [made,bound,about,shown]

/-- The bytes that show the screen of an agent anew, if there is something to show. -/
def replay (agent : RegisteredAgent) : Option (List UInt8) :=
  if !agent.terminal_snapshot.isEmpty then some (SCREEN_CLEAR ++ agent.terminal_snapshot)
  else if agent.attached_terminal.isSome then none
  else if agent.from_launch then some SCREEN_CLEAR
  else some (SCREEN_CLEAR ++ as_bytes (render_passive_placeholder agent))

theorem replay_made (agent : RegisteredAgent) :
    terminal_replay_message_for_agent agent = (replay agent).bind (made agent .Vt100Stream) := by
  unfold terminal_replay_message_for_agent replay made
  cases agent.board_sid with
  | none => simp
  | some sid =>
    simp only [Option.bind_eq_bind,Option.bind_some]
    split
    · rfl
    · split
      · rfl
      · split <;> rfl

/-- The message that shows the screen of an agent anew under its sid. -/
def replayed (sid : BoardSid) (agent : RegisteredAgent) : List HidMessage :=
  ((replay agent).map (fun bytes => ⟨.Vt100Stream,sid.raw,bytes⟩)).toList

theorem replay_about {agent : RegisteredAgent} {sid : BoardSid} (bound : agent.board_sid = some sid) :
    about sid (terminal_replay_message_for_agent agent).toList = replayed sid agent := by
  rw [replay_made,replayed]
  cases replay agent with
  | none => rfl
  | some bytes => exact made_about bound rfl bytes

theorem replay_sid (agent : RegisteredAgent) : CarriesSid agent (terminal_replay_message_for_agent agent).toList := by
  rw [replay_made]
  cases replay agent with
  | none => intro msg member; cases member
  | some bytes => exact made_sid agent _ bytes

theorem meta_made (agent : RegisteredAgent) : meta_message_for_agent agent =
    made agent .AgentMeta (encode_agent_meta (agent_kind_byte agent.kind) agent.cwd "") := by
  unfold meta_message_for_agent made
  cases agent.board_sid <;> rfl

theorem status_made (agent : RegisteredAgent) : status_message_for_agent agent =
    made agent .StatusUpdate [(status_byte agent.status).byte] := by
  unfold status_message_for_agent made
  cases agent.board_sid <;> rfl

theorem token_made (agent : RegisteredAgent) : token_message_for_agent agent =
    if agent.usage = {} then none else made agent .TokenUsage (encode_token_usage agent.usage) := by
  unfold token_message_for_agent made
  cases agent.board_sid <;> rfl

theorem turn_made (agent : RegisteredAgent) (turn : ConversationTurn) : turn_message_for_agent agent turn =
    made agent .TurnAppend (encode_turn_append (turn_role_byte turn.role) turn.text) := by
  unfold turn_message_for_agent made
  cases agent.board_sid <;> rfl

theorem permission_made (agent : RegisteredAgent) (permission : PermissionRequest) :
    permission_message_for_agent agent permission = made agent .PermissionReq
      (encode_permission_request permission.req_id permission.tool permission.args_summary) := by
  unfold permission_message_for_agent made
  cases agent.board_sid <;> rfl

theorem status_sid (agent : RegisteredAgent) : CarriesSid agent (status_message_for_agent agent).toList := by
  rw [status_made]
  exact made_sid agent _ _

theorem token_sid (agent : RegisteredAgent) : CarriesSid agent (token_message_for_agent agent).toList := by
  rw [token_made]
  split
  · intro msg member; cases member
  · exact made_sid agent _ _

theorem permission_sid (agent : RegisteredAgent) (permission : PermissionRequest) :
    CarriesSid agent (permission_message_for_agent agent permission).toList := by
  rw [permission_made]
  exact made_sid agent _ _

theorem sync_sid (agent : RegisteredAgent) : CarriesSid agent (board_sync_messages agent) := by
  intro msg member
  simp only [board_sync_messages,List.mem_append] at member
  rcases member with (((meta_m | status) | token) | turn) | permission
  · rw [meta_made] at meta_m
    exact made_sid agent _ _ msg meta_m
  · exact status_sid agent msg status
  · exact token_sid agent msg token
  · split at turn
    · obtain ⟨last,_,told⟩ := Option.bind_eq_some_iff.mp (Option.mem_toList.mp turn)
      rw [turn_made] at told
      exact made_sid agent _ _ msg (Option.mem_toList.mpr told)
    · cases turn
  · obtain ⟨asked,_,told⟩ := List.mem_filterMap.mp permission
    exact permission_sid agent asked msg (Option.mem_toList.mpr told)

theorem permission_hidden (sid : BoardSid) (agent : RegisteredAgent) (permission : PermissionRequest) :
    about sid (permission_message_for_agent agent permission).toList = [] := by
  rw [permission_made]
  refine about_none ?_
  intro msg member _
  obtain ⟨_,_,rfl⟩ := Option.map_eq_some_iff.mp (Option.mem_toList.mp member)
  rfl

theorem token_about {agent : RegisteredAgent} {sid : BoardSid} (bound : agent.board_sid = some sid) :
    about sid (token_message_for_agent agent).toList =
      if agent.usage = {} then [] else [⟨.TokenUsage,sid.raw,encode_token_usage agent.usage⟩] := by
  rw [token_made]
  split
  · rfl
  · exact made_about bound rfl _

/-- Only meta, status and usage of what an agent tells when it is bound are shown. -/
theorem sync_about {agent : RegisteredAgent} {sid : BoardSid} (bound : agent.board_sid = some sid) :
    about sid (board_sync_messages agent) =
      [⟨.AgentMeta,sid.raw,encode_agent_meta (agent_kind_byte agent.kind) agent.cwd ""⟩,
        ⟨.StatusUpdate,sid.raw,[(status_byte agent.status).byte]⟩] ++
        (if agent.usage = {} then [] else [⟨.TokenUsage,sid.raw,encode_token_usage agent.usage⟩]) := by
  have turn : about sid (if agent.from_launch then
      (agent.turns.getLast?.bind (turn_message_for_agent agent)).toList else []) = [] := by
    refine about_none ?_
    intro msg member _
    split at member
    · obtain ⟨last,_,told⟩ := Option.bind_eq_some_iff.mp (Option.mem_toList.mp member)
      rw [turn_made] at told
      obtain ⟨_,_,rfl⟩ := Option.map_eq_some_iff.mp told
      rfl
    · cases member
  have permissions : about sid (agent.pending_permissions.filterMap (permission_message_for_agent agent)) = [] := by
    refine about_none ?_
    intro msg member _
    obtain ⟨permission,_,told⟩ := List.mem_filterMap.mp member
    rw [permission_made] at told
    obtain ⟨_,_,rfl⟩ := Option.map_eq_some_iff.mp told
    rfl
  rw [board_sync_messages,about_append,about_append,about_append,about_append,turn,permissions,token_about bound,
    meta_made,status_made,made_about bound rfl,made_about bound rfl,List.append_nil,List.append_nil]
  rfl

/-- The messages of an agent that does not have the sid are not about the sid. -/
theorem about_other {sid : BoardSid} {agent : RegisteredAgent} {msgs : List HidMessage} (carries : CarriesSid agent msgs)
    (other : agent.board_sid ≠ some sid) : about sid msgs = [] := by
  refine about_none ?_
  intro msg member same
  obtain ⟨sid',bound,carried⟩ := carries msg member
  rw [carried] at same
  exact absurd (by rw [bound]; exact congrArg some (sid_raw same)) other

/-! ## What a move does to an agent that keeps its sid -/

def Reports (event : Event) (activity : AgentActivity) : Prop :=
  ∃ request, Carries event "agent.activity" request ∧ request.read_activity = .ok activity

def Updates (event : Event) (key : AgentKey) (usage : TokenUsage) : Prop :=
  ∃ request, Carries event "token.update" request ∧ request.read_token = .ok (key,usage)

def Appends (event : Event) (key : AgentKey) : Prop :=
  ∃ request role turn, Carries event "turn.append" request ∧ request.read_turn = .ok (key,role,turn)

def Streams (event : Event) (key : AgentKey) (bytes : List UInt8) : Prop :=
  ∃ request, Carries event "terminal.stream" request ∧ request.read_stream = .ok (key,bytes)

/-- The board opens the screen of the sid. -/
def Focuses (event : Event) (sid : BoardSid) : Prop :=
  ∃ payload, event = .board_message ⟨.SessionFocus,sid.raw,payload⟩ ∧ sid.raw ≠ 0

/-- After the event the view of a passive agent is rendered again. -/
def Renders (event : Event) (key : AgentKey) : Prop := Appends event key ∨ ∃ perm, Requests event key perm

/-- A stream for the terminal `source` reaches the agent: it is the terminal, or is attached to it. -/
def Reaches (daemon : BridgeDaemon) (source key : AgentKey) (agent : RegisteredAgent) : Prop :=
  (daemon.registered.lookup source).isSome = true ∧ (source = key ∨ agent.attached_terminal = some source)

/-- Only the turns and the permissions of the agent differ; the board shows none of them. -/
def SameView (agent new : RegisteredAgent) : Prop :=
  new = { agent with
    turns := new.turns
    pending_permissions := new.pending_permissions
    resolved_permissions := new.resolved_permissions }

theorem same_view_refl (agent : RegisteredAgent) : SameView agent agent := rfl

theorem same_view_trans {a b c : RegisteredAgent} (first : SameView a b) (second : SameView b c) : SameView a c := by
  unfold SameView at *
  rw [second,first]

theorem same_view_replay {agent new : RegisteredAgent} (same : SameView agent new) :
    replay new = replay agent := by
  rw [same]
  rfl

/-- The agent after a stream that is appended `n` times. -/
def appended (bytes : List UInt8) : Nat → RegisteredAgent → RegisteredAgent
  | 0, agent => agent
  | n + 1, agent => appended bytes n (agent.append_terminal_bytes bytes)

/-- What an event does to an agent that has the sid before and after it: the
    agent then, and the messages about the sid. -/
inductive Told (event : Event) (daemon : BridgeDaemon) (key : AgentKey) (sid : BoardSid) (agent : RegisteredAgent) :
    RegisteredAgent → List HidMessage → Prop
  | quiet {new : RegisteredAgent} (same : SameView agent new) : Told event daemon key sid agent new []
  | registered {fresh : RegisteredAgent} (told : Registers event fresh) (own : fresh.key = key) :
      Told event daemon key sid agent (carry_over fresh agent) []
  | reported {activity : AgentActivity} (told : Reports event activity) (own : (activity.kind,activity.agent_id) = key) :
      Told event daemon key sid agent { agent with status := activity.status }
        [⟨.StatusUpdate,sid.raw,[(status_byte activity.status).byte]⟩]
  | updated {usage : TokenUsage} (told : Updates event key usage) :
      Told event daemon key sid agent { agent with usage := usage }
        (if usage = {} then [] else [⟨.TokenUsage,sid.raw,encode_token_usage usage⟩])
  | rendered {new : RegisteredAgent} (told : Renders event key) (same : SameView agent new)
      (passive : agent.from_launch = false) (focus : daemon.focused_board_sid = some sid) :
      Told event daemon key sid agent new (replayed sid agent)
  | streamed {source : AgentKey} {bytes : List UInt8} (n : Nat) (told : Streams event source bytes) (nonempty : bytes ≠ [])
      (reached : Reaches daemon source key agent) (positive : 0 < n) :
      Told event daemon key sid agent (appended bytes n agent)
        (if daemon.focused_board_sid = some sid then List.replicate n ⟨.Vt100Stream,sid.raw,bytes⟩ else [])
  | focused (told : Focuses event sid) :
      Told event daemon key sid agent agent (replayed sid agent)

/-! ## Handlers -/

/-- From one state to the other the agent became `new`, and these messages about its sid were sent. -/
structure Leaves (daemon post : BridgeDaemon) (key : AgentKey) (sid : BoardSid) (new : RegisteredAgent)
    (msgs : List HidMessage) : Prop where
  found : post.registered.lookup key = some new
  outbox : ∃ news, post.board_outbox = daemon.board_outbox ++ news ∧ about sid news = msgs

section
variable {daemon post : BridgeDaemon} {key : AgentKey} {sid : BoardSid} {agent new : RegisteredAgent}
  {msgs : List HidMessage}

theorem leaves_refl (sid : BoardSid) (found : daemon.registered.lookup key = some agent) : Leaves daemon daemon key sid agent [] :=
  ⟨found,[],by simp,rfl⟩

theorem leaves_push (leaves : Leaves daemon post key sid new msgs) (more : List HidMessage) :
    Leaves daemon (post.push_outbox more) key sid new (msgs ++ about sid more) := by
  obtain ⟨found,news,outbox,told⟩ := leaves
  refine ⟨found,news ++ more,?_,?_⟩
  · rw [BridgeDaemon.push_outbox,outbox,List.append_assoc]
  · rw [about_append,told]

theorem leaves_hidden (leaves : Leaves daemon post key sid new msgs) {more : List HidMessage}
    (hidden : about sid more = []) : Leaves daemon (post.push_outbox more) key sid new msgs := by
  have pushed := leaves_push leaves more
  rwa [hidden,List.append_nil] at pushed

theorem leaves_insert (leaves : Leaves daemon post key sid new msgs) (newer : RegisteredAgent) :
    Leaves daemon (post.insert_agent key newer) key sid newer msgs :=
  ⟨by rw [BridgeDaemon.insert_agent,KeyedMap.lookup_insert,if_pos rfl],leaves.outbox⟩

theorem leaves_other (leaves : Leaves daemon post key sid new msgs) {key' : AgentKey} (other : key' ≠ key)
    (newer : RegisteredAgent) : Leaves daemon (post.insert_agent key' newer) key sid new msgs :=
  ⟨by rw [BridgeDaemon.insert_agent,KeyedMap.lookup_insert,if_neg other.symm]; exact leaves.found,leaves.outbox⟩

theorem push_nothing (daemon : BridgeDaemon) : daemon.push_outbox [] = daemon := by
  simp [BridgeDaemon.push_outbox]

/-- Only the lookup of the agent and the outbox count here. -/
theorem leaves_same (leaves : Leaves daemon post key sid new msgs) {post' : BridgeDaemon}
    (lookup : post'.registered.lookup key = post.registered.lookup key)
    (outbox : post'.board_outbox = post.board_outbox) : Leaves daemon post' key sid new msgs :=
  ⟨lookup.trans leaves.found,by rw [outbox]; exact leaves.outbox⟩

theorem leaves_activity (leaves : Leaves daemon post key sid new msgs) (activity : AgentActivity) :
    Leaves daemon (post.push_activity activity) key sid new msgs := leaves_same leaves rfl rfl

end

section
variable {daemon : BridgeDaemon} {key : AgentKey} {sid : BoardSid} {agent : RegisteredAgent}

/-- What a JSON line or another call does to an agent with the sid: it is told in
    one of the ways of `Told`, or the agent loses its sid. -/
def Handled (daemon : BridgeDaemon) (event : Event) (key : AgentKey) (sid : BoardSid) (agent : RegisteredAgent)
    (post : BridgeDaemon) : Prop :=
  (∃ new msgs, Leaves daemon post key sid new msgs ∧ Told event daemon key sid agent new msgs) ∨
    sid_of post key ≠ some sid

theorem handled_quiet {event : Event} {post : BridgeDaemon} {new : RegisteredAgent}
    (leaves : Leaves daemon post key sid new []) (same : SameView agent new) : Handled daemon event key sid agent post :=
  .inl ⟨new,[],leaves,.quiet same⟩

/-- A call that leaves agents and outbox as they are. -/
theorem handled_same {event : Event} {post : BridgeDaemon} (found : daemon.registered.lookup key = some agent)
    (lookup : post.registered.lookup key = daemon.registered.lookup key)
    (outbox : post.board_outbox = daemon.board_outbox) : Handled daemon event key sid agent post :=
  handled_quiet (leaves_same (leaves_refl _ found) lookup outbox) (same_view_refl agent)

end

theorem enqueue_leaves {daemon post : BridgeDaemon} {key : AgentKey} {sid : BoardSid} {new : RegisteredAgent}
    {msgs : List HidMessage} (leaves : Leaves daemon post key sid new msgs) (agent : RegisteredAgent) :
    Leaves daemon (enqueue_board_session_request post agent) key sid new msgs := by
  unfold enqueue_board_session_request
  split
  · exact leaves
  · have hidden : about sid [request_session_message agent] = [] := by
      simp [about,request_session_message,shows]
    exact leaves_same (leaves_hidden leaves hidden) rfl rfl

/-- The record of the agent is written, and messages are sent. -/
theorem written_own {daemon : BridgeDaemon} {key : AgentKey} (sid : BoardSid) {agent : RegisteredAgent}
    (found : daemon.registered.lookup key = some agent) (new : RegisteredAgent) (msgs : List HidMessage) :
    Leaves daemon ((daemon.insert_agent key new).push_outbox msgs) key sid new (about sid msgs) :=
  leaves_push (leaves_insert (leaves_refl _ found) new) msgs

section
variable {daemon : BridgeDaemon} (sound : Sound daemon) {key : AgentKey} {sid : BoardSid} {agent : RegisteredAgent}
  (found : daemon.registered.lookup key = some agent) (bound : agent.board_sid = some sid)
include sound found bound

/-- Another agent does not have the sid. -/
theorem elsewhere {key' : AgentKey} {other : RegisteredAgent} (there : daemon.registered.lookup key' = some other)
    (differs : key' ≠ key) : other.board_sid ≠ some sid := by
  intro owns
  exact differs (owner_unique sound (sid_of_iff.mpr ⟨other,there,owns⟩) (sid_of_iff.mpr ⟨agent,found,bound⟩))

/-- The record of another agent is written, and its messages are sent. -/
theorem written_other {key' : AgentKey} {other : RegisteredAgent}
    (there : daemon.registered.lookup key' = some other) (differs : key' ≠ key) (new : RegisteredAgent)
    (same : new.board_sid = other.board_sid) {msgs : List HidMessage} (carries : CarriesSid new msgs) :
    Leaves daemon ((daemon.insert_agent key' new).push_outbox msgs) key sid agent [] := by
  refine leaves_hidden (leaves_other (leaves_refl _ found) differs new) (about_other carries ?_)
  rw [same]
  exact elsewhere sound found bound there differs

omit sound in
/-- An agent with a sid that registers anew is told nothing: it has a session already. -/
theorem register_own {request : RegistrationEnvelope} {fresh : RegisteredAgent} (reading : request.read_agent = .ok fresh)
    (own : fresh.key = key) : Leaves daemon (agent_register daemon request).1 key sid (carry_over fresh agent) [] := by
  have again : registered_agent daemon fresh = carry_over fresh agent := by
    unfold registered_agent
    rw [own,found]
  have silent : ((daemon.registered.lookup fresh.key).bind (·.board_sid)).isSome = true := by
    rw [own,found,Option.bind_some,bound]
    rfl
  simp only [agent_register,reading]
  rw [silent,own,again]
  exact leaves_insert (leaves_activity (leaves_refl sid found) _) _

omit sound in
theorem register_handled {event : Event} {request : RegistrationEnvelope}
    (told : Carries event "agent.register" request) :
    Handled daemon event key sid agent (agent_register daemon request).1 := by
  cases reading : request.read_agent with
  | error err =>
    simp only [agent_register,reading]
    exact handled_same found rfl rfl
  | ok fresh =>
    by_cases own : fresh.key = key
    · exact .inl ⟨_,_,register_own found bound reading own,.registered ⟨request,told,reading⟩ own⟩
    · simp only [agent_register,reading]
      have start := leaves_activity (leaves_refl sid found) ⟨(registered_agent daemon fresh).agent_id,
        (registered_agent daemon fresh).kind,.Seen,(registered_agent daemon fresh).status,""⟩
      refine handled_quiet (leaves_other ?_ own _) (same_view_refl agent)
      unfold announce_registration
      split
      · exact start
      · split
        · rename_i unbound_before owner
          rw [registered_sid reading] at owner
          exact absurd owner unbound_before
        · split
          · exact start
          · exact enqueue_leaves start _

theorem activity_handled {event : Event} {request : RegistrationEnvelope}
    (told : Carries event "agent.activity" request) :
    Handled daemon event key sid agent (agent_activity daemon request).1 := by
  unfold agent_activity
  split
  · exact handled_same found rfl rfl
  · rename_i activity reading
    simp only
    by_cases own : (activity.kind,activity.agent_id) = key
    · have message : about sid (status_message_for_agent { agent with status := activity.status }).toList =
          [⟨.StatusUpdate,sid.raw,[(status_byte activity.status).byte]⟩] := by
        rw [status_made]
        exact made_about bound rfl _
      rw [own,found]
      refine .inl ⟨_,_,leaves_same (written_own sid found _ _) rfl rfl,?_⟩
      rw [message]
      exact .reported ⟨request,told,reading⟩ own
    · refine handled_quiet ?_ (same_view_refl agent)
      split
      · rename_i other there
        exact leaves_same (written_other sound found bound there own { other with status := activity.status } rfl
          (status_sid _)) rfl rfl
      · exact leaves_same (leaves_refl _ found) rfl rfl

omit sound in
/-- The board is told the new usage of an agent, unless it is zero. -/
theorem token_own {request : RegistrationEnvelope} {usage : TokenUsage} (reading : request.read_token = .ok (key,usage)) :
    Leaves daemon (token_update daemon request).1 key sid { agent with usage := usage }
      (if usage = {} then [] else [⟨.TokenUsage,sid.raw,encode_token_usage usage⟩]) := by
  have message : about sid (token_message_for_agent { agent with usage := usage }).toList =
      if usage = {} then [] else [⟨.TokenUsage,sid.raw,encode_token_usage usage⟩] := token_about bound
  simp only [token_update,reading,found]
  rw [← message]
  exact written_own sid found _ _

theorem token_handled {event : Event} {request : RegistrationEnvelope} (told : Carries event "token.update" request) :
    Handled daemon event key sid agent (token_update daemon request).1 := by
  cases reading : request.read_token with
  | error err =>
    simp only [token_update,reading]
    exact handled_same found rfl rfl
  | ok update =>
    obtain ⟨key',usage⟩ := update
    by_cases own : key' = key
    · subst own
      exact .inl ⟨_,_,token_own found bound reading,.updated ⟨request,told,reading⟩⟩
    · simp only [token_update,reading]
      split
      · exact handled_same found rfl rfl
      · rename_i other there
        exact handled_quiet (written_other sound found bound there own { other with usage := usage } rfl (token_sid _))
          (same_view_refl agent)

omit sound in
/-- The view of the agent is rendered again, where the board is focused on it. -/
theorem live_view_own {new : RegisteredAgent} {msgs : List HidMessage} (same : SameView agent new)
    (hidden : about sid msgs = []) :
    Leaves daemon (push_live_view ((daemon.insert_agent key new).push_outbox msgs) new) key sid new
      (if agent.from_launch = false ∧ daemon.focused_board_sid = some sid then replayed sid agent else []) := by
  have leaves := written_own sid found new msgs
  rw [hidden] at leaves
  have launch : new.from_launch = agent.from_launch := by rw [same]
  have owns : new.board_sid = some sid := by rw [same]; exact bound
  have focus : ((daemon.insert_agent key new).push_outbox msgs).focused_board_sid = daemon.focused_board_sid := rfl
  unfold push_live_view
  generalize (daemon.insert_agent key new).push_outbox msgs = post at leaves focus ⊢
  have test : (!new.from_launch && new.board_sid.isSome && new.board_sid == post.focused_board_sid) = true ↔
      agent.from_launch = false ∧ daemon.focused_board_sid = some sid := by
    rw [launch,owns,focus]
    simp only [Bool.and_eq_true,Bool.not_eq_true',Option.isSome_some,beq_iff_eq,and_true]
    exact and_congr_right (fun _ => eq_comm)
  by_cases renders : agent.from_launch = false ∧ daemon.focused_board_sid = some sid
  · have pushed := leaves_push leaves (terminal_replay_message_for_agent new).toList
    rw [replay_about owns,List.nil_append,replayed,same_view_replay same] at pushed
    rw [if_pos renders,if_pos (test.mpr renders)]
    exact pushed
  · rw [if_neg renders,if_neg (mt test.mp renders)]
    exact leaves

omit sound found bound in
theorem rendered_handled {event : Event} (told : Renders event key) {post : BridgeDaemon} {new : RegisteredAgent}
    (same : SameView agent new) (leaves : Leaves daemon post key sid new
      (if agent.from_launch = false ∧ daemon.focused_board_sid = some sid then replayed sid agent else [])) :
    Handled daemon event key sid agent post := by
  split at leaves
  · rename_i renders
    exact .inl ⟨new,_,leaves,.rendered told same renders.1 renders.2⟩
  · exact handled_quiet leaves same

theorem live_view_other {key' : AgentKey} {other : RegisteredAgent}
    (there : daemon.registered.lookup key' = some other) (differs : key' ≠ key) (new : RegisteredAgent)
    (same : new.board_sid = other.board_sid) {msgs : List HidMessage} (carries : CarriesSid new msgs) :
    Leaves daemon (push_live_view ((daemon.insert_agent key' new).push_outbox msgs) new) key sid agent [] := by
  have leaves := written_other sound found bound there differs new same carries
  unfold push_live_view
  split
  · refine leaves_hidden leaves (about_other (replay_sid new) ?_)
    rw [same]
    exact elsewhere sound found bound there differs
  · exact leaves

theorem turn_handled {event : Event} {request : RegistrationEnvelope} (told : Carries event "turn.append" request) :
    Handled daemon event key sid agent (turn_append daemon request).1 := by
  unfold turn_append
  split
  · exact handled_same found rfl rfl
  · rename_i key' role turn reading
    split
    · exact handled_same found rfl rfl
    · rename_i other there
      simp only
      rw [← push_nothing (daemon.insert_agent key' _)]
      by_cases own : key' = key
      · subst own
        rw [found] at there
        cases there
        refine rendered_handled (.inl ⟨request,role,turn,told,reading⟩) ?_ (live_view_own found bound ?_ rfl)
        · rfl
        · rfl
      · refine handled_quiet (live_view_other sound found bound there own _ ?_ ?_) (same_view_refl agent)
        · rfl
        · intro msg member; cases member

theorem request_handled {event : Event} {request : RegistrationEnvelope}
    (told : Carries event "permission.request" request) :
    Handled daemon event key sid agent (permission_request daemon request).1 := by
  unfold permission_request
  split
  · exact handled_same found rfl rfl
  · rename_i key' perm reading
    split
    · exact handled_same found rfl rfl
    · rename_i other there
      simp only
      by_cases own : key' = key
      · subst own
        rw [found] at there
        cases there
        refine rendered_handled (.inr ⟨perm,request,told,reading⟩) ?_
          (live_view_own found bound ?_ (permission_hidden sid _ _))
        · rfl
        · rfl
      · refine handled_quiet (live_view_other sound found bound there own _ ?_ (permission_sid _ _)) (same_view_refl agent)
        rfl

omit sound bound in
theorem resolve_handled {event : Event} (request : RegistrationEnvelope) :
    Handled daemon event key sid agent (permission_resolve daemon request).1 := by
  unfold permission_resolve
  split
  · exact handled_same found rfl rfl
  · rename_i key' req_id reading
    split
    · exact handled_same found rfl rfl
    · rename_i other there
      by_cases own : key' = key
      · subst own
        rw [found] at there
        cases there
        exact handled_quiet (leaves_insert (leaves_refl _ found) _) rfl
      · exact handled_quiet (leaves_other (leaves_refl _ found) own _) (same_view_refl agent)

omit sound bound in
theorem poll_handled {event : Event} (request : RegistrationEnvelope) :
    Handled daemon event key sid agent (permission_poll daemon request).1 := by
  unfold permission_poll
  split
  · exact handled_same found rfl rfl
  · rename_i key' req_id reading
    split
    · exact handled_same found rfl rfl
    · rename_i other there
      split
      · by_cases own : key' = key
        · subst own
          rw [found] at there
          cases there
          exact handled_quiet (leaves_insert (leaves_refl _ found) _) rfl
        · exact handled_quiet (leaves_other (leaves_refl _ found) own _) (same_view_refl agent)
      · exact handled_same found rfl rfl

omit sound bound in
theorem snapshot_handled {event : Event} (polled : Except String AgentPollSnapshot) :
    Handled daemon event key sid agent (daemon_snapshot daemon polled).1 := by
  unfold daemon_snapshot poll_once
  cases polled with
  | error err => exact handled_same found rfl rfl
  | ok found' => exact handled_same found rfl rfl

omit sound bound in
theorem abort_handled {event : Event} (request : RegistrationEnvelope) :
    Handled daemon event key sid agent (session_abort daemon request).1 := by
  unfold session_abort
  split
  · exact handled_same found rfl rfl
  · rename_i key' reading
    split
    · exact handled_same found rfl rfl
    · by_cases own : key = key'
      · refine .inr ?_
        rw [sid_of,KeyedMap.lookup_erase,if_pos own]
        simp
      · refine handled_same found ?_ rfl
        rw [KeyedMap.lookup_erase,if_neg own]

end

/-! ### Streams -/

theorem append_bytes_sid (agent : RegisteredAgent) (bytes : List UInt8) :
    (agent.append_terminal_bytes bytes).board_sid = agent.board_sid :=
  append_bytes_kept (·.board_sid) (fun _ _ _ => rfl) agent bytes

theorem appended_kept {α : Type} (field : RegisteredAgent → α) (kept : ∀ (agent : RegisteredAgent) buffer len,
    field { agent with terminal_buffer := buffer, terminal_buffer_len := len } = field agent) (bytes : List UInt8)
    (n : Nat) (agent : RegisteredAgent) : field (appended bytes n agent) = field agent := by
  induction n generalizing agent with
  | zero => rfl
  | succ n ih => exact (ih _).trans (append_bytes_kept field kept agent bytes)

/-- An agent that is there gets the bytes, and the board when it is focused on its sid. -/
theorem mirror_found (bytes : List UInt8) {daemon : BridgeDaemon} {key : AgentKey} {agent : RegisteredAgent}
    (found : daemon.registered.lookup key = some agent) : mirror_bytes bytes daemon key =
      (daemon.insert_agent key (agent.append_terminal_bytes bytes)).push_outbox
        (if agent.board_sid = daemon.focused_board_sid then (made agent .Vt100Stream bytes).toList else []) := by
  unfold mirror_bytes
  rw [found]
  simp only [append_bytes_sid,made]
  cases agent.board_sid with
  | none => simp [push_nothing]
  | some sid =>
    have focus : (daemon.insert_agent key (agent.append_terminal_bytes bytes)).focused_board_sid =
        daemon.focused_board_sid := rfl
    simp only [focus]
    split
    · rfl
    · rw [push_nothing]

theorem mirror_focus (bytes : List UInt8) {daemon : BridgeDaemon} {key : AgentKey} {agent : RegisteredAgent}
    (found : daemon.registered.lookup key = some agent) :
    (mirror_bytes bytes daemon key).focused_board_sid = daemon.focused_board_sid := by
  rw [mirror_found bytes found]
  rfl

/-- Mirroring bytes to agents appends them to an agent as often as it is named,
    and shows them as often if the board is focused on its sid. -/
theorem mirror_leaves (bytes : List UInt8) {key : AgentKey} {sid : BoardSid} (keys : List AgentKey)
    {daemon post : BridgeDaemon} {agent : RegisteredAgent} {msgs : List HidMessage}
    (leaves : Leaves daemon post key sid agent msgs) (bound : agent.board_sid = some sid)
    (apart : ∀ other x, other ≠ key → post.registered.lookup other = some x → x.board_sid ≠ some sid) :
    Leaves daemon (keys.foldl (mirror_bytes bytes) post) key sid (appended bytes (keys.count key) agent)
      (msgs ++ if post.focused_board_sid = some sid then List.replicate (keys.count key) ⟨.Vt100Stream,sid.raw,bytes⟩
        else []) := by
  induction keys generalizing post agent msgs with
  | nil => simpa [appended] using leaves
  | cons first rest ih =>
    rw [List.foldl_cons]
    by_cases own : first = key
    · subst own
      have step := leaves_push (leaves_insert leaves (agent.append_terminal_bytes bytes))
        (if agent.board_sid = post.focused_board_sid then (made agent .Vt100Stream bytes).toList else [])
      rw [← mirror_found bytes leaves.found] at step
      have rest' := ih step (by rw [append_bytes_sid]; exact bound) (by
        intro other x differs there
        rw [mirror_found bytes leaves.found] at there
        simp only [BridgeDaemon.push_outbox,BridgeDaemon.insert_agent,KeyedMap.lookup_insert,if_neg differs] at there
        exact apart other x differs there)
      rw [mirror_focus bytes leaves.found,bound,List.append_assoc] at rest'
      rw [List.count_cons_self]
      by_cases open_screen : post.focused_board_sid = some sid
      · have shown : about sid (made agent .Vt100Stream bytes).toList = [⟨.Vt100Stream,sid.raw,bytes⟩] :=
          made_about bound rfl bytes
        simpa only [appended,open_screen,if_true,shown,List.replicate_succ,List.singleton_append] using rest'
      · have closed : ¬ some sid = post.focused_board_sid := fun same => open_screen same.symm
        simpa only [appended,if_neg open_screen,if_neg closed,about,List.filter_nil,List.append_nil] using rest'
    · rw [List.count_cons_of_ne own]
      cases there : post.registered.lookup first with
      | none =>
        have same : mirror_bytes bytes post first = post := by
          unfold mirror_bytes
          rw [there]
        rw [same]
        exact ih leaves bound apart
      | some x =>
        have hidden : about sid (if x.board_sid = post.focused_board_sid then (made x .Vt100Stream bytes).toList
            else []) = [] := by
          split
          · exact about_other (made_sid x _ bytes) (apart first x own there)
          · rfl
        have step := leaves_hidden (leaves_other leaves own (x.append_terminal_bytes bytes)) hidden
        rw [← mirror_found bytes there] at step
        rw [← mirror_focus bytes there]
        refine ih step bound ?_
        intro other y differs found
        rw [mirror_found bytes there] at found
        simp only [BridgeDaemon.push_outbox,BridgeDaemon.insert_agent,KeyedMap.lookup_insert] at found
        split at found
        · cases found
          rw [append_bytes_sid]
          exact apart first x own there
        · exact apart other y differs found

section
variable {daemon : BridgeDaemon} (sound : Sound daemon) {key : AgentKey} {sid : BoardSid} {agent : RegisteredAgent}
  (found : daemon.registered.lookup key = some agent) (bound : agent.board_sid = some sid)
include sound found bound

omit sound bound in
/-- The agents that a stream for a terminal is mirrored to: the terminal, and those attached to it. -/
theorem reaches_iff {source : AgentKey} {x : RegisteredAgent} (there : daemon.registered.lookup source = some x) :
    key ∈ source :: daemon.registered.keysWhere (fun _ agent => agent.attached_terminal == some source) ↔
      Reaches daemon source key agent := by
  rw [List.mem_cons,KeyedMap.mem_keysWhere,found,Reaches,there,eq_comm]
  simp

theorem stream_leaves (source : AgentKey) (bytes : List UInt8) :
    let keys := source :: daemon.registered.keysWhere (fun _ agent => agent.attached_terminal == some source)
    Leaves daemon (keys.foldl (mirror_bytes bytes) daemon) key sid (appended bytes (keys.count key) agent)
      (if daemon.focused_board_sid = some sid then List.replicate (keys.count key) ⟨.Vt100Stream,sid.raw,bytes⟩
        else []) := by
  intro keys
  have leaves := mirror_leaves bytes keys (leaves_refl sid found) bound
    (fun other x differs there => elsewhere sound found bound there differs)
  rwa [List.nil_append] at leaves

theorem stream_handled {event : Event} {request : RegistrationEnvelope} (told : Carries event "terminal.stream" request) :
    Handled daemon event key sid agent (terminal_stream daemon request).1 := by
  unfold terminal_stream
  split
  · exact handled_same found rfl rfl
  · rename_i source bytes reading
    split
    · exact handled_same found rfl rfl
    · rename_i x there
      simp only
      split
      · exact handled_same found rfl rfl
      · rename_i nonempty
        have leaves := stream_leaves sound found bound source bytes
        simp only at leaves
        by_cases reached : Reaches daemon source key agent
        · exact .inl ⟨_,_,leaves,.streamed _ ⟨request,told,reading⟩ (by simpa using nonempty) reached
            (List.count_pos_iff.mpr ((reaches_iff found there).mpr reached))⟩
        · rw [List.count_eq_zero_of_not_mem (mt (reaches_iff found there).mp reached)] at leaves
          simp only [appended,List.replicate_zero,ite_self] at leaves
          exact handled_quiet leaves (same_view_refl agent)

/-- A JSON line tells the board of an agent with a sid in one of the ways of `Told`, or takes its sid. -/
theorem json_handled (line : Except String RegistrationEnvelope) (polled : Except String AgentPollSnapshot) :
    Handled daemon (.json_line line polled) key sid agent (handle_json_line daemon line polled).1 := by
  cases line with
  | error err => exact handled_same found rfl rfl
  | ok request =>
    simp only [handle_json_line]
    split <;> rename_i type
    · exact register_handled found bound ⟨polled,rfl,type⟩
    · exact activity_handled sound found bound ⟨polled,rfl,type⟩
    · exact snapshot_handled found polled
    · exact token_handled sound found bound ⟨polled,rfl,type⟩
    · exact turn_handled sound found bound ⟨polled,rfl,type⟩
    · exact request_handled sound found bound ⟨polled,rfl,type⟩
    · exact resolve_handled found request
    · exact poll_handled found request
    · exact stream_handled sound found bound ⟨polled,rfl,type⟩
    · exact abort_handled found request
    · exact handled_same found rfl rfl

/-! ### Other calls -/

omit sound in
theorem focus_handled (sound : Sound daemon) (payload : List UInt8) (opened : UInt16) :
    Handled daemon (.board_message ⟨.SessionFocus,opened,payload⟩) key sid agent (focus_board_sid daemon opened) := by
  unfold focus_board_sid
  split
  · exact handled_same found rfl rfl
  · rename_i nonzero
    simp only
    split
    · exact handled_same found rfl rfl
    · rename_i key' owner search
      obtain ⟨there,owns⟩ := KeyedMap.findEntry_some search
      have owns : owner.board_sid = some ⟨opened⟩ := by simpa using owns
      have leaves : Leaves daemon { daemon with focused_board_sid := some ⟨opened⟩ } key sid agent [] :=
        leaves_same (leaves_refl _ found) rfl rfl
      by_cases same : sid = ⟨opened⟩
      · subst same
        have own := owner_unique sound (sid_of_iff.mpr ⟨owner,there,owns⟩) (sid_of_iff.mpr ⟨agent,found,bound⟩)
        subst own
        simp only at there
        rw [found] at there
        cases there
        refine .inl ⟨_,_,leaves_push leaves _,?_⟩
        rw [replay_about bound,List.nil_append]
        exact .focused ⟨payload,rfl,nonzero⟩
      · refine handled_quiet (leaves_hidden leaves (about_other (replay_sid owner) ?_)) (same_view_refl agent)
        rw [owns]
        intro other
        cases other
        exact same rfl

omit sound bound in
theorem decision_handled {event : Event} (answered : UInt16) (payload : List UInt8) :
    Handled daemon event key sid agent (handle_permission_response daemon answered payload).1 := by
  unfold handle_permission_response
  split
  · exact handled_same found rfl rfl
  · split
    · exact handled_same found rfl rfl
    · simp only
      split
      · exact handled_same found rfl rfl
      · rename_i key' owner search
        have there := (KeyedMap.findEntry_some search).1
        by_cases own : key' = key
        · subst own
          simp only at there
          rw [found] at there
          cases there
          exact handled_quiet (leaves_insert (leaves_refl _ found) _) rfl
        · exact handled_quiet (leaves_other (leaves_refl _ found) own _) (same_view_refl agent)

theorem response_handled {event : Event} (granted : UInt16) (payload : List UInt8) :
    Handled daemon event key sid agent (handle_session_response daemon granted payload).1 := by
  by_cases grants : Grants granted payload
  · cases queue : daemon.pending_board_sessions with
    | nil =>
      obtain ⟨err,same⟩ := response_unsolicited daemon granted payload queue
      rw [same]
      exact handled_same found rfl rfl
    | cons first waiting =>
      obtain ⟨waits,there,unbound⟩ := pending_unbound sound (show first ∈ _ by rw [queue]; simp)
      obtain ⟨post,result,_,outbox,lookups⟩ := response_granted grants queue there
      have differs : key ≠ first := by
        rintro rfl
        rw [found] at there
        cases there
        rw [bound] at unbound
        cases unbound
      have after := lookups key
      rw [if_neg differs,found,Option.map_some,without_sid] at after
      rw [result]
      by_cases same : sid = ⟨granted⟩
      · refine .inr ?_
        rw [sid_of,after,if_pos (by rw [bound,same])]
        simp
      · rw [if_neg (by rw [bound]; intro taken; cases taken; exact same rfl)] at after
        refine handled_quiet ⟨after,_,outbox,?_⟩ (same_view_refl agent)
        refine about_other (sync_sid _) ?_
        intro taken
        cases taken
        exact same rfl
  · obtain ⟨err,same⟩ := response_refused daemon grants
    rw [same]
    exact handled_same found rfl rfl

omit sound in
theorem invalid_handled {event : Event} (invalid : UInt16) :
    Handled daemon event key sid agent (handle_session_invalid daemon invalid).1 := by
  unfold handle_session_invalid
  split
  · exact handled_same found rfl rfl
  · have after := clear_lookup daemon ⟨invalid⟩ none key
    rw [if_neg (by simp),found,Option.map_some,without_sid] at after
    by_cases same : sid = ⟨invalid⟩
    · refine .inr ?_
      rw [sid_of,after,if_pos (by rw [bound,same])]
      simp
    · rw [if_neg (by rw [bound]; intro taken; cases taken; exact same rfl)] at after
      exact handled_same found (after.trans found.symm) rfl

theorem board_handled (msg : HidMessage) :
    Handled daemon (.board_message msg) key sid agent (handle_board_message daemon msg).1 := by
  obtain ⟨cmd,opened,payload⟩ := msg
  unfold handle_board_message
  split
  · exact response_handled sound found bound _ _
  · rename_i focus
    cases focus
    exact focus_handled found bound sound payload opened
  · exact decision_handled found _ _
  · exact invalid_handled found bound _
  · exact handled_same found rfl rfl
  · exact handled_same found rfl rfl
  · exact handled_same found rfl rfl

omit sound bound in
/-- What each turn of a loop does to the agent, if it sends nothing about its sid, the loop does. -/
theorem fold_handled {σ β : Type} (state : σ → BridgeDaemon) {turn : σ → β → σ}
    (each : ∀ s b new, Leaves daemon (state s) key sid new [] → SameView agent new →
      ∃ newer, Leaves daemon (state (turn s b)) key sid newer [] ∧ SameView agent newer)
    {event : Event} (bs : List β) (s : σ) (start : state s = daemon) :
    Handled daemon event key sid agent (state (bs.foldl turn s)) := by
  have all : ∀ (bs : List β) (s : σ) new, Leaves daemon (state s) key sid new [] → SameView agent new →
      ∃ newer, Leaves daemon (state (bs.foldl turn s)) key sid newer [] ∧ SameView agent newer := by
    intro bs
    induction bs with
    | nil => intro s new leaves same; exact ⟨new,leaves,same⟩
    | cons b rest ih =>
      intro s new leaves same
      obtain ⟨newer,leaves',same'⟩ := each s b new leaves same
      exact ih (turn s b) newer leaves' same'
  obtain ⟨newer,leaves,same⟩ := all bs s agent (by rw [start]; exact leaves_refl _ found) (same_view_refl agent)
  exact handled_quiet leaves same

omit sound bound in
theorem discovered_handled {event : Event} (sessions : List AgentSession) :
    Handled daemon event key sid agent (register_discovered_sessions daemon sessions).1 := by
  refine fold_handled found Prod.fst ?_ sessions (daemon,0) rfl
  intro state session new leaves same
  refine ⟨new,?_,same⟩
  unfold register_discovered_session
  simp only
  split
  · exact leaves_same leaves rfl rfl
  · rename_i unknown
    have other : (session.kind,session.agent_id) ≠ key := by
      rintro rfl
      rw [leaves.found] at unknown
      cases unknown
    let agent := RegisteredAgent.from_session session
    have asked := enqueue_leaves (leaves_activity leaves ⟨agent.agent_id,agent.kind,.Seen,agent.status,
      session.transcript_path⟩) agent
    refine leaves_other ?_ other _
    exact leaves_same asked rfl rfl

omit sound bound in
theorem turns_handled {event : Event} (turns : List DiscoveredTurn) :
    Handled daemon event key sid agent (ingest_discovered_turns daemon turns).1 := by
  refine fold_handled found Prod.fst ?_ turns (daemon,0) rfl
  intro state turn new leaves same
  unfold ingest_discovered_turn
  simp only
  split
  · exact ⟨new,leaves,same⟩
  · rename_i other there
    by_cases own : (turn.kind,turn.agent_id) = key
    · rw [own,leaves.found] at there
      cases there
      rw [own]
      exact ⟨_,leaves_insert leaves _,same_view_trans same rfl⟩
    · exact ⟨new,leaves_other leaves own _,same⟩

omit sound bound in
theorem prune_handled {event : Event} (latest : List AgentSession) :
    Handled daemon event key sid agent (prune_missing_passive_sessions daemon latest).1 := by
  have each : ∀ (keys : List AgentKey) (post : BridgeDaemon),
      post.registered.lookup key = some agent ∨ post.registered.lookup key = none →
      (keys.foldl drop_agent post).registered.lookup key = some agent ∨
        (keys.foldl drop_agent post).registered.lookup key = none := by
    intro keys
    induction keys with
    | nil => intro post there; exact there
    | cons first rest ih =>
      intro post there
      refine ih (drop_agent post first) ?_
      rw [drop_agent,KeyedMap.lookup_erase]
      split
      · exact .inr rfl
      · exact there
  have after : (prune_missing_passive_sessions daemon latest).1.registered.lookup key = some agent ∨
      (prune_missing_passive_sessions daemon latest).1.registered.lookup key = none := each _ _ (.inl found)
  rcases after with kept | dropped
  · exact handled_same found (kept.trans found.symm) (prune_outbox daemon latest)
  · refine .inr ?_
    rw [sid_of,dropped]
    simp

omit sound bound in
theorem heartbeat_handled {event : Event} : Handled daemon event key sid agent (push_heartbeats daemon) := by
  refine handled_quiet (leaves_hidden (leaves_refl _ found) (about_none ?_)) (same_view_refl agent)
  intro msg member _
  rcases List.mem_cons.mp member with rfl | later
  · rfl
  · obtain ⟨beat,_,rfl⟩ := List.mem_map.mp later
    rfl

/-- What a call other than a flush or a drain does to an agent with the sid. -/
theorem event_handled {event : Event} (keeps : Keeps event) :
    Handled daemon event key sid agent (handle daemon event).1 := by
  cases event with
  | json_line line polled => exact json_handled sound found bound line polled
  | board_message msg => exact board_handled sound found bound msg
  | discovered_sessions sessions => exact discovered_handled found sessions
  | discovered_turns turns => exact turns_handled found turns
  | prune latest => exact prune_handled found latest
  | heartbeat => exact heartbeat_handled found
  | flush is_connected send => exact absurd rfl (keeps.2 is_connected send)
  | drain => exact absurd rfl keeps.1

end

/-! ## Moves -/

/-- A flush or a drain leaves the agents and the focus, and appends nothing. -/
theorem sends_only {m : BridgeMove} (move : bridge m) (sends : ¬ Keeps m.input) :
    (∀ key, m.post.registered.lookup key = m.pre.registered.lookup key) ∧
      m.post.focused_board_sid = m.pre.focused_board_sid ∧ enqueued m = [] := by
  have moved := move
  obtain ⟨daemon,same,result⟩ := move
  have lookups := rehashed_lookup same
  have focus : daemon.focused_board_sid = m.pre.focused_board_sid := by
    obtain ⟨registered,_,rfl⟩ := same
    rfl
  cases input : m.input with
  | flush is_connected send =>
    obtain ⟨sent,_,outbox,_⟩ := flush_flow moved input
    rw [input] at result
    simp only [handle,Prod.mk.injEq] at result
    refine ⟨?_,?_,?_⟩
    · intro key
      rw [← lookups key,← result.1]
      unfold flush_board_outbox
      split <;> rfl
    · rw [← focus,← result.1]
      unfold flush_board_outbox
      split <;> rfl
    · rw [enqueued,outbox,List.drop_eq_nil_iff,List.length_append]
      omega
  | drain =>
    rw [input] at result
    simp only [handle,drain_board_outbox,Prod.mk.injEq] at result
    refine ⟨fun key => ?_,?_,?_⟩
    · rw [← lookups key,← result.1]
    · rw [← focus,← result.1]
    · rw [enqueued,← result.1,List.drop_nil]
  | _ => rw [input] at sends; exact absurd ⟨by simp,by simp⟩ sends

/-- What is told does not depend on the order of the agents. -/
theorem told_rehashed {daemon other : BridgeDaemon} (same : Rehashed daemon other) {event : Event} {key : AgentKey}
    {sid : BoardSid} {agent new : RegisteredAgent} {msgs : List HidMessage}
    (told : Told event other key sid agent new msgs) : Told event daemon key sid agent new msgs := by
  have lookups := rehashed_lookup same
  obtain ⟨registered,_,rfl⟩ := same
  cases told with
  | quiet view => exact .quiet view
  | registered told own => exact .registered told own
  | reported told own => exact .reported told own
  | updated told => exact .updated told
  | rendered told view passive focus => exact .rendered told view passive focus
  | streamed n told nonempty reached positive =>
    refine .streamed n told nonempty ⟨?_,reached.2⟩ positive
    rw [← lookups]
    exact reached.1
  | focused told => exact .focused told

/-- An agent that has a sid before and after a move is told in one of the ways of `Told`. -/
theorem told_move {m : BridgeMove} (move : bridge m) (sound : Sound m.pre) {key : AgentKey} {sid : BoardSid}
    {agent new : RegisteredAgent} (found : m.pre.registered.lookup key = some agent)
    (bound : agent.board_sid = some sid) (after : m.post.registered.lookup key = some new)
    (still : new.board_sid = some sid) :
    Told m.input m.pre key sid agent new (about sid (enqueued m)) := by
  by_cases keeps : Keeps m.input
  · obtain ⟨daemon,same,result⟩ := move
    have handled := event_handled (sound_rehashed same sound) ((rehashed_lookup same key).trans found) bound keeps
    rw [result] at handled
    rcases handled with ⟨new',msgs,⟨there,news,outbox,shown⟩,told⟩ | unbound
    · rw [after] at there
      cases there
      have sent : enqueued m = news := by
        rw [enqueued,outbox,(rehashed_outbox same).1,List.drop_left]
      rw [sent,shown]
      exact told_rehashed same told
    · exact absurd (sid_of_iff.mpr ⟨new,after,still⟩) unbound
  · obtain ⟨lookups,_,none⟩ := sends_only move keeps
    rw [lookups,found] at after
    cases after
    rw [none]
    exact .quiet (same_view_refl agent)

/-- An agent gets a sid from a grant only, and the board is told of it all that it shows. -/
theorem binding_move {m : BridgeMove} (move : bridge m) (sound : Sound m.pre) {key : AgentKey} {sid : BoardSid}
    {new : RegisteredAgent} (before : sid_of m.pre key ≠ some sid) (after : m.post.registered.lookup key = some new)
    (bound : new.board_sid = some sid) :
    GrantsSid m.input sid.raw ∧ about sid (enqueued m) = about sid (board_sync_messages new) := by
  have granted : GrantsSid m.input sid.raw ∧ m.pre.pending_board_sessions.head? = some key := by
    rcases move_entry move (entry_lookup after) with ⟨exempt,fresh⟩ | unchanged | ⟨daemon,e,a,same,entry,cause,change⟩
    · have unbound := congrArg Entry.held fresh
      rw [show (entry_of new).held = _ from bound] at unbound
      cases unbound
    · obtain ⟨agent,found,entry⟩ := lookup_entry unchanged
      exact absurd (sid_of_iff.mpr ⟨agent,found,(congrArg Entry.held entry).trans bound⟩) before
    · obtain ⟨agent,found,rfl⟩ := lookup_entry entry
      have unbound : (entry_of agent).held ≠ some sid := by
        intro held
        exact before (sid_of_iff.mpr ⟨agent,found,held⟩)
      have held : (entry_of new).held = some sid := bound
      generalize entry_of new = e at change held
      cases change with
      | granted first =>
        cases held
        cases cause with
        | grant told => exact ⟨told,first⟩
      | stolen _ _ _ => cases held
      | revoked _ => cases held
      | _ => exact absurd held unbound
  refine ⟨granted.1,?_⟩
  obtain ⟨⟨payload,input,grants⟩,first⟩ := granted
  obtain ⟨daemon,same,result⟩ := move
  obtain ⟨waiting,queue⟩ := List.head?_eq_some_iff.mp first
  obtain ⟨agent,found,_⟩ := pending_unbound sound (show key ∈ _ by rw [queue]; simp)
  obtain ⟨post,response,_,outbox,lookups⟩ := response_granted grants ((rehashed_outbox same).2.trans queue)
    ((rehashed_lookup same key).trans found)
  rw [input] at result
  simp only [handle,handle_board_message,response,Prod.mk.injEq] at result
  obtain ⟨rfl,_⟩ := result
  rw [lookups,if_pos rfl] at after
  cases after
  rw [enqueued,outbox,(rehashed_outbox same).1,List.drop_left]

/-- Opening a screen changes no agent. -/
theorem focus_move {m : BridgeMove} (move : bridge m) {sid : BoardSid} (focus : Focuses m.input sid) :
    (∀ key, m.post.registered.lookup key = m.pre.registered.lookup key) ∧ m.post.focused_board_sid = some sid := by
  obtain ⟨daemon,same,result⟩ := move
  obtain ⟨payload,input,nonzero⟩ := focus
  rw [input] at result
  simp only [handle,handle_board_message,focus_board_sid,if_neg nonzero,Prod.mk.injEq] at result
  obtain ⟨post,_⟩ := result
  rw [← post]
  constructor
  · intro key
    rw [← rehashed_lookup same]
    split <;> rfl
  · split <;> rfl

/-- When the board opens the screen of an agent, it is shown anew. -/
theorem focus_shows {m : BridgeMove} (move : bridge m) (sound : Sound m.pre) {key : AgentKey} {sid : BoardSid}
    {agent : RegisteredAgent} (focus : Focuses m.input sid) (found : m.pre.registered.lookup key = some agent)
    (bound : agent.board_sid = some sid) : about sid (enqueued m) = replayed sid agent := by
  obtain ⟨daemon,same,result⟩ := move
  obtain ⟨payload,input,nonzero⟩ := focus
  have search := (owner_found sound same).mpr ⟨found,bound⟩
  rw [input] at result
  simp only [handle,handle_board_message,focus_board_sid,if_neg nonzero,search,Prod.mk.injEq] at result
  obtain ⟨post,_⟩ := result
  rw [← replay_about bound,enqueued,← post,BridgeDaemon.push_outbox,(rehashed_outbox same).1,List.drop_left]

/-- What a handler leaves is what the move leaves. -/
theorem leaves_move {m : BridgeMove} {daemon : BridgeDaemon} (same : Rehashed m.pre daemon) {key : AgentKey}
    {sid : BoardSid} {new : RegisteredAgent} {msgs : List HidMessage} (leaves : Leaves daemon m.post key sid new msgs) :
    about sid (enqueued m) = msgs := by
  obtain ⟨_,news,outbox,shown⟩ := leaves
  rw [enqueued,outbox,(rehashed_outbox same).1,List.drop_left,shown]

/-- The board is not told when an agent with a sid registers anew. -/
theorem register_move {m : BridgeMove} (move : bridge m) {key : AgentKey} {sid : BoardSid} {fresh agent : RegisteredAgent}
    (told : Registers m.input fresh) (own : fresh.key = key) (found : m.pre.registered.lookup key = some agent)
    (bound : agent.board_sid = some sid) :
    m.post.registered.lookup key = some (carry_over fresh agent) ∧ about sid (enqueued m) = [] := by
  obtain ⟨daemon,same,result⟩ := move
  obtain ⟨request,⟨polled,input,type⟩,reading⟩ := told
  have leaves := register_own ((rehashed_lookup same key).trans found) bound reading own
  rw [input] at result
  simp only [handle,handle_json_line,type,Prod.mk.injEq] at result
  rw [result.1] at leaves
  exact ⟨leaves.found,leaves_move same leaves⟩

/-- The board is told the usage of an agent that has changed, unless it is zero. -/
theorem update_move {m : BridgeMove} (move : bridge m) {key : AgentKey} {sid : BoardSid} {usage : TokenUsage}
    {agent : RegisteredAgent} (told : Updates m.input key usage) (found : m.pre.registered.lookup key = some agent)
    (bound : agent.board_sid = some sid) :
    m.post.registered.lookup key = some { agent with usage := usage } ∧ about sid (enqueued m) =
      if usage = {} then [] else [⟨.TokenUsage,sid.raw,encode_token_usage usage⟩] := by
  obtain ⟨daemon,same,result⟩ := move
  obtain ⟨request,⟨polled,input,type⟩,reading⟩ := told
  have leaves := token_own ((rehashed_lookup same key).trans found) bound reading
  rw [input] at result
  simp only [handle,handle_json_line,type,Prod.mk.injEq] at result
  rw [result.1] at leaves
  exact ⟨leaves.found,leaves_move same leaves⟩

/-- After a turn or a permission request a focused passive agent is shown anew. -/
theorem render_shows {m : BridgeMove} (move : bridge m) {key : AgentKey} {sid : BoardSid} {agent : RegisteredAgent}
    (renders : Renders m.input key) (found : m.pre.registered.lookup key = some agent)
    (bound : agent.board_sid = some sid) (passive : agent.from_launch = false)
    (focus : m.pre.focused_board_sid = some sid) : about sid (enqueued m) = replayed sid agent := by
  obtain ⟨daemon,same,result⟩ := move
  have there := (rehashed_lookup same key).trans found
  have focused : daemon.focused_board_sid = some sid := by
    obtain ⟨registered,_,rfl⟩ := same
    exact focus
  rcases renders with ⟨request,role,turn,⟨polled,input,type⟩,reading⟩ | ⟨perm,request,⟨polled,input,type⟩,reading⟩
  · have leaves := live_view_own there bound
      (show SameView agent (push_turn agent ⟨agent.board_sid.getD .BROADCAST,role,turn.text,turn.ts_ms⟩) from rfl)
      (show about sid [] = [] from rfl)
    rw [if_pos ⟨passive,focused⟩,push_nothing] at leaves
    rw [input] at result
    simp only [handle,handle_json_line,type,turn_append,reading,there,Prod.mk.injEq] at result
    rw [result.1] at leaves
    exact leaves_move same leaves
  · rw [input] at result
    simp only [handle,handle_json_line,type,permission_request,reading,there,Prod.mk.injEq] at result
    let new : RegisteredAgent := { agent with
      resolved_permissions := agent.resolved_permissions.erase perm.req_id
      pending_permissions := agent.pending_permissions ++ [recorded agent perm] }
    have leaves := live_view_own there bound (show SameView agent new from rfl)
      (permission_hidden sid new (recorded agent perm))
    rw [if_pos ⟨passive,focused⟩] at leaves
    have leaves : Leaves daemon m.post key sid new (replayed sid agent) := by
      rw [← result.1]
      exact leaves
    exact leaves_move same leaves

/-- A stream that reaches a focused agent is shown, and the agent keeps its sid. -/
theorem stream_shows {m : BridgeMove} (move : bridge m) (sound : Sound m.pre) {key source : AgentKey} {sid : BoardSid}
    {agent : RegisteredAgent} {bytes : List UInt8} (told : Streams m.input source bytes) (nonempty : bytes ≠ [])
    (found : m.pre.registered.lookup key = some agent) (bound : agent.board_sid = some sid)
    (reached : Reaches m.pre source key agent) (focus : m.pre.focused_board_sid = some sid) :
    sid_of m.post key = some sid ∧
      ∃ n, about sid (enqueued m) = List.replicate (n + 1) ⟨.Vt100Stream,sid.raw,bytes⟩ := by
  obtain ⟨daemon,same,result⟩ := move
  have there := (rehashed_lookup same key).trans found
  have focused : daemon.focused_board_sid = some sid := by
    obtain ⟨registered,_,rfl⟩ := same
    exact focus
  have reached : Reaches daemon source key agent := by
    refine ⟨?_,reached.2⟩
    rw [rehashed_lookup same]
    exact reached.1
  obtain ⟨x,terminal⟩ := Option.isSome_iff_exists.mp reached.1
  have leaves := stream_leaves (sound_rehashed same sound) there bound source bytes
  simp only [if_pos focused] at leaves
  obtain ⟨n,count⟩ := Nat.exists_eq_succ_of_ne_zero
    (Nat.pos_iff_ne_zero.mp (List.count_pos_iff.mpr ((reaches_iff there terminal).mpr reached)))
  obtain ⟨request,⟨polled,input,type⟩,reading⟩ := told
  rw [input] at result
  simp only [handle,handle_json_line,type,terminal_stream,reading,terminal,List.isEmpty_eq_false_iff.mpr nonempty,
    Bool.false_eq_true,if_false,Prod.mk.injEq] at result
  rw [result.1] at leaves
  refine ⟨sid_of_iff.mpr ⟨_,leaves.found,(appended_kept (·.board_sid) (fun _ _ _ => rfl) _ _ _).trans bound⟩,n,?_⟩
  have shown := leaves_move same leaves
  rw [count] at shown
  exact shown

end VibeBridge.Views
