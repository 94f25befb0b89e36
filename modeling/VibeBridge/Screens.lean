import VibeBridge.TerminalBuffer
import VibeBridge.Views

/-!
The screens of the board. While the board is focused on the sid of an agent, it
is sent every byte that enters the agent's terminal buffer, and when the view is
shown anew, the whole buffer: what it was sent ends with the buffer
(`replay_faithful`). A sid that passes on to another agent keeps the focus,
though, so the new owner may write on the screen of the old one
(`takeovers_clean_iff`).
-/
namespace VibeBridge.Screens
open Transitions
open VibeBridge.Core VibeBridge.Protocol VibeBridge.Agent VibeBridge.Envelope VibeBridge.Daemon
open VibeBridge.Bridge VibeBridge.Events VibeBridge.Bindings VibeBridge.Outbox VibeBridge.Views

/-! ## What is sent to a screen -/

/-- The messages for the screen of a sid. -/
def screen_messages (sid : BoardSid) (msgs : List HidMessage) : List HidMessage :=
  msgs.filter (fun msg => msg.cmd == .Vt100Stream && msg.sid == sid.raw)

/-- The bytes that the screen of a sid is sent. -/
def screen_bytes (sid : BoardSid) (msgs : List HidMessage) : List UInt8 :=
  (screen_messages sid msgs).flatMap (·.payload)

theorem screen_messages_append (sid : BoardSid) (msgs msgs' : List HidMessage) :
    screen_messages sid (msgs ++ msgs') = screen_messages sid msgs ++ screen_messages sid msgs' :=
  List.filter_append _ _

theorem screen_bytes_append (sid : BoardSid) (msgs msgs' : List HidMessage) :
    screen_bytes sid (msgs ++ msgs') = screen_bytes sid msgs ++ screen_bytes sid msgs' := by
  rw [screen_bytes,screen_messages_append,List.flatMap_append]
  rfl

theorem screen_messages_about (sid : BoardSid) (msgs : List HidMessage) :
    screen_messages sid (about sid msgs) = screen_messages sid msgs := by
  rw [screen_messages,about,List.filter_filter,screen_messages]
  refine List.filter_congr ?_
  intro msg _
  cases screen : msg.cmd == Cmd.Vt100Stream with
  | false => simp
  | true => simp [shows,screen]

theorem screen_bytes_about (sid : BoardSid) (msgs : List HidMessage) :
    screen_bytes sid (about sid msgs) = screen_bytes sid msgs := by
  rw [screen_bytes,screen_messages_about,screen_bytes]

theorem screen_replayed (sid : BoardSid) (agent : RegisteredAgent) :
    screen_messages sid (replayed sid agent) = replayed sid agent := by
  unfold replayed screen_messages
  cases replay agent <;> simp

theorem screen_copies (sid : BoardSid) (bytes : List UInt8) (n : Nat) :
    screen_messages sid (List.replicate n ⟨.Vt100Stream,sid.raw,bytes⟩) =
      List.replicate n ⟨.Vt100Stream,sid.raw,bytes⟩ := by
  simp [screen_messages]

/-! ## The terminal buffer -/

theorem appended_suffix (bytes : List UInt8) (n : Nat) {agent : RegisteredAgent} {sent : List UInt8}
    (suffix : agent.terminal_snapshot <:+ sent) :
    (appended bytes n agent).terminal_snapshot <:+ sent ++ (List.replicate n bytes).flatten := by
  induction n generalizing agent sent with
  | zero => simpa [appended] using suffix
  | succ n ih =>
    rw [List.replicate_succ,List.flatten_cons,← List.append_assoc]
    exact ih ((append_bytes_suffix agent bytes).trans (List.suffix_append_self_iff.mpr suffix))

/-- Whatever shows a screen anew ends with the buffer and starts with a clear screen. -/
theorem replay_shape {agent : RegisteredAgent} {bytes : List UInt8} (shown : replay agent = some bytes) :
    SCREEN_CLEAR <+: bytes ∧ agent.terminal_snapshot <:+ bytes := by
  unfold replay at shown
  split at shown
  · cases shown
    exact ⟨List.prefix_append _ _,List.suffix_append _ _⟩
  · rename_i empty
    have none : agent.terminal_snapshot = [] := by simpa using empty
    rw [none]
    split at shown
    · cases shown
    · split at shown
      · cases shown; exact ⟨List.prefix_refl _,List.nil_suffix⟩
      · cases shown; exact ⟨List.prefix_append _ _,List.nil_suffix⟩

/-- A screen is not shown anew only where there is nothing to show. -/
theorem replay_none {agent : RegisteredAgent} :
    replay agent = none ↔ agent.terminal_snapshot = [] ∧ agent.attached_terminal.isSome = true := by
  unfold replay
  by_cases empty : agent.terminal_snapshot = []
  · cases agent.attached_terminal with
    | none => cases agent.from_launch <;> simp [empty]
    | some source => simp [empty]
  · simp [empty]

/-! ## Replay -/

/-- A screen that is shown anew ends with the buffer. -/
theorem replayed_suffix (sid : BoardSid) (agent : RegisteredAgent) :
    agent.terminal_snapshot <:+ screen_bytes sid (replayed sid agent) := by
  rw [screen_bytes,screen_replayed,replayed]
  cases anew : replay agent with
  | none =>
    rw [(replay_none.mp anew).1]
    exact List.nil_suffix
  | some bytes => simpa using (replay_shape anew).2

/-- What the board was sent goes on to end with the buffer, whatever the agent is told. -/
theorem told_suffix {event : Event} {daemon : BridgeDaemon} {key : AgentKey} {sid : BoardSid} {agent new : RegisteredAgent}
    {msgs : List HidMessage} (told : Told event daemon key sid agent new msgs)
    (focus : daemon.focused_board_sid = some sid) {sent : List UInt8}
    (suffix : agent.terminal_snapshot <:+ sent) : new.terminal_snapshot <:+ sent ++ screen_bytes sid msgs := by
  have view : ∀ {new}, SameView agent new → new.terminal_snapshot = agent.terminal_snapshot := by
    intro new same
    rw [same]
    rfl
  cases told with
  | quiet same => rw [view same]; simpa [screen_bytes,screen_messages] using suffix
  | registered told own =>
    have carried : ∀ fresh, (carry_over fresh agent).terminal_snapshot = agent.terminal_snapshot := fun _ => rfl
    rw [carried]
    simpa [screen_bytes,screen_messages] using suffix
  | reported told own =>
    rw [show screen_bytes sid _ = [] from rfl,List.append_nil]
    exact suffix
  | updated told =>
    have none : ∀ usage, screen_bytes sid (if usage = ({} : TokenUsage) then []
        else [⟨.TokenUsage,sid.raw,Payloads.encode_token_usage usage⟩]) = [] := by
      intro usage
      split <;> rfl
    rw [none,List.append_nil]
    exact suffix
  | rendered told same passive _ =>
    rw [view same]
    exact (replayed_suffix sid agent).trans (List.suffix_append sent _)
  | streamed n told nonempty reached positive =>
    rw [if_pos focus,screen_bytes,screen_copies,List.flatMap_replicate]
    exact appended_suffix _ n suffix
  | focused told => exact (replayed_suffix sid agent).trans (List.suffix_append sent _)

/-- While the board stays focused on an agent, what it was sent ends with the agent's buffer. -/
theorem screen_kept {start daemon : BridgeDaemon} {ms : List BridgeMove} (path : Path bridge start ms daemon)
    (sound : Sound start) {key : AgentKey} {sid : BoardSid} (bound : sid_of start key = some sid)
    (focus : start.focused_board_sid = some sid)
    (kept : ∀ m ∈ ms, m.post.focused_board_sid = some sid ∧ sid_of m.post key = some sid) {sent : List UInt8}
    (suffix : ∀ agent, start.registered.lookup key = some agent → agent.terminal_snapshot <:+ sent) :
    (daemon.focused_board_sid = some sid ∧ sid_of daemon key = some sid) ∧ ∀ agent,
      daemon.registered.lookup key = some agent →
        agent.terminal_snapshot <:+ sent ++ screen_bytes sid (ms.flatMap enqueued) := by
  induction path with
  | refl => exact ⟨⟨focus,bound⟩,by simpa [screen_bytes,screen_messages] using suffix⟩
  | @next ms m before move ih =>
    obtain ⟨⟨focused,owns⟩,so_far⟩ := ih (fun m' member => kept m' (List.mem_append_left _ member))
    have last := kept m (by simp)
    refine ⟨last,?_⟩
    intro new after
    obtain ⟨agent,found,held⟩ := sid_of_iff.mp owns
    obtain ⟨new',after',still⟩ := sid_of_iff.mp last.2
    rw [after] at after'
    cases after'
    have told := told_move move (sound_path before sound) found held after still
    have next := told_suffix told focused (so_far agent found)
    rw [screen_bytes_about,List.append_assoc,← screen_bytes_append] at next
    simpa using next

/-- From the moment at which the board opens the screen of an agent, and as long
    as the agent keeps the sid and the focus, what the screen is sent ends with
    the agent's terminal buffer. -/
theorem replay_faithful {before since : List BridgeMove} {f : BridgeMove} {daemon : BridgeDaemon}
    (run : Run (before ++ f :: since) daemon) {key : AgentKey} {sid : BoardSid} (focus : Focuses f.input sid)
    (owned : sid_of f.pre key = some sid)
    (kept : ∀ m ∈ since, m.post.focused_board_sid = some sid ∧ sid_of m.post key = some sid) {agent : RegisteredAgent}
    (found : daemon.registered.lookup key = some agent) :
    agent.terminal_snapshot <:+ screen_bytes sid ((f :: since).flatMap enqueued) := by
  obtain ⟨first,move,rest⟩ := path_split run
  obtain ⟨same,focused⟩ := focus_move move focus
  have sound := sound_path first sound_new
  have owns : sid_of f.post key = some sid := by rw [sid_of,same]; exact owned
  have opened : ∀ agent, f.post.registered.lookup key = some agent →
      agent.terminal_snapshot <:+ screen_bytes sid (enqueued f) := by
    intro agent there
    obtain ⟨owner,found,held⟩ := sid_of_iff.mp owned
    rw [same,found] at there
    cases there
    rw [← screen_bytes_about,focus_shows move sound focus found held]
    exact replayed_suffix sid agent
  have all := (screen_kept rest (sound_move move sound) owns focused kept opened).2 agent found
  rwa [← screen_bytes_append] at all

/-- The board opens the screen of an agent, and its terminal sends two pieces. -/
def watched : List Event :=
  [registration "claude" "x" true,full_flush,session_response 7 .Created,session_focus 7,streaming "claude" "x" "6869",
    streaming "claude" "x" "21"]

theorem replay_faithful_watched : ∃ agent, (finish handle BridgeDaemon.new watched).registered.lookup (.Claude,"x") =
    some agent ∧ agent.terminal_snapshot = [0x68,0x69,0x21] ∧ agent.terminal_snapshot <:+ screen_bytes ⟨7⟩
      ((moves handle (finish handle BridgeDaemon.new (watched.take 3)) (watched.drop 3)).flatMap enqueued) := by
  have there : ((finish handle BridgeDaemon.new watched).registered.lookup (.Claude,"x")).isSome := by decide
  have kept : ∀ m ∈ moves handle (finish handle BridgeDaemon.new (watched.take 4)) (watched.drop 4),
      m.post.focused_board_sid = some ⟨7⟩ ∧ sid_of m.post (.Claude,"x") = some ⟨7⟩ := by
    intro m member
    simp only [watched,List.take,List.drop,moves,List.mem_cons,List.not_mem_nil,or_false] at member
    rcases member with rfl | rfl
    · decide
    · decide
  have run : Run (moves handle BridgeDaemon.new (watched.take 3) ++
      moves handle (finish handle BridgeDaemon.new (watched.take 3)) (watched.drop 3)) _ := run_events watched
  exact ⟨_,(Option.some_get there).symm,rfl,
    replay_faithful run ⟨[],rfl,by decide⟩ (by decide) kept (Option.some_get there).symm⟩

/-! ## Screens that pass on -/

/-- The last agent that had the sid in the history. -/
def LastOwner (ms : List BridgeMove) (sid : BoardSid) (key : AgentKey) : Prop :=
  ∃ before m between, ms = before ++ m :: between ∧ sid_of m.post key = some sid ∧
    ∀ m' ∈ between, ∀ other, sid_of m'.post other ≠ some sid

/-- After the history the move gives the sid to the agent, and another one had it last. -/
def TakesOver (ms : List BridgeMove) (m : BridgeMove) (key : AgentKey) (sid : BoardSid) : Prop :=
  sid_of m.pre key ≠ some sid ∧ sid_of m.post key = some sid ∧ ∃ other, other ≠ key ∧ LastOwner ms sid other

/-- The move is the first one that sends anything to a screen that the agent took over and still has. -/
structure FirstShown (ms : List BridgeMove) (m : BridgeMove) (key : AgentKey) (sid : BoardSid) : Prop where
  taken : ∃ former g since, ms = former ++ g :: since ∧ TakesOver former g key sid ∧
    (∀ m' ∈ since, sid_of m'.post key = some sid) ∧
    screen_messages sid ((g :: since).flatMap enqueued) = []
  kept : sid_of m.post key = some sid

/-- When a screen has passed from one agent to another, the first message to it
    on behalf of the new owner starts with a clear screen. -/
def StartsClear (ms : List BridgeMove) (m : BridgeMove) : Prop :=
  ∀ key sid msg, FirstShown ms m key sid → (screen_messages sid (enqueued m)).head? = some msg →
    SCREEN_CLEAR <+: msg.payload

/-- The agent has something to show when its screen is shown anew. -/
def Replayable (agent : RegisteredAgent) : Prop := agent.terminal_snapshot ≠ [] ∨ agent.attached_terminal = none

/-- The move writes to the screen of the agent. -/
def Paints (m : BridgeMove) (key : AgentKey) (sid : BoardSid) : Prop :=
  ∃ agent, m.pre.registered.lookup key = some agent ∧
    ((Focuses m.input sid ∧ Replayable agent) ∨
      (Renders m.input key ∧ agent.from_launch = false ∧ m.pre.focused_board_sid = some sid ∧ Replayable agent) ∨
      ∃ source bytes, Streams m.input source bytes ∧ bytes ≠ [] ∧ Reaches m.pre source key agent ∧
        m.pre.focused_board_sid = some sid)

/-- A stream reaches an agent that took its sid over from another one together
    with the focus, and since then nothing has been written to its screen. -/
def Leaks (ms : List BridgeMove) (m : BridgeMove) : Prop :=
  ∃ key sid agent source bytes, (∃ former g since, ms = former ++ g :: since ∧ TakesOver former g key sid ∧
      ∀ m' ∈ since, sid_of m'.post key = some sid ∧ ¬ Paints m' key sid) ∧
    m.pre.registered.lookup key = some agent ∧ Streams m.input source bytes ∧ bytes ≠ [] ∧
    Reaches m.pre source key agent ∧ m.pre.focused_board_sid = some sid ∧ ¬ SCREEN_CLEAR <+: bytes

theorem replayable_iff {agent : RegisteredAgent} : Replayable agent ↔ replay agent ≠ none := by
  rw [Ne,replay_none,Replayable]
  cases agent.attached_terminal <;> simp [or_iff_not_imp_left]

theorem replayed_shown {sid : BoardSid} {agent : RegisteredAgent} :
    screen_messages sid (replayed sid agent) ≠ [] ↔ Replayable agent := by
  rw [screen_replayed,replayable_iff,replayed]
  cases replay agent <;> simp

/-- Nothing is written to the screen of an agent by the grant of its sid. -/
theorem binding_blank {m : BridgeMove} (move : bridge m) (sound : Sound m.pre) {key : AgentKey} {sid : BoardSid}
    (before : sid_of m.pre key ≠ some sid) (after : sid_of m.post key = some sid) :
    screen_messages sid (enqueued m) = [] := by
  obtain ⟨new,found,bound⟩ := sid_of_iff.mp after
  have sync := (binding_move move sound before found bound).2
  rw [← screen_messages_about,sync,sync_about bound]
  split <;> rfl

/-- While an agent keeps its sid, its screen is written to exactly by the moves that paint it. -/
theorem paints_iff {m : BridgeMove} (move : bridge m) (sound : Sound m.pre) {key : AgentKey} {sid : BoardSid}
    (owned : sid_of m.pre key = some sid) (kept : sid_of m.post key = some sid) :
    screen_messages sid (enqueued m) ≠ [] ↔ Paints m key sid := by
  obtain ⟨agent,found,bound⟩ := sid_of_iff.mp owned
  rw [← screen_messages_about]
  constructor
  · intro shown
    obtain ⟨new,after,still⟩ := sid_of_iff.mp kept
    have told := told_move move sound found bound after still
    generalize about sid (enqueued m) = msgs at told shown
    refine ⟨agent,found,?_⟩
    cases told with
    | quiet same => exact absurd rfl shown
    | registered told own => exact absurd rfl shown
    | reported told own => exact absurd rfl shown
    | updated told =>
      split at shown
      · exact absurd rfl shown
      · exact absurd rfl shown
    | rendered told same passive focus => exact .inr (.inl ⟨told,passive,focus,replayed_shown.mp shown⟩)
    | streamed n told nonempty reached positive =>
      by_cases focus : m.pre.focused_board_sid = some sid
      · exact .inr (.inr ⟨_,_,told,nonempty,reached,focus⟩)
      · rw [if_neg focus] at shown
        exact absurd rfl shown
    | focused told => exact .inl ⟨told,replayed_shown.mp shown⟩
  · rintro ⟨agent',found',painted⟩
    rw [found] at found'
    cases found'
    rcases painted with ⟨focus,anew⟩ | ⟨renders,passive,focus,anew⟩ | ⟨source,bytes,told,nonempty,reached,focus⟩
    · rw [focus_shows move sound focus found bound]
      exact replayed_shown.mpr anew
    · rw [render_shows move renders found bound passive focus]
      exact replayed_shown.mpr anew
    · obtain ⟨_,n,shown⟩ := stream_shows move sound told nonempty found bound reached focus
      rw [shown,screen_copies]
      simp

/-- The moves that write nothing to a screen are those that do not paint it. -/
theorem blank_iff {ms : List BridgeMove} {start daemon : BridgeDaemon} (path : Path bridge start ms daemon)
    (sound : Sound start) {key : AgentKey} {sid : BoardSid} (owned : sid_of start key = some sid)
    (kept : ∀ m ∈ ms, sid_of m.post key = some sid) :
    screen_messages sid (ms.flatMap enqueued) = [] ↔ ∀ m ∈ ms, ¬ Paints m key sid := by
  have all : screen_messages sid (ms.flatMap enqueued) = ms.flatMap (fun m => screen_messages sid (enqueued m)) := by
    rw [screen_messages,List.filter_flatMap]
    rfl
  rw [all,List.flatMap_eq_nil_iff]
  refine forall₂_congr ?_
  intro m member
  have move := path_moves (fun m move sound => sound_move move sound) path sound m member
  have pre := (path_linked (fun daemon => sid_of daemon key = some sid) path owned kept).2 m member
  rw [← paints_iff move.1 move.2 pre (kept m member),not_not]

/-- An agent that took its sid over has it still, and the history since then that it was not shown anything
    is the one in which nothing painted its screen. -/
theorem taken_blank {former since : List BridgeMove} {g : BridgeMove} {daemon : BridgeDaemon}
    (run : Run (former ++ g :: since) daemon) {key : AgentKey} {sid : BoardSid}
    (before : sid_of g.pre key ≠ some sid) (after : sid_of g.post key = some sid)
    (kept : ∀ m ∈ since, sid_of m.post key = some sid) :
    sid_of daemon key = some sid ∧
      (screen_messages sid ((g :: since).flatMap enqueued) = [] ↔ ∀ m ∈ since, ¬ Paints m key sid) := by
  obtain ⟨first,move,rest⟩ := path_split run
  have sound := sound_path first sound_new
  refine ⟨(path_linked (fun daemon => sid_of daemon key = some sid) rest after kept).1,?_⟩
  rw [List.flatMap_cons,screen_messages_append,binding_blank move sound before after,List.nil_append]
  exact blank_iff rest (sound_move move sound) after kept

/-- What shows a screen anew starts with a clear screen. -/
theorem replayed_clear {sid : BoardSid} {agent : RegisteredAgent} {msg : HidMessage}
    (head : (screen_messages sid (replayed sid agent)).head? = some msg) : SCREEN_CLEAR <+: msg.payload := by
  rw [screen_replayed,replayed] at head
  cases shown : replay agent with
  | none => rw [shown] at head; cases head
  | some bytes =>
    rw [shown] at head
    cases head
    exact (replay_shape shown).1

/-- The first message that a move sends to the screen of an agent starts with a clear screen, or it has the bytes of a stream. -/
theorem head_shown {m : BridgeMove} (move : bridge m) (sound : Sound m.pre) {key : AgentKey} {sid : BoardSid}
    {agent : RegisteredAgent} {msg : HidMessage} (found : m.pre.registered.lookup key = some agent)
    (bound : agent.board_sid = some sid) (kept : sid_of m.post key = some sid)
    (head : (screen_messages sid (enqueued m)).head? = some msg) :
    SCREEN_CLEAR <+: msg.payload ∨ ∃ source, Streams m.input source msg.payload ∧ msg.payload ≠ [] ∧
      Reaches m.pre source key agent ∧ m.pre.focused_board_sid = some sid := by
  obtain ⟨new,after,held⟩ := sid_of_iff.mp kept
  have told := told_move move sound found bound after held
  rw [← screen_messages_about] at head
  generalize about sid (enqueued m) = msgs at told head
  cases told with
  | quiet same => cases head
  | registered told own => cases head
  | reported told own => cases head
  | updated told =>
    split at head
    · cases head
    · cases head
  | rendered told same passive focus => exact .inl (replayed_clear head)
  | @streamed source bytes n told nonempty reached positive =>
    by_cases focus : m.pre.focused_board_sid = some sid
    · rw [if_pos focus,screen_copies] at head
      obtain ⟨k,rfl⟩ := Nat.exists_eq_succ_of_ne_zero (Nat.pos_iff_ne_zero.mp positive)
      cases head
      exact .inr ⟨source,told,nonempty,reached,focus⟩
    · rw [if_neg focus] at head
      cases head
  | focused told => exact .inl (replayed_clear head)

/-- Throughout a run the first message to a screen that has passed on starts with a
    clear screen exactly when no stream is the first to reach its new owner. -/
theorem takeovers_clean_iff {ms : List BridgeMove} {daemon : BridgeDaemon} (run : Run ms daemon) :
    Throughout StartsClear ms ↔ Throughout (fun before m => ¬ Leaks before m) ms := by
  refine forall₃_congr ?_
  intro before m after
  refine forall_congr' ?_
  rintro rfl
  obtain ⟨first,move,_⟩ := path_split run
  have sound := sound_path first sound_new
  constructor
  · rintro clear ⟨key,sid,agent,source,bytes,⟨former,g,since,rfl,takes,still⟩,found,told,nonempty,reached,focus,unclear⟩
    have blank := taken_blank first takes.1 takes.2.1 (fun m' member => (still m' member).1)
    obtain ⟨owner,there,bound⟩ := sid_of_iff.mp blank.1
    rw [found] at there
    cases there
    obtain ⟨kept,n,sent⟩ := stream_shows move sound told nonempty found bound reached focus
    have shown : FirstShown (former ++ g :: since) m key sid :=
      ⟨⟨former,g,since,rfl,takes,fun m' member => (still m' member).1,
        blank.2.mpr (fun m' member => (still m' member).2)⟩,kept⟩
    refine unclear (clear key sid ⟨.Vt100Stream,sid.raw,bytes⟩ shown ?_)
    rw [← screen_messages_about,sent,screen_copies]
    rfl
  · rintro tight key sid msg ⟨⟨former,g,since,rfl,takes,still,nothing⟩,kept⟩ head
    have blank := taken_blank first takes.1 takes.2.1 still
    obtain ⟨agent,found,bound⟩ := sid_of_iff.mp blank.1
    rcases head_shown move sound found bound kept head with clear | ⟨source,told,nonempty,reached,focus⟩
    · exact clear
    · by_contra unclear
      exact tight ⟨key,sid,agent,source,msg.payload,
        ⟨former,g,since,rfl,takes,fun m' member => ⟨still m' member,blank.2.mp nothing m' member⟩⟩,
        found,told,nonempty,reached,focus,unclear⟩

theorem unowned {daemon : BridgeDaemon} {sid : BoardSid}
    (none : ∀ e ∈ daemon.registered.entries, e.2.board_sid ≠ some sid) (key : AgentKey) : sid_of daemon key ≠ some sid := by
  intro owned
  obtain ⟨agent,found,bound⟩ := sid_of_iff.mp owned
  exact none _ (AList.mem_lookup_iff.mp found) bound

/-- An agent is aborted while the board has its screen open. Its sid is granted
    to another agent, which writes on the open screen. -/
def handed_on : List Event :=
  [registration "claude" "x" true,full_flush,session_response 7 .Created,session_focus 7,abortion "claude" "x",
    registration "codex" "y" true,full_flush,session_response 7 .Created,streaming "codex" "y" "6869"]

/-- The last move is the first that writes to the screen for its new owner, and it does not clear it. -/
theorem handed_on_unclear : ¬ Throughout StartsClear (moves handle BridgeDaemon.new handed_on) := by
  have owner : LastOwner (moves handle BridgeDaemon.new (handed_on.take 7)) ⟨7⟩ (.Claude,"x") := by
    refine ⟨moves handle BridgeDaemon.new (handed_on.take 3),_,_,moves_append handle _ (handed_on.take 3) _,by decide,?_⟩
    intro m member
    simp only [handed_on,List.take,moves,List.mem_cons,List.not_mem_nil,or_false] at member
    rcases member with rfl | rfl | rfl
    · exact unowned (by decide)
    · exact unowned (by decide)
    · exact unowned (by decide)
  intro clear
  have first := clear _ _ [] (moves_append handle BridgeDaemon.new (handed_on.take 8) _)
    (.Codex,"y") ⟨7⟩ ⟨.Vt100Stream,7,[0x68,0x69]⟩
    ⟨⟨moves handle BridgeDaemon.new (handed_on.take 7),_,[],moves_append handle _ (handed_on.take 7) _,
      ⟨by decide,by decide,(.Claude,"x"),by decide,owner⟩,by simp,by decide⟩,by decide⟩ rfl
  revert first
  decide

theorem handed_on_uncleared : ¬ ∀ ms daemon, Run ms daemon → Throughout StartsClear ms := by
  intro claimed
  exact handed_on_unclear (claimed _ _ (run_events handed_on))

theorem takeovers_clean_iff_handed_on :
    ¬ Throughout (fun before m => ¬ Leaks before m) (moves handle BridgeDaemon.new handed_on) := by
  intro tight
  exact handed_on_unclear ((takeovers_clean_iff (run_events handed_on)).mpr tight)

end VibeBridge.Screens
