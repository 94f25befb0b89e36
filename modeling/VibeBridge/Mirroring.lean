import VibeBridge.Views

/-!
What a terminal stream does to the agents. Its bytes go to the terminal and to
the agents that are attached to it, and to the board for those of them that it
is focused on. Each gets them once, unless the terminal is attached to itself
(`mirrored_iff`).
-/
namespace VibeBridge.Mirroring
open Transitions
open VibeBridge.Core VibeBridge.Protocol VibeBridge.Agent VibeBridge.Envelope VibeBridge.Daemon
open VibeBridge.Bridge VibeBridge.Events VibeBridge.Outbox VibeBridge.Views

/-- The agent is the terminal, or is attached to it. -/
def Hears (source key : AgentKey) (agent : RegisteredAgent) : Prop :=
  key = source ∨ agent.attached_terminal = some source

instance (source key : AgentKey) (agent : RegisteredAgent) : Decidable (Hears source key agent) :=
  inferInstanceAs (Decidable (_ ∨ _))

/-- The sid of an agent that the board is focused on. -/
def focused_sid (daemon : BridgeDaemon) (key : AgentKey) : Option BoardSid :=
  (sid_of daemon key).filter (fun sid => daemon.focused_board_sid == some sid)

def stream_message (bytes : List UInt8) (sid : BoardSid) : HidMessage := ⟨.Vt100Stream,sid.raw,bytes⟩

/-- Each agent that hears the terminal gets the bytes once, no other agent changes, and the board gets them once for
    each of those agents that it is focused on. -/
structure MirroredOnce (pre post : BridgeDaemon) (source : AgentKey) (bytes : List UInt8) : Prop where
  agents : ∀ key, post.registered.lookup key = (pre.registered.lookup key).map
    (fun agent => if Hears source key agent then agent.append_terminal_bytes bytes else agent)
  shown : ∃ owners : List (AgentKey × BoardSid), owners.Nodup ∧
    (∀ key sid, (key,sid) ∈ owners ↔ focused_sid pre key = some sid ∧
      ∃ agent, pre.registered.lookup key = some agent ∧ Hears source key agent) ∧
    post.board_outbox = pre.board_outbox ++ owners.map (fun owner => stream_message bytes owner.2)

/-! ## The mirror loop -/

/-- Those of the keys that the board is focused on, with their sids. -/
def focused_owners (daemon : BridgeDaemon) (keys : List AgentKey) : List (AgentKey × BoardSid) :=
  keys.filterMap (fun key => (focused_sid daemon key).map (Prod.mk key))

theorem mem_focused_owners {daemon : BridgeDaemon} {keys : List AgentKey} {key : AgentKey} {sid : BoardSid} :
    (key,sid) ∈ focused_owners daemon keys ↔ key ∈ keys ∧ focused_sid daemon key = some sid := by
  simp only [focused_owners,List.mem_filterMap,Option.map_eq_some_iff,Prod.mk.injEq]
  constructor
  · rintro ⟨other,member,found,owned,rfl,rfl⟩
    exact ⟨member,owned⟩
  · rintro ⟨member,owned⟩
    exact ⟨key,member,sid,owned,rfl,rfl⟩

theorem focused_owners_nodup (daemon : BridgeDaemon) {keys : List AgentKey} (distinct : keys.Nodup) :
    (focused_owners daemon keys).Nodup := by
  refine distinct.filterMap ?_
  intro key key' owner owned owned'
  obtain ⟨sid,_,rfl⟩ := Option.map_eq_some_iff.mp owned
  obtain ⟨sid',_,same⟩ := Option.map_eq_some_iff.mp owned'
  exact (congrArg Prod.fst same).symm

/-- One turn of the loop, seen from any agent. -/
theorem mirror_turn (bytes : List UInt8) (daemon : BridgeDaemon) (first : AgentKey) :
    (∀ key, (mirror_bytes bytes daemon first).registered.lookup key =
      if key = first then (daemon.registered.lookup key).map (·.append_terminal_bytes bytes)
      else daemon.registered.lookup key) ∧
    (mirror_bytes bytes daemon first).board_outbox =
      daemon.board_outbox ++ (focused_owners daemon [first]).map (fun owner => stream_message bytes owner.2) ∧
    (mirror_bytes bytes daemon first).focused_board_sid = daemon.focused_board_sid := by
  cases found : daemon.registered.lookup first with
  | none =>
    have same : mirror_bytes bytes daemon first = daemon := by
      rw [mirror_bytes,found]
    have nobody : focused_owners daemon [first] = [] := by
      simp [focused_owners,focused_sid,sid_of,found]
    rw [same,nobody]
    refine ⟨?_,by simp,rfl⟩
    intro key
    split
    · rename_i own
      rw [own,found]
      rfl
    · rfl
  | some agent =>
    rw [mirror_found bytes found]
    refine ⟨?_,?_,rfl⟩
    · intro key
      simp only [BridgeDaemon.push_outbox,BridgeDaemon.insert_agent,KeyedMap.lookup_insert]
      split
      · rename_i own
        rw [own,found]
        rfl
      · rfl
    · simp only [BridgeDaemon.push_outbox,BridgeDaemon.insert_agent]
      have owned : sid_of daemon first = agent.board_sid := by
        rw [sid_of,found]
        rfl
      congr 1
      cases sid : agent.board_sid with
      | none => simp [focused_owners,focused_sid,owned,sid,made]
      | some sid' =>
        by_cases focus : daemon.focused_board_sid = some sid'
        · simp [focused_owners,focused_sid,owned,sid,made,focus,stream_message]
        · simp [focused_owners,focused_sid,owned,sid,focus,Ne.symm focus]

theorem mirror_focused (bytes : List UInt8) (daemon : BridgeDaemon) (first key : AgentKey) :
    focused_sid (mirror_bytes bytes daemon first) key = focused_sid daemon key := by
  obtain ⟨agents,_,focus⟩ := mirror_turn bytes daemon first
  have same : sid_of (mirror_bytes bytes daemon first) key = sid_of daemon key := by
    rw [sid_of,agents]
    split
    · rw [sid_of]
      cases daemon.registered.lookup key with
      | none => rfl
      | some agent => exact append_bytes_sid agent bytes
    · rfl
  rw [focused_sid,same,focus]
  rfl

/-- The loop appends the bytes to an agent as often as it names it, and sends them to the board as often as it
    names an agent that the board is focused on. -/
theorem mirror_loop (bytes : List UInt8) (keys : List AgentKey) (daemon : BridgeDaemon) :
    (∀ key, (keys.foldl (mirror_bytes bytes) daemon).registered.lookup key =
      (daemon.registered.lookup key).map (appended bytes (keys.count key))) ∧
    (keys.foldl (mirror_bytes bytes) daemon).board_outbox =
      daemon.board_outbox ++ (focused_owners daemon keys).map (fun owner => stream_message bytes owner.2) := by
  induction keys generalizing daemon with
  | nil =>
    refine ⟨?_,by simp [focused_owners]⟩
    intro key
    cases found : daemon.registered.lookup key <;> simp [appended,found]
  | cons first rest ih =>
    obtain ⟨turn_agents,turn_outbox,_⟩ := mirror_turn bytes daemon first
    obtain ⟨agents,outbox⟩ := ih (mirror_bytes bytes daemon first)
    rw [List.foldl_cons]
    constructor
    · intro key
      rw [agents,turn_agents]
      by_cases own : key = first
      · subst own
        rw [if_pos rfl,List.count_cons_self,Option.map_map]
        rfl
      · rw [if_neg own,List.count_cons_of_ne (fun same => own same.symm)]
    · have split : focused_owners daemon (first :: rest) = focused_owners daemon [first] ++ focused_owners daemon rest := by
        rw [focused_owners,focused_owners,focused_owners,← List.filterMap_append]
        rfl
      have later : focused_owners (mirror_bytes bytes daemon first) rest = focused_owners daemon rest := by
        simp only [focused_owners,mirror_focused]
      rw [outbox,turn_outbox,later,split,List.map_append,List.append_assoc]

/-! ## Streams -/

/-- Those that are attached to the terminal. -/
def attached_keys (daemon : BridgeDaemon) (source : AgentKey) : List AgentKey :=
  daemon.registered.keysWhere (fun _ agent => agent.attached_terminal == some source)

/-- The terminal is attached to itself, and a second copy of the bytes shows: the board is focused on it, or the
    buffer holds something else with it. -/
def Echoes (daemon : BridgeDaemon) (source : AgentKey) (bytes : List UInt8) : Prop :=
  ∃ agent, daemon.registered.lookup source = some agent ∧ agent.attached_terminal = some source ∧
    ((focused_sid daemon source).isSome = true ∨
      (agent.append_terminal_bytes bytes).append_terminal_bytes bytes ≠ agent.append_terminal_bytes bytes)

section
variable {daemon : BridgeDaemon} {source : AgentKey} {agent : RegisteredAgent}

theorem mem_attached {key : AgentKey} {agent : RegisteredAgent} (found : daemon.registered.lookup key = some agent) :
    key ∈ attached_keys daemon source ↔ agent.attached_terminal = some source := by
  rw [attached_keys,KeyedMap.mem_keysWhere,found]
  simp

theorem attached_count {key : AgentKey} {agent : RegisteredAgent} (found : daemon.registered.lookup key = some agent) :
    (attached_keys daemon source).count key = if agent.attached_terminal = some source then 1 else 0 := by
  have distinct : (attached_keys daemon source).Nodup := KeyedMap.keysWhere_nodup _ _
  rw [distinct.count]
  simp only [mem_attached found]

variable (bytes : List UInt8) {post : BridgeDaemon}
  (looped : post = (source :: attached_keys daemon source).foldl (mirror_bytes bytes) daemon)
include looped

/-- An agent that hears the terminal in one way only gets the bytes once. -/
theorem stream_lookup {key : AgentKey} {agent : RegisteredAgent} (found : daemon.registered.lookup key = some agent) :
    post.registered.lookup key = some (appended bytes
      ((if key = source then 1 else 0) + if agent.attached_terminal = some source then 1 else 0) agent) := by
  obtain ⟨agents,_⟩ := mirror_loop bytes (source :: attached_keys daemon source) daemon
  rw [looped,agents,found,List.count_cons,attached_count found,Option.map_some,Nat.add_comm]
  congr 3
  by_cases own : key = source
  · simp [own]
  · simp [own,Ne.symm own]

theorem stream_outbox : post.board_outbox = daemon.board_outbox ++
    ((focused_owners daemon (source :: attached_keys daemon source)).map (fun owner => stream_message bytes owner.2)) := by
  rw [looped]
  exact (mirror_loop bytes _ daemon).2

/-- Once is enough unless the terminal echoes. -/
theorem mirrored_of_quiet (there : daemon.registered.lookup source = some agent) (quiet : ¬ Echoes daemon source bytes) :
    MirroredOnce daemon post source bytes := by
  constructor
  · intro key
    cases found : daemon.registered.lookup key with
    | none =>
      obtain ⟨agents,_⟩ := mirror_loop bytes (source :: attached_keys daemon source) daemon
      rw [looped,agents,found]
      rfl
    | some hearer =>
      rw [stream_lookup bytes looped found,Option.map_some]
      congr 1
      by_cases own : key = source
      · subst own
        by_cases attached : hearer.attached_terminal = some key
        · have twice : (hearer.append_terminal_bytes bytes).append_terminal_bytes bytes = hearer.append_terminal_bytes bytes := by
            by_contra differs
            exact quiet ⟨hearer,found,attached,.inr differs⟩
          simp [Hears,attached,appended,twice]
        · simp [Hears,attached,appended]
      · by_cases attached : hearer.attached_terminal = some source
        · simp [Hears,own,attached,appended]
        · simp [Hears,own,attached,appended]
  · refine ⟨focused_owners daemon (source :: attached_keys daemon source),?_,?_,stream_outbox bytes looped⟩
    · by_cases among : source ∈ attached_keys daemon source
      · -- the terminal is named twice, but the board is not focused on it
        have closed : focused_sid daemon source = none := by
          by_contra focus
          exact quiet ⟨agent,there,(mem_attached there).mp among,.inl (Option.isSome_iff_ne_none.mpr focus)⟩
        rw [focused_owners,List.filterMap_cons_none (by rw [closed]; rfl)]
        exact focused_owners_nodup daemon (KeyedMap.keysWhere_nodup _ _)
      · exact focused_owners_nodup daemon (List.nodup_cons.mpr ⟨among,KeyedMap.keysWhere_nodup _ _⟩)
    · intro key sid
      rw [mem_focused_owners,and_comm]
      refine and_congr_right (fun focus => ?_)
      have some_agent : ∃ hearer, daemon.registered.lookup key = some hearer := by
        obtain ⟨owned,_⟩ := Option.filter_eq_some_iff.mp focus
        obtain ⟨hearer,found,_⟩ := sid_of_iff.mp owned
        exact ⟨hearer,found⟩
      obtain ⟨hearer,found⟩ := some_agent
      rw [List.mem_cons,mem_attached found]
      constructor
      · intro hears
        exact ⟨hearer,found,hears⟩
      · rintro ⟨other,found',hears⟩
        rw [found] at found'
        cases found'
        exact hears

/-- A terminal that echoes gets the bytes twice, or the board gets them twice for it. -/
theorem quiet_of_mirrored (once : MirroredOnce daemon post source bytes) : ¬ Echoes daemon source bytes := by
  rintro ⟨agent,there,attached,shows⟩
  have among : source ∈ attached_keys daemon source := (mem_attached there).mpr attached
  rcases shows with focus | differs
  · obtain ⟨sid,focus⟩ := Option.isSome_iff_exists.mp focus
    obtain ⟨owners,distinct,members,outbox⟩ := once.shown
    rw [stream_outbox bytes looped] at outbox
    have lengths := congrArg List.length (List.append_cancel_left outbox)
    rw [List.length_map,List.length_map,focused_owners,List.filterMap_cons_some (by rw [focus]; rfl),List.length_cons] at lengths
    have within : owners ⊆ focused_owners daemon (attached_keys daemon source) := by
      rintro ⟨key,sid'⟩ member
      obtain ⟨focus',hearer,found,hears⟩ := (members key sid').mp member
      refine mem_focused_owners.mpr ⟨?_,focus'⟩
      rcases hears with rfl | hears
      · exact among
      · exact (mem_attached found).mpr hears
    have shorter := (List.subperm_of_subset distinct within).length_le
    rw [focused_owners] at shorter
    omega
  · have twice := stream_lookup bytes looped there
    rw [once.agents,there,Option.map_some,if_pos (.inl rfl),if_pos rfl,if_pos attached] at twice
    exact differs (Option.some.inj twice).symm

omit looped

theorem focused_rehashed {other : BridgeDaemon} (same : Rehashed daemon other) (key : AgentKey) :
    focused_sid other key = focused_sid daemon key := by
  have owned : sid_of other key = sid_of daemon key := by rw [sid_of,rehashed_lookup same,sid_of]
  obtain ⟨registered,_,rfl⟩ := same
  rw [focused_sid,owned,focused_sid]

theorem mirrored_rehashed {other post : BridgeDaemon} (same : Rehashed daemon other) (bytes : List UInt8) :
    MirroredOnce other post source bytes ↔ MirroredOnce daemon post source bytes := by
  have outbox := (rehashed_outbox same).1
  constructor
  · rintro ⟨agents,shown⟩
    simp only [rehashed_lookup same,focused_rehashed same,outbox] at agents shown
    exact ⟨agents,shown⟩
  · rintro ⟨agents,shown⟩
    constructor
    · simpa only [rehashed_lookup same] using agents
    · simpa only [rehashed_lookup same,focused_rehashed same,outbox] using shown

end

/-- A move that streams some bytes brings them to everyone once exactly when the terminal does not echo. -/
theorem mirrored_iff {m : BridgeMove} (move : bridge m) {source : AgentKey} {bytes : List UInt8}
    (told : Streams m.input source bytes) (some_bytes : bytes ≠ []) (accepted : m.output = .json (.ok .stream_accepted)) :
    MirroredOnce m.pre m.post source bytes ↔ ¬ Echoes m.pre source bytes := by
  obtain ⟨daemon,same,result⟩ := move
  obtain ⟨request,⟨polled,input,type⟩,reading⟩ := told
  have echoes : Echoes daemon source bytes ↔ Echoes m.pre source bytes := by
    simp only [Echoes,rehashed_lookup same,focused_rehashed same]
  rw [← mirrored_rehashed same,← echoes]
  rw [input] at result
  simp only [handle,handle_json_line,type,terminal_stream,reading,Prod.mk.injEq] at result
  cases there : daemon.registered.lookup source with
  | none =>
    rw [there,accepted] at result
    cases result.2
  | some agent =>
    rw [there] at result
    simp only [List.isEmpty_eq_false_iff.mpr some_bytes,Bool.false_eq_true,if_false] at result
    have looped : m.post = (source :: attached_keys daemon source).foldl (mirror_bytes bytes) daemon := result.1.symm
    exact ⟨quiet_of_mirrored bytes looped,mirrored_of_quiet bytes looped there⟩

/-- A hook or a launcher registers an agent with the terminal that it is attached to. -/
def attached_registration (kind agent_id parent_kind parent_agent_id : String) (from_launch : Bool) : Event :=
  .json_line (.ok {
    message_type := "agent.register"
    agent := some {
      agent_id, kind, from_launch
      parent_kind := some parent_kind
      parent_agent_id := some parent_agent_id } }) (.ok ⟨[],[],[]⟩)

/-- The board is focused on an agent that is attached to a terminal. -/
def attached : List Event :=
  [registration "terminal" "t" true,attached_registration "codex" "c" "terminal" "t" true,full_flush,
    session_response 7 .Ok,session_focus 7]

theorem mirrored_iff_attached :
    MirroredOnce (finish handle BridgeDaemon.new attached)
      (handle (finish handle BridgeDaemon.new attached) (streaming "terminal" "t" "6869")).1 (.Terminal,"t") [0x68,0x69] := by
  have quiet : ¬ Echoes (finish handle BridgeDaemon.new attached) (.Terminal,"t") [0x68,0x69] := by
    have apart : ((finish handle BridgeDaemon.new attached).registered.lookup (.Terminal,"t")).bind (·.attached_terminal) =
        none := by decide
    rintro ⟨agent,there,itself,_⟩
    rw [there] at apart
    cases itself.symm.trans apart
  have told : Streams (streaming "terminal" "t" "6869") (.Terminal,"t") [0x68,0x69] := ⟨_,⟨_,rfl,rfl⟩,rfl⟩
  exact (mirrored_iff (bridge_move_of (finish handle BridgeDaemon.new attached) (streaming "terminal" "t" "6869")) told
    (by decide) rfl).mpr quiet

/-- The board is focused on an agent that is attached to itself. -/
def self_attached : List Event :=
  [attached_registration "claude" "x" "claude" "x" true,full_flush,session_response 7 .Ok,session_focus 7]

theorem self_attached_doubled : ¬ ∀ (m : BridgeMove), Reachable m.pre → bridge m → ∀ source bytes,
    Streams m.input source bytes → bytes ≠ [] → m.output = .json (.ok .stream_accepted) →
      MirroredOnce m.pre m.post source bytes := by
  intro mirrored
  have told : Streams (streaming "claude" "x" "6869") (.Claude,"x") [0x68,0x69] := ⟨_,⟨_,rfl,rfl⟩,rfl⟩
  have once := mirrored _ ⟨_,run_events self_attached⟩ (bridge_move_of _ (streaming "claude" "x" "6869")) _ _ told
    (by decide) rfl
  have snapshot := congrArg (Option.map (·.terminal_snapshot)) (once.agents (.Claude,"x"))
  exact absurd snapshot (by decide)

end VibeBridge.Mirroring
