import Mathlib.Data.List.DropRight
import VibeBridge.Views

/-!
What the board shows of an agent beside its screen: the status, the directory
and the usage. Since the agent was bound to its sid, the last messages about the
sid carry what the daemon has, unless a handler changed that without a message.
Two do: a registration of an agent that is bound already, and an update that
puts the usage back to zero (`coherent_iff`).
-/
namespace VibeBridge.Coherence
open Transitions
open VibeBridge.Core VibeBridge.Protocol VibeBridge.Payloads VibeBridge.Agent VibeBridge.Envelope VibeBridge.Daemon
open VibeBridge.Bridge VibeBridge.Events VibeBridge.Bindings VibeBridge.Outbox VibeBridge.Views

/-! ## What the board has of a sid -/

/-- The payload of the last message with the command and the sid. -/
def last_payload (cmd : Cmd) (sid : BoardSid) (msgs : List HidMessage) : Option (List UInt8) :=
  (msgs.filter (fun msg => msg.cmd == cmd && msg.sid == sid.raw)).getLast?.map (·.payload)

/-- The usage that the board shows: zero until it is told one. -/
def token_view (sid : BoardSid) (msgs : List HidMessage) : TokenUsage :=
  ((last_payload .TokenUsage sid msgs).bind decode_token_usage).getD {}

/-- The bytes that tell the kind and the directory of an agent. -/
def directory_bytes (agent : RegisteredAgent) : List UInt8 :=
  encode_agent_meta (agent_kind_byte agent.kind) agent.cwd ""

/-- After the messages the board shows the agent as the daemon has it. -/
structure Mirrors (sid : BoardSid) (agent : RegisteredAgent) (msgs : List HidMessage) : Prop where
  status : last_payload .StatusUpdate sid msgs = some [(status_byte agent.status).byte]
  directory : last_payload .AgentMeta sid msgs = some (directory_bytes agent)
  usage : token_view sid msgs = agent.usage

/-- The moves since the agent was bound to the sid, the one that bound it among them. -/
def since (key : AgentKey) (sid : BoardSid) (ms : List BridgeMove) : List BridgeMove :=
  ms.rtakeWhile (fun m => sid_of m.post key = some sid)

/-- The board shows each agent that has a sid as the daemon has it. -/
def Coherent (ms : List BridgeMove) (daemon : BridgeDaemon) : Prop :=
  ∀ key agent sid, daemon.registered.lookup key = some agent → agent.board_sid = some sid →
    Mirrors sid agent ((since key sid ms).flatMap enqueued)

/-- The move changes what the board should show of an agent that has a sid, and
    does not tell it: the agent registers anew with another status or directory,
    or its usage goes back to zero. -/
def Silent (m : BridgeMove) : Prop :=
  ∃ key agent sid, m.pre.registered.lookup key = some agent ∧ agent.board_sid = some sid ∧
    ((∃ fresh, Registers m.input fresh ∧ fresh.key = key ∧
        ((status_byte fresh.status).byte ≠ (status_byte agent.status).byte ∨
          directory_bytes fresh ≠ directory_bytes agent)) ∨
      (Updates m.input key {} ∧ agent.usage ≠ {}))

/-! ## Messages one after another -/

theorem last_payload_append (cmd : Cmd) (sid : BoardSid) (msgs msgs' : List HidMessage) :
    last_payload cmd sid (msgs ++ msgs') = (last_payload cmd sid msgs').or (last_payload cmd sid msgs) := by
  rw [last_payload,List.filter_append,List.getLast?_append]
  unfold last_payload
  cases (msgs'.filter (fun msg => msg.cmd == cmd && msg.sid == sid.raw)).getLast? <;> rfl

/-- Only the messages about the sid count. -/
theorem last_payload_about {cmd : Cmd} (shown : shows cmd = true) (sid : BoardSid) (msgs : List HidMessage) :
    last_payload cmd sid (about sid msgs) = last_payload cmd sid msgs := by
  rw [last_payload,about,List.filter_filter,last_payload]
  refine congrArg (fun told : List HidMessage => told.getLast?.map (·.payload)) (List.filter_congr ?_)
  intro msg _
  by_cases same : msg.cmd = cmd
  · simp [same,shown]
  · simp [same]

section
variable {sid : BoardSid} {agent new : RegisteredAgent} {sent msgs : List HidMessage}

theorem mirrors_congr {msgs' : List HidMessage}
    (same : ∀ cmd, shows cmd = true → cmd ≠ .Vt100Stream → last_payload cmd sid msgs' = last_payload cmd sid msgs) :
    Mirrors sid agent msgs' ↔ Mirrors sid agent msgs := by
  have status := same .StatusUpdate rfl (by decide)
  have directory := same .AgentMeta rfl (by decide)
  have view : token_view sid msgs' = token_view sid msgs := by
    rw [token_view,same .TokenUsage rfl (by decide),token_view]
  constructor
  · intro mirrors
    exact ⟨status.symm.trans mirrors.status,directory.symm.trans mirrors.directory,view.symm.trans mirrors.usage⟩
  · intro mirrors
    exact ⟨status.trans mirrors.status,directory.trans mirrors.directory,view.trans mirrors.usage⟩

theorem mirrors_about : Mirrors sid agent (sent ++ about sid msgs) ↔ Mirrors sid agent (sent ++ msgs) := by
  refine mirrors_congr ?_
  intro cmd shown _
  rw [last_payload_append,last_payload_append,last_payload_about shown]

/-- Messages that only write to the screen of the sid change nothing else on the board. -/
theorem mirrors_screen (screen : ∀ msg ∈ about sid msgs, msg.cmd = .Vt100Stream) :
    Mirrors sid agent (sent ++ msgs) ↔ Mirrors sid agent sent := by
  refine mirrors_congr ?_
  intro cmd shown other
  have none : (about sid msgs).filter (fun msg => msg.cmd == cmd && msg.sid == sid.raw) = [] := by
    rw [List.filter_eq_nil_iff]
    intro msg member
    simp [screen msg member,other.symm]
  rw [last_payload_append,← last_payload_about shown sid msgs,last_payload,none]
  rfl

theorem mirrors_hidden (hidden : about sid msgs = []) : Mirrors sid agent (sent ++ msgs) ↔ Mirrors sid agent sent :=
  mirrors_screen (by rw [hidden]; simp)

theorem replayed_cmd {msg : HidMessage} (member : msg ∈ replayed sid agent) : msg.cmd = .Vt100Stream := by
  obtain ⟨bytes,_,rfl⟩ := Option.map_eq_some_iff.mp (Option.mem_toList.mp member)
  rfl

/-- Two agents that look the same to the board. -/
theorem mirrors_same (mirrors : Mirrors sid agent sent) (status : (status_byte new.status).byte = (status_byte agent.status).byte)
    (directory : directory_bytes new = directory_bytes agent) (usage : new.usage = agent.usage) :
    Mirrors sid new sent :=
  ⟨by rw [status]; exact mirrors.status,by rw [directory]; exact mirrors.directory,by rw [usage]; exact mirrors.usage⟩

/-- When an agent is bound, the board is told all it shows. -/
theorem mirrors_sync (bound : agent.board_sid = some sid) : Mirrors sid agent (about sid (board_sync_messages agent)) := by
  rw [sync_about bound]
  by_cases zero : agent.usage = {}
  · rw [if_pos zero]
    exact ⟨by simp [last_payload],by simp [last_payload,directory_bytes],by simp [token_view,last_payload,zero]⟩
  · rw [if_neg zero]
    exact ⟨by simp [last_payload],by simp [last_payload,directory_bytes],
      by simp [token_view,last_payload,decode_encode_token_usage]⟩

/-- What an agent is told keeps the board showing it, unless the move is silent. -/
theorem told_mirrors {m : BridgeMove} {key : AgentKey} (found : m.pre.registered.lookup key = some agent)
    (bound : agent.board_sid = some sid) (told : Told m.input m.pre key sid agent new msgs) (tells : ¬ Silent m)
    (mirrors : Mirrors sid agent sent) : Mirrors sid new (sent ++ msgs) := by
  have view : ∀ {new}, SameView agent new → Mirrors sid new sent := by
    intro new same
    exact mirrors_same mirrors (by rw [same]) (by rw [same]; rfl) (by rw [same])
  cases told with
  | quiet same => exact (mirrors_hidden rfl).mpr (view same)
  | @registered fresh told own =>
    refine (mirrors_hidden rfl).mpr (mirrors_same mirrors ?_ ?_ rfl)
    · by_contra differs
      exact tells ⟨key,agent,sid,found,bound,.inl ⟨fresh,told,own,.inl differs⟩⟩
    · by_contra differs
      exact tells ⟨key,agent,sid,found,bound,.inl ⟨fresh,told,own,.inr differs⟩⟩
  | reported told own =>
    refine ⟨by rw [last_payload_append]; simp [last_payload],?_,?_⟩
    · rw [last_payload_append]
      exact mirrors.directory
    · rw [token_view,last_payload_append]
      exact mirrors.usage
  | @updated usage told =>
    refine ⟨?_,?_,?_⟩
    · rw [last_payload_append]
      split <;> exact mirrors.status
    · rw [last_payload_append]
      split <;> exact mirrors.directory
    · by_cases zero : usage = {}
      · subst zero
        have kept : agent.usage = {} := by
          by_contra nonzero
          exact tells ⟨key,agent,sid,found,bound,.inr ⟨told,nonzero⟩⟩
        rw [if_pos rfl,List.append_nil,mirrors.usage,kept]
      · rw [if_neg zero,token_view,last_payload_append]
        simp [last_payload,decode_encode_token_usage]
  | rendered told same passive focus =>
    exact (mirrors_screen (fun msg member => replayed_cmd (List.mem_of_mem_filter member))).mpr (view same)
  | @streamed source bytes n told nonempty reached positive =>
    have kept := fun {α} field same => appended_kept (α := α) field same bytes n agent
    refine (mirrors_screen ?_).mpr (mirrors_same mirrors (kept (fun agent => (status_byte agent.status).byte) (fun _ _ _ => rfl))
      (kept directory_bytes (fun _ _ _ => rfl)) (kept (·.usage) (fun _ _ _ => rfl)))
    intro msg member
    have sent := List.mem_of_mem_filter member
    split at sent
    · rw [List.eq_of_mem_replicate sent]
    · cases sent
  | focused told => exact (mirrors_screen (fun msg member => replayed_cmd (List.mem_of_mem_filter member))).mpr mirrors

end

/-! ## Runs -/

theorem since_kept {ms : List BridgeMove} {m : BridgeMove} {key : AgentKey} {sid : BoardSid}
    (owned : sid_of m.post key = some sid) : since key sid (ms ++ [m]) = since key sid ms ++ [m] :=
  List.rtakeWhile_concat_pos _ _ _ (by simpa using owned)

/-- An agent that does not have the sid was not bound to it last. -/
theorem since_unowned {ms : List BridgeMove} {daemon : BridgeDaemon} (run : Run ms daemon) {key : AgentKey} {sid : BoardSid}
    (unowned : sid_of daemon key ≠ some sid) : since key sid ms = [] := by
  cases run with
  | refl => rfl
  | next before move => exact List.rtakeWhile_concat_neg _ _ _ (by simpa using unowned)

/-- Where the board shows every agent as it is, it does so after the move exactly when the move is not silent. -/
theorem coherent_move {ms : List BridgeMove} {m : BridgeMove} (move : bridge m) (run : Run ms m.pre)
    (coherent : Coherent ms m.pre) : Coherent (ms ++ [m]) m.post ↔ ¬ Silent m := by
  have sound := sound_path run sound_new
  constructor
  · rintro after ⟨key,agent,sid,found,bound,⟨fresh,told,own,differs⟩ | ⟨told,nonzero⟩⟩
    · obtain ⟨there,none⟩ := register_move move told own found bound
      have mirrors := after key _ sid there bound
      rw [since_kept (sid_of_iff.mpr ⟨_,there,bound⟩),List.flatMap_append] at mirrors
      have earlier := coherent key agent sid found bound
      have later := (mirrors_hidden (by simpa using none)).mp mirrors
      rcases differs with status | directory
      · have same := later.status.symm.trans earlier.status
        simp only [Option.some.injEq,List.cons.injEq,and_true] at same
        exact status same
      · exact directory (Option.some.inj (later.directory.symm.trans earlier.directory))
    · obtain ⟨there,none⟩ := update_move move told found bound
      have mirrors := after key _ sid there bound
      rw [since_kept (sid_of_iff.mpr ⟨_,there,bound⟩),List.flatMap_append] at mirrors
      have later := (mirrors_hidden (by simpa using none)).mp mirrors
      exact nonzero ((coherent key agent sid found bound).usage.symm.trans later.usage)
  · intro tells key new sid there bound
    have owned := sid_of_iff.mpr ⟨new,there,bound⟩
    rw [since_kept owned,List.flatMap_append,List.flatMap_singleton]
    by_cases before : sid_of m.pre key = some sid
    · obtain ⟨agent,found,held⟩ := sid_of_iff.mp before
      have told := told_move move sound found held there bound
      exact mirrors_about.mp (told_mirrors found held told tells (coherent key agent sid found held))
    · rw [since_unowned run before,List.flatMap_nil,List.nil_append]
      have sync := (binding_move move sound before there bound).2
      have told : Mirrors sid new ([] ++ about sid (enqueued m)) := by
        rw [sync]
        exact mirrors_sync bound
      exact mirrors_about.mp told

/-- Throughout a run the board shows each agent as the daemon has it exactly
    when no move is silent. -/
theorem coherent_iff {ms : List BridgeMove} {daemon : BridgeDaemon} (run : Run ms daemon) :
    Throughout (fun before m => Coherent (before ++ [m]) m.post) ms ↔ ∀ m ∈ ms, ¬ Silent m := by
  rw [← throughout_mem]
  refine throughout_iff (P := fun ms daemon => Run ms daemon ∧ Coherent ms daemon) ?_ ?_ run ⟨.refl,?_⟩
  · rintro ms m move ⟨run,coherent⟩
    exact coherent_move move run coherent
  · rintro ms m move ⟨run,coherent⟩ tells
    exact ⟨.next run move,(coherent_move move run coherent).mpr tells⟩
  · intro key agent sid found bound
    cases found

/-- An agent that is bound reports that it is idle; then a hook registers it anew, as running. -/
def registered_again : List Event :=
  [registration "claude" "x" false,full_flush,session_response 7 .Created,reporting "claude" "x" "idle",
    registration "claude" "x" false]

/-- The agent runs again, and the board still shows it as idle. -/
theorem registered_again_stale :
    ¬ Throughout (fun before m => Coherent (before ++ [m]) m.post) (moves handle BridgeDaemon.new registered_again) := by
  intro coherent
  have there : ((finish handle BridgeDaemon.new registered_again).registered.lookup (.Claude,"x")).isSome := by decide
  have mirrors := coherent _ _ [] (moves_append handle BridgeDaemon.new (registered_again.take 4) _)
    (.Claude,"x") _ ⟨7⟩ (Option.some_get there).symm rfl
  have told : last_payload .StatusUpdate ⟨7⟩ ((since (.Claude,"x") ⟨7⟩ (moves handle BridgeDaemon.new registered_again)).flatMap
      enqueued) = some [SessionStateByte.Connected.byte] := by decide
  have shown : some [SessionStateByte.Connected.byte] = some [SessionStateByte.Run.byte] := told.symm.trans mirrors.status
  revert shown
  decide

theorem registered_again_incoherent : ¬ ∀ ms daemon, Run ms daemon →
    Throughout (fun before m => Coherent (before ++ [m]) m.post) ms := by
  intro claimed
  exact registered_again_stale (claimed _ _ (run_events registered_again))

theorem coherent_iff_registered_again : ∃ m ∈ moves handle BridgeDaemon.new registered_again, Silent m := by
  by_contra tells
  refine registered_again_stale ((coherent_iff (run_events registered_again)).mpr ?_)
  intro m member silent
  exact tells ⟨m,member,silent⟩

end VibeBridge.Coherence
