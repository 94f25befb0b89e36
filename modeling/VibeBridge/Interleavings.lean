import VibeBridge.Registrations
import VibeBridge.Hook

/-!
Two PreToolUse hooks of one agent beside each other. Each sends its messages at
any time, the board decides a permission for one of them, and the daemon does
what else it does. The daemon tells their requests apart by the request ids
alone, which the hooks take from the clock: with two ids each hook is told what
the board decided for it, with one id a hook may be told what was decided for
the other (`hooks_apart_iff`).
-/
namespace VibeBridge.Interleavings
open Transitions Leases
open VibeBridge.Text VibeBridge.Core VibeBridge.Protocol VibeBridge.Payloads VibeBridge.Agent VibeBridge.Envelope
open VibeBridge.Daemon VibeBridge.Bridge VibeBridge.Abstraction VibeBridge.Events VibeBridge.Bindings
open VibeBridge.Outbox VibeBridge.Approvals VibeBridge.Registrations VibeBridge.Hook

inductive Party
  | first
  | second
  deriving DecidableEq

/-- Two hooks that run for the same agent. -/
structure Pair where
  input : Party → HookInput
  agent_id : String
  same : ∀ i, (input i).agent_id = agent_id

def Pair.key (pair : Pair) : AgentKey := (.Claude, pair.agent_id)

def Pair.req_id (pair : Pair) (i : Party) : UInt64 := (pair.input i).req_id

/-- The daemon, the hooks, and what the board last decided for each hook since
    that hook asked. -/
structure Scene where
  daemon : BridgeDaemon
  hook : Party → HookState
  given : Party → Option PermissionDecision

def Scene.start (daemon : BridgeDaemon) : Scene := ⟨daemon,fun _ => .registering,fun _ => none⟩

/-- What happens next in a scene. -/
inductive Act
  /-- A hook sends its next message and gets the answer. -/
  | sends (i : Party)
  /-- A hook sends its next message, and its connection ends before the answer. -/
  | loses (i : Party)
  /-- The connection of a hook fails or times out. -/
  | gives_up (i : Party) (error : String)
  /-- A message reaches the daemon after its hook has given up. -/
  | strays (i : Party)
  /-- A hook has polled until its deadline. -/
  | expires (i : Party)
  /-- The board decides the permission that a hook asked for. -/
  | decides (i : Party) (decision : PermissionDecision)
  /-- Any other call of the daemon. -/
  | other (event : Event)

/-- The scene after the daemon has handled the message of a hook, which goes on in this state. -/
def Scene.handled (scene : Scene) (i : Party) (daemon : BridgeDaemon) (state : HookState) : Scene where
  daemon := daemon
  hook := Function.update scene.hook i state
  given := if scene.hook i = .requesting then Function.update scene.given i none else scene.given

theorem handled_self (scene : Scene) (i : Party) (daemon : BridgeDaemon) (state : HookState) :
    (scene.handled i daemon state).hook i = state ∧
      (scene.handled i daemon state).given i = if scene.hook i = .requesting then none else scene.given i := by
  refine ⟨Function.update_self _ _ _,?_⟩
  rw [Scene.handled]
  split
  · exact Function.update_self _ _ _
  · rfl

theorem handled_other (scene : Scene) {i j : Party} (other : j ≠ i) (daemon : BridgeDaemon) (state : HookState) :
    (scene.handled i daemon state).hook j = scene.hook j ∧ (scene.handled i daemon state).given j = scene.given j := by
  refine ⟨Function.update_of_ne other _ _,?_⟩
  rw [Scene.handled]
  split
  · exact Function.update_of_ne other _ _
  · rfl

/-- The call does not end the session of the agent, and does not touch its
    permission with this id. -/
structure Bypasses (m : BridgeMove) (key : AgentKey) (req_id : UInt64) : Prop where
  stays : ¬ Aborts m.input key
  unasked : Unasked m key req_id
  unpolled : ¬ Polls m.input key req_id
  undecided : ∀ decision, ¬ DecidesFor m key req_id decision

abbrev SceneMove := Move Scene Act (Option Answer)

/-- The moves of a scene. An answer that is lost is to a message that was accepted: the daemon rejects one only where the agent
    has a blank id. -/
inductive Plays (pair : Pair) : System Scene Act (Option Answer)
  | sends {scene : Scene} {i : Party} {msg : RegistrationEnvelope} {polled : Except String AgentPollSnapshot}
      {daemon : BridgeDaemon} {answer : Answer} (next : next_message (pair.input i) (scene.hook i) = some msg)
      (handled : bridge ⟨scene.daemon,.json_line (.ok msg) polled,daemon,.json answer⟩) :
      Plays pair ⟨scene,.sends i,scene.handled i daemon ((scene.hook i).receive answer),some answer⟩
  | loses {scene : Scene} {i : Party} {msg : RegistrationEnvelope} {polled : Except String AgentPollSnapshot}
      {daemon : BridgeDaemon} {resp : Response} (next : next_message (pair.input i) (scene.hook i) = some msg)
      (handled : bridge ⟨scene.daemon,.json_line (.ok msg) polled,daemon,.json (.ok resp)⟩) :
      Plays pair ⟨scene,.loses i,scene.handled i daemon (scene.hook i).unanswered,none⟩
  | gives_up {scene : Scene} {i : Party} {error : String} :
      Plays pair ⟨scene,.gives_up i error,
        { scene with hook := Function.update scene.hook i ((scene.hook i).give_up error) },none⟩
  | strays {scene : Scene} {i : Party} {error : String} {state : HookState} {msg : RegistrationEnvelope}
      {polled : Except String AgentPollSnapshot} {daemon : BridgeDaemon} {answer : Answer}
      (gone : scene.hook i = .failed error) (sent : next_message (pair.input i) state = some msg)
      (handled : bridge ⟨scene.daemon,.json_line (.ok msg) polled,daemon,.json answer⟩) :
      Plays pair ⟨scene,.strays i,{ scene with daemon := daemon },none⟩
  | expires {scene : Scene} {i : Party} :
      Plays pair ⟨scene,.expires i,{ scene with hook := Function.update scene.hook i (scene.hook i).expire },none⟩
  | decides {scene : Scene} {i : Party} {decision : PermissionDecision} {event : Event} {daemon : BridgeDaemon}
      {reply : Reply} (handled : bridge ⟨scene.daemon,event,daemon,reply⟩)
      (told : DecidesFor ⟨scene.daemon,event,daemon,reply⟩ pair.key (pair.req_id i) decision) :
      Plays pair ⟨scene,.decides i decision,
        ⟨daemon,scene.hook,Function.update scene.given i (some decision)⟩,none⟩
  | other {scene : Scene} {event : Event} {daemon : BridgeDaemon} {reply : Reply}
      (handled : bridge ⟨scene.daemon,event,daemon,reply⟩)
      (apart : ∀ i, Bypasses ⟨scene.daemon,event,daemon,reply⟩ pair.key (pair.req_id i)) :
      Plays pair ⟨scene,.other event,{ scene with daemon := daemon },none⟩

/-- A hook that polls is told a decision only when the board gave it for this
    hook, and that its request is not pending only when it was decided. -/
def OwnAnswer (m : SceneMove) : Prop :=
  ∀ i, m.input = .sends i → m.pre.hook i = .polling →
    (∀ req_id text, m.output = some (.ok (.permission_decision req_id text)) →
      ∃ decision, m.pre.given i = some decision ∧ text = decision.as_str) ∧
    (∀ req_id, m.output = some (.ok (.permission_pending req_id false)) → m.pre.given i ≠ none)

/-! ## The messages of a hook -/

theorem carries_line {msg request : RegistrationEnvelope} {polled : Except String AgentPollSnapshot} {type : String} :
    Carries (.json_line (.ok msg) polled) type request ↔ request = msg ∧ msg.message_type = type := by
  constructor
  · rintro ⟨polled',told,type⟩
    cases told
    exact ⟨rfl,type⟩
  · rintro ⟨rfl,type⟩
    exact ⟨polled,rfl,type⟩

theorem kind_claude : AgentKind.from_label KIND = .Claude := by decide

theorem key_claude (agent_id : String) : parse_key KIND agent_id = .ok (.Claude,agent_id) := by
  simp [parse_key,parse_kind,kind_claude,bind,Except.bind,pure,Except.pure]

/-- The registration of a hook is read as one of its agent, unless the agent id is blank. -/
theorem register_read (input : HookInput) : ((trim input.agent_id).isEmpty = true ∧
      (register_message input).read_agent = .error "agent_id is required") ∨
    ((trim input.agent_id).isEmpty = false ∧ ∃ fresh, (register_message input).read_agent = .ok fresh ∧
      fresh.key = (.Claude,input.agent_id)) := by
  cases blank : (trim input.agent_id).isEmpty with
  | true =>
    left
    simp [register_message,RegistrationEnvelope.read_agent,required,bind,Except.bind,
      RegistrationAgentPayload.into_registered_agent,checked_identity,kind_claude,blank]
  | false =>
    right
    simp [register_message,RegistrationEnvelope.read_agent,required,bind,Except.bind,pure,Except.pure,
      RegistrationAgentPayload.into_registered_agent,RegistrationAgentPayload.attached_terminal,checked_identity,
      kind_claude,blank,RegisteredAgent.key]

theorem request_read (input : HookInput) : ∃ perm, perm.req_id = input.req_id ∧
    (request_message input).read_permission = .ok ((.Claude,input.agent_id),perm) := by
  refine ⟨⟨input.agent_id,KIND,input.req_id,input.tool,input.args_summary⟩,rfl,?_⟩
  simp [request_message,RegistrationEnvelope.read_permission,required,key_claude,bind,Except.bind,pure,Except.pure]

theorem poll_read (input : HookInput) :
    (poll_message input).read_poll = .ok ((.Claude,input.agent_id),input.req_id) := by
  simp [poll_message,RegistrationEnvelope.read_poll,required,key_claude,bind,Except.bind,pure,Except.pure]

theorem message_types {input : HookInput} {state : HookState} {msg : RegistrationEnvelope}
    (sent : next_message input state = some msg) :
    (state = .registering ∧ msg = register_message input ∧ msg.message_type = "agent.register") ∨
    (state = .requesting ∧ msg = request_message input ∧ msg.message_type = "permission.request") ∨
    (state = .polling ∧ msg = poll_message input ∧ msg.message_type = "permission.poll") := by
  cases state with
  | registering => cases sent; exact .inl ⟨rfl,rfl,rfl⟩
  | requesting => cases sent; exact .inr (.inl ⟨rfl,rfl,rfl⟩)
  | polling => cases sent; exact .inr (.inr ⟨rfl,rfl,rfl⟩)
  | decided decision => cases sent
  | failed error => cases sent

theorem message_stays {input : HookInput} {state : HookState} {msg : RegistrationEnvelope}
    (sent : next_message input state = some msg) (key : AgentKey) {polled : Except String AgentPollSnapshot} :
    ¬ Aborts (.json_line (.ok msg) polled) key := by
  rintro ⟨request,carries,_⟩
  obtain ⟨rfl,abort⟩ := carries_line.mp carries
  simpa [abort] using message_types sent

/-- A message of one hook leaves the requests with other ids alone. -/
theorem message_bypasses {input : HookInput} {state : HookState} {msg : RegistrationEnvelope}
    (sent : next_message input state = some msg) {req_id : UInt64} (other : input.req_id ≠ req_id) (key : AgentKey)
    {polled : Except String AgentPollSnapshot} {daemon daemon' : BridgeDaemon} {reply : Reply} :
    Bypasses ⟨daemon,.json_line (.ok msg) polled,daemon',reply⟩ key req_id := by
  have types := message_types sent
  refine ⟨message_stays sent key,⟨?_,?_⟩,?_,?_⟩
  · rintro perm ⟨request,carries,reading⟩
    obtain ⟨rfl,request⟩ := carries_line.mp carries
    rcases types with ⟨_,_,type⟩ | ⟨_,rfl,_⟩ | ⟨_,_,type⟩
    · simp [request] at type
    · obtain ⟨perm',same,reading'⟩ := request_read input
      rw [reading] at reading'
      cases reading'
      rwa [same]
    · simp [request] at type
  · rintro ⟨request,carries,_⟩
    obtain ⟨rfl,resolve⟩ := carries_line.mp carries
    simp [resolve] at types
  · rintro ⟨request,carries,reading⟩
    obtain ⟨rfl,poll⟩ := carries_line.mp carries
    rcases types with ⟨_,_,type⟩ | ⟨_,_,type⟩ | ⟨_,rfl,_⟩
    · simp [poll] at type
    · simp [poll] at type
    · rw [poll_read] at reading
      cases reading
      exact other rfl
  · rintro decision ⟨sid,⟨payload,byte,told,_⟩,_⟩
    cases told

theorem carries_board {msg : HidMessage} {type : String} {request : RegistrationEnvelope} :
    ¬ Carries (.board_message msg) type request := by
  rintro ⟨polled,told,_⟩
  cases told

/-- A message of the board touches a request only by deciding it. -/
theorem board_bypasses {m : BridgeMove} {msg : HidMessage} (input : m.input = .board_message msg) {key : AgentKey}
    {req_id : UInt64} (undecided : ∀ decision, ¬ DecidesFor m key req_id decision) : Bypasses m key req_id := by
  refine ⟨?_,⟨?_,?_⟩,?_,undecided⟩
  · rintro ⟨request,carries,_⟩
    rw [input] at carries
    exact carries_board carries
  · rintro perm ⟨request,carries,_⟩
    rw [input] at carries
    exact (carries_board carries).elim
  · rintro ⟨request,carries,_⟩
    rw [input] at carries
    exact carries_board carries
  · rintro ⟨request,carries,_⟩
    rw [input] at carries
    exact carries_board carries

theorem decision_stays {m : BridgeMove} {key key' : AgentKey} {req_id : UInt64} {decision : PermissionDecision}
    (told : DecidesFor m key req_id decision) : ¬ Aborts m.input key' := by
  obtain ⟨sid,⟨payload,byte,input,_⟩,_⟩ := told
  rintro ⟨request,carries,_⟩
  rw [input] at carries
  exact carries_board carries

/-- A PERMISSION_RES on one request leaves the requests with other ids alone. -/
theorem decision_bypasses {m : BridgeMove} {key : AgentKey} {req_id req_id' : UInt64} {decision : PermissionDecision}
    (told : DecidesFor m key req_id decision) (other : req_id ≠ req_id') : Bypasses m key req_id' := by
  obtain ⟨sid,⟨payload,byte,input,_,reading,_⟩,_⟩ := told
  refine board_bypasses input ?_
  rintro decision' ⟨sid',⟨payload',byte',input',_,reading',_⟩,_⟩
  rw [input] at input'
  cases input'
  rw [reading] at reading'
  cases reading'
  exact other rfl

/-! ## What a hook may rely on -/

/-- The request is pending without a decision, or the daemon keeps the decision given. -/
def Waits (daemon : BridgeDaemon) (key : AgentKey) (req_id : UInt64) : Option PermissionDecision → Prop
  | none => Pending daemon key req_id ∧ decision_of daemon key req_id = none
  | some decision => decision_of daemon key req_id = some decision

/-- The answer to the poll of a hook that waits. -/
def owed (req_id : UInt64) : Option PermissionDecision → Response
  | none => .permission_pending req_id true
  | some decision => .permission_decision req_id decision.as_str

/-- The decision given has gone with an answer that was lost. -/
def Taken (daemon : BridgeDaemon) (key : AgentKey) (req_id : UInt64) (given : Option PermissionDecision) : Prop :=
  given ≠ none ∧ decision_of daemon key req_id = none

/-- What the daemon knows of a hook that has registered, and of one that has asked. -/
def Supports (daemon : BridgeDaemon) (key : AgentKey) (req_id : UInt64) (given : Option PermissionDecision) :
    HookState → Prop
  | .requesting => Hooked daemon key
  | .polling => Hooked daemon key ∧ (Waits daemon key req_id given ∨ Taken daemon key req_id given)
  | _ => True

/-- A call that leaves the request of a hook alone keeps what the hook relies on. -/
theorem supports_bypassed {m : BridgeMove} (move : bridge m) {key : AgentKey} {req_id : UInt64}
    {given : Option PermissionDecision} {state : HookState} (bypasses : Bypasses m key req_id)
    (supports : Supports m.pre key req_id given state) : Supports m.post key req_id given state := by
  cases state with
  | requesting => exact hooked_move move supports bypasses.stays
  | polling =>
    obtain ⟨hooked,waits⟩ := supports
    obtain ⟨_,pending,decision⟩ := approval_move move (hooked_known hooked)
      (hooked_stays move hooked bypasses.stays) bypasses.unasked bypasses.unpolled bypasses.undecided
    refine ⟨hooked_move move hooked bypasses.stays,waits.imp ?_ (And.imp_right decision.trans)⟩
    intro waits
    cases given with
    | none => exact ⟨pending.mpr waits.1,decision.trans waits.2⟩
    | some d => exact decision.trans waits
  | registering => trivial
  | decided text => trivial
  | failed error => trivial

section
variable {input : HookInput} {given : Option PermissionDecision} {polled : Except String AgentPollSnapshot}
  {daemon daemon' : BridgeDaemon} {answer : Answer}

/-- A hook that waits is told that it waits, or the decision given. -/
theorem poll_told (waits : Waits daemon (.Claude,input.agent_id) input.req_id given)
    (hooked : Hooked daemon (.Claude,input.agent_id))
    (handled : bridge ⟨daemon,.json_line (.ok (poll_message input)) polled,daemon',.json answer⟩) :
    answer = .ok (owed input.req_id given) := by
  obtain ⟨decided,undecided⟩ := poll_answer handled ⟨_,⟨polled,rfl,rfl⟩,poll_read input⟩ (hooked_known hooked)
  cases given with
  | some decision => exact Reply.json.inj (decided decision waits)
  | none =>
    obtain ⟨pending,output,meaning⟩ := undecided waits.2
    rw [meaning.mpr waits.1] at output
    exact Reply.json.inj output

/-- A hook whose decision has gone is told that none is there. -/
theorem poll_taken (taken : Taken daemon (.Claude,input.agent_id) input.req_id given)
    (hooked : Hooked daemon (.Claude,input.agent_id))
    (handled : bridge ⟨daemon,.json_line (.ok (poll_message input)) polled,daemon',.json answer⟩) :
    ∃ pending, answer = .ok (.permission_pending input.req_id pending) := by
  obtain ⟨_,undecided⟩ := poll_answer handled ⟨_,⟨polled,rfl,rfl⟩,poll_read input⟩ (hooked_known hooked)
  obtain ⟨pending,output,_⟩ := undecided taken.2
  exact ⟨pending,Reply.json.inj output⟩

/-- A poll is answered with the decision given, or it is told whether the request is pending; after a decision it may not be. -/
theorem poll_answered (supports : Supports daemon (.Claude,input.agent_id) input.req_id given .polling)
    (handled : bridge ⟨daemon,.json_line (.ok (poll_message input)) polled,daemon',.json answer⟩) :
    (∃ decision, given = some decision ∧ answer = .ok (.permission_decision input.req_id decision.as_str)) ∨
      ∃ pending, answer = .ok (.permission_pending input.req_id pending) ∧ (pending = false → given ≠ none) := by
  obtain ⟨hooked,waits | taken⟩ := supports
  · have told := poll_told waits hooked handled
    cases given with
    | none => exact .inr ⟨true,told,fun gone => by cases gone⟩
    | some decision => exact .inl ⟨decision,rfl,told⟩
  · obtain ⟨pending,told⟩ := poll_taken taken hooked handled
    exact .inr ⟨pending,told,fun _ => taken.1⟩

/-- The registration of a hook is accepted unless the agent id is blank. -/
theorem register_answer (handled : bridge ⟨daemon,.json_line (.ok (register_message input)) polled,daemon',.json answer⟩) :
    answer = if (trim input.agent_id).isEmpty = true then .error "agent_id is required" else .ok .registered := by
  obtain ⟨other,_,result⟩ := handled
  have type : (register_message input).message_type = "agent.register" := rfl
  rcases register_read input with ⟨blank,reading⟩ | ⟨filled,fresh,reading,_⟩
  · simp only [handle,handle_json_line,type,agent_register,reading,Prod.mk.injEq,Reply.json.injEq] at result
    rw [if_pos blank]
    exact result.2.symm
  · simp only [handle,handle_json_line,type,agent_register,reading,Prod.mk.injEq,Reply.json.injEq] at result
    rw [if_neg (by simp [filled])]
    exact result.2.symm

/-- What a hook may rely on before its message is handled, and what it does once the daemon has accepted the message. -/
theorem supports_accepted {state : HookState} {msg : RegistrationEnvelope} {resp : Response}
    (sent : next_message input state = some msg) (handled : bridge ⟨daemon,.json_line (.ok msg) polled,daemon',.json (.ok resp)⟩)
    (supports : Supports daemon (.Claude,input.agent_id) input.req_id given state) :
    Supports daemon' (.Claude,input.agent_id) input.req_id (if state = .requesting then none else given) state.unanswered := by
  have kept : Hooked daemon (.Claude,input.agent_id) → Hooked daemon' (.Claude,input.agent_id) :=
    fun hooked => hooked_move handled hooked (message_stays sent _)
  rcases message_types sent with ⟨rfl,rfl,_⟩ | ⟨rfl,rfl,_⟩ | ⟨rfl,rfl,_⟩
  · rcases register_read input with ⟨blank,_⟩ | ⟨_,fresh,reading,key⟩
    · have answered := register_answer handled
      rw [if_pos blank] at answered
      cases answered
    · rw [← key]
      exact registers_hooked handled ⟨_,⟨polled,rfl,rfl⟩,reading⟩
  · obtain ⟨perm,same,reading⟩ := request_read input
    obtain ⟨_,pending,decision⟩ := request_effect handled ⟨_,⟨polled,rfl,rfl⟩,reading⟩ (hooked_known supports)
    rw [same] at pending decision
    exact ⟨kept supports,.inl ⟨pending,decision⟩⟩
  · obtain ⟨hooked,waits⟩ := supports
    obtain ⟨_,pending,decision⟩ := poll_effect handled ⟨_,⟨polled,rfl,rfl⟩,poll_read input⟩ (hooked_known hooked)
    refine ⟨kept hooked,?_⟩
    rcases waits with waits | taken
    · cases given with
      | none => exact .inl ⟨pending.mpr waits.1,decision⟩
      | some d => exact .inr ⟨Option.some_ne_none d,decision⟩
    · exact .inr ⟨taken.1,decision⟩

/-- So it does after the answer: a hook that goes on after it goes on as without it. -/
theorem supports_sent {state : HookState} {msg : RegistrationEnvelope} (sent : next_message input state = some msg)
    (handled : bridge ⟨daemon,.json_line (.ok msg) polled,daemon',.json answer⟩)
    (supports : Supports daemon (.Claude,input.agent_id) input.req_id given state) :
    Supports daemon' (.Claude,input.agent_id) input.req_id (if state = .requesting then none else given)
      (state.receive answer) := by
  cases answer with
  | error err => cases state <;> trivial
  | ok resp =>
    have accepted := supports_accepted sent handled supports
    cases state with
    | registering => exact accepted
    | requesting => exact accepted
    | polling =>
      rw [HookState.receive]
      cases poll_result resp with
      | some decision => trivial
      | none => exact accepted
    | decided text => cases sent
    | failed error => cases sent

end

/-! ## Runs -/

/-- The daemon knows of every hook what the hook relies on. -/
structure Reliable (pair : Pair) (scene : Scene) : Prop where
  sound : Sound scene.daemon
  supports : ∀ i, Supports scene.daemon pair.key (pair.req_id i) (scene.given i) (scene.hook i)

variable {pair : Pair}

theorem pair_key (pair : Pair) (i : Party) : pair.key = (.Claude,(pair.input i).agent_id) := by
  rw [pair.same]
  rfl

theorem reliable_start {daemon : BridgeDaemon} (sound : Sound daemon) : Reliable pair (.start daemon) :=
  ⟨sound,fun _ => trivial⟩

/-- The hook stays as it is, or it ends. -/
def Stops (old new : HookState) : Prop := new = old ∨ (∃ text, new = .decided text) ∨ ∃ error, new = .failed error

/-- What holds of every hook, and of those that ended in any case, holds when one of them stops. -/
theorem stops_keeps {P : Party → HookState → Prop} (ended : ∀ j text, P j (.decided text) ∧ P j (.failed text))
    {hook : Party → HookState} (all : ∀ j, P j (hook j)) {i : Party} {state : HookState}
    (stops : Stops (hook i) state) (j : Party) : P j (Function.update hook i state j) := by
  rw [Function.update_apply]
  split
  · rename_i same
    subst same
    rcases stops with rfl | ⟨text,rfl⟩ | ⟨error,rfl⟩
    · exact all j
    · exact (ended j text).1
    · exact (ended j error).2
  · exact all j

/-- A hook that stops relies on nothing. -/
theorem reliable_stops {scene : Scene} (reliable : Reliable pair scene) {i : Party} {state : HookState}
    (stops : Stops (scene.hook i) state) :
    Reliable pair { scene with hook := Function.update scene.hook i state } :=
  ⟨reliable.sound,stops_keeps (P := fun j => Supports scene.daemon pair.key (pair.req_id j) (scene.given j))
    (fun _ _ => ⟨trivial,trivial⟩) reliable.supports stops⟩

theorem give_up_stops (error : String) (state : HookState) : Stops state (state.give_up error) := by
  cases state with
  | decided text => exact .inl rfl
  | _ => exact .inr (.inr ⟨error,rfl⟩)

theorem expire_stops (state : HookState) : Stops state state.expire := by
  cases state with
  | polling => exact .inr (.inl ⟨"ask",rfl⟩)
  | _ => exact .inl rfl

/-- With two ids, the message of a hook leaves the other one what it relies on. -/
theorem reliable_handled (distinct : ∀ i j, pair.req_id i = pair.req_id j → i = j) {scene : Scene} (reliable : Reliable pair scene)
    {i : Party} {msg : RegistrationEnvelope} (next : next_message (pair.input i) (scene.hook i) = some msg)
    {polled : Except String AgentPollSnapshot} {daemon : BridgeDaemon} {answer : Answer}
    (handled : bridge ⟨scene.daemon,.json_line (.ok msg) polled,daemon,.json answer⟩) {state : HookState}
    (supports : Supports daemon (.Claude,(pair.input i).agent_id) (pair.input i).req_id
      (if scene.hook i = .requesting then none else scene.given i) state) : Reliable pair (scene.handled i daemon state) := by
  refine ⟨sound_move handled reliable.sound,?_⟩
  intro j
  by_cases same : j = i
  · subst same
    obtain ⟨hook,given⟩ := handled_self scene j daemon state
    rw [pair_key pair j]
    simp only [hook,given]
    exact supports
  · obtain ⟨hook,given⟩ := handled_other scene same daemon state
    simp only [hook,given]
    exact supports_bypassed handled (message_bypasses next (fun ids => same (distinct i j ids).symm) pair.key)
      (reliable.supports j)

/-- With two ids, no move takes from a hook what it relies on. -/
theorem reliable_move (distinct : ∀ i j, pair.req_id i = pair.req_id j → i = j) {m : SceneMove} (plays : Plays pair m)
    (reliable : Reliable pair m.pre) : Reliable pair m.post := by
  cases plays with
  | @sends scene i msg polled daemon answer next handled =>
    have supports := reliable.supports i
    rw [pair_key pair i] at supports
    exact reliable_handled distinct reliable next handled (supports_sent next handled supports)
  | @loses scene i msg polled daemon resp next handled =>
    have supports := reliable.supports i
    rw [pair_key pair i] at supports
    exact reliable_handled distinct reliable next handled (supports_accepted next handled supports)
  | gives_up => exact reliable_stops reliable (give_up_stops _ _)
  | @strays scene i error state msg polled daemon answer gone sent handled =>
    refine ⟨sound_move handled reliable.sound,?_⟩
    intro j
    by_cases same : j = i
    · subst same
      simp only [gone]
      trivial
    · exact supports_bypassed handled (message_bypasses sent (fun ids => same (distinct i j ids).symm) pair.key)
        (reliable.supports j)
  | expires => exact reliable_stops reliable (expire_stops _)
  | @decides scene i decision event daemon reply handled told =>
    refine ⟨sound_move handled reliable.sound,?_⟩
    intro j
    by_cases same : j = i
    · subst same
      obtain ⟨_,_,stored⟩ := decision_effect handled reliable.sound told
      have stays : ¬ Aborts event pair.key := decision_stays told
      have supports := reliable.supports j
      simp only [Function.update_self]
      cases state : scene.hook j with
      | requesting =>
        simp only [state] at supports
        exact hooked_move handled supports stays
      | polling =>
        simp only [state] at supports
        exact ⟨hooked_move handled supports.1 stays,.inl stored⟩
      | _ => trivial
    · simp only [Function.update_of_ne same]
      exact supports_bypassed handled (decision_bypasses told (fun ids => same (distinct i j ids).symm))
        (reliable.supports j)
  | other handled apart =>
    exact ⟨sound_move handled reliable.sound,fun j => supports_bypassed handled (apart j) (reliable.supports j)⟩

/-- A hook that gets what it relies on is told of its own request. -/
theorem reliable_answer {m : SceneMove} (plays : Plays pair m) (reliable : Reliable pair m.pre) : OwnAnswer m := by
  rintro i sends polling
  cases plays with
  | @sends scene i' msg polled daemon answer next handled =>
    cases sends
    have state : scene.hook i = .polling := polling
    have supports := reliable.supports i
    rw [state,pair_key pair i] at supports
    rw [state] at next
    cases next
    rcases poll_answered supports handled with ⟨decision,given,rfl⟩ | ⟨pending,rfl,decided⟩
    · refine ⟨?_,by simp⟩
      intro req_id text told
      cases told
      exact ⟨decision,given,rfl⟩
    · refine ⟨by simp,?_⟩
      intro req_id told
      cases told
      exact decided rfl
  | loses => cases sends
  | gives_up => cases sends
  | strays => cases sends
  | expires => cases sends
  | decides => cases sends
  | other => cases sends

/-- With two ids every hook is told of its own request, in every run of the scene. -/
theorem distinct_apart (distinct : ∀ i j, pair.req_id i = pair.req_id j → i = j) {daemon : BridgeDaemon}
    {ms : List SceneMove} {scene : Scene} (reachable : Reachable daemon)
    (path : Path (Plays pair) (.start daemon) ms scene) : ∀ m ∈ ms, OwnAnswer m := by
  intro m member
  obtain ⟨plays,reliable⟩ := path_moves (fun m plays => reliable_move distinct plays) path
    (reliable_start (reachable_sound reachable)) m member
  exact reliable_answer plays reliable

/-! ### An agent with a blank id -/

/-- No hook is past its registration and goes on. -/
def Stuck (scene : Scene) : Prop := ∀ i, scene.hook i ≠ .requesting ∧ scene.hook i ≠ .polling

theorem stuck_stops {scene : Scene} (stuck : Stuck scene) {i : Party} {state : HookState}
    (stops : Stops (scene.hook i) state) (j : Party) :
    Function.update scene.hook i state j ≠ .requesting ∧ Function.update scene.hook i state j ≠ .polling :=
  stops_keeps (P := fun _ state => state ≠ .requesting ∧ state ≠ .polling) (fun _ _ => ⟨by simp,by simp⟩) stuck stops j

theorem stuck_move (blank : (trim pair.agent_id).isEmpty = true) {m : SceneMove} (plays : Plays pair m)
    (stuck : Stuck m.pre) : Stuck m.post := by
  cases plays with
  | @sends scene i msg polled daemon answer next handled =>
    rcases message_types next with ⟨registering,rfl,_⟩ | ⟨requesting,_⟩ | ⟨polling,_⟩
    · have answered := register_answer handled
      rw [pair.same i,if_pos blank] at answered
      cases answered
      exact stuck_stops stuck (.inr (.inr ⟨_,by rw [registering]; rfl⟩))
    · exact absurd requesting (stuck i).1
    · exact absurd polling (stuck i).2
  | @loses scene i msg polled daemon resp next handled =>
    -- the registration is the only message that a stuck hook sends, and it is rejected
    rcases message_types next with ⟨_,rfl,_⟩ | ⟨requesting,_⟩ | ⟨polling,_⟩
    · have answered := register_answer handled
      rw [pair.same i,if_pos blank] at answered
      cases answered
    · exact absurd requesting (stuck i).1
    · exact absurd polling (stuck i).2
  | gives_up => exact stuck_stops stuck (give_up_stops _ _)
  | strays => exact stuck
  | expires => exact stuck_stops stuck (expire_stops _)
  | decides => exact stuck
  | other => exact stuck

theorem blank_apart (blank : (trim pair.agent_id).isEmpty = true) {daemon : BridgeDaemon} {ms : List SceneMove}
    {scene : Scene} (path : Path (Plays pair) (.start daemon) ms scene) : ∀ m ∈ ms, OwnAnswer m := by
  intro m member i _ polling
  have initial : Stuck (.start daemon) := fun i => ⟨by simp [Scene.start],by simp [Scene.start]⟩
  obtain ⟨_,stuck⟩ := path_moves (fun m plays => stuck_move blank plays) path initial m member
  exact absurd polling (stuck i).2

/-! ### Two hooks with one id -/

theorem line_moves (daemon : BridgeDaemon) (msg : RegistrationEnvelope) : ∃ daemon' answer,
    bridge ⟨daemon,.json_line (.ok msg) (.ok ⟨[],[],[]⟩),daemon',.json answer⟩ :=
  ⟨_,_,daemon,rehashed_refl _,rfl⟩

/-- A message of a hook leaves the sids as they are. -/
theorem message_sid {input : HookInput} {state : HookState} {msg : RegistrationEnvelope} {daemon daemon' : BridgeDaemon}
    {polled : Except String AgentPollSnapshot} {answer : Answer} {key : AgentKey} {sid : BoardSid}
    (sent : next_message input state = some msg)
    (handled : bridge ⟨daemon,.json_line (.ok msg) polled,daemon',.json answer⟩)
    (bound : sid_of daemon key = some sid) : sid_of daemon' key = some sid := by
  refine sid_move handled bound ⟨message_stays sent key,?_⟩ ?_
  · intro keys output
    cases output
  · intro sid
    constructor
    · rintro ⟨payload,told,_⟩
      cases told
    · rintro ⟨payload,told,_⟩
      cases told

/-- The registration of a hook is accepted. -/
theorem hook_registers (filled : (trim pair.agent_id).isEmpty = false) (i : Party) (daemon : BridgeDaemon) :
    ∃ daemon' polled, bridge ⟨daemon,.json_line (.ok (register_message (pair.input i))) polled,daemon',
        .json (.ok .registered)⟩ ∧ Hooked daemon' pair.key := by
  obtain ⟨daemon',answer,handled⟩ := line_moves daemon (register_message (pair.input i))
  have answered := register_answer handled
  rw [pair.same i,if_neg (by simp [filled])] at answered
  subst answered
  have supports : Supports daemon' (.Claude,(pair.input i).agent_id) (pair.input i).req_id none .requesting :=
    supports_sent (show next_message (pair.input i) .registering = _ from rfl) handled trivial
  rw [← pair_key] at supports
  exact ⟨daemon',_,handled,supports⟩

/-- So is its request. -/
theorem hook_asks {daemon : BridgeDaemon} (hooked : Hooked daemon pair.key) (i : Party) :
    ∃ daemon' polled, bridge ⟨daemon,.json_line (.ok (request_message (pair.input i))) polled,daemon',
        .json (.ok .permission_queued)⟩ ∧ Hooked daemon' pair.key := by
  obtain ⟨daemon',answer,handled⟩ := line_moves daemon (request_message (pair.input i))
  obtain ⟨perm,_,reading⟩ := request_read (pair.input i)
  have known := hooked_known hooked
  rw [pair_key pair i] at known
  cases request_accepted handled ⟨_,⟨_,rfl,rfl⟩,reading⟩ known
  have sent : next_message (pair.input i) .requesting = some (request_message (pair.input i)) := rfl
  exact ⟨daemon',_,handled,hooked_move handled hooked (message_stays sent _)⟩

/-- The first registration queues its agent. -/
theorem first_queued (filled : (trim pair.agent_id).isEmpty = false) {i : Party} {daemon : BridgeDaemon}
    {polled : Except String AgentPollSnapshot} {answer : Answer}
    (handled : bridge ⟨.new,.json_line (.ok (register_message (pair.input i))) polled,daemon,.json answer⟩) :
    daemon.pending_board_sessions = [pair.key] := by
  rw [← pair.same i] at filled
  rcases register_read (pair.input i) with ⟨blank,_⟩ | ⟨_,fresh,reading,key⟩
  · rw [blank] at filled
    cases filled
  · obtain ⟨other,_,single⟩ := single_move handled
    have effect := single _ (.register ⟨_,⟨_,rfl,rfl⟩,reading⟩) (by simp)
    have kind : (registered_agent other fresh).kind = .Claude :=
      congrArg Prod.fst ((registered_agent_key other fresh).trans key)
    have queue := congrArg Directory.waiting effect
    simpa [apply,Directory.enroll,directory,BridgeDaemon.new,enrolled,Entry.fresh,is_transport_only_terminal,kind,key,
      pair_key pair i] using queue

/-- The board grants the sid 7 to the agent, if it waits first. -/
theorem grant_seven {daemon : BridgeDaemon} (sound : Sound daemon) {key : AgentKey} {waiting : List AgentKey}
    (queue : daemon.pending_board_sessions = key :: waiting) (hooked : Hooked daemon key) :
    ∃ daemon' reply, bridge ⟨daemon,session_response 7 .Ok,daemon',reply⟩ ∧ Hooked daemon' key ∧
      sid_of daemon' key = some ⟨7⟩ ∧ ∀ req_id, Bypasses ⟨daemon,session_response 7 .Ok,daemon',reply⟩ key req_id := by
  obtain ⟨daemon',reply,handled⟩ : ∃ daemon' reply, bridge ⟨daemon,session_response 7 .Ok,daemon',reply⟩ :=
    ⟨_,_,daemon,rehashed_refl _,rfl⟩
  have bypasses : ∀ req_id, Bypasses ⟨daemon,session_response 7 .Ok,daemon',reply⟩ key req_id := by
    intro req_id
    refine board_bypasses rfl ?_
    rintro decision ⟨sid,⟨payload,byte,told,_⟩,_⟩
    cases told
  obtain ⟨_,_,bound,_⟩ := granted_step handled sound rfl (by decide) queue
  exact ⟨daemon',reply,handled,hooked_move handled hooked (bypasses 0).stays,bound,bypasses⟩

theorem plays_on {start scene scene' : Scene} {ms : List SceneMove} {act : Act} {answer : Option Answer}
    (path : Path (Plays pair) start ms scene) (plays : Plays pair ⟨scene,act,scene',answer⟩) :
    Path (Plays pair) start (ms ++ [⟨scene,act,scene',answer⟩]) scene' := .next path plays

/-- Both hooks can ask while their agent is bound to a sid, and wait. -/
theorem hooks_ask (filled : (trim pair.agent_id).isEmpty = false) :
    ∃ ms scene, Path (Plays pair) (.start BridgeDaemon.new) ms scene ∧ scene.hook = (fun _ => .polling) ∧
      scene.given = (fun _ => none) ∧ Sound scene.daemon ∧ Hooked scene.daemon pair.key ∧
      sid_of scene.daemon pair.key = some ⟨7⟩ := by
  obtain ⟨d₁,_,registers₁,hooked₁⟩ := hook_registers filled .first BridgeDaemon.new
  have sound₁ := sound_move registers₁ sound_new
  obtain ⟨d₂,_,grants,hooked₂,bound₂,bypasses⟩ := grant_seven sound₁ (first_queued filled registers₁) hooked₁
  obtain ⟨d₃,_,registers₃,hooked₃⟩ := hook_registers filled .second d₂
  have sent₃ : next_message (pair.input .second) .registering = some (register_message (pair.input .second)) := rfl
  have sound₃ := sound_move registers₃ (sound_move grants sound₁)
  have bound₃ := message_sid sent₃ registers₃ bound₂
  obtain ⟨d₄,_,asks₄,hooked₄⟩ := hook_asks hooked₃ .first
  have sent₄ : next_message (pair.input .first) .requesting = some (request_message (pair.input .first)) := rfl
  have bound₄ := message_sid sent₄ asks₄ bound₃
  obtain ⟨d₅,_,asks₅,hooked₅⟩ := hook_asks hooked₄ .second
  have sent₅ : next_message (pair.input .second) .requesting = some (request_message (pair.input .second)) := rfl
  have sent₁ : next_message (pair.input .first) ((Scene.start .new).hook .first) = some (register_message _) := rfl
  have path := plays_on .refl (Plays.sends sent₁ registers₁)
  have path := plays_on path (Plays.other grants (fun i => bypasses _))
  have path := plays_on path (Plays.sends (i := .second) sent₃ registers₃)
  have path := plays_on path (Plays.sends (i := .first) sent₄ asks₄)
  have path := plays_on path (Plays.sends (i := .second) sent₅ asks₅)
  refine ⟨_,_,path,?_,?_,sound_move asks₅ (sound_move asks₄ sound₃),hooked₅,message_sid sent₅ asks₅ bound₄⟩
  · funext i
    cases i <;> rfl
  · funext i
    cases i <;> rfl

/-- With one id, the board may allow the first hook and the second is told so. -/
theorem colliding_hooks (collide : pair.req_id .first = pair.req_id .second)
    (filled : (trim pair.agent_id).isEmpty = false) :
    ∃ ms scene, Path (Plays pair) (.start BridgeDaemon.new) ms scene ∧ ∃ m ∈ ms, ¬ OwnAnswer m := by
  obtain ⟨ms,scene,path,hook,given,sound,hooked,bound⟩ := hooks_ask filled
  obtain ⟨d₁,reply,decides⟩ : ∃ d₁ reply,
      bridge ⟨scene.daemon,permission_response 7 (pair.req_id .first) .Allow,d₁,reply⟩ :=
    ⟨_,_,scene.daemon,rehashed_refl _,rfl⟩
  have told : DecidesFor ⟨scene.daemon,permission_response 7 (pair.req_id .first) .Allow,d₁,reply⟩ pair.key
      (pair.req_id .first) .Allow :=
    ⟨7,⟨_,_,rfl,by decide,decode_encode_permission_response _ _,rfl⟩,bound⟩
  obtain ⟨_,_,stored⟩ := decision_effect decides sound told
  have hooked₁ := hooked_move decides hooked (decision_stays told)
  obtain ⟨d₂,answer,polls⟩ := line_moves d₁ (poll_message (pair.input .second))
  rw [pair_key pair .second] at hooked₁ stored
  rw [collide] at stored
  have waits : Waits d₁ (.Claude,(pair.input .second).agent_id) (pair.input .second).req_id (some .Allow) := stored
  cases poll_told waits hooked₁ polls
  have path := plays_on path (Plays.decides decides told)
  have sent : next_message (pair.input .second) (scene.hook .second) = some (poll_message (pair.input .second)) := by
    rw [hook]
    rfl
  have path := plays_on path (Plays.sends (i := .second) sent polls)
  refine ⟨_,_,path,_,List.mem_append_right _ (List.mem_singleton.mpr rfl),?_⟩
  intro own
  obtain ⟨decision,given_second,_⟩ := (own .second rfl (by rw [hook])).1 _ _ rfl
  simp [given] at given_second

/-- In every run of two hooks of one agent, each hook is told of its own request
    only, exactly when they took different ids from the clock (or their agent has
    a blank id and is never registered). -/
theorem hooks_apart_iff (pair : Pair) :
    (∀ daemon ms scene, Reachable daemon → Path (Plays pair) (.start daemon) ms scene → ∀ m ∈ ms, OwnAnswer m) ↔
      pair.req_id .first ≠ pair.req_id .second ∨ (trim pair.agent_id).isEmpty = true := by
  constructor
  · intro apart
    by_contra other
    obtain ⟨collide,filled⟩ := not_or.mp other
    obtain ⟨ms,scene,path,m,member,told⟩ := colliding_hooks (not_not.mp collide) (by simpa using filled)
    exact told (apart _ ms scene ⟨[],.refl⟩ path m member)
  · rintro (different | blank) daemon ms scene reachable path
    · refine distinct_apart ?_ reachable path
      intro i j same
      cases i <;> cases j
      · rfl
      · exact absurd same different
      · exact absurd same.symm different
      · rfl
    · exact blank_apart blank path

/-- Two tools of one session whose hooks start in the same millisecond. -/
def same_millisecond : Pair where
  input
    | .first => ⟨"x","work","/home/me/work",1700000000000,"Bash","ls"⟩
    | .second => ⟨"x","work","/home/me/work",1700000000000,"Write","notes.txt"⟩
  agent_id := "x"
  same i := by cases i <;> rfl

/-- A hook of theirs is told what the board decided for the other. -/
theorem same_millisecond_told : ¬ ∀ daemon ms scene, Reachable daemon →
    Path (Plays same_millisecond) (.start daemon) ms scene → ∀ m ∈ ms, OwnAnswer m := by
  intro apart
  obtain ⟨ms,scene,path,m,member,told⟩ := colliding_hooks (show same_millisecond.req_id .first = _ from rfl) (by decide)
  exact told (apart _ ms scene ⟨[],.refl⟩ path m member)

/-! ### What a hook prints -/

/-- A hook that ends while it polls was told what the board decided for it, or asks its user. -/
theorem ends_given {m : SceneMove} (plays : Plays pair m) (reliable : Reliable pair m.pre) {i : Party} {text : String}
    (polling : m.pre.hook i = .polling) (ends : m.post.hook i = .decided text) :
    text = "ask" ∨ ∃ decision, m.pre.given i = some decision ∧ text = decision.as_str := by
  have unmoved : ∀ {state : HookState}, state = m.pre.hook i → state = .decided text → False := by
    rintro state rfl done
    rw [polling] at done
    cases done
  cases plays with
  | @sends scene i' msg polled daemon answer next handled =>
    by_cases same : i = i'
    · subst same
      rw [(handled_self scene i daemon _).1] at ends
      have state : scene.hook i = .polling := polling
      have supports := reliable.supports i
      rw [state,pair_key pair i] at supports
      rw [state] at next ends
      cases next
      rcases poll_answered supports handled with ⟨decision,given,rfl⟩ | ⟨pending,rfl,_⟩
      · cases ends
        exact .inr ⟨decision,given,rfl⟩
      · cases pending with
        | true => cases ends
        | false =>
          cases ends
          exact .inl rfl
    · rw [(handled_other scene same daemon _).1] at ends
      exact (unmoved rfl ends).elim
  | @loses scene i' msg polled daemon resp next handled =>
    by_cases same : i = i'
    · subst same
      rw [(handled_self scene i daemon _).1,show scene.hook i = .polling from polling] at ends
      cases ends
    · rw [(handled_other scene same daemon _).1] at ends
      exact (unmoved rfl ends).elim
  | @gives_up scene i' error =>
    simp only [Function.update_apply] at ends
    split at ends
    · rename_i same
      subst same
      rw [show scene.hook i = .polling from polling] at ends
      cases ends
    · exact (unmoved rfl ends).elim
  | strays => exact (unmoved rfl ends).elim
  | @expires scene i' =>
    simp only [Function.update_apply] at ends
    split at ends
    · rename_i same
      subst same
      rw [show scene.hook i = .polling from polling] at ends
      cases ends
      exact .inl rfl
    · exact (unmoved rfl ends).elim
  | decides => exact (unmoved rfl ends).elim
  | other => exact (unmoved rfl ends).elim

/-- With two ids, a hook lets its tool run only when the board allowed its own request. -/
theorem tool_allowed (distinct : ∀ i j, pair.req_id i = pair.req_id j → i = j) {daemon : BridgeDaemon}
    {ms : List SceneMove} {scene : Scene} (reachable : Reachable daemon)
    (path : Path (Plays pair) (.start daemon) ms scene) {m : SceneMove} (member : m ∈ ms) {i : Party} {reason : String}
    (polling : m.pre.hook i = .polling) (prints : (m.post.hook i).output = some (.pre_tool_decision "allow" reason)) :
    m.pre.given i = some .Allow ∨ m.pre.given i = some .Always := by
  obtain ⟨plays,reliable⟩ := path_moves (fun m plays => reliable_move distinct plays) path
    (reliable_start (reachable_sound reachable)) m member
  cases state : m.post.hook i with
  | decided text =>
    rw [state] at prints
    rcases ends_given plays reliable polling state with rfl | ⟨decision,given,rfl⟩
    · simp [HookState.output] at prints
    · cases decision with
      | Allow => exact .inl given
      | Always => exact .inr given
      | Deny => simp [HookState.output,PermissionDecision.as_str] at prints
  | _ => rw [state] at prints; simp [HookState.output] at prints

end VibeBridge.Interleavings
