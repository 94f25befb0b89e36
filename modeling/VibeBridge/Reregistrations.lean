import VibeBridge.Records

/-!
Registering an agent again. Hooks register their agent before every event, so
the same registration comes many times. The second time it changes nothing but
the list of activities, and of an agent that is known already it keeps what has
happened to it, and every other agent (`reregistered`).
-/
namespace VibeBridge.Reregistrations
open Transitions
open VibeBridge.Core VibeBridge.Protocol VibeBridge.Agent VibeBridge.Envelope VibeBridge.Daemon
open VibeBridge.Bridge VibeBridge.Sessions VibeBridge.Handlers VibeBridge.Abstraction VibeBridge.Events
open VibeBridge.Outbox VibeBridge.Records

/-- What has happened to an agent since it was registered first. -/
structure SameHistory (agent new : RegisteredAgent) : Prop where
  board_sid : new.board_sid = agent.board_sid
  usage : new.usage = agent.usage
  turns : new.turns = agent.turns
  pending_permissions : new.pending_permissions = agent.pending_permissions
  resolved_permissions : new.resolved_permissions = agent.resolved_permissions
  terminal_buffer : new.terminal_buffer = agent.terminal_buffer
  terminal_buffer_len : new.terminal_buffer_len = agent.terminal_buffer_len

theorem SameHistory.refl (agent : RegisteredAgent) : SameHistory agent agent := ⟨rfl,rfl,rfl,rfl,rfl,rfl,rfl⟩

/-- The same state with further activities, in some order of the agents. -/
def SameBut (activities : List AgentActivity) (daemon other : BridgeDaemon) : Prop :=
  Rehashed { daemon with activities := daemon.activities ++ activities } other

theorem carry_over_again (fresh existing : RegisteredAgent) :
    carry_over fresh (carry_over fresh existing) = carry_over fresh existing := by
  cases launched : fresh.from_launch <;> cases attached : fresh.attached_terminal <;> simp [carry_over,launched,attached]

/-- A registration finds nothing to carry over from itself. -/
theorem carry_over_self {fresh : RegisteredAgent} (hooked : fresh.from_hook = true) : carry_over fresh fresh = fresh := by
  rw [carry_over]
  simp only [Bool.or_self,ite_self,← hooked]

theorem registration_hooked {request : RegistrationEnvelope} {fresh : RegisteredAgent}
    (reading : request.read_agent = .ok fresh) : fresh.from_hook = true := by
  have first : (registered_agent BridgeDaemon.new fresh).from_hook = true := (registered_marks reading).1
  exact first

theorem carry_history (fresh existing : RegisteredAgent) : SameHistory existing (carry_over fresh existing) :=
  ⟨rfl,rfl,rfl,rfl,rfl,rfl,rfl⟩

section
variable {daemon : BridgeDaemon} {request : RegistrationEnvelope} {fresh : RegisteredAgent}
  (reading : request.read_agent = .ok fresh)
include reading

/-- The record that a registration leaves is the one that the same registration leaves over it. -/
theorem registered_again {next : BridgeDaemon}
    (found : next.registered.lookup fresh.key = some (registered_agent daemon fresh)) :
    registered_agent next fresh = registered_agent daemon fresh := by
  rw [registered_agent,found]
  simp only [registered_agent]
  split
  · exact carry_over_again fresh _
  · exact carry_over_self (registration_hooked reading)

/-- After a registration its agent is bound, needs no row, or waits for one. -/
theorem announced_queue (unbound : (registered_agent daemon fresh).board_sid = none)
    (needs : is_transport_only_terminal (registered_agent daemon fresh) = false) :
    fresh.key ∈ (agent_register daemon request).1.pending_board_sessions := by
  obtain ⟨queue,_⟩ := announce_queue
    (daemon.push_activity ⟨(registered_agent daemon fresh).agent_id,(registered_agent daemon fresh).kind,.Seen,
      (registered_agent daemon fresh).status,""⟩)
    ((daemon.registered.lookup fresh.key).bind (·.board_sid)).isSome (registered_agent daemon fresh)
    (by rw [registered_sid reading])
  simp only [agent_register,reading,BridgeDaemon.insert_agent]
  rw [queue,registered_agent_key]
  by_cases waits : fresh.key ∈ daemon.pending_board_sessions
  · rw [if_neg (fun new => new.2.2 waits)]
    exact waits
  · rw [if_pos ⟨unbound,needs,waits⟩]
    simp

omit reading in
/-- The board is told nothing of an agent that is bound, needs no row, or waits for one. -/
theorem announce_silent {next : BridgeDaemon} {agent : RegisteredAgent} {bound : Bool} (same : bound = agent.board_sid.isSome)
    (waits : agent.board_sid = none → is_transport_only_terminal agent = false → agent.key ∈ next.pending_board_sessions) :
    announce_registration next bound agent = next := by
  rw [announce_registration,same]
  cases sid : agent.board_sid with
  | some sid => rfl
  | none =>
    cases source : is_transport_only_terminal agent with
    | true => rfl
    | false => simp [enqueue_board_session_request,waits sid source]

omit reading in
theorem announce_activities (daemon : BridgeDaemon) (bound : Bool) (agent : RegisteredAgent) :
    (announce_registration daemon bound agent).activities = daemon.activities := by
  rw [announce_registration]
  split
  · rfl
  · split
    · rfl
    · split
      · rfl
      · rw [enqueue_board_session_request]
        split <;> rfl

/-- The same registration in the state that it left, in any order of the agents. -/
theorem register_again {next : BridgeDaemon} (same : Rehashed (agent_register daemon request).1 next) :
    SameBut [⟨(registered_agent daemon fresh).agent_id,(registered_agent daemon fresh).kind,.Seen,
      (registered_agent daemon fresh).status,""⟩] (agent_register daemon request).1 (agent_register next request).1 := by
  have found : next.registered.lookup fresh.key = some (registered_agent daemon fresh) := by
    rw [rehashed_lookup same,register_lookup reading,if_pos rfl]
  have again := registered_again reading found
  have silent : ∀ activity, announce_registration (next.push_activity activity)
      ((next.registered.lookup fresh.key).bind (·.board_sid)).isSome (registered_agent daemon fresh) =
        next.push_activity activity := by
    intro activity
    refine announce_silent (by rw [found]; rfl) ?_
    intro unbound needs
    rw [registered_agent_key]
    exact (rehashed_outbox same).2 ▸ announced_queue reading unbound needs
  have second : (agent_register next request).1 = (next.push_activity ⟨(registered_agent daemon fresh).agent_id,
      (registered_agent daemon fresh).kind,.Seen,(registered_agent daemon fresh).status,""⟩).insert_agent fresh.key
        (registered_agent daemon fresh) := by
    simp only [agent_register,reading,again,silent]
  rw [second]
  obtain ⟨registered,order,rfl⟩ := same
  refine ⟨registered.insert fresh.key (registered_agent daemon fresh),?_,rfl⟩
  have twice : (agent_register daemon request).1.registered.insert fresh.key (registered_agent daemon fresh) =
      (agent_register daemon request).1.registered := by
    simp only [agent_register,reading,BridgeDaemon.insert_agent,AList.insert_insert]
  have inserted := AList.perm_insert (b := registered_agent daemon fresh) (a := fresh.key) order
  rw [twice] at inserted
  exact inserted

end

/-- A registration that is made twice in a row leaves the state that it left the first time, apart from the activity
    that it appends, and answers the same. Made once, it keeps the history of every agent, and all of an agent that it
    does not name. -/
theorem reregistered {m : BridgeMove} (move : bridge m) {request : RegistrationEnvelope}
    (told : Carries m.input "agent.register" request) :
    (∀ m', bridge m' → m'.pre = m.post → m'.input = m.input → m'.output = m.output ∧
      ∃ activities, m.post.activities = m.pre.activities ++ activities ∧ SameBut activities m.post m'.post) ∧
    (∀ key agent, m.pre.registered.lookup key = some agent →
      ∃ new, m.post.registered.lookup key = some new ∧ SameHistory agent new) ∧
    ∀ key, (∀ fresh, Registers m.input fresh → fresh.key ≠ key) →
      m.post.registered.lookup key = m.pre.registered.lookup key := by
  obtain ⟨daemon,same,result⟩ := move
  have told' := told
  obtain ⟨polled,input,type⟩ := told'
  rw [input] at result
  simp only [handle,handle_json_line,type,Prod.mk.injEq] at result
  obtain ⟨post,output⟩ := result
  have activities : daemon.activities = m.pre.activities := by
    obtain ⟨registered,_,rfl⟩ := same
    rfl
  refine ⟨?_,?_,?_⟩
  · rintro m' ⟨next,same',result'⟩ start again
    rw [again,input] at result'
    simp only [handle,handle_json_line,type,Prod.mk.injEq] at result'
    obtain ⟨post',output'⟩ := result'
    rw [start,← post] at same'
    rw [← output,← output',← post,← post',← activities]
    cases reading : request.read_agent with
    | error err =>
      simp only [agent_register,reading] at same' ⊢
      refine ⟨trivial,[],by simp,?_⟩
      rw [SameBut,List.append_nil]
      exact same'
    | ok fresh =>
      refine ⟨by simp only [agent_register,reading],_,?_,register_again reading same'⟩
      simp only [agent_register,reading,BridgeDaemon.insert_agent,announce_activities]
      rfl
  · intro key agent found
    rw [← rehashed_lookup same] at found
    rw [← post]
    cases reading : request.read_agent with
    | error err =>
      simp only [agent_register,reading]
      exact ⟨agent,found,.refl agent⟩
    | ok fresh =>
      rw [register_lookup reading]
      by_cases known : key = fresh.key
      · rw [if_pos known]
        refine ⟨registered_agent daemon fresh,rfl,?_⟩
        rw [registered_agent,← known,found]
        exact carry_history fresh agent
      · rw [if_neg known]
        exact ⟨agent,found,.refl agent⟩
  · intro key other
    rw [← post,← rehashed_lookup same]
    cases reading : request.read_agent with
    | error err => simp only [agent_register,reading]
    | ok fresh => rw [register_lookup reading,if_neg fun known => other fresh ⟨_,told,reading⟩ known.symm]

/-- An agent is registered and granted a row. -/
def granted : List Event := [registration "claude" "x" false,full_flush,session_response 7 .Ok]

/-- It is registered again, by a launch. -/
def regranted : BridgeMove := move_of (finish handle BridgeDaemon.new granted) (registration "claude" "x" true)

theorem reregistered_granted :
    (∃ activities, SameBut activities regranted.post (move_of regranted.post (registration "claude" "x" true)).post) ∧
    ∃ new, regranted.post.registered.lookup (.Claude,"x") = some new ∧ new.board_sid = some ⟨7⟩ := by
  obtain ⟨twice,kept,_⟩ := reregistered (m := regranted) (bridge_move_of _ _) ⟨_,rfl,rfl⟩
  constructor
  · obtain ⟨_,activities,_,same⟩ := twice _ (bridge_move_of regranted.post (registration "claude" "x" true)) rfl rfl
    exact ⟨activities,same⟩
  · have there : ((finish handle BridgeDaemon.new granted).registered.lookup (.Claude,"x")).isSome := by decide
    obtain ⟨new,found,history⟩ := kept _ _ (Option.some_get there).symm
    have bound : (((finish handle BridgeDaemon.new granted).registered.lookup (.Claude,"x")).get there).board_sid =
        some ⟨7⟩ := rfl
    exact ⟨new,found,history.board_sid.trans bound⟩

end VibeBridge.Reregistrations
