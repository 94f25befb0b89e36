import VibeBridge.Bindings

/-!
Whether an agent without a sid waits for one. Registration and discovery queue
every agent that needs a sid, and no agent leaves the queue but with a sid or
for good. What breaks this is a sid taken from its owner: the board invalidates
it, or grants it to another agent. Then nothing queues the owner again, until
it happens to register once more.
-/
namespace VibeBridge.Service
open Transitions Leases
open VibeBridge.Core VibeBridge.Protocol VibeBridge.Agent VibeBridge.Envelope VibeBridge.Daemon
open VibeBridge.Bridge VibeBridge.Sessions VibeBridge.Abstraction VibeBridge.Events VibeBridge.Bindings

/-- Every agent without a sid waits for one, launched terminals excepted. -/
def AllQueued (daemon : BridgeDaemon) : Prop :=
  ∀ key agent, daemon.registered.lookup key = some agent → is_transport_only_terminal agent = false →
    agent.board_sid = none → key ∈ daemon.pending_board_sessions

theorem allQueued_served {daemon : BridgeDaemon} : AllQueued daemon ↔ Served (directory daemon) := by
  constructor
  · intro queued key e found needs unheld
    obtain ⟨agent,registered,rfl⟩ := lookup_entry found
    exact queued key agent registered needs unheld
  · intro served key agent registered needs unbound
    exact served key _ (entry_lookup registered) needs unbound

/-- The board takes a sid away from an agent that is no launched terminal: it
    invalidates the sid, or grants it while somebody waits. -/
def TakesSid (daemon : BridgeDaemon) (event : Event) : Prop :=
  ∃ sid key agent, (Invalidates event sid ∨ (GrantsSid event sid ∧ daemon.pending_board_sessions ≠ [])) ∧
    daemon.registered.lookup key = some agent ∧ is_transport_only_terminal agent = false ∧
    agent.board_sid = some ⟨sid⟩

/-- A sid is taken from an agent that needs it exactly by the actions that strand a client. -/
theorem takesSid_strands (daemon other : BridgeDaemon) {event : Event} :
    TakesSid daemon event ↔ ∃ a ∈ actions other event, Strands (directory daemon) a := by
  constructor
  · rintro ⟨sid,key,agent,told,found,needs,bound⟩
    have owner : ∃ k e, (directory daemon).entry k = some e ∧ e.exempt = false ∧ e.held = some ⟨sid⟩ :=
      ⟨key,_,entry_lookup found,needs,bound⟩
    rcases told with invalid | ⟨grants,waits⟩
    · exact ⟨_,cause_actions (.revoke invalid),owner⟩
    · exact ⟨_,cause_actions (.grant grants),waits,owner⟩
  · rintro ⟨a,member,strands⟩
    cases actions_cause member with
    | grant told =>
      obtain ⟨waits,key,e,found,needs,held⟩ := strands
      obtain ⟨agent,registered,rfl⟩ := lookup_entry found
      exact ⟨_,key,agent,.inr ⟨told,waits⟩,registered,needs,held⟩
    | revoke told =>
      obtain ⟨key,e,found,needs,held⟩ := strands
      obtain ⟨agent,registered,rfl⟩ := lookup_entry found
      exact ⟨_,key,agent,.inl told,registered,needs,held⟩
    | _ => exact strands.elim

/-- A move keeps every agent queued exactly when it takes no sid away. -/
theorem queued_move {m : BridgeMove} (move : bridge m) (sound : Sound m.pre) :
    (TakesSid m.pre m.input → ¬ AllQueued m.post) ∧
      (AllQueued m.pre → ¬ TakesSid m.pre m.input → AllQueued m.post) := by
  obtain ⟨daemon,_,effect⟩ := move_simulates move
  rw [takesSid_strands m.pre daemon,allQueued_served,allQueued_served,effect]
  constructor
  · rintro ⟨a,member,strands⟩
    have stays : ∀ key, a ≠ .discover key ∧ a ≠ .leave key := by
      intro key
      constructor
      · rintro rfl; exact strands
      · rintro rfl; exact strands
    rw [cause_single (actions_cause member) stays]
    exact stranded sound.valid strands
  · intro served safe
    rcases actions_shape daemon m.input with ⟨a,single⟩ | only
    · rw [single] at safe ⊢
      exact served_kept served (fun strands => safe ⟨a,by simp,strands⟩)
    · refine applyAll_keeps ?_ served
      intro D a member served'
      obtain ⟨key,rfl | rfl⟩ := only a member
      · exact served_kept served' id
      · exact served_kept served' id

/-- In a run every agent that needs a sid has one or waits for one, in every
    state, exactly when the board takes no sid away from such an agent. -/
theorem queued_run {daemon : BridgeDaemon} {ms : List BridgeMove} (run : Run ms daemon) :
    (∀ m ∈ ms, AllQueued m.post) ↔ ∀ m ∈ ms, ¬ TakesSid m.pre m.input := by
  have sounds := path_moves (fun _ move => sound_move move) run sound_new
  constructor
  · intro queued m member takes
    obtain ⟨move,sound⟩ := sounds m member
    exact (queued_move move sound).1 takes (queued m member)
  · intro safe m member
    let Kept := fun daemon => Sound daemon ∧ AllQueued daemon
    have kept : ∀ m : BridgeMove, bridge m ∧ ¬ TakesSid m.pre m.input → Kept m.pre → Kept m.post := by
      rintro m ⟨move,safe⟩ ⟨sound,queued⟩
      exact ⟨sound_move move sound,(queued_move move sound).2 queued safe⟩
    have initial : AllQueued BridgeDaemon.new := by
      intro key agent found
      simp [BridgeDaemon.new] at found
    obtain ⟨move,before⟩ := path_moves kept (path_restrict run safe) ⟨sound_new,initial⟩ m member
    exact (kept m move before).2

/-- An agent registers, gets a sid, and loses it to the board. -/
def invalidated : List Event :=
  [registration "claude" "x" false,full_flush,session_response 7 .Ok,session_invalid 7]

/-- The agent that lost its sid is registered, has none and does not wait. -/
theorem invalidated_unqueued : ¬ ∀ daemon, Reachable daemon → AllQueued daemon := by
  intro queued
  have there : ((finish handle BridgeDaemon.new invalidated).registered.lookup (.Claude,"x")).isSome := by decide
  have waits := queued _ ⟨_,run_events invalidated⟩ _ _ (Option.some_get there).symm rfl rfl
  have nobody : (finish handle BridgeDaemon.new invalidated).pending_board_sessions = [] := by decide
  rw [nobody] at waits
  cases waits

/-- Until the board takes the sid back, the agent is served. -/
theorem queued_run_granted : AllQueued (finish handle BridgeDaemon.new (invalidated.take 3)) := by
  refine (queued_run (run_events (invalidated.take 3))).mpr ?_
    ⟨finish handle BridgeDaemon.new (invalidated.take 2),session_response 7 .Ok,_,_⟩ (List.mem_of_getLast? rfl)
  have unbound : ∀ e ∈ (finish handle BridgeDaemon.new (invalidated.take 2)).registered.entries,
      e.2.board_sid = none := by decide
  rintro m member ⟨sid,key,agent,told,found,_,bound⟩
  simp only [invalidated,List.take,moves,List.mem_cons,List.not_mem_nil,or_false] at member
  rcases member with rfl | rfl | rfl
  · rcases told with ⟨_,other,_⟩ | ⟨⟨_,other,_⟩,_⟩ <;> cases other
  · rcases told with ⟨_,other,_⟩ | ⟨⟨_,other,_⟩,_⟩ <;> cases other
  · have free := unbound _ (AList.mem_lookup_iff.mp found)
    rw [bound] at free
    cases free

end VibeBridge.Service
