import VibeBridge.Records

/-!
Launched terminals. Such an agent is only the source of a stream, so it is to
have no row on the board: no sid, and no request for one. A registration that
launches a terminal asks for none, but where an earlier one of the same id has
asked, it leaves what it finds (`rowless_run`).
-/
namespace VibeBridge.StreamSources
open Transitions Leases
open VibeBridge.Core VibeBridge.Protocol VibeBridge.Agent VibeBridge.Envelope VibeBridge.Daemon
open VibeBridge.Bridge VibeBridge.Abstraction VibeBridge.Events VibeBridge.Bindings VibeBridge.Records

/-- Every launched terminal is without a sid, and without a request for one. -/
def SourcesRowless (daemon : BridgeDaemon) : Prop :=
  ∀ key agent, daemon.registered.lookup key = some agent → is_transport_only_terminal agent = true →
    agent.board_sid = none ∧ key ∉ daemon.pending_board_sessions

/-- A terminal is launched whose id has a sid already, or a request for one. -/
def Promotes (daemon : BridgeDaemon) (event : Event) : Prop :=
  ∃ fresh, Registers event fresh ∧ is_transport_only_terminal fresh = true ∧
    (fresh.key ∈ daemon.pending_board_sessions ∨ (sid_of daemon fresh.key).isSome = true)

theorem rowless_unburdened {daemon : BridgeDaemon} : SourcesRowless daemon ↔ Unburdened (directory daemon) := by
  constructor
  · intro rowless key e found exempt
    obtain ⟨agent,there,rfl⟩ := lookup_entry found
    exact rowless key agent there exempt
  · intro unburdened key agent found source
    exact unburdened key _ (entry_lookup found) source

/-- An agent that is bound holds a lease in the directory. -/
theorem held_iff {daemon : BridgeDaemon} {key : AgentKey} :
    (∃ e, (directory daemon).entry key = some e ∧ e.held ≠ none) ↔ (sid_of daemon key).isSome = true := by
  rw [Option.isSome_iff_exists]
  constructor
  · rintro ⟨e,found,held⟩
    obtain ⟨agent,there,rfl⟩ := lookup_entry found
    obtain ⟨sid,bound⟩ := Option.ne_none_iff_exists'.mp held
    exact ⟨sid,sid_of_iff.mpr ⟨agent,there,bound⟩⟩
  · rintro ⟨sid,owned⟩
    obtain ⟨agent,there,bound⟩ := sid_of_iff.mp owned
    refine ⟨_,entry_lookup there,?_⟩
    rw [show (entry_of agent).held = _ from bound]
    simp

/-- A registration that launches a terminal leaves a launched one. -/
theorem launched_kept {daemon : BridgeDaemon} {fresh : RegisteredAgent} (source : is_transport_only_terminal fresh = true) :
    is_transport_only_terminal (registered_agent daemon fresh) = true := by
  rw [registered_agent]
  split
  · rw [is_transport_only_terminal,Bool.and_eq_true] at source ⊢
    exact ⟨source.1,by simp [carry_over,source.2]⟩
  · exact source

/-- A registration leaves a launched terminal when it launches one itself, or finds one. -/
theorem launched_origin {daemon : BridgeDaemon} (own : OwnKeys daemon) {fresh : RegisteredAgent}
    (source : is_transport_only_terminal (registered_agent daemon fresh) = true) :
    is_transport_only_terminal fresh = true ∨ ∃ existing, daemon.registered.lookup fresh.key = some existing ∧
      is_transport_only_terminal existing = true := by
  rw [registered_agent] at source
  split at source
  · rename_i existing found
    rw [is_transport_only_terminal,Bool.and_eq_true] at source
    obtain ⟨terminal,launched⟩ := source
    have same_kind : existing.kind = fresh.kind := congrArg Prod.fst (own _ existing found)
    rcases Bool.or_eq_true_iff.mp launched with now | before
    · left
      rw [is_transport_only_terminal,Bool.and_eq_true]
      exact ⟨terminal,now⟩
    · right
      refine ⟨existing,found,?_⟩
      rw [is_transport_only_terminal,Bool.and_eq_true,same_kind]
      exact ⟨terminal,before⟩
  · exact .inl source

/-- The registrations that promote a terminal are the actions that burden an exempt client. -/
theorem promotes_burdens {pre daemon : BridgeDaemon} (same : Rehashed pre daemon) (own : OwnKeys pre)
    (rowless : SourcesRowless pre) {event : Event} :
    Promotes pre event ↔ ∃ a ∈ actions daemon event, Burdens (directory pre) a := by
  constructor
  · rintro ⟨fresh,told,source,burden⟩
    refine ⟨_,cause_actions (.register told),?_⟩
    rw [launched_kept source]
    exact burden.imp id held_iff.mpr
  · rintro ⟨a,member,burdens⟩
    cases actions_cause member with
    | @register fresh told =>
      have source : is_transport_only_terminal (registered_agent daemon fresh) = true := by
        by_contra other
        rw [Bool.not_eq_true] at other
        rw [other] at burdens
        exact burdens
      rw [source] at burdens
      have burden : fresh.key ∈ pre.pending_board_sessions ∨ (sid_of pre fresh.key).isSome = true :=
        burdens.imp id held_iff.mp
      rw [registered_rehashed same] at source
      rcases launched_origin own source with now | ⟨existing,found,before⟩
      · exact ⟨fresh,told,now,burden⟩
      · -- a launched terminal that is there already has neither
        obtain ⟨unbound,out⟩ := rowless fresh.key existing found before
        rcases burden with waits | bound
        · exact absurd waits out
        · rw [sid_of,found,Option.bind_some,unbound] at bound
          cases bound
    | _ => exact burdens.elim

/-- From a state in which launched terminals have no row, they have none after a move exactly when it promotes none. -/
theorem rowless_move {m : BridgeMove} (move : bridge m) (sound : Sound m.pre) (own : OwnKeys m.pre)
    (rowless : SourcesRowless m.pre) : SourcesRowless m.post ↔ ¬ Promotes m.pre m.input := by
  obtain ⟨daemon,same,effect⟩ := move_simulates move
  rw [promotes_burdens same own rowless]
  rw [rowless_unburdened] at rowless ⊢
  rw [effect]
  constructor
  · rintro unburdened ⟨a,member,burdens⟩
    have stays : ∀ key, a ≠ .discover key ∧ a ≠ .leave key := by
      intro key
      constructor
      · rintro rfl; exact burdens
      · rintro rfl; exact burdens
    rw [cause_single (actions_cause member) stays] at unburdened
    exact burdened burdens unburdened
  · intro safe
    have kept : ∀ D, ∀ a ∈ actions daemon m.input, WellFormed D ∧ Unburdened D → ¬ Burdens D a →
        WellFormed (apply PermissionRequest.req_id D a) ∧ Unburdened (apply PermissionRequest.req_id D a) :=
      fun D a _ holds safe => ⟨wellFormed_apply a holds.1,unburdened_kept holds.1 holds.2 safe⟩
    rcases actions_shape daemon m.input with ⟨a,single⟩ | only
    · rw [single] at safe ⊢
      exact unburdened_kept sound.valid rowless (fun burdens => safe ⟨a,by simp,burdens⟩)
    · refine (applyAll_keeps (P := fun D => WellFormed D ∧ Unburdened D) ?_ ⟨sound.valid,rowless⟩).2
      intro D a member holds
      refine kept D a member holds ?_
      obtain ⟨key,rfl | rfl⟩ := only a member
      · exact id
      · exact id

/-- In a run launched terminals have no row on the board, in any state, exactly when no terminal is launched whose id
    has a sid already, or a request for one. -/
theorem rowless_run {ms : List BridgeMove} {daemon : BridgeDaemon} (run : Run ms daemon) :
    (∀ m ∈ ms, SourcesRowless m.post) ↔ ∀ m ∈ ms, ¬ Promotes m.pre m.input := by
  let Good := fun daemon => Sound daemon ∧ OwnKeys daemon
  have good_move : ∀ m : BridgeMove, bridge m → Good m.pre → Good m.post :=
    fun m move good => ⟨sound_move move good.1,own_keys_move move good.2⟩
  have good_new : Good BridgeDaemon.new := ⟨sound_new,by intro key agent found; cases found⟩
  have rowless_new : SourcesRowless BridgeDaemon.new := by intro key agent found; cases found
  constructor
  · intro rowless m member
    have before := (path_linked SourcesRowless run rowless_new rowless).2 m member
    obtain ⟨move,sound,own⟩ := path_moves good_move run good_new m member
    exact (rowless_move move sound own before).mp (rowless m member)
  · intro safe m member
    let Kept := fun daemon => Good daemon ∧ SourcesRowless daemon
    have kept : ∀ m : BridgeMove, bridge m ∧ ¬ Promotes m.pre m.input → Kept m.pre → Kept m.post := by
      rintro m ⟨move,safe⟩ ⟨good,before⟩
      exact ⟨good_move m move good,(rowless_move move good.1 good.2 before).mpr safe⟩
    obtain ⟨move,before⟩ := path_moves kept (path_restrict run safe) ⟨good_new,rowless_new⟩ m member
    exact (kept m move before).2

/-- A terminal is launched, and registered again without a launch. -/
def launched : List Event := [registration "terminal" "t" true,registration "terminal" "t" false]

theorem rowless_run_launched :
    (moves handle BridgeDaemon.new launched).Forall (fun m => SourcesRowless m.post) := by
  refine List.forall_iff_forall_mem.mpr ((rowless_run (run_events launched)).mpr ?_)
  have idle : ∀ m ∈ moves handle BridgeDaemon.new launched, m.pre.pending_board_sessions = [] ∧
      ∀ e ∈ m.pre.registered.entries, e.2.board_sid = none := by
    intro m member
    simp only [launched,moves,List.mem_cons,List.not_mem_nil,or_false] at member
    rcases member with rfl | rfl
    · decide
    · decide
  rintro m member ⟨fresh,_,_,waits | bound⟩
  · rw [(idle m member).1] at waits
    cases waits
  · obtain ⟨sid,owned⟩ := Option.isSome_iff_exists.mp bound
    obtain ⟨agent,found,bound⟩ := sid_of_iff.mp owned
    have free := (idle m member).2 _ (AList.mem_lookup_iff.mp found)
    rw [bound] at free
    cases free

/-- A terminal is registered without a launch, and then launched. -/
def promoted : List Event := [registration "terminal" "t" false,registration "terminal" "t" true]

theorem promoted_waits : ¬ ∀ daemon, Reachable daemon → SourcesRowless daemon := by
  intro rowless
  have there : ((finish handle BridgeDaemon.new promoted).registered.lookup (.Terminal,"t")).isSome := by decide
  have waits : (.Terminal,"t") ∈ (finish handle BridgeDaemon.new promoted).pending_board_sessions := by decide
  exact absurd waits (rowless _ ⟨_,run_events promoted⟩ _ _ (Option.some_get there).symm rfl).2

end VibeBridge.StreamSources
