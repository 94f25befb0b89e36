import VibeBridge.Approvals

/-!
Permissions over whole runs. A request that its agent does not touch again is
pending until the board decides it on the sid the agent has then; the next poll
gets the latest decision and no later poll gets it again (`permission_answers`).
But a PERMISSION_RES is stored whether its request is pending or not, and only
when the board never sends one for another request does every decision that a
poll returns belong to a request that was pending (`decisions_earned_iff`).
-/
namespace VibeBridge.Decisions
open Transitions Leases
open VibeBridge.Core VibeBridge.Protocol VibeBridge.Agent VibeBridge.Envelope VibeBridge.Daemon
open VibeBridge.Bridge VibeBridge.Abstraction VibeBridge.Events VibeBridge.Bindings VibeBridge.Approvals

section
variable {key : AgentKey} {req_id : UInt64}

/-! ## A request that its agent leaves alone -/

/-- The agent stays, and does not touch the request. -/
def Undisturbed (key : AgentKey) (req_id : UInt64) (m : BridgeMove) : Prop := Stays m key ∧ Unasked m key req_id

/-- The board makes no decision for the request. -/
def Undecided (key : AgentKey) (req_id : UInt64) (m : BridgeMove) : Prop := ∀ decision, ¬ DecidesFor m key req_id decision

/-- An undisturbed move keeps the agent and never makes the request pending; it
    changes the decision only by deciding or by polling. -/
theorem undisturbed_move {m : BridgeMove} (move : bridge m) (sound : Sound m.pre) (known : Known m.pre key)
    (undisturbed : Undisturbed key req_id m) :
    Known m.post key ∧ (Pending m.post key req_id → Pending m.pre key req_id) ∧
      (Undecided key req_id m → (Pending m.post key req_id ↔ Pending m.pre key req_id) ∧
        (decision_of m.pre key req_id = none → decision_of m.post key req_id = none) ∧
        (¬ Polls m.input key req_id → decision_of m.post key req_id = decision_of m.pre key req_id)) := by
  by_cases undecided : Undecided key req_id m
  · by_cases polls : Polls m.input key req_id
    · obtain ⟨known',pending,decision⟩ := poll_effect move polls known
      exact ⟨known',pending.mp,fun _ => ⟨pending,fun _ => decision,fun unpolled => absurd polls unpolled⟩⟩
    · obtain ⟨known',pending,decision⟩ := approval_move move known undisturbed.1 undisturbed.2 polls undecided
      exact ⟨known',pending.mp,fun _ => ⟨pending,decision.trans,fun _ => decision⟩⟩
  · obtain ⟨decision,decides⟩ := not_forall_not.mp undecided
    obtain ⟨known',settled,_⟩ := decision_effect move sound decides
    exact ⟨known',fun pending => absurd pending settled,fun none_made => absurd none_made undecided⟩

variable {ms : List BridgeMove} {s t : BridgeDaemon}

/-- The agent stays over undisturbed moves, and a request that is not pending stays so. -/
theorem undisturbed_path (path : Path bridge s ms t) (sound : Sound s) (known : Known s key)
    (undisturbed : ∀ m ∈ ms, Undisturbed key req_id m) :
    Sound t ∧ Known t key ∧ (¬ Pending s key req_id → ¬ Pending t key req_id) := by
  let Kept := fun d => Sound d ∧ Known d key ∧ (¬ Pending s key req_id → ¬ Pending d key req_id)
  have kept : ∀ m, bridge m ∧ Undisturbed key req_id m → Kept m.pre → Kept m.post := by
    rintro m ⟨move,quiet⟩ ⟨sound,known,settled⟩
    obtain ⟨known',pending,_⟩ := undisturbed_move move sound known quiet
    exact ⟨sound_move move sound,known',fun out now => settled out (pending now)⟩
  exact path_invariant (P := Kept) kept (path_restrict path undisturbed) ⟨sound,known,id⟩

/-- Without a decision, none comes to wait, and what is pending stays pending. -/
theorem undecided_path (path : Path bridge s ms t) (sound : Sound s) (known : Known s key)
    (undisturbed : ∀ m ∈ ms, Undisturbed key req_id m) (undecided : ∀ m ∈ ms, Undecided key req_id m)
    (none_waits : decision_of s key req_id = none) :
    (Pending t key req_id ↔ Pending s key req_id) ∧ decision_of t key req_id = none := by
  let Kept := fun d => Sound d ∧ Known d key ∧ (Pending d key req_id ↔ Pending s key req_id) ∧
    decision_of d key req_id = none
  have kept : ∀ m, bridge m ∧ Undisturbed key req_id m ∧ Undecided key req_id m → Kept m.pre → Kept m.post := by
    rintro m ⟨move,quiet,none_made⟩ ⟨sound,known,pending,decision⟩
    obtain ⟨known',_,others⟩ := undisturbed_move move sound known quiet
    obtain ⟨pending',decision',_⟩ := others none_made
    exact ⟨sound_move move sound,known',pending'.trans pending,decision' decision⟩
  have quiet := path_restrict path (fun m member => And.intro (undisturbed m member) (undecided m member))
  exact (path_invariant (P := Kept) kept quiet ⟨sound,known,Iff.rfl,none_waits⟩).2.2

/-- A decision waits until it is polled or the board decides again. -/
theorem unpolled_path (path : Path bridge s ms t) (sound : Sound s) (known : Known s key)
    (undisturbed : ∀ m ∈ ms, Undisturbed key req_id m)
    (untouched : ∀ m ∈ ms, ¬ Polls m.input key req_id ∧ Undecided key req_id m) :
    decision_of t key req_id = decision_of s key req_id := by
  let Kept := fun d => Sound d ∧ Known d key ∧ decision_of d key req_id = decision_of s key req_id
  have kept : ∀ m, bridge m ∧ Undisturbed key req_id m ∧ ¬ Polls m.input key req_id ∧ Undecided key req_id m →
      Kept m.pre → Kept m.post := by
    rintro m ⟨move,quiet,unpolled,none_made⟩ ⟨sound,known,decision⟩
    obtain ⟨known',_,others⟩ := undisturbed_move move sound known quiet
    obtain ⟨_,_,same⟩ := others none_made
    exact ⟨sound_move move sound,known',(same unpolled).trans decision⟩
  have quiet := path_restrict path (fun m member => And.intro (undisturbed m member) (untouched m member))
  exact (path_invariant (P := Kept) kept quiet ⟨sound,known,rfl⟩).2.2

/-! ### What a poll answers -/

/-- Before the board decides, a poll finds the request pending. -/
theorem poll_waiting (path : Path bridge s ms t) (sound : Sound s) (known : Known s key)
    (undisturbed : ∀ m ∈ ms, Undisturbed key req_id m) (pending : Pending s key req_id)
    (none_waits : decision_of s key req_id = none) (undecided : ∀ m ∈ ms, Undecided key req_id m)
    {poll : BridgeMove} (move : bridge poll) (here : poll.pre = t) (polls : Polls poll.input key req_id) :
    poll.output = .json (.ok (.permission_pending req_id true)) := by
  subst here
  obtain ⟨_,known',_⟩ := undisturbed_path path sound known undisturbed
  obtain ⟨still,none_yet⟩ := undecided_path path sound known undisturbed undecided none_waits
  obtain ⟨flag,output,meaning⟩ := (poll_answer move polls known').2 none_yet
  rw [output,meaning.mpr (still.mpr pending)]

/-- After the board decided, the next poll gets the latest decision. -/
theorem poll_decided {before after : List BridgeMove} {decided : BridgeMove} {decision : PermissionDecision}
    (path : Path bridge s (before ++ decided :: after) t) (sound : Sound s) (known : Known s key)
    (undisturbed : ∀ m ∈ before ++ decided :: after, Undisturbed key req_id m)
    (decides : DecidesFor decided key req_id decision)
    (untouched : ∀ m ∈ after, ¬ Polls m.input key req_id ∧ Undecided key req_id m)
    {poll : BridgeMove} (move : bridge poll) (here : poll.pre = t) (polls : Polls poll.input key req_id) :
    poll.output = .json (.ok (.permission_decision req_id decision.as_str)) := by
  subst here
  obtain ⟨first,deciding,rest⟩ := path_split path
  obtain ⟨sound₁,known₁,_⟩ := undisturbed_path first sound known
    (fun m member => undisturbed m (List.mem_append_left _ member))
  obtain ⟨known₂,_,stored⟩ := decision_effect deciding sound₁ decides
  have later : ∀ m ∈ after, Undisturbed key req_id m := fun m member => undisturbed m (by simp [member])
  have sound₂ := sound_move deciding sound₁
  obtain ⟨_,known₃,_⟩ := undisturbed_path rest sound₂ known₂ later
  exact (poll_answer move polls known₃).1 decision ((unpolled_path rest sound₂ known₂ later untouched).trans stored)

/-- After a poll took the decision, no poll gets one until the board decides again. -/
theorem poll_taken {before after : List BridgeMove} {taken : BridgeMove}
    (path : Path bridge s (before ++ taken :: after) t) (sound : Sound s) (known : Known s key)
    (undisturbed : ∀ m ∈ before ++ taken :: after, Undisturbed key req_id m)
    (decided : ∃ m ∈ before, ∃ decision, DecidesFor m key req_id decision) (takes : Polls taken.input key req_id)
    (undecided : ∀ m ∈ after, Undecided key req_id m)
    {poll : BridgeMove} (move : bridge poll) (here : poll.pre = t) (polls : Polls poll.input key req_id) :
    poll.output = .json (.ok (.permission_pending req_id false)) := by
  subst here
  obtain ⟨m,member,decision,decides⟩ := decided
  obtain ⟨b₁,b₂,rfl⟩ := List.append_of_mem member
  obtain ⟨first,taking,rest⟩ := path_split path
  obtain ⟨earlier,deciding,between⟩ := path_split first
  obtain ⟨sound₁,known₁,_⟩ := undisturbed_path earlier sound known
    (fun m member => undisturbed m (by simp [member]))
  obtain ⟨known₂,settled,_⟩ := decision_effect deciding sound₁ decides
  obtain ⟨sound₃,known₃,out⟩ := undisturbed_path between (sound_move deciding sound₁) known₂
    (fun m member => undisturbed m (by simp [member]))
  obtain ⟨known₄,same,none_left⟩ := poll_effect taking takes known₃
  have later : ∀ m ∈ after, Undisturbed key req_id m := fun m member => undisturbed m (by simp [member])
  have sound₄ := sound_move taking sound₃
  obtain ⟨_,known₅,_⟩ := undisturbed_path rest sound₄ known₄ later
  obtain ⟨still,none_yet⟩ := undecided_path rest sound₄ known₄ later undecided none_left
  obtain ⟨flag,output,meaning⟩ := (poll_answer move polls known₅).2 none_yet
  have low : flag = false := by
    cases flag with
    | false => rfl
    | true => exact absurd (same.mp (still.mp (meaning.mp rfl))) (out settled)
  rw [output,low]

end

/-- No permission of an agent is pending and decided at once. -/
theorem settled_run {ms : List BridgeMove} {daemon : BridgeDaemon} (run : Run ms daemon) {key : AgentKey}
    {agent : RegisteredAgent} (found : daemon.registered.lookup key = some agent) :
    ∀ p ∈ agent.pending_permissions, agent.resolved_permissions.lookup p.req_id = none := by
  have initial : Settled PermissionRequest.req_id (directory BridgeDaemon.new) := by
    intro key e req_id found
    cases found
  have settled := path_invariant (P := fun d => Settled PermissionRequest.req_id (directory d))
    (fun m move => move_keeps (fun D _ _ a _ => settled_apply a) move) run initial
  intro p member
  exact settled key (entry_of agent) p.req_id (entry_lookup found) ⟨p,member,rfl⟩

/-- Pending and decided permissions of an agent are disjoint. And after a request
    was accepted whose agent stays and neither asks for it again nor withdraws
    it, a poll for it finds it pending until the board decides it on the sid of
    the agent, the next poll returns the latest decision, and further polls return
    none until the board decides again. -/
theorem permission_answers {ms : List BridgeMove} {daemon : BridgeDaemon} (run : Run ms daemon) :
    (∀ key agent, daemon.registered.lookup key = some agent →
      ∀ p ∈ agent.pending_permissions, agent.resolved_permissions.lookup p.req_id = none) ∧
    ∀ key req_id before asked front poll back, ms = before ++ asked :: (front ++ poll :: back) →
      Asks asked key req_id → (∀ m ∈ front, Undisturbed key req_id m) → Polls poll.input key req_id →
      ((∀ m ∈ front, Undecided key req_id m) → poll.output = .json (.ok (.permission_pending req_id true))) ∧
      (∀ earlier decided later decision, front = earlier ++ decided :: later →
        DecidesFor decided key req_id decision →
        (∀ m ∈ later, ¬ Polls m.input key req_id ∧ Undecided key req_id m) →
        poll.output = .json (.ok (.permission_decision req_id decision.as_str))) ∧
      (∀ earlier taken later, front = earlier ++ taken :: later →
        (∃ m ∈ earlier, ∃ decision, DecidesFor m key req_id decision) → Polls taken.input key req_id →
        (∀ m ∈ later, Undecided key req_id m) →
        poll.output = .json (.ok (.permission_pending req_id false))) := by
  refine ⟨fun key agent found => settled_run run found,?_⟩
  rintro key req_id before asked front poll back rfl asks undisturbed polls
  obtain ⟨first,asking,rest⟩ := path_split run
  obtain ⟨path,move,_⟩ := path_split rest
  have known := asks_known asking asks
  obtain ⟨perm,told,rfl,_⟩ := asks
  obtain ⟨known',pending,none_waits⟩ := request_effect asking told known
  have sound := sound_move asking (sound_path first sound_new)
  refine ⟨?_,?_,?_⟩
  · intro undecided
    exact poll_waiting path sound known' undisturbed pending none_waits undecided move rfl polls
  · rintro earlier decided later decision rfl decides untouched
    exact poll_decided path sound known' undisturbed decides untouched move rfl polls
  · rintro earlier taken later rfl decided takes undecided
    exact poll_taken path sound known' undisturbed decided takes undecided move rfl polls

/-- A hook asks before its agent is bound; the board binds it, decides, and the hook polls twice. -/
def decided_request : List Event :=
  [registration "claude" "x" false,asking "claude" "x" 1,full_flush,session_response 7 .Ok,
    permission_response 7 1 .Deny,polling "claude" "x" 1,polling "claude" "x" 1]

/-- The first poll gets the decision. -/
theorem permission_answers_denied :
    (handle (finish handle BridgeDaemon.new (decided_request.take 5)) (polling "claude" "x" 1)).2 =
      .json (.ok (.permission_decision 1 "deny")) := by
  have quiet : ∀ m ∈ moves handle (finish handle BridgeDaemon.new (decided_request.take 2))
      ((decided_request.drop 2).take 3), Undisturbed (.Claude,"x") 1 m := by
    intro m member
    simp only [decided_request,List.take,List.drop,moves,List.mem_cons,List.not_mem_nil,or_false] at member
    rcases member with rfl | rfl | rfl
    all_goals
      refine ⟨⟨?_,fun keys output => by cases output⟩,?_,?_⟩
      · rintro ⟨request,⟨polled,told,_⟩,_⟩; cases told
      · rintro perm ⟨request,⟨polled,told,_⟩,_⟩; cases told
      · rintro ⟨request,⟨polled,told,_⟩,_⟩; cases told
  exact ((permission_answers (run_events (decided_request.take 6))).2 (.Claude,"x") 1
    (moves handle BridgeDaemon.new (decided_request.take 1)) _ _ ⟨_,polling "claude" "x" 1,_,_⟩ [] rfl
    ⟨_,⟨_,⟨_,rfl,rfl⟩,rfl⟩,rfl,rfl⟩ quiet ⟨_,⟨_,rfl,rfl⟩,rfl⟩).2.1
    (moves handle (finish handle BridgeDaemon.new (decided_request.take 2)) ((decided_request.drop 2).take 2))
    _ [] .Deny rfl ⟨7,⟨_,_,rfl,by decide,rfl,rfl⟩,rfl⟩ (by simp)

/-! ## Decisions for requests that are not pending -/

/-- Among the moves the agent's request was accepted, and later, while it was
    pending, the board decided it; since then nobody polled for it or asked anew. -/
def Earned (before : List BridgeMove) (key : AgentKey) (req_id : UInt64) (decision : PermissionDecision) : Prop :=
  ∃ b₁ asked b₂ decided b₃, before = b₁ ++ asked :: (b₂ ++ decided :: b₃) ∧ Asks asked key req_id ∧
    DecidesFor decided key req_id decision ∧ Pending decided.pre key req_id ∧
    ∀ m ∈ b₃, ¬ Polls m.input key req_id ∧ ¬ Asks m key req_id

/-- A poll returns a decision only if it was earned. -/
def AnswersEarned (before : List BridgeMove) (m : BridgeMove) : Prop :=
  ∀ key req_id decision, Polls m.input key req_id →
    m.output = .json (.ok (.permission_decision req_id decision.as_str)) → Earned before key req_id decision

/-- A PERMISSION_RES for a request that is not pending leaves no decision to be polled. -/
def IgnoresUnasked (m : BridgeMove) : Prop :=
  ∀ key req_id decision, DecidesFor m key req_id decision → ¬ Pending m.pre key req_id →
    decision_of m.post key req_id = decision_of m.pre key req_id

/-- The board decides a request that is not pending, other than it was decided already. -/
def DecidesUnasked (m : BridgeMove) : Prop :=
  ∃ key req_id decision, DecidesFor m key req_id decision ∧ ¬ Pending m.pre key req_id ∧
    decision_of m.pre key req_id ≠ some decision

/-- Every pending request was accepted, and every decision that waits was earned. -/
structure Justified (before : List BridgeMove) (daemon : BridgeDaemon) : Prop where
  sound : Sound daemon
  asked : ∀ key req_id, Pending daemon key req_id → ∃ m ∈ before, Asks m key req_id
  earned : ∀ key req_id decision, decision_of daemon key req_id = some decision → Earned before key req_id decision

/-- A decision that waits before and after a move is still as it was earned. -/
theorem earned_later {before : List BridgeMove} {m : BridgeMove} (move : bridge m) {key : AgentKey} {req_id : UInt64}
    {decision : PermissionDecision} (earned : Earned before key req_id decision)
    (old : decision_of m.pre key req_id = some decision) (stored : decision_of m.post key req_id = some decision) :
    Earned (before ++ [m]) key req_id decision := by
  obtain ⟨b₁,asked,b₂,decided,b₃,rfl,asks,decides,pending,untouched⟩ := earned
  obtain ⟨agent,found,_⟩ := Option.bind_eq_some_iff.mp old
  have unpolled : ¬ Polls m.input key req_id := by
    intro polls
    rw [(poll_effect move polls ⟨agent,found⟩).2.2] at stored
    cases stored
  have unasked : ¬ Asks m key req_id := by
    rintro ⟨perm,told,rfl,_⟩
    rw [(request_effect move told ⟨agent,found⟩).2.2] at stored
    cases stored
  refine ⟨b₁,asked,b₂,decided,b₃ ++ [m],by simp,asks,decides,pending,?_⟩
  intro m' member
  rcases List.mem_append.mp member with earlier | last
  · exact untouched m' earlier
  · rw [List.mem_singleton.mp last]; exact ⟨unpolled,unasked⟩

theorem justified_kept {before : List BridgeMove} {m : BridgeMove} (move : bridge m) (justified : Justified before m.pre)
    (safe : ¬ DecidesUnasked m) : Justified (before ++ [m]) m.post := by
  refine ⟨sound_move move justified.sound,?_,?_⟩
  · intro key req_id pending
    rcases pending_origin move pending with old | new
    · obtain ⟨m',member,asks⟩ := justified.asked key req_id old
      exact ⟨m',List.mem_append_left _ member,asks⟩
    · exact ⟨m,by simp,new⟩
  · intro key req_id decision stored
    rcases decision_origin move stored with old | decides
    · exact earned_later move (justified.earned key req_id decision old) old stored
    · by_cases pending : Pending m.pre key req_id
      · obtain ⟨asked,member,asks⟩ := justified.asked key req_id pending
        obtain ⟨b₁,b₂,rfl⟩ := List.append_of_mem member
        exact ⟨b₁,asked,b₂,m,[],by simp,asks,decides,pending,by simp⟩
      · have repeated : decision_of m.pre key req_id = some decision :=
          not_not.mp (fun other => safe ⟨key,req_id,decision,decides,pending,other⟩)
        exact earned_later move (justified.earned key req_id decision repeated) repeated stored

/-- A PERMISSION_RES for a request that is not pending changes nothing exactly
    when it repeats the decision that is stored. -/
theorem ignores_iff {m : BridgeMove} (move : bridge m) (sound : Sound m.pre) : IgnoresUnasked m ↔ ¬ DecidesUnasked m := by
  constructor
  · rintro ignores ⟨key,req_id,decision,decides,out,other⟩
    obtain ⟨_,_,stored⟩ := decision_effect move sound decides
    exact other ((ignores key req_id decision decides out).symm.trans stored)
  · intro safe key req_id decision decides out
    obtain ⟨_,_,stored⟩ := decision_effect move sound decides
    have repeated : decision_of m.pre key req_id = some decision :=
      not_not.mp (fun other => safe ⟨key,req_id,decision,decides,out,other⟩)
    rw [stored,repeated]

/-- Polls return only decisions on requests that were pending when the board
    decided them, and decisions on other requests are never stored, exactly when
    every PERMISSION_RES for the sid of an agent names a request that is pending
    for it or repeats the decision that is stored. -/
theorem decisions_earned_iff {ms : List BridgeMove} {daemon : BridgeDaemon} (run : Run ms daemon) :
    (∀ before m after, ms = before ++ m :: after → AnswersEarned before m ∧ IgnoresUnasked m) ↔
      ∀ m ∈ ms, ¬ DecidesUnasked m := by
  rw [← throughout_mem]
  refine throughout_iff (P := Justified) ?_ ?_ run ⟨sound_new,?_,?_⟩
  · intro before m move justified
    rw [ignores_iff move justified.sound]
    constructor
    · exact And.right
    · intro safe
      refine ⟨?_,safe⟩
      intro key req_id decision polls answered
      exact justified.earned key req_id decision (poll_takes move polls answered)
  · intro before m move justified safe
    exact justified_kept move justified safe
  · rintro key req_id ⟨agent,found,_⟩
    cases found
  · intro key req_id decision stored
    cases stored

/-- The board allows a request that nobody made, and a hook polls for it. -/
def unasked_decision : List Event :=
  [registration "claude" "x" false,full_flush,session_response 7 .Ok,permission_response 7 1 .Allow,
    polling "claude" "x" 1]

/-- The poll returns the decision, though no request was ever made. -/
theorem unasked_decision_returned : ¬ ∀ ms daemon, Run ms daemon →
    ∀ before m after, ms = before ++ m :: after → AnswersEarned before m ∧ IgnoresUnasked m := by
  intro claimed
  have earned := (claimed _ _ (run_events unasked_decision) (moves handle BridgeDaemon.new (unasked_decision.take 4))
    ⟨finish handle BridgeDaemon.new (unasked_decision.take 4),polling "claude" "x" 1,_,_⟩ [] rfl).1
    (.Claude,"x") 1 .Allow ⟨_,⟨_,rfl,rfl⟩,rfl⟩ rfl
  obtain ⟨b₁,asked,b₂,decided,b₃,whole,⟨perm,⟨request,⟨polled,told,type⟩,_⟩,_⟩,_⟩ := earned
  have member : asked ∈ moves handle BridgeDaemon.new (unasked_decision.take 4) := by rw [whole]; simp
  simp only [unasked_decision,List.take,moves,List.mem_cons,List.not_mem_nil,or_false] at member
  rcases member with rfl | rfl | rfl | rfl
  · cases told; exact absurd type (by decide)
  · cases told
  · cases told
  · cases told

/-- While the board decides pending requests only, a poll returns what it decided. -/
theorem decisions_earned_pending : Earned (moves handle BridgeDaemon.new (decided_request.take 5)) (.Claude,"x") 1
    .Deny := by
  refine ((decisions_earned_iff (run_events decided_request)).mpr ?_ _
    ⟨finish handle BridgeDaemon.new (decided_request.take 5),polling "claude" "x" 1,_,_⟩
    (moves handle (finish handle BridgeDaemon.new (decided_request.take 6)) (decided_request.drop 6)) rfl).1
    (.Claude,"x") 1 .Deny ⟨_,⟨_,rfl,rfl⟩,rfl⟩ rfl
  rintro m member ⟨key,req_id,decision,⟨sid,⟨payload,byte,told,_,reading,_⟩,owner⟩,out,_⟩
  simp only [decided_request,moves,List.mem_cons,List.not_mem_nil,or_false] at member
  rcases member with rfl | rfl | rfl | rfl | rfl | rfl | rfl
  · cases told
  · cases told
  · cases told
  · cases told
  · cases told
    cases reading
    have there : ((finish handle BridgeDaemon.new (decided_request.take 4)).registered.lookup (.Claude,"x")).isSome := by
      decide
    have sound := reachable_sound ⟨_,run_events (decided_request.take 4)⟩
    cases owner_unique sound owner (show sid_of _ (.Claude,"x") = _ from rfl)
    exact out ⟨_,(Option.some_get there).symm,_,List.mem_of_getLast? rfl,rfl⟩
  · cases told
  · cases told

end VibeBridge.Decisions
