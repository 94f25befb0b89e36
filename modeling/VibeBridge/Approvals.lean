import VibeBridge.Bindings

/-!
The permissions of an agent, call by call: which requests are pending and which
decisions wait to be polled. A request makes its id pending and forgets an older
decision on it, a PERMISSION_RES for the agent's sid leaves a decision, a poll
takes it away, and whatever else happens to the agent leaves both as they are
(`approval_move`).
-/
namespace VibeBridge.Approvals
open Transitions Leases
open VibeBridge.Core VibeBridge.Protocol VibeBridge.Payloads VibeBridge.Agent VibeBridge.Envelope VibeBridge.Daemon
open VibeBridge.Bridge VibeBridge.Sessions VibeBridge.Abstraction VibeBridge.Events VibeBridge.Bindings

/-- The agent is registered. -/
def Known (daemon : BridgeDaemon) (key : AgentKey) : Prop := ∃ agent, daemon.registered.lookup key = some agent

/-- A request of the agent with this id is pending. -/
def Pending (daemon : BridgeDaemon) (key : AgentKey) (req_id : UInt64) : Prop :=
  ∃ agent, daemon.registered.lookup key = some agent ∧ ∃ p ∈ agent.pending_permissions, p.req_id = req_id

/-- The decision that the agent's next poll for this id would get. -/
def decision_of (daemon : BridgeDaemon) (key : AgentKey) (req_id : UInt64) : Option PermissionDecision :=
  (daemon.registered.lookup key).bind (fun agent => agent.resolved_permissions.lookup req_id)

/-- The board decides a permission on the sid that the agent has at that moment. -/
def DecidesFor (m : BridgeMove) (key : AgentKey) (req_id : UInt64) (decision : PermissionDecision) : Prop :=
  ∃ sid, Decides m.input sid req_id decision ∧ sid_of m.pre key = some ⟨sid⟩

/-! ## Approvals in the directory -/

theorem known_entry {daemon : BridgeDaemon} {key : AgentKey} :
    Known daemon key ↔ ∃ e, (directory daemon).entry key = some e := by
  constructor
  · rintro ⟨agent,found⟩; exact ⟨_,entry_lookup found⟩
  · rintro ⟨e,found⟩
    obtain ⟨agent,registered,_⟩ := lookup_entry found
    exact ⟨agent,registered⟩

theorem pending_entry {daemon : BridgeDaemon} {key : AgentKey} {req_id : UInt64} : Pending daemon key req_id ↔
    ∃ e, (directory daemon).entry key = some e ∧ e.Asks PermissionRequest.req_id req_id := by
  constructor
  · rintro ⟨agent,found,asks⟩; exact ⟨_,entry_lookup found,asks⟩
  · rintro ⟨e,found,asks⟩
    obtain ⟨agent,registered,rfl⟩ := lookup_entry found
    exact ⟨agent,registered,asks⟩

theorem decision_entry (daemon : BridgeDaemon) (key : AgentKey) (req_id : UInt64) :
    decision_of daemon key req_id = ((directory daemon).entry key).bind (fun e => e.decided req_id) := by
  rw [decision_of,directory_entry]
  cases daemon.registered.lookup key <;> rfl

/-- The state of one approval, read off an entry. -/
theorem approval_entry {daemon : BridgeDaemon} {key : AgentKey} {e : AgentEntry}
    (found : (directory daemon).entry key = some e) (req_id : UInt64) : Known daemon key ∧
      (Pending daemon key req_id ↔ e.Asks PermissionRequest.req_id req_id) ∧
      decision_of daemon key req_id = e.decided req_id := by
  refine ⟨known_entry.mpr ⟨e,found⟩,?_,by rw [decision_entry,found]; rfl⟩
  rw [pending_entry]
  constructor
  · rintro ⟨e',found',asks⟩
    rw [found] at found'
    cases found'
    exact asks
  · intro asks; exact ⟨e,found,asks⟩

/-- An event with one action does just this to the directory. -/
theorem single_move {m : BridgeMove} (move : bridge m) :
    ∃ daemon, Rehashed m.pre daemon ∧ ∀ a, Cause daemon m.input a → (∀ key, a ≠ .discover key ∧ a ≠ .leave key) →
      directory m.post = apply PermissionRequest.req_id (directory m.pre) a := by
  obtain ⟨daemon,same,effect⟩ := move_simulates move
  refine ⟨daemon,same,?_⟩
  intro a cause stays
  rw [effect,cause_single cause stays]
  rfl

/-! ## What a call does to an approval -/

/-- A request makes its id pending, without a decision. -/
theorem request_effect {m : BridgeMove} (move : bridge m) {key : AgentKey} {perm : PermissionRequestPayload}
    (told : Requests m.input key perm) (known : Known m.pre key) :
    Known m.post key ∧ Pending m.post key perm.req_id ∧ decision_of m.post key perm.req_id = none := by
  obtain ⟨agent,found⟩ := known
  obtain ⟨daemon,same,single⟩ := single_move move
  have effect := single _ (.request told ((rehashed_lookup same key).trans found)) (by simp)
  have after : (directory m.post).entry key = some { entry_of agent with
      asked := (entry_of agent).asked ++ [recorded agent perm]
      decided := Function.update (entry_of agent).decided perm.req_id none } := by
    rw [effect,apply,modify_entry,if_pos rfl,entry_lookup found]
    rfl
  obtain ⟨known,pending,decision⟩ := approval_entry after _
  exact ⟨known,pending.mpr (asks_append.mpr (.inr rfl)),decision.trans (Function.update_self _ _ _)⟩

/-- A decision of the board ends the request and waits to be polled. -/
theorem decision_effect {m : BridgeMove} (move : bridge m) (sound : Sound m.pre) {key : AgentKey} {req_id : UInt64}
    {decision : PermissionDecision} (decides : DecidesFor m key req_id decision) :
    Known m.post key ∧ ¬ Pending m.post key req_id ∧ decision_of m.post key req_id = some decision := by
  obtain ⟨sid,told,owner⟩ := decides
  obtain ⟨agent,found,bound⟩ := sid_of_iff.mp owner
  obtain ⟨daemon,same,single⟩ := single_move move
  have effect := single _ (.decide told ((owner_found sound same).mpr ⟨found,bound⟩)) (by simp)
  have after : (directory m.post).entry key = some { entry_of agent with
      asked := (entry_of agent).asked.filter (fun p => p.req_id ≠ req_id)
      decided := Function.update (entry_of agent).decided req_id (some decision) } := by
    rw [effect,apply,modify_entry,if_pos rfl,entry_lookup found]
    rfl
  obtain ⟨known,pending,stored⟩ := approval_entry after _
  exact ⟨known,fun asks => (asks_filter.mp (pending.mp asks)).2 rfl,stored.trans (Function.update_self _ _ _)⟩

/-- A poll takes the decision. -/
theorem poll_effect {m : BridgeMove} (move : bridge m) {key : AgentKey} {req_id : UInt64}
    (polls : Polls m.input key req_id) (known : Known m.pre key) :
    Known m.post key ∧ (Pending m.post key req_id ↔ Pending m.pre key req_id) ∧
      decision_of m.post key req_id = none := by
  obtain ⟨agent,found⟩ := known
  obtain ⟨daemon,same,single⟩ := single_move move
  have effect := single _ (.poll polls) (by simp)
  have after : (directory m.post).entry key = some { entry_of agent with
      decided := Function.update (entry_of agent).decided req_id none } := by
    rw [effect,apply,modify_entry,if_pos rfl,entry_lookup found]
    rfl
  obtain ⟨known,pending,decision⟩ := approval_entry after _
  exact ⟨known,pending.trans (approval_entry (entry_lookup found) req_id).2.1.symm,decision.trans (Function.update_self _ _ _)⟩

/-- The agent is neither aborted nor pruned. -/
def Stays (m : BridgeMove) (key : AgentKey) : Prop :=
  ¬ Aborts m.input key ∧ ∀ keys, m.output = .dropped keys → key ∉ keys

/-- The agent neither asks for the permission nor withdraws it. -/
def Unasked (m : BridgeMove) (key : AgentKey) (req_id : UInt64) : Prop :=
  (∀ perm, Requests m.input key perm → perm.req_id ≠ req_id) ∧ ¬ Resolves m.input key req_id

/-- The owner that a decision finds is the agent with its sid. -/
theorem decides_owner {daemon other : BridgeDaemon} (same : Rehashed daemon other) {key : AgentKey}
    {agent : RegisteredAgent} {sid : UInt16}
    (owner : other.registered.findEntry (fun _ agent => agent.board_sid == some ⟨sid⟩) = some (key,agent)) :
    sid_of daemon key = some ⟨sid⟩ := by
  obtain ⟨found,bound⟩ := KeyedMap.findEntry_some owner
  rw [rehashed_lookup same] at found
  exact sid_of_iff.mpr ⟨agent,found,by simpa using bound⟩

/-- What every change by its causes keeps of an agent, a move keeps of an agent that stays. -/
theorem entry_kept {m : BridgeMove} (move : bridge m) {key : AgentKey} (stays : Stays m key) {P : AgentEntry → Prop}
    (kept : ∀ daemon D a e e', Rehashed m.pre daemon → Cause daemon m.input a →
      Changed PermissionRequest.req_id D key e a e' → P e → P e')
    (before : ∃ e, (directory m.pre).entry key = some e ∧ P e) : ∃ e, (directory m.post).entry key = some e ∧ P e := by
  obtain ⟨daemon,same,result⟩ := move
  have effect := handle_simulates daemon m.input
  rw [result,directory_rehashed same] at effect
  rw [show directory m.post = _ from effect]
  refine applyAll_keeps (P := fun D => ∃ e, D.entry key = some e ∧ P e) ?_ before
  rintro D a member ⟨e,found,holds⟩
  have cause := actions_cause member
  rcases known_apply PermissionRequest.req_id found a with ⟨rfl,_⟩ | ⟨e',after,change⟩
  · cases cause with
    | abort told _ => exact absurd told stays.1
    | prune told among =>
      rw [told] at result
      exact absurd among (stays.2 _ (congrArg Prod.snd result).symm)
  · exact ⟨e',after,kept daemon D a e e' same cause change holds⟩

/-- Nothing else that happens to the daemon touches an approval. -/
theorem approval_move {m : BridgeMove} (move : bridge m) {key : AgentKey} {req_id : UInt64}
    (known : Known m.pre key) (stays : Stays m key) (unasked : Unasked m key req_id)
    (unpolled : ¬ Polls m.input key req_id) (undecided : ∀ decision, ¬ DecidesFor m key req_id decision) :
    Known m.post key ∧ (Pending m.post key req_id ↔ Pending m.pre key req_id) ∧
      decision_of m.post key req_id = decision_of m.pre key req_id := by
  obtain ⟨e,before⟩ := known_entry.mp known
  obtain ⟨_,asked,decided⟩ := approval_entry before req_id
  let Same := fun e' : AgentEntry => (e'.Asks PermissionRequest.req_id req_id ↔ e.Asks PermissionRequest.req_id req_id) ∧
    e'.decided req_id = e.decided req_id
  obtain ⟨e',after,asks,decision⟩ : ∃ e', (directory m.post).entry key = some e' ∧ Same e' := by
    refine entry_kept move stays ?_ ⟨e,before,Iff.rfl,rfl⟩
    rintro daemon D a e₁ e₂ same cause change ⟨asks,decision⟩
    have noAsk : ∀ p, a = .ask key p → p.req_id ≠ req_id := by
      rintro p rfl
      cases cause with
      | request told _ => exact unasked.1 _ told
    have noWithdraw : a ≠ .withdraw key req_id := by
      rintro rfl
      cases cause with
      | resolve told => exact unasked.2 told
    have noTake : a ≠ .take key req_id := by
      rintro rfl
      cases cause with
      | poll told => exact unpolled told
    have noDecision : ∀ d, a ≠ .decide key req_id d := by
      rintro d rfl
      cases cause with
      | decide told owner => exact undecided d ⟨_,told,decides_owner same owner⟩
    obtain ⟨asks',decision'⟩ := approval_kept change noAsk noWithdraw noTake noDecision
    exact ⟨asks'.trans asks,decision'.trans decision⟩
  obtain ⟨known',asked',decided'⟩ := approval_entry after req_id
  exact ⟨known',asked'.trans (asks.trans asked.symm),decided'.trans (decision.trans decided.symm)⟩

theorem poll_reply {m : BridgeMove} (move : bridge m) {key : AgentKey} {req_id : UInt64}
    (polls : Polls m.input key req_id) : ∃ daemon request, Rehashed m.pre daemon ∧
      request.read_poll = .ok (key,req_id) ∧ m.output = .json (permission_poll daemon request).2 := by
  obtain ⟨daemon,same,result⟩ := move
  obtain ⟨request,⟨polled,input,type⟩,reading⟩ := polls
  rw [input] at result
  simp only [handle,handle_json_line,type,Prod.mk.injEq] at result
  exact ⟨daemon,request,same,reading,result.2.symm⟩

/-- A poll returns the decision that waits; without one it tells whether the request is pending. -/
theorem poll_answer {m : BridgeMove} (move : bridge m) {key : AgentKey} {req_id : UInt64}
    (polls : Polls m.input key req_id) (known : Known m.pre key) :
    (∀ decision, decision_of m.pre key req_id = some decision →
      m.output = .json (.ok (.permission_decision req_id decision.as_str))) ∧
    (decision_of m.pre key req_id = none →
      ∃ pending, m.output = .json (.ok (.permission_pending req_id pending)) ∧
        (pending = true ↔ Pending m.pre key req_id)) := by
  obtain ⟨agent,found⟩ := known
  obtain ⟨daemon,request,same,reading,output⟩ := poll_reply move polls
  have there : daemon.registered.lookup key = some agent := (rehashed_lookup same key).trans found
  have decision : decision_of m.pre key req_id = agent.resolved_permissions.lookup req_id := by
    rw [decision_of,found]
    rfl
  rw [output,decision]
  simp only [permission_poll,reading,there]
  constructor
  · intro d stored
    simp only [stored]
  · intro none_stored
    simp only [none_stored]
    refine ⟨_,rfl,?_⟩
    simp [Pending,found,List.any_eq_true]

/-- A poll that returns a decision takes one that waits. -/
theorem poll_takes {m : BridgeMove} (move : bridge m) {key : AgentKey} {req_id : UInt64}
    (polls : Polls m.input key req_id) {decision : PermissionDecision}
    (answered : m.output = .json (.ok (.permission_decision req_id decision.as_str))) :
    decision_of m.pre key req_id = some decision := by
  by_cases known : Known m.pre key
  · obtain ⟨decided,waiting⟩ := poll_answer move polls known
    cases stored : decision_of m.pre key req_id with
    | none =>
      obtain ⟨pending,output,_⟩ := waiting stored
      rw [output] at answered
      cases answered
    | some d =>
      rw [decided d stored] at answered
      simp only [Reply.json.injEq,Except.ok.injEq,Response.permission_decision.injEq,true_and] at answered
      rw [decision_text_injective answered]
  · obtain ⟨daemon,request,same,reading,output⟩ := poll_reply move polls
    have gone : daemon.registered.lookup key = none := by
      cases found : daemon.registered.lookup key with
      | none => rfl
      | some agent => exact absurd ⟨agent,(rehashed_lookup same key).symm.trans found⟩ known
    rw [output] at answered
    simp [permission_poll,reading,gone] at answered

/-! ## Where requests and decisions come from -/

/-- The agent's request for this id is accepted. -/
def Asks (m : BridgeMove) (key : AgentKey) (req_id : UInt64) : Prop :=
  ∃ perm, Requests m.input key perm ∧ perm.req_id = req_id ∧ m.output = .json (.ok .permission_queued)

/-- The request of an agent that is registered is accepted. -/
theorem request_accepted {m : BridgeMove} (move : bridge m) {key : AgentKey} {perm : PermissionRequestPayload}
    (told : Requests m.input key perm) (known : Known m.pre key) : m.output = .json (.ok .permission_queued) := by
  obtain ⟨agent,found⟩ := known
  obtain ⟨daemon,same,result⟩ := move
  obtain ⟨request,⟨polled,input,type⟩,reading⟩ := told
  rw [← rehashed_lookup same] at found
  rw [input] at result
  simp only [handle,handle_json_line,type,permission_request,reading,found,Prod.mk.injEq] at result
  exact result.2.symm

/-- A request is accepted only from an agent that is registered. -/
theorem asks_known {m : BridgeMove} (move : bridge m) {key : AgentKey} {req_id : UInt64} (asks : Asks m key req_id) :
    Known m.pre key := by
  obtain ⟨perm,⟨request,⟨polled,input,type⟩,reading⟩,_,output⟩ := asks
  obtain ⟨daemon,same,result⟩ := move
  cases found : daemon.registered.lookup key with
  | some agent => exact ⟨agent,(rehashed_lookup same key).symm.trans found⟩
  | none =>
    rw [input] at result
    simp only [handle,handle_json_line,type,permission_request,reading,found,Prod.mk.injEq] at result
    rw [← result.2] at output
    cases output

/-- A pending request was pending before, or is made now. -/
theorem pending_origin {m : BridgeMove} (move : bridge m) {key : AgentKey} {req_id : UInt64}
    (pending : Pending m.post key req_id) : Pending m.pre key req_id ∨ Asks m key req_id := by
  obtain ⟨e,after,p,asked,same_id⟩ := pending_entry.mp pending
  rcases move_entry move after with ⟨exempt,rfl⟩ | before | ⟨daemon,e',a,same,before,cause,change⟩
  · cases asked
  · exact .inl (pending_entry.mpr ⟨e,before,p,asked,same_id⟩)
  · rcases changed_asked change asked with old | rfl
    · exact .inl (pending_entry.mpr ⟨e',before,p,old,same_id⟩)
    · right
      cases cause with
      | request told found => exact ⟨_,told,same_id,request_accepted move told (known_entry.mpr ⟨e',before⟩)⟩

/-- A decision that waits did so before, or the board makes it now. -/
theorem decision_origin {m : BridgeMove} (move : bridge m) {key : AgentKey} {req_id : UInt64}
    {decision : PermissionDecision} (stored : decision_of m.post key req_id = some decision) :
    decision_of m.pre key req_id = some decision ∨ DecidesFor m key req_id decision := by
  rw [decision_entry] at stored
  obtain ⟨e,after,decided⟩ := Option.bind_eq_some_iff.mp stored
  rcases move_entry move after with ⟨exempt,rfl⟩ | before | ⟨daemon,e',a,same,before,cause,change⟩
  · cases decided
  · exact .inl ((approval_entry before req_id).2.2.trans decided)
  · rcases changed_decided change decided with old | rfl
    · exact .inl ((approval_entry before req_id).2.2.trans old)
    · right
      cases cause with
      | decide told owner => exact ⟨_,told,decides_owner same owner⟩

end VibeBridge.Approvals
