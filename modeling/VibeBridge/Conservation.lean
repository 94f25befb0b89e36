import VibeBridge.Exchange

/-!
Every request for a session is accounted for. A REQUEST_SESSION is enqueued
exactly when its agent enters the queue, and an entry leaves the queue with a
grant, or because its agent is dropped (`requests_conserved`). So an agent that
waits is asked for only once, however often it is registered or discovered
(`waiting_silent`).
-/
namespace VibeBridge.Conservation
open Transitions Leases
open VibeBridge.Core VibeBridge.Protocol VibeBridge.Agent VibeBridge.Envelope VibeBridge.Daemon
open VibeBridge.Bridge VibeBridge.Sessions VibeBridge.Abstraction VibeBridge.Events VibeBridge.Bindings
open VibeBridge.Outbox VibeBridge.Exchange

/-- How many REQUEST_SESSIONs a move enqueues. -/
def requests_enqueued (m : BridgeMove) : Nat := (enqueued m).countP asks_session

/-- A SESSION_RESPONSE that is accepted consumes a grant. -/
def grants_consumed (m : BridgeMove) : Nat :=
  match m.input, m.output with
  | .board_message msg, .board (.ok ()) => if msg.cmd = .SessionResponse then 1 else 0
  | _, _ => 0

/-- How many entries of the queue an abort or a prune removes. -/
def entries_removed (m : BridgeMove) : Nat :=
  match aborted m with
  | some key => m.pre.pending_board_sessions.count key
  | none =>
    match m.output with
    | .dropped keys => m.pre.pending_board_sessions.countP (fun key => keys.contains key)
    | _ => 0

/-- What a move does to the queue. -/
inductive QueueMove (m : BridgeMove) : Prop
  | asks {keys : List AgentKey} (queue : m.post.pending_board_sessions = m.pre.pending_board_sessions ++ keys)
      (asked : List.Forall₂ AsksFor ((enqueued m).filter asks_session) keys) (granted : grants_consumed m = 0)
      (removed : entries_removed m = 0)
  | grants {key : AgentKey} (queue : m.pre.pending_board_sessions = key :: m.post.pending_board_sessions)
      (asked : (enqueued m).filter asks_session = []) (granted : grants_consumed m = 1) (removed : entries_removed m = 0)
      (bound : (sid_of m.post key).isSome = true)
  | aborts {key : AgentKey} (dropped : aborted m = some key)
      (queue : m.post.pending_board_sessions = m.pre.pending_board_sessions.filter (fun pending => pending ≠ key))
      (asked : (enqueued m).filter asks_session = []) (granted : grants_consumed m = 0)
      (gone : m.post.registered.lookup key = none)

/-! ## Moves -/

theorem no_requests {news : List HidMessage} (others : ∀ msg ∈ news, msg.cmd ≠ .RequestSession) :
    news.filter asks_session = [] := by
  rw [List.filter_eq_nil_iff]
  intro msg member
  simpa [asks_session] using others msg member

theorem enqueued_shorter {m : BridgeMove} {sent : List HidMessage} (outbox : m.pre.board_outbox = sent ++ m.post.board_outbox) :
    enqueued m = [] := by
  rw [enqueued,outbox,List.drop_eq_nil_iff,List.length_append]
  omega

/-- A prune removes no entry, since only bound agents are pruned. -/
theorem removed_none {m : BridgeMove} (move : bridge m) (sound : Sound m.pre)
    (stays : ∀ request, ¬ Carries m.input "session.abort" request) : entries_removed m = 0 := by
  obtain ⟨daemon,same,result⟩ := move
  have output : m.output = (handle daemon m.input).2 := (congrArg Prod.snd result).symm
  rw [entries_removed,aborted_none stays,output]
  cases m.input with
  | prune latest =>
    simp only [handle,List.countP_eq_zero]
    intro key waits dropped
    obtain ⟨sid,bound⟩ := pruned_bound (List.contains_iff_mem.mp dropped)
    obtain ⟨agent,found,unbound⟩ := pending_unbound sound waits
    rw [sid_of,rehashed_lookup same,found,Option.bind_some,unbound] at bound
    cases bound
  | _ => rfl

theorem granted_none {m : BridgeMove} (unanswered : ∀ sid payload, ¬ Answers m.input sid payload) : grants_consumed m = 0 := by
  rw [grants_consumed]
  split
  · rename_i msg input _
    rw [if_neg]
    intro response
    exact unanswered msg.sid msg.payload (by rw [Answers,input,← response])
  · rfl

theorem abort_move {m : BridgeMove} (move : bridge m) {request : RegistrationEnvelope}
    (told : Carries m.input "session.abort" request) : QueueMove m := by
  have unanswered : ∀ sid payload, ¬ Answers m.input sid payload := by
    obtain ⟨polled,input,_⟩ := told
    intro sid payload answers
    rw [input] at answers
    cases answers
  have granted := granted_none unanswered
  obtain ⟨daemon,same,result⟩ := move
  obtain ⟨polled,input,type⟩ := told
  obtain ⟨outbox,pending⟩ := rehashed_outbox same
  rw [input] at result
  simp only [handle,handle_json_line,type,Prod.mk.injEq] at result
  obtain ⟨post,output⟩ := result
  have unasked : enqueued m = [] :=
    enqueued_shorter (show m.pre.board_outbox = [] ++ m.post.board_outbox by rw [← post,abort_appends,List.nil_append,outbox])
  cases answer : (session_abort daemon request).2 with
  | error err =>
    have unchanged := Failures.abort_atomic daemon request err answer
    have nobody : aborted m = none := by
      rw [aborted,input,← output,answer]
    refine @QueueMove.asks m [] ?_ (by rw [unasked]; exact .nil) granted ?_
    · rw [← post,unchanged,List.append_nil,pending]
    · rw [entries_removed,nobody,← output]
  | ok response =>
    cases reading : request.read_abort with
    | error err => simp [session_abort,reading] at answer
    | ok key =>
      refine @QueueMove.aborts m key ?_ ?_ (by rw [unasked]; rfl) granted ?_
      · rw [aborted,input,← output,answer]
        simp [type,reading,Except.toOption]
      · rw [← post,aborts_accepted reading answer,pending]
      · rw [← post]
        simp only [session_abort,reading] at answer ⊢
        split
        · rename_i unknown; exact unknown
        · rw [KeyedMap.lookup_erase,if_pos rfl]

theorem answer_move {m : BridgeMove} (move : bridge m) (sound : Sound m.pre) {sid : UInt16} {payload : List UInt8}
    (answers : Answers m.input sid payload) : QueueMove m := by
  have stays : ∀ request, ¬ Carries m.input "session.abort" request := by
    rintro request ⟨polled,input,_⟩
    rw [answers] at input
    cases input
  have removed := removed_none move sound stays
  obtain ⟨news,outbox,others⟩ := response_move move answers
  have asked : (enqueued m).filter asks_session = [] := by
    rw [enqueued,outbox,List.drop_left]
    exact no_requests others
  by_cases refused : ¬ Grants sid payload ∨ m.pre.pending_board_sessions = []
  · obtain ⟨queue,_,output⟩ := refused_step move answers refused
    refine @QueueMove.asks m [] (by rw [queue,List.append_nil]) (by rw [asked]; exact .nil) ?_ removed
    rw [grants_consumed]
    split
    · rename_i accepted; exact absurd accepted output
    · rfl
  · obtain ⟨grants,some_pending⟩ := not_or.mp refused
    obtain ⟨key,waiting,queue⟩ := List.exists_cons_of_ne_nil some_pending
    obtain ⟨rest,output,bound,_⟩ := granted_step move sound answers (not_not.mp grants) queue
    refine .grants (by rw [queue,rest]) asked ?_ removed (by rw [bound]; rfl)
    rw [grants_consumed,output,show m.input = _ from answers]
    rfl

/-- A flush or a drain of the outbox. -/
theorem sends_move {m : BridgeMove} (move : bridge m) (sends : ¬ Keeps m.input) :
    enqueued m = [] ∧ m.post.pending_board_sessions = m.pre.pending_board_sessions := by
  have moved := move
  obtain ⟨daemon,same,result⟩ := moved
  have post : m.post = (handle daemon m.input).1 := (congrArg Prod.fst result).symm
  cases input : m.input with
  | flush is_connected send =>
    obtain ⟨sent,_,outbox,_⟩ := Flushing.flush_flow move input
    have quiet := congrArg Directory.waiting (quiet_flush daemon is_connected send)
    refine ⟨enqueued_shorter outbox,?_⟩
    rw [post,input]
    exact quiet.trans (rehashed_outbox same).2
  | drain =>
    rw [enqueued,post,input]
    exact ⟨by simp [handle,drain_board_outbox],(rehashed_outbox same).2⟩
  | _ =>
    rw [input] at sends
    exact absurd ⟨by simp,by simp⟩ sends

theorem queue_move {m : BridgeMove} (move : bridge m) (sound : Sound m.pre) : QueueMove m := by
  by_cases aborts : ∃ request, Carries m.input "session.abort" request
  · obtain ⟨request,told⟩ := aborts
    exact abort_move move told
  · have stays : ∀ request, ¬ Carries m.input "session.abort" request := fun request told => aborts ⟨request,told⟩
    by_cases answered : ∃ sid payload, Answers m.input sid payload
    · obtain ⟨sid,payload,answers⟩ := answered
      exact answer_move move sound answers
    · have unanswered : ∀ sid payload, ¬ Answers m.input sid payload :=
        fun sid payload answers => answered ⟨sid,payload,answers⟩
      have granted := granted_none unanswered
      have removed := removed_none move sound stays
      by_cases keeps : Keeps m.input
      · obtain ⟨daemon,same,result⟩ := move
        obtain ⟨keys,grown⟩ := handle_grows (sound_rehashed same sound) keeps stays unanswered
        rw [result] at grown
        obtain ⟨queue,news,outbox,asked⟩ := grown_rehashed same grown
        refine .asks queue ?_ granted removed
        rw [enqueued,outbox,List.drop_left]
        exact asked
      · obtain ⟨unasked,queue⟩ := sends_move move keeps
        exact @QueueMove.asks m [] (by rw [queue,List.append_nil]) (by rw [unasked]; exact .nil) granted removed

/-! ## Accounts -/

/-- What a move enqueues is what the queue gains, with what a grant or a drop takes from it. -/
theorem accounted_move {m : BridgeMove} (move : bridge m) (sound : Sound m.pre) :
    requests_enqueued m + m.pre.pending_board_sessions.length =
      grants_consumed m + entries_removed m + m.post.pending_board_sessions.length := by
  rw [requests_enqueued,List.countP_eq_length_filter]
  cases queue_move move sound with
  | asks queue asked granted removed =>
    rw [queue,granted,removed,asked.length_eq,List.length_append]
    omega
  | grants queue asked granted removed _ =>
    rw [queue,asked,granted,removed,List.length_nil,List.length_cons]
    omega
  | @aborts key dropped queue asked granted _ =>
    have parts := List.length_eq_countP_add_countP (fun pending => decide (pending ≠ key)) (l := m.pre.pending_board_sessions)
    have taken : m.pre.pending_board_sessions.count key =
        m.pre.pending_board_sessions.countP (fun pending => ¬ decide (pending ≠ key) = true) := by
      rw [List.count_eq_countP]
      refine List.countP_congr ?_
      intro pending _
      simp
    rw [queue,asked,granted,entries_removed,dropped,List.length_nil,← List.countP_eq_length_filter]
    simp only
    omega

/-- The event is a registration or a discovery of the agent, and of no other. -/
def CallsFor (event : Event) (key : AgentKey) : Prop :=
  (∃ fresh, Registers event fresh ∧ fresh.key = key) ∨
    ∃ sessions, event = .discovered_sessions sessions ∧ ∀ session ∈ sessions, (session.kind,session.agent_id) = key

theorem calls_plain {event : Event} {key : AgentKey} (calls : CallsFor event key) :
    (∀ request, ¬ Carries event "session.abort" request) ∧ ∀ sid payload, ¬ Answers event sid payload := by
  rcases calls with ⟨fresh,⟨request,⟨polled,rfl,type⟩,_⟩,_⟩ | ⟨sessions,rfl,_⟩
  · constructor
    · rintro request' ⟨polled',input,type'⟩
      cases input
      rw [type] at type'
      exact absurd type' (by decide)
    · intro sid payload answers
      cases answers
  · constructor
    · rintro request ⟨polled,input,_⟩
      cases input
    · intro sid payload answers
      cases answers

/-- An agent that waits goes on waiting while it is there and has no sid. -/
theorem waits_move {m : BridgeMove} (move : bridge m) (sound : Sound m.pre) {key : AgentKey}
    (waits : key ∈ m.pre.pending_board_sessions) (there : (m.post.registered.lookup key).isSome = true)
    (unbound : sid_of m.post key = none) : key ∈ m.post.pending_board_sessions := by
  cases queue_move move sound with
  | asks queue _ _ _ =>
    rw [queue]
    exact List.mem_append_left _ waits
  | grants queue _ _ _ bound =>
    rw [queue] at waits
    rcases List.mem_cons.mp waits with rfl | later
    · rw [unbound] at bound
      cases bound
    · exact later
  | aborts _ queue _ _ gone =>
    rw [queue,List.mem_filter]
    refine ⟨waits,?_⟩
    rw [decide_eq_true_eq]
    rintro rfl
    rw [gone] at there
    cases there

/-- No request is made for an agent that waits. -/
theorem waits_unasked {m : BridgeMove} (move : bridge m) (sound : Sound m.pre) {key : AgentKey}
    (waits : key ∈ m.pre.pending_board_sessions) :
    ∃ keys, List.Forall₂ AsksFor ((enqueued m).filter asks_session) keys ∧ key ∉ keys := by
  have distinct := (sound_move move sound).valid.distinct
  cases queue_move move sound with
  | @asks keys queue asked _ _ =>
    refine ⟨keys,asked,fun again => ?_⟩
    rw [show (directory m.post).waiting = _ from queue] at distinct
    exact List.disjoint_of_nodup_append distinct waits again
  | grants _ asked _ _ _ => exact ⟨[],by rw [asked]; exact .nil,by simp⟩
  | aborts _ _ asked _ _ => exact ⟨[],by rw [asked]; exact .nil,by simp⟩

/-- A call for an agent that waits makes no request at all. -/
theorem calls_silent {m : BridgeMove} (move : bridge m) (sound : Sound m.pre) {key : AgentKey}
    (waits : key ∈ m.pre.pending_board_sessions) (calls : CallsFor m.input key) : requests_enqueued m = 0 := by
  have accounts := accounted_move move sound
  obtain ⟨daemon,_,effect⟩ := move_simulates move
  obtain ⟨agent,found,_⟩ := pending_unbound sound waits
  have queue : (directory m.post).waiting = (directory m.pre).waiting := by
    rw [effect]
    rcases calls with ⟨fresh,told,rfl⟩ | ⟨sessions,input,about⟩
    · rw [cause_single (.register told) (by simp)]
      exact if_neg (fun new => new.2.2 waits)
    · rw [input]
      have known : ((directory m.pre).entry key).isSome = true := by rw [entry_lookup found]; rfl
      have same : act (directory m.pre) (actions daemon (.discovered_sessions sessions)) = directory m.pre := by
        refine applyAll_keeps (P := fun D => D = directory m.pre) ?_ rfl
        rintro D a member rfl
        obtain ⟨session,among,rfl⟩ := List.mem_map.mp member
        rw [apply,about session among,if_pos known]
      rw [same]
  have lengths := congrArg List.length (show m.post.pending_board_sessions = m.pre.pending_board_sessions from queue)
  have granted := granted_none (calls_plain calls).2
  have removed := removed_none move sound (calls_plain calls).1
  omega

/-- While an agent is there without a sid, and one request for it is outstanding, no other is made for it, and a
    registration or a discovery of the agent makes none at all. -/
theorem waiting_silent {start daemon : BridgeDaemon} {ms : List BridgeMove} (path : Path bridge start ms daemon)
    (sound : Sound start) {key : AgentKey} (waits : key ∈ start.pending_board_sessions)
    (stays : ∀ m ∈ ms, (m.post.registered.lookup key).isSome = true ∧ sid_of m.post key = none) :
    (key ∈ daemon.pending_board_sessions ∧ Sound daemon) ∧
      ∀ m ∈ ms, (∃ keys, List.Forall₂ AsksFor ((enqueued m).filter asks_session) keys ∧ key ∉ keys) ∧
        (CallsFor m.input key → requests_enqueued m = 0) := by
  induction path with
  | refl => exact ⟨⟨waits,sound⟩,by simp⟩
  | @next ms m before move ih =>
    obtain ⟨⟨waits,sound⟩,earlier⟩ := ih (fun m' member => stays m' (List.mem_append_left _ member))
    obtain ⟨there,unbound⟩ := stays m (by simp)
    refine ⟨⟨waits_move move sound waits there unbound,sound_move move sound⟩,?_⟩
    intro m' member
    rcases List.mem_append.mp member with old | new
    · exact earlier m' old
    · rw [List.mem_singleton.mp new]
      exact ⟨waits_unasked move sound waits,calls_silent move sound waits⟩

/-- In every run the REQUEST_SESSIONs that were ever enqueued are those that grants answered, those that aborts and
    prunes removed from the queue, and those that are still in it. While one is outstanding for an agent that is
    there without a sid, no other is made for it. -/
theorem requests_conserved {ms : List BridgeMove} {daemon : BridgeDaemon} (run : Run ms daemon) :
    (ms.map requests_enqueued).sum =
      (ms.map grants_consumed).sum + (ms.map entries_removed).sum + daemon.pending_board_sessions.length ∧
    ∀ {final since key}, Path bridge daemon since final → key ∈ daemon.pending_board_sessions →
      (∀ m ∈ since, (m.post.registered.lookup key).isSome = true ∧ sid_of m.post key = none) →
        ∀ m ∈ since, (∃ keys, List.Forall₂ AsksFor ((enqueued m).filter asks_session) keys ∧ key ∉ keys) ∧
          (CallsFor m.input key → requests_enqueued m = 0) := by
  constructor
  · induction run with
    | refl => rfl
    | @next ms m before move ih =>
      have accounts := accounted_move move (sound_path before sound_new)
      simp only [List.map_append,List.sum_append,List.map_cons,List.map_nil,List.sum_cons,List.sum_nil]
      omega
  · intro final since key path waits stays
    exact (waiting_silent path (sound_path run sound_new) waits stays).2

/-- Three agents ask for a session: one is granted it, one is aborted and one is registered again. -/
def asked_thrice : List Event :=
  [registration "claude" "x" false,registration "codex" "y" false,registration "claude" "z" false,full_flush,
    session_response 7 .Ok,abortion "codex" "y"]

theorem requests_conserved_thrice :
    ((moves handle BridgeDaemon.new asked_thrice).map requests_enqueued).sum = 3 ∧
      requests_enqueued (move_of (finish handle BridgeDaemon.new asked_thrice) (registration "claude" "z" true)) = 0 := by
  obtain ⟨accounts,silent⟩ := requests_conserved (run_events asked_thrice)
  have parts : ((moves handle BridgeDaemon.new asked_thrice).map grants_consumed).sum = 1 ∧
      ((moves handle BridgeDaemon.new asked_thrice).map entries_removed).sum = 1 ∧
      (finish handle BridgeDaemon.new asked_thrice).pending_board_sessions = [(.Claude,"z")] := by decide
  have calls : CallsFor (registration "claude" "z" true) (.Claude,"z") := .inl ⟨_,⟨_,⟨_,rfl,rfl⟩,rfl⟩,rfl⟩
  constructor
  · rw [accounts,parts.1,parts.2.1,parts.2.2]
    rfl
  · have path := path_one (bridge_move_of (finish handle BridgeDaemon.new asked_thrice) (registration "claude" "z" true))
    refine (silent path (by rw [parts.2.2]; simp) ?_ _ (List.mem_singleton.mpr rfl)).2 calls
    intro m member
    rw [List.mem_singleton.mp member]
    decide

end VibeBridge.Conservation
