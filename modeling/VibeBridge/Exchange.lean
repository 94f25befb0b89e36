import VibeBridge.Ledgers
import VibeBridge.Failures
import VibeBridge.Flushing

/-!
The exchange of session requests with the board. A REQUEST_SESSION names no
agent and the answer to it neither; what relates them is their order. A ledger
beside the daemon records for which agent each request was made, which of them
the board received, and which are orphaned because their agent was aborted.
The board answers the requests it received one by one, the oldest first.

The daemon matches an answer with the first agent that waits. This goes wrong
in two ways: an aborted agent leaves the queue although its request is on its
way (`replies_right_iff`), and a rejected agent stays in the queue although its
request is answered (`grants_right_iff`).
-/
namespace VibeBridge.Exchange
open Transitions Leases Ledgers
open VibeBridge.Core VibeBridge.Protocol VibeBridge.Agent VibeBridge.Envelope VibeBridge.Daemon
open VibeBridge.Bridge VibeBridge.Sessions VibeBridge.Abstraction VibeBridge.Events VibeBridge.Bindings VibeBridge.Outbox
open VibeBridge.Flushing

abbrev RequestLedger := Ledger AgentKey

/-- The agent that a move drops because it asks to be aborted. -/
def aborted (m : BridgeMove) : Option AgentKey :=
  match m.input, m.output with
  | .json_line (.ok request) _, .json (.ok _) =>
    if request.message_type = "session.abort" then request.read_abort.toOption else none
  | _, _ => none

/-- The agents that a move puts into the queue, each together with a REQUEST_SESSION. -/
def newly_queued (m : BridgeMove) : List AgentKey :=
  m.post.pending_board_sessions.drop m.pre.pending_board_sessions.length

/-- How many requests a flush takes to the board; each is one frame. -/
def requests_delivered : Reply → Nat
  | .flushed delivered _ => delivered.countP asks_session
  | _ => 0

/-- The ledger after a move. -/
def observe (ledger : RequestLedger) (m : BridgeMove) : RequestLedger :=
  match aborted m with
  | some key => ledger.orphan key
  | none =>
    match m.input with
    | .board_message msg => if msg.cmd = .SessionResponse then ledger.answered else ledger.ask (newly_queued m)
    | .flush _ _ => ledger.deliver (requests_delivered m.output)
    | _ => ledger.ask (newly_queued m)

/-- The daemon and the ledger of its requests. -/
abbrev ExchangeMove := Move (BridgeDaemon × RequestLedger) Event Reply

/-- The daemon's part of a move. -/
def bridged (m : ExchangeMove) : BridgeMove := ⟨m.pre.1,m.input,m.post.1,m.output⟩

/-- The exchange: any move of the daemon, except that the outbox goes to the
    board only, and the board answers only requests that it received. -/
def exchange : System (BridgeDaemon × RequestLedger) Event Reply := fun m =>
  bridge (bridged m) ∧ m.post.2 = observe m.pre.2 (bridged m) ∧ m.input ≠ .drain ∧
    ∀ sid payload, Answers m.input sid payload → m.pre.2.received ≠ []

/-- A run of the exchange from its start. -/
def ExchangeRun (ms : List ExchangeMove) (final : BridgeDaemon × RequestLedger) : Prop :=
  Path exchange (BridgeDaemon.new,Ledger.empty) ms final

/-- The exchange handles an event in the order at hand. -/
def exchange_step (s : BridgeDaemon × RequestLedger) (event : Event) : (BridgeDaemon × RequestLedger) × Reply :=
  let r := handle s.1 event
  ((r.1, observe s.2 ⟨s.1,event,r.1,r.2⟩), r.2)

/-- The board can answer, and nothing else reads the outbox. -/
def possible (s : BridgeDaemon × RequestLedger) : Event → Bool
  | .drain => false
  | .board_message msg => msg.cmd != .SessionResponse || s.2.received != []
  | _ => true

/-- Events handled one after another are a run where each of them is possible. -/
theorem exchange_events (events : List Event)
    (all : ∀ m ∈ moves exchange_step (BridgeDaemon.new,Ledger.empty) events, possible m.pre m.input = true) :
    ExchangeRun (moves exchange_step (BridgeDaemon.new,Ledger.empty) events)
      (finish exchange_step (BridgeDaemon.new,Ledger.empty) events) := by
  refine moves_path _ events ?_
  intro m member
  have can := all m member
  have step := moves_step member
  simp only [exchange_step,Prod.mk.injEq] at step
  refine ⟨⟨m.pre.1,rehashed_refl _,?_⟩,?_,?_,?_⟩
  · exact Prod.ext (congrArg (·.1) step.1) step.2
  · rw [bridged,← step.1,← step.2]
  · intro drained
    rw [drained] at can
    cases can
  · intro sid payload answers
    rw [show m.input = _ from answers] at can
    simpa [possible] using can

theorem sound_exchange {m : ExchangeMove} (move : exchange m) (sound : Sound m.pre.1) : Sound m.post.1 :=
  sound_move move.1 sound

/-! ## What a move does to the queue and to the ledger -/

theorem aborts_accepted {daemon : BridgeDaemon} {request : RegistrationEnvelope} {key : AgentKey}
    (reading : request.read_abort = .ok key) {response : Response}
    (accepted : (session_abort daemon request).2 = .ok response) :
    (session_abort daemon request).1.pending_board_sessions =
      daemon.pending_board_sessions.filter (fun pending => pending ≠ key) := by
  unfold session_abort at accepted ⊢
  rw [reading] at accepted ⊢
  simp only at accepted ⊢
  split
  · rename_i gone; rw [gone] at accepted; cases accepted
  · exact filter_bne _ id key

theorem aborted_none {m : BridgeMove} (stays : ∀ request, ¬ Carries m.input "session.abort" request) :
    aborted m = none := by
  unfold aborted
  split
  · rename_i request polled response input output
    exact if_neg (fun type => stays request ⟨polled,input,type⟩)
  · rfl

/-- A move that aborts nobody, answers nothing and delivers nothing makes requests for the agents that it queues. -/
theorem observe_asks {ledger : RequestLedger} {m : BridgeMove} (nobody : aborted m = none)
    (unanswered : ∀ sid payload, ¬ Answers m.input sid payload)
    (unsent : ∀ is_connected send, m.input ≠ .flush is_connected send) :
    observe ledger m = ledger.ask (newly_queued m) := by
  unfold observe
  rw [nobody]
  simp only
  split
  · rename_i msg input
    rw [if_neg]
    intro response
    exact unanswered msg.sid msg.payload (by rw [Answers,input,← response])
  · rename_i is_connected send input
    exact absurd input (unsent is_connected send)
  · rfl

theorem newly_queued_grown {m : BridgeMove} {keys : List AgentKey}
    (pending : m.post.pending_board_sessions = m.pre.pending_board_sessions ++ keys) : newly_queued m = keys := by
  rw [newly_queued,pending,List.drop_left]

/-- What a move that answers no request does. -/
inductive Unanswered (m : ExchangeMove) : Prop
  /-- It queues agents, each with its request. -/
  | queues {keys : List AgentKey} (grown : Grown m.pre.1 m.post.1 keys) (ledger : m.post.2 = m.pre.2.ask keys)
  /-- It flushes the outbox. -/
  | flushes {is_connected : Bool} {send : Sends} (input : m.input = .flush is_connected send)
      (queue : m.post.1.pending_board_sessions = m.pre.1.pending_board_sessions)
      (ledger : m.post.2 = m.pre.2.deliver (requests_delivered m.output))
  /-- It drops an agent, whose request is an orphan then. -/
  | drops {key : AgentKey} (aborts : Aborts m.input key)
      (queue : m.post.1.pending_board_sessions = m.pre.1.pending_board_sessions.filter (fun pending => pending ≠ key))
      (outbox : m.post.1.board_outbox = m.pre.1.board_outbox) (ledger : m.post.2 = m.pre.2.orphan key)

theorem grown_rehashed {daemon other post : BridgeDaemon} {keys : List AgentKey} (same : Rehashed daemon other)
    (grown : Grown other post keys) : Grown daemon post keys := by
  obtain ⟨registered,_,rfl⟩ := same
  exact ⟨grown.pending,grown.outbox⟩

theorem abort_step {m : ExchangeMove} (move : exchange m) {request : RegistrationEnvelope}
    (told : Carries m.input "session.abort" request) : Unanswered m := by
  obtain ⟨⟨pre,ledger⟩,input,⟨post,ledger'⟩,output⟩ := m
  obtain ⟨⟨daemon,same,result⟩,observed,_,_⟩ := move
  obtain ⟨polled,rfl,type⟩ := told
  simp only [bridged,handle,handle_json_line,type,Prod.mk.injEq] at result same
  obtain ⟨rfl,rfl⟩ := result
  simp only at observed
  cases answer : (session_abort daemon request).2 with
  | error err =>
    have unchanged := Failures.abort_atomic daemon request err answer
    refine .queues (grown_rehashed same (by simp only [unchanged]; exact grown_refl daemon)) ?_
    rw [answer] at observed
    rw [observed,observe_asks (by simp [aborted,bridged]) (by simp [Answers,bridged]) (by simp [bridged]),
      newly_queued_grown]
    simp [bridged,unchanged,(rehashed_outbox same).2]
  | ok response =>
    cases reading : request.read_abort with
    | error err => simp [session_abort,reading] at answer
    | ok key =>
      refine .drops ⟨request,⟨polled,rfl,type⟩,reading⟩ ?_ ?_ ?_
      · exact (aborts_accepted reading answer).trans (by rw [(rehashed_outbox same).2])
      · exact (abort_appends daemon request).trans (rehashed_outbox same).1
      · have dropped : aborted ⟨pre,.json_line (.ok request) polled,(session_abort daemon request).1,
            .json (.ok response)⟩ = some key := by
          simp [aborted,type,reading,Except.toOption]
        rw [answer] at observed
        simp only [observed,bridged,observe,dropped]

theorem unanswered_step {m : ExchangeMove} (move : exchange m) (sound : Sound m.pre.1)
    (unanswered : ∀ sid payload, ¬ Answers m.input sid payload) : Unanswered m := by
  by_cases aborts : ∃ request, Carries m.input "session.abort" request
  · obtain ⟨request,told⟩ := aborts
    exact abort_step move told
  · obtain ⟨⟨daemon,same,result⟩,observed,undrained,_⟩ := move
    have nobody : aborted (bridged m) = none := aborted_none (fun request told => aborts ⟨request,told⟩)
    have post : m.post.1 = (handle daemon m.input).1 := (congrArg Prod.fst result).symm
    by_cases sent : ∃ is_connected send, m.input = .flush is_connected send
    · obtain ⟨is_connected,send,input⟩ := sent
      refine .flushes input ?_ ?_
      · have quiet := congrArg Directory.waiting (quiet_flush daemon is_connected send)
        rw [post,input]
        exact quiet.trans (rehashed_outbox same).2
      · simp only [observed,observe,nobody]
        rw [show (bridged m).input = .flush is_connected send from input]
        rfl
    · have unsent : ∀ is_connected send, m.input ≠ .flush is_connected send :=
        fun is_connected send input => sent ⟨is_connected,send,input⟩
      obtain ⟨keys,grown⟩ := handle_grows (sound_rehashed same sound) ⟨undrained,unsent⟩
        (fun request told => aborts ⟨request,told⟩) unanswered
      rw [← post] at grown
      have queued := grown_rehashed same grown
      refine .queues queued ?_
      rw [observed,observe_asks nobody unanswered unsent,newly_queued_grown queued.pending]

/-- An answer takes the oldest request off the ledger. -/
theorem answered_ledger {m : ExchangeMove} (move : exchange m) {sid : UInt16} {payload : List UInt8}
    (answers : Answers m.input sid payload) :
    ∃ r rest, m.pre.2.received = r :: rest ∧ m.post.2 = m.pre.2.answered ∧
      m.pre.2.outstanding = r :: m.post.2.outstanding := by
  obtain ⟨_,observed,_,received⟩ := move
  obtain ⟨r,rest,first⟩ := List.exists_cons_of_ne_nil (received sid payload answers)
  have nobody : aborted (bridged m) = none := by
    refine aborted_none ?_
    rintro request ⟨polled,input,_⟩
    rw [show (bridged m).input = _ from answers] at input
    cases input
  have after : m.post.2 = m.pre.2.answered := by
    rw [observed,observe,nobody,show (bridged m).input = _ from answers]
    rfl
  exact ⟨r,rest,first,after,by rw [after]; exact outstanding_answered first⟩

/-! ## The ledger and the outbox -/

/-- The requests that are queued in the ledger are the REQUEST_SESSIONs of the outbox, in order. -/
def Mirrors (s : BridgeDaemon × RequestLedger) : Prop :=
  List.Forall₂ AsksFor (s.1.board_outbox.filter asks_session) (s.2.queued.map (·.key))

theorem asked_requests {msgs : List HidMessage} {keys : List AgentKey} (asked : List.Forall₂ AsksFor msgs keys) :
    ∀ msg ∈ msgs, ∃ agent, msg = request_session_message agent := by
  induction asked with
  | nil => intro msg member; cases member
  | cons first _ ih =>
    intro msg member
    rcases List.mem_cons.mp member with rfl | later
    · obtain ⟨agent,_,same⟩ := first
      exact ⟨agent,same⟩
    · exact ih msg later

theorem mirrors_short {s : BridgeDaemon × RequestLedger} (mirrors : Mirrors s) :
    ∀ msg ∈ s.1.board_outbox, asks_session msg = true → frames_of msg = [msg] := by
  intro msg member asks
  obtain ⟨agent,rfl⟩ := asked_requests mirrors msg (List.mem_filter.mpr ⟨member,asks⟩)
  exact request_frames agent

/-- Every move of the exchange keeps the ledger true to the outbox; what a flush
    counts as delivered is what it takes from the outbox. -/
theorem mirrors_move {m : ExchangeMove} (move : exchange m) (sound : Sound m.pre.1) (mirrors : Mirrors m.pre) :
    Mirrors m.post := by
  unfold Mirrors at *
  by_cases answered : ∃ sid payload, Answers m.input sid payload
  · obtain ⟨sid,payload,answers⟩ := answered
    obtain ⟨_,_,_,after,_⟩ := answered_ledger move answers
    obtain ⟨news,outbox,others⟩ := response_move move.1 answers
    have none : news.filter asks_session = [] := by
      rw [List.filter_eq_nil_iff]
      intro msg member
      simpa [asks_session] using others msg member
    rw [show m.post.1.board_outbox = _ from outbox,List.filter_append,none,List.append_nil,after]
    exact mirrors
  · cases unanswered_step move sound (fun sid payload answers => answered ⟨sid,payload,answers⟩) with
    | queues grown ledger =>
      obtain ⟨_,news,outbox,asked⟩ := grown
      rw [outbox,List.filter_append,ledger,Ledger.ask,List.map_append]
      refine List.rel_append mirrors ?_
      simpa [Function.comp_def,Request.fresh] using asked
    | flushes input _ ledger =>
      obtain ⟨sent,outbox,count⟩ := flush_requests move.1 input (mirrors_short mirrors)
      have moved : requests_delivered m.output = (sent.filter asks_session).length := by
        rw [← count]
        unfold requests_delivered delivered
        rw [show (bridged m).output = m.output from rfl]
        cases m.output <;> rfl
      have rest := List.forall₂_drop (sent.filter asks_session).length mirrors
      rw [show m.pre.1.board_outbox = sent ++ m.post.1.board_outbox from outbox,List.filter_append,List.drop_left] at rest
      rw [ledger,moved,Ledger.deliver,List.map_drop]
      exact rest
    | drops _ _ outbox ledger =>
      rw [outbox,ledger,Ledger.orphan,List.map_map]
      simpa only [Function.comp_def,orphan_key] using mirrors

/-- In a run of the exchange the ledger is true to the outbox. -/
theorem mirrors_run {ms : List ExchangeMove} {final : BridgeDaemon × RequestLedger} (run : ExchangeRun ms final) :
    Mirrors final := by
  let Kept := fun s : BridgeDaemon × RequestLedger => Sound s.1 ∧ Mirrors s
  have kept : ∀ m, exchange m → Kept m.pre → Kept m.post :=
    fun m move ⟨sound,mirrors⟩ => ⟨sound_exchange move sound,mirrors_move move sound mirrors⟩
  exact (path_invariant kept run ⟨sound_new,.nil⟩).2

/-! ## Answers for the right agent -/

/-- A granted sid goes to the agent whose request is answered; where that agent
    was aborted, it goes to nobody. -/
def AnsweredRight (m : ExchangeMove) : Prop :=
  ∀ sid payload r rest, Answers m.input sid payload → Grants sid payload → m.pre.2.received = r :: rest →
    (r.live = true → m.output = .board (.ok ()) ∧ sid_of m.post.1 r.key = some ⟨sid⟩) ∧
    (r.live = false → ∀ key, sid_of m.post.1 key = some ⟨sid⟩ → sid_of m.pre.1 key = some ⟨sid⟩)

/-- Those who wait are those who made a live request, in this order; before them
    may be agents whose requests were answered without a grant. -/
structure Aligned (refused : List AgentKey) (s : BridgeDaemon × RequestLedger) : Prop where
  sound : Sound s.1
  pending : s.1.pending_board_sessions = refused ++ liveKeys s.2.outstanding

theorem aligned_start : Aligned [] (BridgeDaemon.new,Ledger.empty) := ⟨sound_new,rfl⟩

/-- A move that answers nothing keeps the alignment. -/
theorem aligned_unanswered {m : ExchangeMove} (move : exchange m) {refused : List AgentKey}
    (aligned : Aligned refused m.pre) (unanswered : ∀ sid payload, ¬ Answers m.input sid payload) :
    Aligned refused m.post ∨
      ∃ key, Aborts m.input key ∧ Aligned (refused.filter (fun pending => pending ≠ key)) m.post := by
  have sound := sound_exchange move aligned.sound
  cases unanswered_step move aligned.sound unanswered with
  | queues grown ledger =>
    left
    refine ⟨sound,?_⟩
    rw [grown.pending,ledger,outstanding_ask,aligned.pending,liveKeys_append,liveKeys_fresh,List.append_assoc]
  | flushes _ queue ledger =>
    left
    refine ⟨sound,?_⟩
    rw [queue,ledger,outstanding_deliver,aligned.pending]
  | drops aborts queue _ ledger =>
    right
    refine ⟨_,aborts,sound,?_⟩
    rw [queue,ledger,outstanding_orphan,aligned.pending,liveKeys_orphan,List.filter_append]

/-! ### Aborted agents -/

/-- The board answers the request of an aborted agent while a request that is
    still wanted is outstanding. -/
def AnswersOrphan (m : ExchangeMove) : Prop :=
  ∃ sid payload r rest, Answers m.input sid payload ∧ m.pre.2.received = r :: rest ∧ r.live = false ∧
    ∃ r' ∈ rest ++ m.pre.2.queued, r'.live = true

theorem answeredRight_iff {m : ExchangeMove} {sid : UInt16} {payload : List UInt8} {r : Request AgentKey}
    {rest : List (Request AgentKey)} (answers : Answers m.input sid payload) (grants : Grants sid payload)
    (first : m.pre.2.received = r :: rest) : AnsweredRight m ↔
      (r.live = true → m.output = .board (.ok ()) ∧ sid_of m.post.1 r.key = some ⟨sid⟩) ∧
      (r.live = false → ∀ key, sid_of m.post.1 key = some ⟨sid⟩ → sid_of m.pre.1 key = some ⟨sid⟩) := by
  constructor
  · intro right
    exact right sid payload r rest answers grants first
  · intro right sid' payload' r' rest' answers' _ first'
    rw [Answers,answers] at answers'
    cases answers'
    rw [first] at first'
    cases first'
    exact right

theorem answersOrphan_iff {m : ExchangeMove} {sid : UInt16} {payload : List UInt8} {r : Request AgentKey}
    {rest : List (Request AgentKey)} (answers : Answers m.input sid payload) (first : m.pre.2.received = r :: rest) :
    AnswersOrphan m ↔ r.live = false ∧ ∃ r' ∈ rest ++ m.pre.2.queued, r'.live = true := by
  constructor
  · rintro ⟨_,_,r',rest',_,first',orphan⟩
    rw [first] at first'
    cases first'
    exact orphan
  · rintro orphan
    exact ⟨sid,payload,r,rest,answers,first,orphan⟩

/-- A grant for a live request goes to the agent that made it. -/
theorem granted_live {m : ExchangeMove} (move : exchange m) (aligned : Aligned [] m.pre) {sid : UInt16}
    {payload : List UInt8} {r : Request AgentKey} {rest : List (Request AgentKey)}
    (answers : Answers m.input sid payload) (grants : Grants sid payload) (first : m.pre.2.received = r :: rest)
    (live : r.live = true) : AnsweredRight m ∧ Aligned [] m.post := by
  obtain ⟨r',rest',first',_,outstanding⟩ := answered_ledger move answers
  rw [first] at first'
  cases first'
  have queue := aligned.pending
  rw [List.nil_append,outstanding,liveKeys_cons,if_pos live] at queue
  obtain ⟨pending,output,bound,_⟩ := granted_step move.1 aligned.sound answers grants queue
  refine ⟨(answeredRight_iff answers grants first).mpr ⟨fun _ => ⟨output,bound⟩,?_⟩,sound_exchange move aligned.sound,pending⟩
  intro orphan
  rw [live] at orphan
  cases orphan

/-- A grant for an orphan goes to nobody when nobody waits, and to the wrong agent otherwise. -/
theorem granted_orphan {m : ExchangeMove} (move : exchange m) (aligned : Aligned [] m.pre) {sid : UInt16}
    {payload : List UInt8} {r : Request AgentKey} {rest : List (Request AgentKey)}
    (answers : Answers m.input sid payload) (grants : Grants sid payload) (first : m.pre.2.received = r :: rest)
    (orphan : r.live = false) :
    (AnsweredRight m ↔ ¬ AnswersOrphan m) ∧ (¬ AnswersOrphan m → Aligned [] m.post) := by
  obtain ⟨r',rest',first',after,outstanding⟩ := answered_ledger move answers
  rw [first] at first'
  cases first'
  have later : m.post.2.outstanding = rest ++ m.pre.2.queued := by
    rw [after,Ledger.outstanding,Ledger.answered,first]
    rfl
  have queue := aligned.pending
  rw [List.nil_append,outstanding,liveKeys_cons,orphan,if_neg (by simp),later] at queue
  rw [answersOrphan_iff answers first,← liveKeys_ne_nil,← queue]
  cases waiting : m.pre.1.pending_board_sessions with
  | nil =>
    obtain ⟨pending,sids,_⟩ := refused_step move.1 answers (.inr waiting)
    have right : AnsweredRight m := by
      refine (answeredRight_iff answers grants first).mpr ⟨fun live => ?_,fun _ key bound => ?_⟩
      · rw [orphan] at live; cases live
      · exact (sids key).symm.trans bound
    refine ⟨⟨fun _ => by simp,fun _ => right⟩,fun _ => ⟨sound_exchange move aligned.sound,?_⟩⟩
    rw [show m.post.1.pending_board_sessions = _ from pending,List.nil_append,later]
    exact queue
  | cons key others =>
    obtain ⟨_,_,bound,unbound⟩ := granted_step move.1 aligned.sound answers grants waiting
    have wrong : ¬ AnsweredRight m := by
      intro right
      have had := ((answeredRight_iff answers grants first).mp right).2 orphan key bound
      rw [show sid_of m.pre.1 key = none from unbound] at had
      cases had
    exact ⟨⟨fun right => absurd right wrong,fun safe => absurd ⟨orphan,by simp⟩ safe⟩,
      fun safe => absurd ⟨orphan,by simp⟩ safe⟩

/-- In an aligned exchange an answer is right unless it answers an orphan while
    somebody waits, and then the alignment lasts. -/
theorem granted_aligned {m : ExchangeMove} (move : exchange m) (aligned : Aligned [] m.pre)
    (grants : ∀ sid payload, Answers m.input sid payload → Grants sid payload) :
    (AnsweredRight m ↔ ¬ AnswersOrphan m) ∧ (¬ AnswersOrphan m → Aligned [] m.post) := by
  by_cases answered : ∃ sid payload, Answers m.input sid payload
  · obtain ⟨sid,payload,answers⟩ := answered
    obtain ⟨r,rest,first,_,_⟩ := answered_ledger move answers
    cases live : r.live with
    | true =>
      obtain ⟨right,kept⟩ := granted_live move aligned answers (grants sid payload answers) first live
      have safe : ¬ AnswersOrphan m := by
        rw [answersOrphan_iff answers first,live]
        simp
      exact ⟨⟨fun _ => safe,fun _ => right⟩,fun _ => kept⟩
    | false => exact granted_orphan move aligned answers (grants sid payload answers) first live
  · have unanswered : ∀ sid payload, ¬ Answers m.input sid payload :=
      fun sid payload answers => answered ⟨sid,payload,answers⟩
    have right : AnsweredRight m := fun sid payload r rest answers => absurd answers (unanswered sid payload)
    have safe : ¬ AnswersOrphan m := fun ⟨sid,payload,_,_,answers,_⟩ => unanswered sid payload answers
    refine ⟨⟨fun _ => safe,fun _ => right⟩,fun _ => ?_⟩
    rcases aligned_unanswered move aligned unanswered with kept | ⟨key,_,kept⟩
    · exact kept
    · exact kept

/-- When the board answers every request once, in order and with a grant, every
    grant goes to the agent that asked for it, exactly when no request of an
    aborted agent is answered while a later agent waits. -/
theorem replies_right_iff {ms : List ExchangeMove} {final : BridgeDaemon × RequestLedger} (run : ExchangeRun ms final)
    (grants : ∀ m ∈ ms, ∀ sid payload, Answers m.input sid payload → Grants sid payload) :
    (∀ m ∈ ms, AnsweredRight m) ↔ ∀ m ∈ ms, ¬ AnswersOrphan m := by
  have path := path_restrict run grants
  rw [← throughout_mem,← throughout_mem]
  refine throughout_iff (P := fun _ s => Aligned [] s) ?_ ?_ path aligned_start
  · rintro _ m ⟨move,grants⟩ aligned
    exact (granted_aligned move aligned grants).1
  · rintro _ m ⟨move,grants⟩ aligned safe
    exact (granted_aligned move aligned grants).2 safe

/-- Two agents ask for a session. The first is aborted while its request is at
    the board, and the board grants it. -/
def aborted_request : List Event :=
  [registration "claude" "x" false,registration "codex" "y" false,full_flush,abortion "claude" "x",
    session_response 7 .Created]

/-- The second agent gets the sid that the board meant for the first. -/
theorem aborted_request_misbound : ¬ ∀ ms final, ExchangeRun ms final →
    (∀ m ∈ ms, ∀ sid payload, Answers m.input sid payload → Grants sid payload) → ∀ m ∈ ms, AnsweredRight m := by
  intro claimed
  let before := finish exchange_step (BridgeDaemon.new,Ledger.empty) (aborted_request.take 4)
  have right := claimed _ _ (exchange_events aborted_request (by decide)) (by
    intro m member sid payload answers
    simp only [aborted_request,moves,List.mem_cons,List.not_mem_nil,or_false] at member
    rcases member with rfl | rfl | rfl | rfl | rfl
    · cases answers
    · cases answers
    · cases answers
    · cases answers
    · cases answers; decide)
    ⟨before,session_response 7 .Created,_,_⟩ (List.mem_of_getLast? rfl)
  have had := (right 7 [1] ⟨(.Claude,"x"),false⟩ [⟨(.Codex,"y"),true⟩] rfl (by decide) rfl).2 rfl (.Codex,"y") rfl
  cases had

/-- An agent is aborted and its request answered while nobody waits; then another asks and is answered. -/
def aborted_alone : List Event :=
  [registration "claude" "x" false,full_flush,abortion "claude" "x",session_response 7 .Created,
    registration "codex" "y" false,full_flush,session_response 8 .Created]

/-- The answer to the second agent is not lost. -/
theorem replies_right_alone : sid_of (finish exchange_step (BridgeDaemon.new,Ledger.empty) aborted_alone).1
    (.Codex,"y") = some ⟨8⟩ := by
  let before := finish exchange_step (BridgeDaemon.new,Ledger.empty) (aborted_alone.take 6)
  have right := (replies_right_iff (exchange_events aborted_alone (by decide)) (by
    intro m member sid payload answers
    simp only [aborted_alone,moves,List.mem_cons,List.not_mem_nil,or_false] at member
    rcases member with rfl | rfl | rfl | rfl | rfl | rfl | rfl
    · cases answers
    · cases answers
    · cases answers
    · cases answers; decide
    · cases answers
    · cases answers
    · cases answers; decide)).mpr (by
    rintro m member ⟨sid,payload,r,rest,answers,first,orphan,r',later,live⟩
    simp only [aborted_alone,moves,List.mem_cons,List.not_mem_nil,or_false] at member
    rcases member with rfl | rfl | rfl | rfl | rfl | rfl | rfl
    · cases answers
    · cases answers
    · cases answers
    · cases first; cases later
    · cases answers
    · cases answers
    · cases first; cases orphan)
    ⟨before,session_response 8 .Created,_,_⟩ (List.mem_of_getLast? rfl)
  exact ((right 8 [1] ⟨(.Codex,"y"),true⟩ [] rfl (by decide) rfl).1 rfl).2

/-! ### Rejected agents -/

/-- The board answers a request with a sid. -/
def AnswerGrants (m : ExchangeMove) : Prop := ∃ sid payload, Answers m.input sid payload ∧ Grants sid payload

/-- The board answers a request with a failure, or with sid 0. -/
def AnswerRejects (m : ExchangeMove) : Prop := ∃ sid payload, Answers m.input sid payload ∧ ¬ Grants sid payload

/-- A granted sid goes to the agent whose request is answered. -/
def GrantBinds (m : ExchangeMove) : Prop :=
  ∀ sid payload r rest, Answers m.input sid payload → Grants sid payload → m.pre.2.received = r :: rest →
    m.output = .board (.ok ()) ∧ sid_of m.post.1 r.key = some ⟨sid⟩

/-- Those who wait are the rejected agents, then those whose requests are
    outstanding; nobody is rejected as long as no answer was a rejection. -/
def Rejected (before : List ExchangeMove) (s : BridgeDaemon × RequestLedger) : Prop :=
  ∃ refused, Aligned refused s ∧ (∀ r ∈ s.2.outstanding, r.live = true) ∧
    (refused = [] ↔ ∀ m ∈ before, ¬ AnswerRejects m)

theorem answer_unique {m : ExchangeMove} {sid sid' : UInt16} {payload payload' : List UInt8}
    (answers : Answers m.input sid payload) (answers' : Answers m.input sid' payload') : sid' = sid ∧ payload' = payload := by
  rw [Answers,answers] at answers'
  cases answers'
  exact ⟨rfl,rfl⟩

/-- Without aborts every outstanding request stays live. -/
theorem live_kept {m : ExchangeMove} (move : exchange m) (sound : Sound m.pre.1) (stays : ∀ key, ¬ Aborts m.input key)
    (live : ∀ r ∈ m.pre.2.outstanding, r.live = true) : ∀ r ∈ m.post.2.outstanding, r.live = true := by
  by_cases answered : ∃ sid payload, Answers m.input sid payload
  · obtain ⟨sid,payload,answers⟩ := answered
    obtain ⟨r,_,_,_,outstanding⟩ := answered_ledger move answers
    intro r' later
    exact live r' (by rw [outstanding]; exact List.mem_cons_of_mem _ later)
  · cases unanswered_step move sound (fun sid payload answers => answered ⟨sid,payload,answers⟩) with
    | queues _ ledger =>
      rw [ledger,outstanding_ask]
      intro r member
      rcases List.mem_append.mp member with old | new
      · exact live r old
      · obtain ⟨key,_,rfl⟩ := List.mem_map.mp new
        rfl
    | flushes _ _ ledger =>
      rw [ledger,outstanding_deliver]
      exact live
    | drops aborts _ _ _ => exact absurd aborts (stays _)

/-- A grant binds the agent whose request it answers exactly when nobody was rejected before. -/
theorem grant_binds_iff {m : ExchangeMove} (move : exchange m) {before : List ExchangeMove}
    (rejected : Rejected before m.pre) : GrantBinds m ↔ (AnswerGrants m → ∀ m' ∈ before, ¬ AnswerRejects m') := by
  obtain ⟨refused,aligned,live,nobody⟩ := rejected
  rw [← nobody]
  constructor
  · rintro binds ⟨sid,payload,answers,grants⟩
    obtain ⟨r,rest,first,_,outstanding⟩ := answered_ledger move answers
    obtain ⟨_,bound⟩ := binds sid payload r rest answers grants first
    have queue := aligned.pending
    rw [outstanding,liveKeys_cons,if_pos (live r (by rw [outstanding]; simp))] at queue
    cases refused with
    | nil => rfl
    | cons head others =>
      -- The sid went to the head, which is another agent than the one that asked.
      obtain ⟨_,_,taken,_⟩ := granted_step move.1 aligned.sound answers grants queue
      have same := owner_unique (sound_exchange move aligned.sound) bound taken
      have distinct := aligned.sound.valid.distinct
      rw [show (directory m.pre.1).waiting = _ from queue,same] at distinct
      simp at distinct
  · intro safe sid payload r rest answers grants first
    obtain ⟨r',rest',first',_,outstanding⟩ := answered_ledger move answers
    rw [first] at first'
    cases first'
    have none := safe ⟨sid,payload,answers,grants⟩
    subst none
    have right := (granted_live move aligned answers grants first (live r (by rw [outstanding]; simp))).1
    exact (right sid payload r rest answers grants first).1 (live r (by rw [outstanding]; simp))

/-- As long as no grant follows a rejection, those who wait are known. -/
theorem rejected_kept {m : ExchangeMove} (move : exchange m) (stays : ∀ key, ¬ Aborts m.input key)
    {before : List ExchangeMove} (rejected : Rejected before m.pre)
    (safe : AnswerGrants m → ∀ m' ∈ before, ¬ AnswerRejects m') : Rejected (before ++ [m]) m.post := by
  obtain ⟨refused,aligned,live,nobody⟩ := rejected
  have still := live_kept move aligned.sound stays live
  have grown : ¬ AnswerRejects m → ((∀ m' ∈ before ++ [m], ¬ AnswerRejects m') ↔ ∀ m' ∈ before, ¬ AnswerRejects m') := by
    intro accepts
    simp [or_imp,forall_and,accepts]
  by_cases answered : ∃ sid payload, Answers m.input sid payload
  · obtain ⟨sid,payload,answers⟩ := answered
    obtain ⟨r,rest,first,_,outstanding⟩ := answered_ledger move answers
    by_cases grants : Grants sid payload
    · have none := nobody.mpr (safe ⟨sid,payload,answers,grants⟩)
      subst none
      have accepts : ¬ AnswerRejects m := by
        rintro ⟨sid',payload',answers',rejects⟩
        obtain ⟨rfl,rfl⟩ := answer_unique answers answers'
        exact rejects grants
      have kept := (granted_live move aligned answers grants first (live r (by rw [outstanding]; simp))).2
      exact ⟨[],kept,still,by rw [grown accepts]; exact nobody⟩
    · have rejects : AnswerRejects m := ⟨sid,payload,answers,grants⟩
      obtain ⟨pending,_,_⟩ := refused_step move.1 answers (.inl grants)
      have queue := aligned.pending
      rw [outstanding,liveKeys_cons,if_pos (live r (by rw [outstanding]; simp))] at queue
      refine ⟨refused ++ [r.key],⟨sound_exchange move aligned.sound,?_⟩,still,?_⟩
      · rw [show m.post.1.pending_board_sessions = _ from pending,List.append_assoc]
        exact queue
      · simp [rejects]
  · have unanswered : ∀ sid payload, ¬ Answers m.input sid payload :=
      fun sid payload answers => answered ⟨sid,payload,answers⟩
    have accepts : ¬ AnswerRejects m := fun ⟨sid,payload,answers,_⟩ => unanswered sid payload answers
    rcases aligned_unanswered move aligned unanswered with kept | ⟨key,aborts,_⟩
    · exact ⟨refused,kept,still,by rw [grown accepts]; exact nobody⟩
    · exact absurd aborts (stays key)

/-- When nobody is aborted and the board answers every request once and in
    order, with a grant or a rejection, every grant goes to the agent that asked
    for it exactly when no grant comes after a rejection. -/
theorem grants_right_iff {ms : List ExchangeMove} {final : BridgeDaemon × RequestLedger} (run : ExchangeRun ms final)
    (stays : ∀ m ∈ ms, ∀ key, ¬ Aborts m.input key) :
    (∀ m ∈ ms, GrantBinds m) ↔
      ∀ before m after, ms = before ++ m :: after → AnswerGrants m → ∀ m' ∈ before, ¬ AnswerRejects m' := by
  have path := path_restrict run stays
  rw [← throughout_mem]
  refine throughout_iff (C := fun before m => AnswerGrants m → ∀ m' ∈ before, ¬ AnswerRejects m') (P := Rejected)
    ?_ ?_ path ⟨[],aligned_start,?_,?_⟩
  · rintro before m ⟨move,_⟩ rejected
    exact grant_binds_iff move rejected
  · rintro before m ⟨move,stays⟩ rejected safe
    exact rejected_kept move stays rejected safe
  · intro r member
    cases member
  · simp

/-- Two agents ask for a session. The board rejects the first request and grants the second. -/
def rejected_request : List Event :=
  [registration "claude" "x" false,registration "codex" "y" false,full_flush,session_response 7 .PoolFull,
    session_response 7 .Created]

/-- The rejected agent gets the sid that the board meant for the second. -/
theorem rejected_request_misbound : ¬ ∀ ms final, ExchangeRun ms final → (∀ m ∈ ms, ∀ key, ¬ Aborts m.input key) →
    ∀ m ∈ ms, GrantBinds m := by
  intro claimed
  let before := finish exchange_step (BridgeDaemon.new,Ledger.empty) (rejected_request.take 4)
  have binds := claimed _ _ (exchange_events rejected_request (by decide)) (by
    rintro m member key ⟨request,⟨polled,told,type⟩,_⟩
    simp only [rejected_request,moves,List.mem_cons,List.not_mem_nil,or_false] at member
    rcases member with rfl | rfl | rfl | rfl | rfl
    · cases told; exact absurd type (by decide)
    · cases told; exact absurd type (by decide)
    · cases told
    · cases told
    · cases told)
    ⟨before,session_response 7 .Created,_,_⟩ (List.mem_of_getLast? rfl)
  have bound := (binds 7 [1] ⟨(.Codex,"y"),true⟩ [] rfl (by decide) rfl).2
  cases (show none = some (BoardSid.mk 7) from bound)

/-- An agent asks for a session and the board grants it. -/
def granted_request : List Event := [registration "claude" "x" false,full_flush,session_response 7 .Ok]

/-- The agent gets the sid. -/
theorem grants_right_granted : sid_of (finish exchange_step (BridgeDaemon.new,Ledger.empty) granted_request).1
    (.Claude,"x") = some ⟨7⟩ := by
  let before := finish exchange_step (BridgeDaemon.new,Ledger.empty) (granted_request.take 2)
  have binds := (grants_right_iff (exchange_events granted_request (by decide)) (by
    rintro m member key ⟨request,⟨polled,told,type⟩,_⟩
    simp only [granted_request,moves,List.mem_cons,List.not_mem_nil,or_false] at member
    rcases member with rfl | rfl | rfl
    · cases told; exact absurd type (by decide)
    · cases told
    · cases told)).mpr (by
    intro before m after whole _ m' earlier
    have member : m' ∈ before ++ m :: after := List.mem_append_left _ earlier
    rw [← whole] at member
    rintro ⟨sid,payload,answers,rejects⟩
    simp only [granted_request,moves,List.mem_cons,List.not_mem_nil,or_false] at member
    rcases member with rfl | rfl | rfl
    · cases answers
    · cases answers
    · cases answers; exact rejects (by decide))
    ⟨before,session_response 7 .Ok,_,_⟩ (List.mem_of_getLast? rfl)
  exact (binds 7 [0] ⟨(.Claude,"x"),true⟩ [] rfl (by decide) rfl).2

end VibeBridge.Exchange
