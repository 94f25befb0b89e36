import VibeBridge.Transport

/-!
The daemon as its threads run it. The reader thread takes messages from the
board, the heartbeat thread looks at the device before it queues heartbeats, the
discovery thread brings what it has polled, and each connection has a thread that
reads lines and writes answers. The calls that a thread makes while it holds the
daemon's lock are one step; between two steps any other thread may go on.
-/
namespace VibeBridge.Server
open Transitions
open VibeBridge.Core VibeBridge.Protocol VibeBridge.Agent VibeBridge.Envelope VibeBridge.Daemon VibeBridge.Bridge
open VibeBridge.Flushing VibeBridge.Transport VibeBridge.Outbox

/-- Where the thread of a connection is. -/
inductive Phase
  | reading
  | writing (answer : Answer)
  | flushing
  | closed

structure Host where
  daemon : BridgeDaemon
  hid : Hid
  /-- The message that the reader thread has received and not yet handled. -/
  received : Option HidMessage
  /-- The heartbeat thread has seen that the device is connected. -/
  beating : Bool
  /-- What the discovery thread has polled and not yet brought. -/
  snapshot : Option AgentPollSnapshot
  clients : Nat → Option Phase

/-- The host as `run_tcp_hid_daemon` starts it. -/
def Host.new (hid : Hid) : Host := ⟨BridgeDaemon.new,hid,none,false,none,fun _ => none⟩

inductive Step
  /-- `hid.recv` of the reader thread opens or closes the device. -/
  | touches (touch : Touch)
  | receives (msg : HidMessage)
  | board (calls : Calls)
  | looks
  | heartbeat (calls : Calls)
  | polls (snapshot : AgentPollSnapshot)
  | discovery (calls : Calls)
  | accepts (client : Nat)
  | line (client : Nat) (line : Except String RegistrationEnvelope) (polled : Except String AgentPollSnapshot)
  /-- The connection has no more lines, or reading fails. -/
  | ends (client : Nat)
  | writes (client : Nat) (written : Bool)
  | flushes (client : Nat) (calls : Calls)

/-- The calls of the daemon that a step makes, and what they return. -/
abbrev Answered := List (Event × Reply)

/-- The flush of the outbox over the transport, as a call of the daemon. -/
def flush_event (calls : Calls) (daemon : BridgeDaemon) (hid : Hid) : Event :=
  .flush hid.transport.is_connected (answers calls (all_frames daemon.board_outbox) hid)

def Host.set_client (host : Host) (client : Nat) (phase : Phase) : Host :=
  { host with clients := Function.update host.clients client (some phase) }

/-- What a thread does while it holds the lock: some calls and a flush. -/
def Host.locked (host : Host) (calls : Calls) (daemon : BridgeDaemon) (events : List Event) : Host × Answered :=
  let handled := finish handle daemon events
  let flushed := Transport.flush_board_outbox calls handled host.hid
  let event := flush_event calls handled host.hid
  ({ host with daemon := flushed.1, hid := flushed.2.1 },
    (moves handle daemon events).map (fun m => (m.input,m.output)) ++ [(event,(handle handled event).2)])

/-- One step of the host. Calls of the daemon find `daemon`, which is its state
    with the agents in the order that the map iterates in. -/
def Host.step (host : Host) (daemon : BridgeDaemon) : Step → Option (Host × Answered)
  | .touches touch => some ({ host with hid := { host.hid with transport := touch.apply host.hid.transport } },[])
  | .receives msg => if host.received.isNone then some ({ host with received := some msg },[]) else none
  | .board calls =>
    match host.received with
    | none => none
    | some msg => some ({ host with received := none }.locked calls daemon [.board_message msg])
  | .looks => if host.beating then none else some ({ host with beating := host.hid.transport.is_connected },[])
  | .heartbeat calls =>
    if host.beating then some ({ host with beating := false }.locked calls daemon [.heartbeat]) else none
  | .polls snapshot => if host.snapshot.isNone then some ({ host with snapshot := some snapshot },[]) else none
  | .discovery calls =>
    match host.snapshot with
    | none => none
    | some snapshot =>
      some ({ host with snapshot := none }.locked calls daemon
        [.discovered_sessions snapshot.sessions, .discovered_turns snapshot.turns, .prune snapshot.sessions])
  | .accepts client => if (host.clients client).isNone then some (host.set_client client .reading,[]) else none
  | .line client line polled =>
    match host.clients client with
    | some .reading =>
      let handled := handle_json_line daemon line polled
      some ({ host with daemon := handled.1 }.set_client client (.writing handled.2),
        [(.json_line line polled,.json handled.2)])
    | _ => none
  | .ends client =>
    match host.clients client with
    | some .reading => some (host.set_client client .closed,[])
    | _ => none
  | .writes client written =>
    match host.clients client with
    | some (.writing _) => some (host.set_client client (if written then .flushing else .closed),[])
    | _ => none
  | .flushes client calls =>
    match host.clients client with
    | some .flushing => some ((host.set_client client .reading).locked calls daemon [])
    | _ => none

abbrev HostMove := Move Host Step Answered

/-- The steps of the host, whichever way the map of the agents iterates. -/
def server : System Host Step Answered := fun m =>
  ∃ daemon, Rehashed m.pre.daemon daemon ∧ m.pre.step daemon m.input = some (m.post,m.output)

/-- What a step finds, and what it leaves. -/
inductive Stepped (host : Host) (daemon : BridgeDaemon) : Step → Host × Answered → Prop
  | touches {touch : Touch} : Stepped host daemon (.touches touch)
      ({ host with hid := { host.hid with transport := touch.apply host.hid.transport } },[])
  | receives {msg : HidMessage} (free : host.received = none) :
      Stepped host daemon (.receives msg) ({ host with received := some msg },[])
  | board {calls : Calls} {msg : HidMessage} (there : host.received = some msg) :
      Stepped host daemon (.board calls) ({ host with received := none }.locked calls daemon [.board_message msg])
  | looks (unseen : host.beating = false) :
      Stepped host daemon .looks ({ host with beating := host.hid.transport.is_connected },[])
  | heartbeat {calls : Calls} (seen : host.beating = true) :
      Stepped host daemon (.heartbeat calls) ({ host with beating := false }.locked calls daemon [.heartbeat])
  | polls {snapshot : AgentPollSnapshot} (free : host.snapshot = none) :
      Stepped host daemon (.polls snapshot) ({ host with snapshot := some snapshot },[])
  | discovery {calls : Calls} {snapshot : AgentPollSnapshot} (there : host.snapshot = some snapshot) :
      Stepped host daemon (.discovery calls) ({ host with snapshot := none }.locked calls daemon
        [.discovered_sessions snapshot.sessions, .discovered_turns snapshot.turns, .prune snapshot.sessions])
  | accepts {client : Nat} (free : host.clients client = none) :
      Stepped host daemon (.accepts client) (host.set_client client .reading,[])
  | line {client : Nat} {line : Except String RegistrationEnvelope} {polled : Except String AgentPollSnapshot}
      (reading : host.clients client = some .reading) :
      Stepped host daemon (.line client line polled)
        ({ host with daemon := (handle_json_line daemon line polled).1 }.set_client client
            (.writing (handle_json_line daemon line polled).2),
          [(.json_line line polled,.json (handle_json_line daemon line polled).2)])
  | ends {client : Nat} (reading : host.clients client = some .reading) :
      Stepped host daemon (.ends client) (host.set_client client .closed,[])
  | writes {client : Nat} {written : Bool} {answer : Answer} (writing : host.clients client = some (.writing answer)) :
      Stepped host daemon (.writes client written) (host.set_client client (if written then .flushing else .closed),[])
  | flushes {client : Nat} {calls : Calls} (flushing : host.clients client = some .flushing) :
      Stepped host daemon (.flushes client calls) ((host.set_client client .reading).locked calls daemon [])

theorem step_stepped {host : Host} {daemon : BridgeDaemon} {input : Step} {result : Host × Answered}
    (step : host.step daemon input = some result) : Stepped host daemon input result := by
  cases input with
  | touches touch => cases step; exact .touches
  | receives msg =>
    simp only [Host.step] at step
    split at step
    · next free => cases step; exact .receives (Option.isNone_iff_eq_none.mp free)
    · cases step
  | board calls =>
    simp only [Host.step] at step
    split at step
    · cases step
    · next msg there => rw [← Option.some.inj step]; exact .board there
  | looks =>
    simp only [Host.step] at step
    split at step
    · cases step
    · next unseen => cases step; exact .looks (Bool.eq_false_iff.mpr unseen)
  | heartbeat calls =>
    simp only [Host.step] at step
    split at step
    · next seen => rw [← Option.some.inj step]; exact .heartbeat seen
    · cases step
  | polls snapshot =>
    simp only [Host.step] at step
    split at step
    · next free => cases step; exact .polls (Option.isNone_iff_eq_none.mp free)
    · cases step
  | discovery calls =>
    simp only [Host.step] at step
    split at step
    · cases step
    · next snapshot there => rw [← Option.some.inj step]; exact .discovery there
  | accepts client =>
    simp only [Host.step] at step
    split at step
    · next free => cases step; exact .accepts (Option.isNone_iff_eq_none.mp free)
    · cases step
  | line client line polled =>
    simp only [Host.step] at step
    split at step
    · next reading => cases step; exact .line reading
    · cases step
  | ends client =>
    simp only [Host.step] at step
    split at step
    · next reading => cases step; exact .ends reading
    · cases step
  | writes client written =>
    simp only [Host.step] at step
    split at step
    · next answer writing => cases step; exact .writes writing
    · cases step
  | flushes client calls =>
    simp only [Host.step] at step
    split at step
    · next flushing => rw [← Option.some.inj step]; exact .flushes flushing
    · cases step

/-- The step of a host whose maps keep their order. -/
def Host.in_order (host : Host) (input : Step) : Option (Host × Answered) := host.step host.daemon input

/-! ## The calls of the daemon -/

def call (b : BridgeMove) : Event × Reply := (b.input,b.output)

/-! ## What reaches the board -/

/-- A flush that failed. -/
def Fails (b : BridgeMove) : Prop := ∃ frames text, b.output = .flushed frames (.error text)

/-- A flush that succeeds leaves nothing in the outbox. -/
theorem flush_empties {send : Sends} {call : Nat} {outbox : List HidMessage}
    (fine : (Daemon.flush_messages send call outbox).2.2 = .ok ()) : (Daemon.flush_messages send call outbox).1 = [] := by
  induction outbox generalizing call with
  | nil => rfl
  | cons msg rest ih =>
    simp only [Daemon.flush_messages] at fine ⊢
    split at fine
    · cases fine
    · exact ih fine

/-- What a flush that succeeds delivers are the messages that leave the outbox. -/
theorem fine_flush {b : BridgeMove} (move : bridge b) {is_connected : Bool} {send : Sends}
    (input : b.input = .flush is_connected send) (fine : ¬ Fails b) :
    is_connected = false ∧ delivered b = [] ∨ b.post.board_outbox = [] := by
  obtain ⟨daemon,same,result⟩ := move
  rw [input] at result
  simp only [handle,Prod.mk.injEq] at result
  obtain ⟨post,output⟩ := result
  cases is_connected with
  | false =>
    rw [delivered,← output]
    exact .inl ⟨rfl,rfl⟩
  | true =>
    right
    cases flushed : Daemon.flush_board_outbox daemon true send with
    | mk left rest =>
      obtain ⟨frames,answer⟩ := rest
      rw [flushed] at post output
      cases answer with
      | error text => exact absurd ⟨frames,text,output.symm⟩ fine
      | ok done =>
        simp only [Daemon.flush_board_outbox,Bool.not_true,Bool.false_eq_true,↓reduceIte,Prod.mk.injEq] at flushed
        obtain ⟨rfl,rfl,answer⟩ := flushed
        rw [← post]
        exact flush_empties answer

/-- What the reports on the wire have to do with the messages that were queued:
    those that have left the outbox are on it, in order, and nothing else is but
    frames of queued messages. -/
structure Told (start : BridgeDaemon) (bs : List BridgeMove) (daemon : BridgeDaemon) (new : Wire) : Prop where
  path : Path bridge start bs daemon
  flow : ∃ sent, queued_messages start bs = sent ++ daemon.board_outbox ∧
    ((all_frames sent).map report_of).Sublist new ∧ ((∀ b ∈ bs, ¬ Fails b) → Carried (all_frames sent) new)
  known : ∀ raw ∈ new, ∃ msg ∈ all_frames (queued_messages start bs), raw = report_of msg

theorem told_start (start : BridgeDaemon) : Told start [] start [] :=
  ⟨.refl,⟨[],by simp [queued_messages],List.Sublist.refl _,fun _ => .nil⟩,by simp⟩

theorem queued_snoc (start : BridgeDaemon) (bs : List BridgeMove) (b : BridgeMove) :
    queued_messages start (bs ++ [b]) = queued_messages start bs ++ enqueued b := by
  simp [queued_messages]

/-- A call that only queues messages writes nothing. -/
theorem told_keeps {start : BridgeDaemon} {bs : List BridgeMove} {b : BridgeMove} {new : Wire}
    (told : Told start bs b.pre new) (move : bridge b) (keeps : Keeps b.input) : Told start (bs ++ [b]) b.post new := by
  obtain ⟨path,⟨sent,queued,there,exact⟩,known⟩ := told
  refine ⟨.next path move,⟨sent,?_,there,fun fine => exact (fun m member => fine m (by simp [member]))⟩,?_⟩
  · rw [queued_snoc,queued,move_appends move keeps,List.append_assoc]
  · intro raw member
    obtain ⟨msg,among,same⟩ := known raw member
    refine ⟨msg,?_,same⟩
    rw [queued_snoc,all_frames_append]
    exact List.mem_append_left _ among

/-- A flush writes what it delivers, and some copies of the frame that failed. -/
theorem told_flush {start : BridgeDaemon} {bs : List BridgeMove} {b : BridgeMove} {new reports last : Wire}
    (told : Told start bs b.pre new) (move : bridge b) {is_connected : Bool} {send : Sends}
    (input : b.input = .flush is_connected send) (carried : Carried (delivered b) reports)
    (ends : ¬ Fails b ∧ last = [] ∨ Fails b ∧ Remains (all_frames b.post.board_outbox) last) :
    Told start (bs ++ [b]) b.post (new ++ (reports ++ last)) := by
  obtain ⟨path,⟨sent,queued,there,exact⟩,known⟩ := told
  obtain ⟨gone,again,outbox,frames,_,rest⟩ := flush_flow move input
  have nothing : enqueued b = [] := by
    rw [enqueued,outbox,List.drop_eq_nil_iff,List.length_append]
    omega
  have whole : queued_messages start (bs ++ [b]) = sent ++ gone ++ b.post.board_outbox := by
    rw [queued_snoc,nothing,queued,outbox,List.append_nil,List.append_assoc]
  refine ⟨.next path move,⟨sent ++ gone,whole,?_,?_⟩,?_⟩
  · have here := carried_sublist carried
    rw [frames,List.map_append] at here
    rw [all_frames_append,List.map_append]
    exact there.append (((List.sublist_append_left _ _).trans here).trans (List.sublist_append_left _ _))
  · intro fine
    have last_fine := fine b (by simp)
    have none : again = [] := by
      rcases fine_flush move input last_fine with ⟨_,unsent⟩ | empty
      · rw [frames] at unsent
        exact (List.append_eq_nil_iff.mp unsent).2
      · rcases rest with none | ⟨msg,back,i,there,_⟩
        · exact none
        · rw [empty] at there
          cases there
    rcases ends with ⟨_,rfl⟩ | ⟨fails,_⟩
    · rw [frames,none,List.append_nil] at carried
      rw [all_frames_append,List.append_nil]
      exact carried_append (exact (fun m member => fine m (by simp [member]))) carried
    · exact absurd fails last_fine
  · have waiting : ∀ msg, msg ∈ all_frames gone ++ all_frames b.post.board_outbox →
        msg ∈ all_frames (queued_messages start (bs ++ [b])) := by
      intro msg among
      rw [whole,List.append_assoc,all_frames_append,all_frames_append]
      exact List.mem_append_right _ among
    intro raw member
    rcases List.mem_append.mp member with old | fresh
    · obtain ⟨msg,among,same⟩ := known raw old
      refine ⟨msg,?_,same⟩
      rw [queued_snoc,all_frames_append]
      exact List.mem_append_left _ among
    · rcases List.mem_append.mp fresh with sent_now | left
      · obtain ⟨msg,among,same⟩ := carried_mem carried sent_now
        refine ⟨msg,waiting msg ?_,same⟩
        rw [frames] at among
        rcases List.mem_append.mp among with front | back
        · exact List.mem_append_left _ front
        · refine List.mem_append_right _ ?_
          rcases rest with none | ⟨head,tail,i,post,_,taken⟩
          · rw [none] at back; cases back
          · rw [taken] at back
            rw [post]
            exact List.mem_flatMap.mpr ⟨head,by simp,List.mem_of_mem_take back⟩
      · rcases ends with ⟨_,rfl⟩ | ⟨_,msg,among,copies,_,rfl⟩
        · cases left
        · exact ⟨msg,waiting msg (List.mem_append_right _ among),List.eq_of_mem_replicate left⟩

/-! ## Steps -/

/-- Calls made one after another under the lock. -/
theorem told_calls {start pre daemon : BridgeDaemon} {bs : List BridgeMove} {new : Wire} (told : Told start bs pre new)
    (same : Rehashed pre daemon) {events : List Event} (keep : ∀ event ∈ events, Keeps event) :
    ∃ bs' state, Told start (bs ++ bs') state new ∧ Rehashed state (finish handle daemon events) ∧
      bs'.map call = (moves handle daemon events).map (fun m => (m.input,m.output)) := by
  induction events generalizing pre daemon bs with
  | nil => exact ⟨[],pre,by rw [List.append_nil]; exact told,same,rfl⟩
  | cons event events ih =>
    have next := told_keeps (b := ⟨pre,event,(handle daemon event).1,(handle daemon event).2⟩) told
      ⟨daemon,same,rfl⟩ (keep event (by simp))
    obtain ⟨bs',state,told',same',calls⟩ :=
      ih next (rehashed_refl _) (fun other member => keep other (by simp [member]))
    refine ⟨⟨pre,event,(handle daemon event).1,(handle daemon event).2⟩ :: bs',state,?_,same',?_⟩
    · rw [List.append_cons]
      exact told'
    · rw [List.map_cons,calls]
      rfl

/-- How a flush ends, told of its move. -/
theorem last_frames {pre post : BridgeDaemon} {event : Event} {frames : List HidMessage} {result : Except String Unit} {last : Wire}
    (ends : result = .ok () ∧ last = [] ∨ (∃ text, result = .error text) ∧ Remains (all_frames post.board_outbox) last) :
    ¬ Fails ⟨pre,event,post,.flushed frames result⟩ ∧ last = [] ∨
      Fails ⟨pre,event,post,.flushed frames result⟩ ∧ Remains (all_frames post.board_outbox) last := by
  rcases ends with ⟨rfl,none⟩ | ⟨⟨text,rfl⟩,rest⟩
  · left
    refine ⟨?_,none⟩
    rintro ⟨frames,text,output⟩
    cases output
  · exact .inr ⟨⟨frames,text,rfl⟩,rest⟩

/-- Calls under the lock and the flush after them. -/
theorem told_locked {start pre daemon : BridgeDaemon} {bs : List BridgeMove} {new : Wire} (told : Told start bs pre new)
    (same : Rehashed pre daemon) {events : List Event} (keep : ∀ event ∈ events, Keeps event) (host : Host)
    (calls : Calls) :
    ∃ bs' new', Told start (bs ++ bs') (host.locked calls daemon events).1.daemon (new ++ new') ∧
      bs'.map call = (host.locked calls daemon events).2 ∧
      (host.locked calls daemon events).1.hid.wire = host.hid.wire ++ new' := by
  obtain ⟨bs',state,told',same',made⟩ := told_calls told same keep
  obtain ⟨post,final,result,delivered',reports,last,ran,answered,wire,carried,ends⟩ :=
    flush_step calls (finish handle daemon events) host.hid
  have reply : handle (finish handle daemon events) (flush_event calls (finish handle daemon events) host.hid) =
      (post,.flushed delivered' result) := by
    rw [flush_event,handle,answered]
  have move : bridge ⟨state,flush_event calls (finish handle daemon events) host.hid,post,.flushed delivered' result⟩ := ⟨_,same',reply⟩
  have failed : result = .ok () ∧ last = [] ∨ (∃ text, result = .error text) ∧ Remains (all_frames post.board_outbox) last :=
    ends.imp_right (fun fails => ⟨fails.1,fails.2.1⟩)
  have flushed := told_flush told' move rfl carried (last_frames failed)
  refine ⟨bs' ++ [⟨state,flush_event calls (finish handle daemon events) host.hid,post,.flushed delivered' result⟩],
    reports ++ last,?_,?_,?_⟩
  · rw [← List.append_assoc,Host.locked,ran]
    exact flushed
  · rw [List.map_append,made,Host.locked,reply]
    rfl
  · rw [Host.locked,ran]
    exact wire

/-- A step that takes the lock and flushes at the end. Heartbeats are among its
    calls only when the device was seen connected. -/
def Locks (pre post : Host) (daemon : BridgeDaemon) (answered : Answered) : Prop :=
  ∃ (host : Host) (calls : Calls) (events : List Event), host.hid = pre.hid ∧ host.daemon = pre.daemon ∧
    (host.beating = pre.beating ∨ host.beating = false) ∧ (∀ event ∈ events, Keeps event) ∧
    (.heartbeat ∈ events → pre.beating = true) ∧ (post,answered) = host.locked calls daemon events

/-- A step that makes no call of the daemon. -/
structure Aside (pre post : Host) (input : Step) (answered : Answered) : Prop where
  daemon : post.daemon = pre.daemon
  calls : answered = []
  hid : post.hid = pre.hid ∨
    ∃ touch, input = .touches touch ∧ post.hid = { pre.hid with transport := touch.apply pre.hid.transport }
  beating : post.beating = pre.beating ∨ post.beating = pre.hid.transport.is_connected

/-- What a step does to the daemon and to the device. -/
theorem step_cases {pre post : Host} {daemon : BridgeDaemon} {input : Step} {answered : Answered}
    (step : pre.step daemon input = some (post,answered)) :
    Aside pre post input answered ∨
    (∃ client line polled, input = .line client line polled ∧ post.hid = pre.hid ∧ post.beating = pre.beating ∧
      post.daemon = (handle_json_line daemon line polled).1 ∧
      answered = [(.json_line line polled,.json (handle_json_line daemon line polled).2)]) ∨
    Locks pre post daemon answered := by
  have stepped := step_stepped step
  generalize result : (post,answered) = made at stepped
  have keeps {event : Event} (kept : Keeps event) : ∀ among ∈ [event], Keeps among := fun among member =>
    List.mem_singleton.mp member ▸ kept
  cases stepped with
  | @touches touch => cases result; exact .inl ⟨rfl,rfl,.inr ⟨touch,rfl,rfl⟩,.inl rfl⟩
  | receives | polls | accepts | ends | writes => cases result; exact .inl ⟨rfl,rfl,.inl rfl,.inl rfl⟩
  | looks => cases result; exact .inl ⟨rfl,rfl,.inl rfl,.inr rfl⟩
  | @line client line polled => cases result; exact .inr (.inl ⟨client,line,polled,rfl,rfl,rfl,rfl,rfl⟩)
  | @board calls msg =>
    exact .inr (.inr ⟨{ pre with received := none },calls,[.board_message msg],rfl,rfl,.inl rfl,keeps ⟨by simp,by simp⟩,
      by simp,result⟩)
  | @heartbeat calls seen =>
    exact .inr (.inr ⟨{ pre with beating := false },calls,[.heartbeat],rfl,rfl,.inr rfl,keeps ⟨by simp,by simp⟩,
      fun _ => seen,result⟩)
  | @discovery calls snapshot =>
    refine .inr (.inr ⟨{ pre with snapshot := none },calls,_,rfl,rfl,.inl rfl,?_,by simp,result⟩)
    intro event member
    simp only [List.mem_cons,List.not_mem_nil,or_false] at member
    rcases member with rfl | rfl | rfl <;> exact ⟨by simp,by simp⟩
  | @flushes client calls =>
    exact .inr (.inr ⟨pre.set_client client .reading,calls,[],rfl,rfl,.inl rfl,by simp,by simp,result⟩)

/-- Every step keeps what the wire has to do with the queued messages. -/
theorem told_step {start : BridgeDaemon} {bs : List BridgeMove} {new : Wire} {m : HostMove} (move : server m)
    (told : Told start bs m.pre.daemon new) :
    ∃ bs' new', Told start (bs ++ bs') m.post.daemon (new ++ new') ∧ bs'.map call = m.output ∧
      m.post.hid.wire = m.pre.hid.wire ++ new' := by
  obtain ⟨daemon,same,step⟩ := move
  rcases step_cases step with ⟨kept,none,hid,_⟩ | ⟨client,line,polled,_,hid,_,post,output⟩ | locks
  · refine ⟨[],[],?_,none.symm,?_⟩
    · rw [kept,List.append_nil,List.append_nil]
      exact told
    · rcases hid with hid | ⟨touch,_,hid⟩ <;> simp [hid]
  · refine ⟨[⟨m.pre.daemon,.json_line line polled,m.post.daemon,.json (handle_json_line daemon line polled).2⟩],[],?_,?_,?_⟩
    · rw [List.append_nil]
      refine told_keeps (b := ⟨m.pre.daemon,.json_line line polled,m.post.daemon,_⟩) told ⟨daemon,same,?_⟩
        ⟨by simp,by simp⟩
      rw [post]
      rfl
    · rw [output]
      rfl
    · rw [hid,List.append_nil]
  · obtain ⟨host,calls,events,hid,daemon_same,_,keep,_,made⟩ := locks
    rw [← daemon_same] at told same
    obtain ⟨bs',new',told',made',wire⟩ := told_locked told same keep host calls
    rw [← made] at told' made' wire
    rw [hid] at wire
    exact ⟨bs',new',told',made',wire⟩

/-- What `recv` of the reader thread does to the device is done in steps of the
    host, between which the other threads go on. -/
theorem recv_steps (host : Host) (passes : Nat → Pass (Overlapped (List UInt8))) : ∃ ms,
    Path server host ms { host with hid :=
      { host.hid with transport := (ReopenWinHidTransport.recv passes host.hid).1.transport } } := by
  obtain ⟨touches,same⟩ := recv_touches passes host.hid
  rw [same]
  clear same
  induction touches generalizing host with
  | nil => exact ⟨[],.refl⟩
  | cons touch touches ih =>
    have first : server ⟨host,.touches touch,
        { host with hid := { host.hid with transport := touch.apply host.hid.transport } },[]⟩ :=
      ⟨host.daemon,rehashed_refl _,rfl⟩
    obtain ⟨ms,path⟩ := ih { host with hid := { host.hid with transport := touch.apply host.hid.transport } }
    exact ⟨_,path_cons first path⟩

/-! ## Runs -/

theorem told_run {start host : Host} {ms : List HostMove} (path : Path server start ms host) :
    ∃ bs new, Told start.daemon bs host.daemon new ∧ bs.map call = ms.flatMap (·.output) ∧
      host.hid.wire = start.hid.wire ++ new := by
  induction path with
  | refl => exact ⟨[],[],told_start _,rfl,by simp⟩
  | @next ms m before move ih =>
    obtain ⟨bs,new,told,calls,wire⟩ := ih
    obtain ⟨bs',new',told',calls',wire'⟩ := told_step move told
    refine ⟨bs ++ bs',new ++ new',told',?_,?_⟩
    · rw [List.map_append,calls,calls']
      simp
    · rw [wire',wire,List.append_assoc]

/-- A frame of a message fits its report, so the board reads it back. -/
theorem frame_read {outbox : List HidMessage} {msg : HidMessage} (member : msg ∈ all_frames outbox) :
    (report_of msg).length = HID_REPORT_LEN ∧
      HidFrame.decode (report_of msg) = .ok ⟨REPORT_ID_DEVICE_BOUND,msg.cmd,msg.sid,msg.payload⟩ := by
  obtain ⟨whole,_,frame⟩ := List.mem_flatMap.mp member
  obtain ⟨piece,among,rfl⟩ := List.mem_map.mp frame
  exact (report_fits (split_frames among).2.2.2).2

/-- However the threads are interleaved, the frames of the messages that left the
    outbox have reached the board, in their order, and every report that it reads
    is a frame of a queued message. When no flush fails, the board reads exactly
    these frames, each once or twice in a row. -/
theorem wire_carries_outbox {hid : Hid} {ms : List HostMove} {host : Host} (path : Path server (Host.new hid) ms host) :
    ∃ bs sent new, Run bs host.daemon ∧ bs.map call = ms.flatMap (·.output) ∧
      queued_messages BridgeDaemon.new bs = sent ++ host.daemon.board_outbox ∧ host.hid.wire = hid.wire ++ new ∧
      ((all_frames sent).map report_of).Sublist new ∧
      (∀ raw ∈ new, raw.length = HID_REPORT_LEN ∧ ∃ msg ∈ all_frames (queued_messages BridgeDaemon.new bs),
        HidFrame.decode raw = .ok ⟨REPORT_ID_DEVICE_BOUND,msg.cmd,msg.sid,msg.payload⟩) ∧
      ((∀ c ∈ ms.flatMap (·.output), ∀ frames text, c.2 ≠ .flushed frames (.error text)) →
        Carried (all_frames sent) new) := by
  obtain ⟨bs,new,told,calls,wire⟩ := told_run path
  obtain ⟨daemon_path,⟨sent,queued,there,exact⟩,known⟩ := told
  refine ⟨bs,sent,new,daemon_path,calls,queued,wire,there,?_,?_⟩
  · intro raw member
    obtain ⟨msg,among,rfl⟩ := known raw member
    obtain ⟨size,decoded⟩ := frame_read among
    exact ⟨size,msg,among,decoded⟩
  · intro fine
    refine exact (fun b member => ?_)
    rintro ⟨frames,text,output⟩
    have made : call b ∈ ms.flatMap (·.output) := by
      rw [← calls]
      exact List.mem_map_of_mem member
    exact fine (call b) made frames text output

/-- A host whose device is closed. -/
def closed_host : Host := Host.new ⟨ReopenWinHidTransport.open_lazy "auto",[]⟩

/-- A system with the board. -/
def plugged : Opening := ⟨none,.ok [⟨"board",some VIBE_USB_VID,some VIBE_USB_PID⟩],fun _ => 4,0⟩

/-- The first write of a report is not acknowledged in time though it has reached the board, the second succeeds. -/
def retried_calls : Calls := fun _ attempt =>
  ⟨[],plugged,if attempt = 0 then ⟨.timed_out,true⟩ else ⟨.done HID_REPORT_LEN,true⟩⟩

def register_line : Except String RegistrationEnvelope :=
  .ok { message_type := "agent.register", agent := some { agent_id := "c", kind := "codex", name := "c" } }

/-- Two connections, of which the second is lost before its answer is written, and a device that opens late. -/
def retried_steps : List Step :=
  [.accepts 0,.accepts 1,.line 0 register_line (.error ""),.line 1 (.error "no JSON") (.error ""),.writes 1 false,.writes 0 true,
    .touches (.take plugged),.flushes 0 retried_calls]

def retried_host : Host := finish (attempt Host.in_order []) closed_host retried_steps

def retried_moves : List HostMove := moves (attempt Host.in_order []) closed_host retried_steps

theorem retried_path : Path server closed_host retried_moves retried_host :=
  taken_path (fun m made => ⟨m.pre.daemon,rehashed_refl _,made⟩) (by decide +kernel)

/-- No flush of the moves fails. -/
def flushes_fine (ms : List HostMove) : Bool :=
  (ms.flatMap (·.output)).all (fun c => match c.2 with | .flushed _ (.error _) => false | _ => true)

theorem wire_carries_outbox_retried : retried_host.hid.wire.length = 2 ∧ ∃ bs sent, Run bs retried_host.daemon ∧
    queued_messages BridgeDaemon.new bs = sent ∧ Carried (all_frames sent) retried_host.hid.wire ∧
    ∀ raw ∈ retried_host.hid.wire, raw.length = HID_REPORT_LEN ∧ ∃ msg ∈ all_frames sent,
      HidFrame.decode raw = .ok ⟨REPORT_ID_DEVICE_BOUND,msg.cmd,msg.sid,msg.payload⟩ := by
  obtain ⟨bs,sent,new,run,_,queued,wire,_,known,exact⟩ := wire_carries_outbox retried_path
  have sent_all : retried_host.daemon.board_outbox = [] := List.isEmpty_iff.mp (by decide +kernel)
  have fine : flushes_fine retried_moves = true := by decide +kernel
  rw [sent_all,List.append_nil] at queued
  rw [queued] at known
  have whole : retried_host.hid.wire = new := wire
  rw [whole]
  refine ⟨whole ▸ by decide +kernel,bs,sent,run,queued,exact ?_,known⟩
  intro c member frames text failed
  have fine := List.all_eq_true.mp fine c member
  rw [failed] at fine
  cases fine

/-! ### A closed device -/

/-- No attempt of the reader thread to open the device succeeds. -/
def CannotOpen (device : String) (m : HostMove) : Prop :=
  ∀ system, m.input = .touches (.take system) → ∃ err, open_device system device = .error err

/-- Calls under the lock leave in the outbox what is there. -/
theorem calls_append (daemon : BridgeDaemon) {events : List Event} (keep : ∀ event ∈ events, Keeps event) :
    daemon.board_outbox <+: (finish handle daemon events).board_outbox := by
  induction events generalizing daemon with
  | nil => exact List.prefix_refl _
  | cons event events ih =>
    obtain ⟨news,outbox⟩ := handle_appends daemon (keep event (by simp))
    have later := ih (handle daemon event).1 (fun other member => keep other (by simp [member]))
    rw [outbox] at later
    exact (List.prefix_append _ _).trans later

/-- While the device is closed, a flush does nothing and succeeds. -/
theorem locked_closed {host : Host} (closed : host.hid.transport.inner = none) (calls : Calls) (daemon : BridgeDaemon)
    (events : List Event) :
    host.locked calls daemon events = ({ host with daemon := finish handle daemon events },
      (moves handle daemon events).map (fun m => (m.input,m.output)) ++
        [(flush_event calls (finish handle daemon events) host.hid,.flushed [] (.ok ()))]) := by
  have unconnected : host.hid.transport.is_connected = false := by
    rw [ReopenWinHidTransport.is_connected,closed]
    rfl
  simp [Host.locked,Transport.flush_board_outbox,flush_event,handle,Daemon.flush_board_outbox,unconnected]

/-- No call of these queues heartbeats, and every flush of them delivers nothing and succeeds. -/
def Idle (answered : Answered) : Prop :=
  ∀ c ∈ answered, c.1 ≠ .heartbeat ∧ ∀ frames result, c.2 = .flushed frames result → frames = [] ∧ result = .ok ()

theorem idle_append {answered answered' : Answered} (first : Idle answered) (second : Idle answered') :
    Idle (answered ++ answered') := by
  intro c member
  rcases List.mem_append.mp member with here | there
  · exact first c here
  · exact second c there

/-- Only a flush answers like a flush. -/
theorem flushed_by_flush {daemon : BridgeDaemon} {event : Event} {frames : List HidMessage} {result : Except String Unit}
    (answer : (handle daemon event).2 = .flushed frames result) : ∃ is_connected send, event = .flush is_connected send := by
  cases event with
  | flush is_connected send => exact ⟨is_connected,send,rfl⟩
  | json_line line polled => cases answer
  | board_message msg => cases answer
  | discovered_sessions sessions => cases answer
  | discovered_turns turns => cases answer
  | prune latest => cases answer
  | heartbeat => cases answer
  | drain => cases answer

theorem idle_calls {events : List Event} (keep : ∀ event ∈ events, Keeps event) (quiet : .heartbeat ∉ events)
    (daemon : BridgeDaemon) : Idle ((moves handle daemon events).map (fun m => (m.input,m.output))) := by
  intro c member
  obtain ⟨m,made,rfl⟩ := List.mem_map.mp member
  have among := moves_input made
  constructor
  · intro beat
    rw [← beat] at quiet
    exact quiet among
  · intro frames result answer
    have step := moves_step made
    rw [← congrArg Prod.snd step] at answer
    obtain ⟨is_connected,send,flushes⟩ := flushed_by_flush answer
    exact absurd flushes ((keep _ among).2 is_connected send)

/-- The device is closed and the heartbeat thread knows of no other. -/
structure Shut (device : String) (host : Host) : Prop where
  closed : host.hid.transport.inner = none
  device : host.hid.transport.device = device
  quiet : host.beating = false

/-- A touch that does not open the device leaves it closed. -/
theorem touch_closed {hid : ReopenWinHidTransport} (closed : hid.inner = none) {touch : Touch}
    (fails : ∀ system, touch = .take system → ∃ err, open_device system hid.device = .error err) :
    touch.apply hid = hid := by
  cases touch with
  | take system =>
    obtain ⟨err,failed⟩ := fails system rfl
    rw [Touch.apply,ReopenWinHidTransport.current,closed]
    dsimp only
    rw [failed]
  | invalidate =>
    cases hid
    cases closed
    rfl

/-- What a step does while the device is closed and the reader thread cannot open it. -/
theorem shut_step {device : String} {m : HostMove} (move : server m) (shut : Shut device m.pre)
    (fails : CannotOpen device m) :
    Shut device m.post ∧ m.post.hid = m.pre.hid ∧ m.pre.daemon.board_outbox <+: m.post.daemon.board_outbox ∧
      Idle m.output := by
  obtain ⟨daemon,same,step⟩ := move
  have outbox := (rehashed_outbox same).1
  have stays : ∀ {host : Host}, host.hid = m.pre.hid → host.beating = false → Shut device host := by
    intro host hid quiet
    exact ⟨by rw [hid]; exact shut.closed,by rw [hid]; exact shut.device,quiet⟩
  rcases step_cases step with ⟨kept,none,hid,beating⟩ | ⟨client,line,polled,_,hid,beating,post,output⟩ | locks
  · have quiet : m.post.beating = false := by
      rcases beating with same | seen
      · rw [same]; exact shut.quiet
      · rw [seen,ReopenWinHidTransport.is_connected,shut.closed]
        rfl
    have hid : m.post.hid = m.pre.hid := by
      rcases hid with same | ⟨touch,told,moved⟩
      · exact same
      · rw [moved,touch_closed shut.closed]
        rintro system rfl
        rw [shut.device]
        exact fails system told
    refine ⟨stays hid quiet,hid,by rw [kept],?_⟩
    rw [none]
    intro c member
    cases member
  · refine ⟨stays hid (by rw [beating]; exact shut.quiet),hid,?_,?_⟩
    · obtain ⟨news,appended⟩ := handle_appends daemon (show Keeps (.json_line line polled) from ⟨by simp,by simp⟩)
      rw [post,← outbox,show (handle_json_line daemon line polled).1.board_outbox = _ from appended]
      exact List.prefix_append _ _
    · rw [output]
      intro c member
      rw [List.mem_singleton.mp member]
      exact ⟨by simp,by simp⟩
  · obtain ⟨host,calls,events,hid,_,beating,keep,beats,made⟩ := locks
    have quiet : .heartbeat ∉ events := fun among => by simpa [shut.quiet] using beats among
    have still : host.beating = false := by
      rcases beating with same | off
      · rw [same]; exact shut.quiet
      · exact off
    have closed : host.hid.transport.inner = none := by rw [hid]; exact shut.closed
    rw [locked_closed closed] at made
    obtain ⟨post,output⟩ := Prod.mk.inj made
    rw [post,output]
    refine ⟨stays hid still,hid,?_,idle_append (idle_calls keep quiet daemon) ?_⟩
    · rw [← outbox]
      exact calls_append daemon keep
    · intro c member
      rw [List.mem_singleton.mp member]
      refine ⟨by simp [flush_event],?_⟩
      intro frames result answer
      cases answer
      exact ⟨rfl,rfl⟩

/-- A device that is closed stays closed until the reader thread opens it: a flush
    does not. Until then nothing is written, the outbox only grows, no heartbeat is
    queued, and every flush succeeds. -/
theorem closed_sends_nothing {start host : Host} {ms : List HostMove} (path : Path server start ms host)
    (closed : start.hid.transport.inner = none) (quiet : start.beating = false)
    (fails : ∀ m ∈ ms, CannotOpen start.hid.transport.device m) :
    host.hid = start.hid ∧ start.daemon.board_outbox <+: host.daemon.board_outbox ∧
      ∀ c ∈ ms.flatMap (·.output), c.1 ≠ .heartbeat ∧
        ∀ frames result, c.2 = .flushed frames result → frames = [] ∧ result = .ok () := by
  have kept : Shut start.hid.transport.device host ∧ host.hid = start.hid ∧
      start.daemon.board_outbox <+: host.daemon.board_outbox ∧ Idle (ms.flatMap (·.output)) := by
    induction path with
    | refl =>
      refine ⟨⟨closed,rfl,quiet⟩,rfl,List.prefix_refl _,?_⟩
      intro c member
      cases member
    | @next ms m before move ih =>
      obtain ⟨shut,hid,outbox,idle⟩ := ih (fun m member => fails m (by simp [member]))
      obtain ⟨shut',hid',outbox',idle'⟩ := shut_step move shut (fails m (by simp))
      refine ⟨shut',hid'.trans hid,outbox.trans outbox',?_⟩
      rw [List.flatMap_append,List.flatMap_singleton]
      exact idle_append idle idle'
  exact kept.2

/-- A system without a device. -/
def no_device : Opening := ⟨none,.ok [],fun _ => INVALID_HANDLE_VALUE,2⟩

/-- The same host with a key of the board to handle. -/
def keyed_host : Host := { closed_host with received := some ⟨.KeyEvent,1,[]⟩ }

def unplugged_calls : Calls := fun _ _ => ⟨[],no_device,.timed_out,false⟩

/-- The steps of a host whose reader thread finds no device, though the board has sent a key. -/
def unplugged_moves : List HostMove :=
  [⟨closed_host,.touches (.take no_device),closed_host,[]⟩,⟨closed_host,.receives ⟨.KeyEvent,1,[]⟩,keyed_host,[]⟩,
    ⟨keyed_host,.looks,keyed_host,[]⟩,
    ⟨keyed_host,.board unplugged_calls,closed_host,[(.board_message ⟨.KeyEvent,1,[]⟩,.board (.ok ())),
      (flush_event unplugged_calls BridgeDaemon.new closed_host.hid,.flushed [] (.ok ()))]⟩]

theorem unplugged_path : Path server closed_host unplugged_moves closed_host := by
  have opens : server ⟨closed_host,.touches (.take no_device),closed_host,[]⟩ := ⟨_,rehashed_refl _,rfl⟩
  have receives : server ⟨closed_host,.receives ⟨.KeyEvent,1,[]⟩,keyed_host,[]⟩ := ⟨_,rehashed_refl _,rfl⟩
  have looks : server ⟨keyed_host,.looks,keyed_host,[]⟩ := ⟨_,rehashed_refl _,rfl⟩
  have board : server ⟨keyed_host,.board unplugged_calls,closed_host,[(.board_message ⟨.KeyEvent,1,[]⟩,.board (.ok ())),
      (flush_event unplugged_calls BridgeDaemon.new closed_host.hid,.flushed [] (.ok ()))]⟩ := ⟨_,rehashed_refl _,rfl⟩
  exact path_cons opens (path_cons receives (path_cons looks (path_one board)))

theorem closed_sends_nothing_unplugged :
    closed_host.hid = closed_host.hid ∧ closed_host.daemon.board_outbox <+: closed_host.daemon.board_outbox ∧
      ∀ c ∈ unplugged_moves.flatMap (·.output), c.1 ≠ .heartbeat ∧
        ∀ frames result, c.2 = .flushed frames result → frames = [] ∧ result = .ok () := by
  refine closed_sends_nothing unplugged_path rfl rfl ?_
  intro m member system told
  simp only [unplugged_moves,List.mem_cons,List.not_mem_nil,or_false] at member
  rcases member with rfl | rfl | rfl | rfl
  · cases told
    exact ⟨_,rfl⟩
  · cases told
  · cases told
  · cases told

/-! ### Connections -/

/-- The answers that the daemon gives to the lines of a connection. -/
def given (client : Nat) (m : HostMove) : List Answer :=
  match m.input with
  | .line c _ _ => if c = client then m.output.filterMap (fun c => match c.2 with | .json a => some a | _ => none) else []
  | _ => []

/-- The answers that reach a connection. -/
def written (client : Nat) (m : HostMove) : List Answer :=
  match m.input with
  | .writes c true =>
    if c = client then
      match m.pre.clients c with
      | some (.writing answer) => [answer]
      | _ => []
    else []
  | _ => []

/-- What one step does to the thread of a connection. -/
inductive Turn : Option Phase → List Answer → List Answer → Option Phase → Prop
  | rests {phase : Option Phase} : Turn phase [] [] phase
  | accepts : Turn none [] [] (some .reading)
  | answers {answer : Answer} : Turn (some .reading) [answer] [] (some (.writing answer))
  | writes {answer : Answer} : Turn (some (.writing answer)) [] [answer] (some .flushing)
  | drops {answer : Answer} : Turn (some (.writing answer)) [] [] (some .closed)
  | ends : Turn (some .reading) [] [] (some .closed)
  | flushes : Turn (some .flushing) [] [] (some .reading)

theorem set_client_self (host : Host) (client : Nat) (phase : Phase) :
    (host.set_client client phase).clients client = some phase := Function.update_self _ _ _

theorem turn_other {m : HostMove} {client c : Nat} {phase : Phase} (other : c ≠ client) (nothing : given client m = [])
    (unsent : written client m = []) (clients : m.post.clients = Function.update m.pre.clients c (some phase)) :
    Turn (m.pre.clients client) (given client m) (written client m) (m.post.clients client) := by
  rw [nothing,unsent,clients,Function.update_of_ne (Ne.symm other)]
  exact .rests

theorem turn_step {m : HostMove} (move : server m) (client : Nat) :
    Turn (m.pre.clients client) (given client m) (written client m) (m.post.clients client) := by
  obtain ⟨pre,input,post,output⟩ := m
  obtain ⟨daemon,_,step⟩ := move
  have stepped := step_stepped step
  simp only at stepped
  clear step
  generalize result : (post,output) = made at stepped
  cases stepped with
  | touches | receives | board | looks | heartbeat | polls | discovery => cases result; exact .rests
  | @accepts c free =>
    cases result
    by_cases same : c = client
    · subst same
      rw [free,show _ = some Phase.reading from set_client_self pre c .reading]
      exact .accepts
    · exact turn_other same rfl rfl rfl
  | @line c line polled reading =>
    cases result
    by_cases same : c = client
    · subst same
      rw [reading,show _ = some _ from set_client_self _ c (.writing (handle_json_line daemon line polled).2)]
      simp only [given,↓reduceIte]
      exact .answers
    · exact turn_other same (by simp [given,same]) rfl rfl
  | @ends c reading =>
    cases result
    by_cases same : c = client
    · subst same
      rw [reading,show _ = some Phase.closed from set_client_self pre c .closed]
      exact .ends
    · exact turn_other same rfl rfl rfl
  | @writes c fine answer writing =>
    cases result
    by_cases same : c = client
    · subst same
      rw [show _ = some (if fine then Phase.flushing else .closed) from set_client_self pre c _]
      cases fine with
      | true =>
        simp only [written,↓reduceIte,writing]
        exact .writes
      | false =>
        rw [writing]
        exact .drops
    · refine turn_other same rfl ?_ rfl
      cases fine with
      | true => simp [written,same]
      | false => rfl
  | @flushes c calls flushing =>
    cases result
    by_cases same : c = client
    · subst same
      rw [flushing,show _ = some Phase.reading from set_client_self pre c .reading]
      exact .flushes
    · exact turn_other same rfl rfl rfl

/-- What a connection has been given and what has reached it, where its thread is. -/
def Balanced (given written : List Answer) : Option Phase → Prop
  | none => given = [] ∧ written = []
  | some .reading => given = written
  | some (.writing answer) => given = written ++ [answer]
  | some .flushing => given = written
  | some .closed => given = written ∨ ∃ answer, given = written ++ [answer]

theorem balanced_turn {gave wrote news sent : List Answer} {phase phase' : Option Phase}
    (balanced : Balanced gave wrote phase) (turn : Turn phase news sent phase') :
    Balanced (gave ++ news) (wrote ++ sent) phase' := by
  cases turn with
  | rests => simpa using balanced
  | accepts =>
    obtain ⟨rfl,rfl⟩ := balanced
    exact rfl
  | answers =>
    rw [show gave = wrote from balanced,List.append_nil]
    exact rfl
  | writes =>
    rw [List.append_nil]
    exact balanced
  | drops =>
    rw [List.append_nil,List.append_nil]
    exact .inr ⟨_,balanced⟩
  | ends =>
    rw [List.append_nil,List.append_nil]
    exact .inl balanced
  | flushes =>
    rw [List.append_nil,List.append_nil]
    exact balanced

/-- However the threads are interleaved, the host is a run of the daemon, and each
    connection gets the answers that the daemon gave to its own lines, in their
    order: all of them, but for one that is being written or whose writing failed. -/
theorem answers_kept_apart {hid : Hid} {ms : List HostMove} {host : Host} (path : Path server (Host.new hid) ms host) :
    (∃ bs, Run bs host.daemon ∧ bs.map call = ms.flatMap (·.output)) ∧
      ∀ client, Balanced (ms.flatMap (given client)) (ms.flatMap (written client)) (host.clients client) := by
  constructor
  · obtain ⟨bs,new,told,calls,_⟩ := told_run path
    exact ⟨bs,told.path,calls⟩
  · intro client
    induction path with
    | refl => exact ⟨rfl,rfl⟩
    | @next ms m before move ih =>
      simp only [List.flatMap_append,List.flatMap_singleton]
      exact balanced_turn ih (turn_step move client)

theorem answers_kept_apart_retried : (retried_moves.flatMap (written 0)).length = 1 ∧
    retried_moves.flatMap (given 0) = retried_moves.flatMap (written 0) ∧
    ∃ answer, retried_moves.flatMap (given 1) = retried_moves.flatMap (written 1) ++ [answer] := by
  obtain ⟨_,balanced⟩ := answers_kept_apart retried_path
  have reading : retried_host.clients 0 = some .reading := rfl
  have closed : retried_host.clients 1 = some .closed := rfl
  have first := balanced 0
  have second := balanced 1
  rw [reading] at first
  rw [closed] at second
  refine ⟨by decide +kernel,first,second.resolve_left ?_⟩
  intro same
  have lengths : (retried_moves.flatMap (given 1)).length = 1 ∧ (retried_moves.flatMap (written 1)).length = 0 := by decide +kernel
  rw [same] at lengths
  omega
end VibeBridge.Server
