import VibeBridge.Ledgers
import VibeBridge.Python.Focus
import VibeBridge.Python.Owners

/-!
Session requests at the board. The board answers the requests that it receives
in their order, and the daemon takes each answer for the oldest request that it
holds pending. A ledger records the requests that wait in the queue of the
writer and those that the board received (`ledger`). A request that does not fit
a report is dropped by the writer and stays pending, so the next answer is taken
for it; as long as no answer meets such a request, each answer goes to the client
that it is for (`answers_delivered`).
-/
namespace VibeBridge.Python
open Transitions Ledgers

/-! ## What waits for the writer -/

def Packet.Requests (packet : Packet) : Prop := packet.command = Cmd.REQUEST_SESSION.value

instance (packet : Packet) : Decidable packet.Requests := inferInstanceAs (Decidable (_ = _))

/-- The requests in the queue of the writer. -/
def board_requests (queue : List (Option Packet)) : List Packet := queue.filterMap (Option.filter (fun packet => packet.Requests))

/-- As long as the device is there, no request is made or answered. -/
def Kept (a b : Daemon) : Prop :=
  b.hid = true → a.hid = true ∧ b.pending_sessions = a.pending_sessions ∧
    board_requests b.hid_tx_queue = board_requests a.hid_tx_queue

section
variable {a b c pre : Daemon} {event : Event}

theorem kept_refl (daemon : Daemon) : Kept daemon daemon := fun hid => ⟨hid,rfl,rfl⟩

theorem kept_trans (first : Kept a b) (second : Kept b c) : Kept a c := by
  intro hid
  obtain ⟨mid,pending',requests'⟩ := second hid
  obtain ⟨start,pending,requests⟩ := first mid
  exact ⟨start,pending'.trans pending,requests'.trans requests⟩

theorem board_requests_append (queue : List (Option Packet)) {news : List Packet} (others : ∀ packet ∈ news, ¬ packet.Requests) :
    board_requests (queue ++ news.map some) = board_requests queue := by
  have none : board_requests (news.map some) = [] := by
    refine List.filterMap_eq_nil_iff.mpr ?_
    intro item member
    obtain ⟨packet,there,rfl⟩ := List.mem_map.mp member
    simp [Option.filter,others packet there]
  rw [board_requests,List.filterMap_append]
  exact (congrArg _ none).trans (List.append_nil _)

theorem kept_traffic {allowed : Allowed} (traffic : Traffic allowed a b) (others : ∀ packet, allowed.queues packet → ¬ packet.Requests) :
    Kept a b := by
  intro hid
  obtain ⟨start,pending,news,queue,queued⟩ := traffic.linked hid
  exact ⟨start,pending,by rw [queue]; exact board_requests_append _ (fun packet member => others packet (queued packet member))⟩

theorem kept_shown (daemon : Daemon) (call : ScreenCall) : Kept daemon (daemon.screen_sink call) := by
  have streams : Traffic ⟨fun packet => packet.command = Cmd.VT100_STREAM.value,fun _ _ => False⟩ daemon (daemon.screen_sink call) := by
    refine traffic_screen daemon ?_
    intro sid data _ _ packet member
    obtain ⟨chunk,_,rfl⟩ := List.mem_map.mp member
    rfl
  refine kept_traffic streams ?_
  intro packet stream request
  exact absurd (stream.symm.trans request) (by decide)

theorem kept_close (daemon : Daemon) (manager : SessionManager) (told : List (Nat × Status)) :
    Kept daemon (daemon.close manager told) := by
  refine close_kept ?_ told (kept_refl daemon)
  intro mid sid status before
  have unrouted : Kept mid (mid.unroute sid) := kept_shown { mid with router := (mid.router.unregister sid).1 } _
  rw [on_session_invalidate_eq]
  exact kept_trans before unrouted

theorem kept_retire (sids : List Nat) (status : Status) (daemon : Daemon) : Kept daemon (daemon.retire sids status) :=
  retire_kept (fun _ _ _ before => kept_trans before (kept_close _ _ _)) sids status (kept_refl daemon)

theorem kept_opened (daemon : Daemon) (manager : SessionManager) (told : List (Nat × Status)) (gone retired : List Nat) (sid : Nat)
    (client : Client) (packet : Packet) :
    Kept daemon ((((daemon.close manager told).open_window gone sid client).retire retired .RECLAIMED).send client packet) :=
  kept_trans (kept_close daemon manager told) (kept_retire retired .RECLAIMED ((daemon.close manager told).open_window gone sid client))

theorem kept_ordinary (traffic : Traffic Ordinary a b) : Kept a b := kept_traffic traffic (fun _ queues => queues.2)

/-- The device that has gone never comes back. -/
theorem gone_act (a b : Daemon) (act : Act pre event a b) (gone : a.hid = false) : b.hid = false := by
  have kept : Kept a b → b.hid = false := by
    intro kept
    by_contra there
    rw [Bool.not_eq_false] at there
    rw [(kept there).1] at gone
    cases gone
  cases act with
  | traffic traffic => exact kept (kept_ordinary traffic)
  | @asked client packet _ _ =>
    rw [show (a.forward_packet_to_board packet).1 = a by simp [Daemon.forward_packet_to_board,gone]]
    exact gone
  | closed _ => exact kept (kept_close a _ _)
  | opened _ _ => exact kept (kept_opened a _ _ _ _ _ _ _)
  | fed _ _ _ _ => exact kept (kept_shown _ _)
  | focused _ _ => exact kept (kept_shown _ _)
  | unfocused => exact kept (kept_shown _ _)
  | pended _ _ => exact gone
  | rebound _ _ _ _ => exact gone
  | touched _ _ => exact gone
  | joined _ => exact gone
  | left _ => exact gone
  | wrote _ _ _ _ => exact gone

theorem gone_event (gone : pre.hid = false) : (pre.handle event).hid = false :=
  acts_invariant gone_act (event_acts pre event) gone

/-- Only requests, answers and the writer change what is requested. -/
theorem kept_event (answer : ¬ BoardAnswers event) (request : ¬ ∃ client packet, Sends pre event client packet ∧ packet.Requests)
    (write : ∀ writes, event ≠ .write writes) : Kept pre (pre.handle event) := by
  have kept : ∀ a b, Act pre event a b → Kept pre a → Kept pre b := by
    intro a b act before
    cases act with
    | traffic traffic => exact kept_trans before (kept_ordinary traffic)
    | @asked client packet sends type => exact absurd ⟨client,packet,sends,type⟩ request
    | pended _ cause =>
      rcases cause with answers | requests
      · exact absurd answers answer
      · exact absurd requests request
    | closed _ => exact kept_trans before (kept_close a _ _)
    | opened _ _ => exact kept_trans before (kept_opened a _ _ _ _ _ _ _)
    | @fed client packet _ _ _ _ =>
      have same : Kept pre { a with router := (a.router.append packet.session_id packet.payload).1 } := before
      exact kept_trans same (kept_shown _ _)
    | @focused sid _ _ =>
      have same : Kept pre { a with focused_sid := some sid, router := (a.router.set_active (some sid)).1 } := before
      exact kept_trans same (kept_shown _ _)
    | unfocused =>
      have same : Kept pre { a with focused_sid := none, router := (a.router.set_active none).1 } := before
      exact kept_trans same (kept_shown _ _)
    | rebound _ _ _ _ => exact before
    | touched _ _ => exact before
    | joined _ => exact before
    | left _ => exact before
    | @wrote writes cause _ _ _ => exact absurd cause (write writes)
  exact acts_invariant kept (event_acts pre event) (kept_refl pre)

end

/-! ## What the board has to answer -/

/-- The answer of the board in this move. -/
def answer (m : HostMove) : Option Packet :=
  match m.input with
  | .board_packet packet _ =>
    if packet.command = Cmd.SESSION_RESPONSE.value ∨
        (packet.command = Cmd.SESSION_INVALID.value ∧ packet.session_id = SESSION_BROADCAST) then some packet
    else none
  | _ => none

/-- The answer grants a session. -/
def Packet.Grants (packet : Packet) : Prop :=
  packet.command = Cmd.SESSION_RESPONSE.value ∧ packet.session_id ≠ SESSION_BROADCAST ∧
    (status_from_payload packet.payload .OK = .OK ∨ status_from_payload packet.payload .OK = .CREATED)

instance (packet : Packet) : Decidable packet.Grants := inferInstanceAs (Decidable (_ ∧ _ ∧ (_ ∨ _)))

/-- A request: its client and its hint. -/
abbrev Asked := Client × List UInt8

/-- What a move does to the requests: one is made, the writer writes one or drops it, or one is answered. -/
def observe (l : Ledger Asked) (m : HostMove) : Ledger Asked :=
  match m.input with
  | .client_packet client packet _ =>
    if m.pre.Hears client packet ∧ m.pre.hid = true ∧ packet.Requests then l.ask [(client,plugin_hint packet.payload)] else l
  | .write _ =>
    match m.pre.hid_tx_queue with
    | some packet :: _ =>
      if m.pre.writing = true ∧ packet.Requests then if .written packet ∈ effects m then l.deliver 1 else l.lose
      else l
    | _ => l
  | .board_packet _ _ => if (answer m).isSome then l.answered else l
  | _ => l

/-- The requests of a history. -/
def ledger (ms : List HostMove) : Ledger Asked := ms.foldl observe .empty

/-- The board answers a request that it has received, while the device is there. -/
def Contract (before : List HostMove) (m : HostMove) : Prop :=
  (answer m).isSome → m.pre.hid = true ∧ (ledger before).received ≠ []

instance (before : List HostMove) (m : HostMove) : Decidable (Contract before m) := inferInstanceAs (Decidable (_ → _))

/-- The request fits a report. -/
def fits (asked : Asked) : Bool := asked.2.length ≤ MAX_PAYLOAD_PER_FRAME

/-- An answer comes while the oldest pending request is one that fits a report, and grants only a sid of the host. -/
def Fitting (m : HostMove) : Prop :=
  ∀ packet ∈ answer m, (∀ asked ∈ m.pre.pending_sessions.head?, fits asked = true) ∧
    (packet.Grants → m.pre.sessions.Usable packet.session_id)

instance (m : HostMove) : Decidable (Fitting m) := inferInstanceAs (Decidable (∀ packet ∈ answer m, _))

/-- The answer goes to the client: a grant after other packets that are none, with the sid recorded under the client,
    and a refusal as a SESSION_INVALID. -/
def Delivered (m : HostMove) (client : Client) (packet : Packet) : Prop :=
  if packet.Grants then
    m.post.owners.get packet.session_id = some client ∧
      ∃ notices, effects m = notices ++ [.sent client packet] ∧ ∀ e ∈ notices, ∀ sid, grants sid e = false
  else
    ∃ refusal, effects m = [.sent client refusal] ∧ refusal.command = Cmd.SESSION_INVALID.value ∧
      refusal.session_id = packet.session_id

/-- Each answer is delivered to the client that made the oldest of the requests that the board received. -/
def Delivers (before : List HostMove) (m : HostMove) : Prop :=
  ∀ packet ∈ answer m, ∀ asked ∈ (ledger before).received.head?, Delivered m asked.key.1 packet

/-! ## Requests and pending requests -/

/-- While the device is there, the requests that fit are pending in the order in which the board will answer them. -/
structure Accounted (l : Ledger Asked) (daemon : Daemon) : Prop where
  hints : l.queued.map (fun r => r.key.2) = (board_requests daemon.hid_tx_queue).map (fun packet => plugin_hint packet.payload)
  pending : daemon.pending_sessions.filter fits = (l.outstanding.map Request.key).filter fits
  received : ∀ r ∈ l.received, fits r.key = true
  framed : ∀ packet ∈ board_requests daemon.hid_tx_queue, packet.Framed

section
variable {l : Ledger Asked} {m : HostMove}

theorem accounted_kept {a b : Daemon} (accounted : Accounted l a) (pending : b.pending_sessions = a.pending_sessions)
    (requests : board_requests b.hid_tx_queue = board_requests a.hid_tx_queue) : Accounted l b :=
  ⟨by rw [requests]; exact accounted.hints,by rw [pending]; exact accounted.pending,accounted.received,
    by rw [requests]; exact accounted.framed⟩

/-- A request is made. -/
theorem accounted_ask {client : Client} {packet : Packet} (accounted : Accounted l m.pre) (framed : packet.Framed)
    (request : packet.Requests) {b : Daemon}
    (pending : b.pending_sessions = m.pre.pending_sessions ++ [(client,plugin_hint packet.payload)])
    (queue : b.hid_tx_queue = m.pre.hid_tx_queue ++ [some packet]) : Accounted (l.ask [(client,plugin_hint packet.payload)]) b := by
  have requests : board_requests b.hid_tx_queue = board_requests m.pre.hid_tx_queue ++ [packet] := by
    rw [queue,board_requests,List.filterMap_append]
    simp [board_requests,Option.filter,request]
  refine ⟨?_,?_,accounted.received,?_⟩
  · rw [requests,List.map_append,← accounted.hints]
    simp [Ledger.ask,Request.fresh]
  · rw [pending,List.filter_append,accounted.pending,outstanding_ask,List.map_append,List.filter_append]
    rfl
  · intro other member
    rw [requests] at member
    rcases List.mem_append.mp member with old | new
    · exact accounted.framed other old
    · rw [List.mem_singleton.mp new]
      exact framed

/-- The writer takes a request from the queue: it writes it, or it drops one that does not fit. -/
theorem accounted_taken {packet : Packet} {rest : List (Option Packet)} (accounted : Accounted l m.pre) (request : packet.Requests)
    (queue : m.pre.hid_tx_queue = some packet :: rest) {b : Daemon} (pending : b.pending_sessions = m.pre.pending_sessions)
    (left : b.hid_tx_queue = rest) :
    (fits (0,plugin_hint packet.payload) = true → Accounted (l.deliver 1) b) ∧
      (fits (0,plugin_hint packet.payload) = false → Accounted l.lose b) := by
  have requests : board_requests m.pre.hid_tx_queue = packet :: board_requests b.hid_tx_queue := by
    rw [queue,left]
    simp [board_requests,Option.filter,request]
  obtain ⟨hints,pended,received,framed⟩ := accounted
  rw [requests,List.map_cons] at hints
  obtain ⟨first,later,shape,hint,hints⟩ := List.map_eq_cons_iff.mp hints
  have framed' : ∀ other ∈ board_requests b.hid_tx_queue, other.Framed := by
    intro other member
    exact framed other (by rw [requests]; exact List.mem_cons_of_mem packet member)
  have same : fits first.key = fits (0,plugin_hint packet.payload) := by
    simp only [fits,hint]
  constructor
  · intro fitting
    refine ⟨?_,?_,?_,framed'⟩
    · simpa [Ledger.deliver,shape] using hints
    · rw [pending,outstanding_deliver]
      exact pended
    · intro r member
      simp only [Ledger.deliver,shape,List.take_succ_cons,List.take_zero,List.mem_append,List.mem_singleton] at member
      rcases member with old | rfl
      · exact received r old
      · exact same.trans fitting
  · intro large
    refine ⟨?_,?_,received,framed'⟩
    · simpa [Ledger.lose,shape] using hints
    · rw [pending,pended]
      simp [Ledger.outstanding,Ledger.lose,shape,same.trans large]

/-! ## Moves -/

theorem fits_hint {packet : Packet} (client : Client) :
    fits (client,plugin_hint packet.payload) = true ↔ packet.payload.length ≤ MAX_PAYLOAD_PER_FRAME := by
  rw [fits,decide_eq_true_eq]
  cases bytes : packet.payload with
  | nil => exact iff_of_true (show 7 ≤ MAX_PAYLOAD_PER_FRAME by decide) (Nat.zero_le _)
  | cons byte rest => exact Iff.rfl

/-- What the writer does with a packet, unless it gives the device up: it writes a packet that makes a report and drops any other. -/
theorem write_taken {daemon : Daemon} {packet : Packet} {rest : List (Option Packet)} {writes : Bool} (there : daemon.hid = true)
    (queue : daemon.hid_tx_queue = some packet :: rest) (stays : (daemon.write_next writes).hid = true) :
    ∃ written, daemon.write_next writes = { daemon with hid_tx_queue := rest, log := daemon.log ++ written } ∧
      (((∃ raw, packet.report = .ok raw) ∧ written = [.written packet]) ∨
        ((¬ ∃ raw, packet.report = .ok raw) ∧ written = [])) := by
  simp only [Daemon.write_next,queue,there,Bool.not_true,Bool.false_eq_true,if_false] at stays ⊢
  cases report : packet.report with
  | error text =>
    refine ⟨[],by simp,.inr ⟨?_,rfl⟩⟩
    rintro ⟨raw,bad⟩
    cases bad
  | ok raw =>
    rw [report] at stays
    cases writes with
    | true => exact ⟨[.written packet],by simp,.inl ⟨⟨raw,rfl⟩,rfl⟩⟩
    | false =>
      have gone : (({ daemon with hid_tx_queue := rest } : Daemon).mark_hidraw_unavailable).hid = true := by
        simpa [there] using stays
      rw [unavailable_gone] at gone
      cases gone

theorem accounted_write {writes : Bool} (input : m.input = .write writes) (move : host m) (before : m.pre.hid = true)
    (accounted : Accounted l m.pre) (hid : m.post.hid = true) : Accounted (observe l m) m.post := by
  simp only [host,input,Daemon.handle] at move
  by_cases writing : m.pre.writing = true
  · rw [if_pos writing] at move
    cases queue : m.pre.hid_tx_queue with
    | nil =>
      have same : observe l m = l := by simp only [observe,input,queue]
      rw [same,move,Daemon.write_next,queue]
      exact accounted
    | cons item rest =>
      cases item with
      | none =>
        have same : observe l m = l := by simp only [observe,input,queue]
        rw [same,move,Daemon.write_next,queue]
        exact accounted_kept accounted rfl (by rw [queue]; rfl)
      | some packet =>
        rw [move] at hid
        obtain ⟨written,after,written_if⟩ := write_taken before queue hid
        have news : effects m = written := by
          rw [effects,move,after,List.drop_left]
        by_cases request : packet.Requests
        · have taken := accounted_taken accounted request queue (b := m.post) (by rw [move,after]) (by rw [move,after])
          have framed : packet.Framed := accounted.framed packet (by simp [queue,board_requests,Option.filter,request])
          simp only [observe,input,queue,writing,request,and_self,if_true,news]
          rcases written_if with ⟨report,rfl⟩ | ⟨report,rfl⟩
          · rw [if_pos (by simp)]
            exact taken.1 ((fits_hint 0).mpr ((report_fits framed).mp report))
          · rw [if_neg (by simp)]
            refine taken.2 ?_
            rw [← Bool.not_eq_true,fits_hint,← report_fits framed]
            exact report
        · have same : observe l m = l := by simp only [observe,input,queue,request,and_false,if_false]
          rw [same,move,after]
          exact accounted_kept accounted rfl (by simp [queue,board_requests,Option.filter,request])
  · rw [if_neg writing] at move
    have same : observe l m = l := by
      simp only [observe,input]
      split
      · exact if_neg (fun both => writing both.1)
      · rfl
    rw [same,move]
    exact accounted

theorem accounted_request {client : Client} {packet : Packet} {clock : Clock} (input : m.input = .client_packet client packet clock)
    (heard : m.pre.Hears client packet) (request : packet.Requests) (move : host m) (before : m.pre.hid = true)
    (accounted : Accounted l m.pre) (hid : m.post.hid = true) : Accounted (observe l m) m.post := by
  have post : m.post = m.pre.forward_session_request_to_board packet client := by
    rw [move,input]
    simp only [Daemon.handle,if_pos heard,Daemon.handle_packet,of_value_iff.mpr request,before,if_true,
      Daemon.handle_plugin_packet_real]
  have made : observe l m = l.ask [(client,plugin_hint packet.payload)] := by
    simp only [observe,input]
    exact if_pos ⟨heard,before,request⟩
  have there : ({ m.pre with pending_sessions := m.pre.pending_sessions ++ [(client,plugin_hint packet.payload)] } : Daemon).hid =
      true := before
  rw [made]
  rw [post,Daemon.forward_session_request_to_board] at hid
  rw [Daemon.forward_session_request_to_board] at post
  by_cases room : m.pre.hid_tx_queue.length < HID_TX_QUEUE_LIMIT
  · simp only [forward_room packet there room] at post
    exact accounted_ask accounted heard.2 request (by rw [post]) (by rw [post])
  · simp only [forward_full packet there (by omega : HID_TX_QUEUE_LIMIT ≤ m.pre.hid_tx_queue.length)] at hid
    have gone := unavailable_gone { m.pre with pending_sessions := m.pre.pending_sessions ++ [(client,plugin_hint packet.payload)] }
    exact absurd (gone.symm.trans hid) (by decide)

end

/-! ## Answers -/

section
variable {l : Ledger Asked} {m : HostMove} {packet : Packet}

theorem answer_input (answers : answer m = some packet) : ∃ clock, m.input = .board_packet packet clock ∧
    (packet.command = Cmd.SESSION_RESPONSE.value ∨
      (packet.command = Cmd.SESSION_INVALID.value ∧ packet.session_id = SESSION_BROADCAST)) := by
  unfold answer at answers
  split at answers
  · rename_i board clock input
    split at answers
    · rename_i type
      cases answers
      exact ⟨clock,input,type⟩
    · cases answers
  · cases answers

/-- The oldest pending request is the oldest one that the board received, when it fits a report. -/
theorem pending_first {daemon : Daemon} {r : Request Asked} {rest : List (Request Asked)} (accounted : Accounted l daemon)
    (first : l.received = r :: rest) (fitting : ∀ asked ∈ daemon.pending_sessions.head?, fits asked = true) :
    ∃ waiting, daemon.pending_sessions = r.key :: waiting ∧ ∀ b : Daemon, b.pending_sessions = waiting →
      board_requests b.hid_tx_queue = board_requests daemon.hid_tx_queue → Accounted l.answered b := by
  have outstanding := outstanding_answered first
  have fit : fits r.key = true := accounted.received r (by rw [first]; exact List.mem_cons_self)
  have pending := accounted.pending
  rw [outstanding,List.map_cons,List.filter_cons_of_pos fit] at pending
  match shape : daemon.pending_sessions with
  | [] =>
    rw [shape] at pending
    cases pending
  | asked :: waiting =>
    rw [shape,List.filter_cons_of_pos (fitting asked (by rw [shape]; rfl))] at pending
    obtain ⟨same,later⟩ := List.cons.inj pending
    refine ⟨waiting,by rw [same],?_⟩
    intro b left requests
    refine ⟨by rw [requests]; exact accounted.hints,by rw [left]; exact later,?_,by rw [requests]; exact accounted.framed⟩
    intro r' member
    refine accounted.received r' ?_
    rw [first]
    rw [Ledger.answered,first] at member
    exact List.mem_cons_of_mem r member

/-- A refusal is sent to the client, and nothing else happens. -/
theorem refusal_delivered {client : Client} {waiting : List Asked} {refusal : Packet} (refuses : ¬ packet.Grants)
    (post : m.post = ({ m.pre with pending_sessions := waiting } : Daemon).send client refusal)
    (type : refusal.command = Cmd.SESSION_INVALID.value) (sid : refusal.session_id = packet.session_id) : Delivered m client packet := by
  rw [Delivered,if_neg refuses]
  refine ⟨refusal,?_,type,sid⟩
  rw [effects,post]
  exact List.drop_left

/-- A grant is sent to the client after all that the closing of other sessions brought about. -/
theorem grant_delivered {client : Client} {hint : List UInt8} {waiting : List Asked} {clock : Clock} (windows : Windows m.pre)
    (aligned : Aligned m.pre) (sink : m.pre.hid_sink = true) (move : host m) (input : m.input = .board_packet packet clock)
    (pending : m.pre.pending_sessions = (client,hint) :: waiting) (grant : packet.Grants)
    (usable : m.pre.sessions.Usable packet.session_id) :
    Delivered m client packet ∧ Kept { m.pre with pending_sessions := waiting } m.post := by
  have grants : BoardGrants m.pre m.input client packet.session_id :=
    ⟨packet,clock,hint,waiting,input,sink,grant.1,rfl,usable,grant.2.2,pending⟩
  have owner := (granted_owner windows grants).1
  obtain ⟨packet',clock',hint',waiting',manager,told,retired,input',pending',opening,handled⟩ := grant_handled grants
  cases input.symm.trans input'
  cases pending.symm.trans pending'
  rw [← move] at handled owner
  have start : Tidy m.pre { m.pre with pending_sessions := waiting } := ⟨aligned,fun _ => .inr rfl,[],by simp,by simp⟩
  have closed := tidy_close start.aligned manager told
  have opened := tidy_open closed.aligned retired packet.session_id client
  have done := tidy_retire opened.aligned retired .RECLAIMED
  obtain ⟨notices,log,quiet⟩ := (tidy_trans start (tidy_trans closed (tidy_trans opened done))).logged
  refine ⟨?_,by rw [handled]; exact kept_opened _ _ _ _ _ _ _ _⟩
  rw [Delivered,if_pos grant]
  refine ⟨owner,notices,?_,fun e member sid => quiet_grants (quiet e member) sid⟩
  have whole : m.post.log = m.pre.log ++ (notices ++ [.sent client packet]) := by
    rw [handled,← List.append_assoc,← log]
    rfl
  rw [effects,whole,List.drop_left]

theorem accounted_answer {r : Request Asked} {rest : List (Request Asked)} (windows : Windows m.pre) (aligned : Aligned m.pre)
    (sink : m.pre.hid_sink = true) (move : host m) (answers : answer m = some packet) (fitting : Fitting m)
    (accounted : Accounted l m.pre) (first : l.received = r :: rest) :
    Delivered m r.key.1 packet ∧ (m.post.hid = true → Accounted l.answered m.post) := by
  obtain ⟨clock,input,type⟩ := answer_input answers
  obtain ⟨fit,usable⟩ := fitting packet answers
  obtain ⟨waiting,pending,after⟩ := pending_first accounted first fit
  have popped : Kept { m.pre with pending_sessions := waiting } m.post → m.post.hid = true → Accounted l.answered m.post := by
    intro kept hid
    obtain ⟨_,left,requests⟩ := kept hid
    exact after m.post left requests
  have sent : ∀ refusal, m.post = ({ m.pre with pending_sessions := waiting } : Daemon).send r.key.1 refusal →
      Kept { m.pre with pending_sessions := waiting } m.post := by
    intro refusal post
    rw [post]
    exact kept_refl { m.pre with pending_sessions := waiting }
  have pair : m.pre.pending_sessions = (r.key.1,r.key.2) :: waiting := pending
  rcases type with response | ⟨invalid,nobody⟩
  · by_cases grant : packet.Grants
    · obtain ⟨delivered,kept⟩ := grant_delivered windows aligned sink move input pair grant (usable grant)
      exact ⟨delivered,popped kept⟩
    · have refused : ¬ ((status_from_payload packet.payload .OK = .OK ∨ status_from_payload packet.payload .OK = .CREATED) ∧
          packet.session_id ≠ SESSION_BROADCAST) := fun both => grant ⟨response,both.2,both.1⟩
      have post := move
      simp only [host,input,Daemon.handle,if_pos sink,Daemon.handle_hid_packet,of_value_iff.mpr response,
        Daemon.handle_hid_session_response,pair,if_neg refused] at post
      exact ⟨refusal_delivered grant post rfl rfl,popped (sent _ post)⟩
  · have refuses : ¬ packet.Grants := by
      intro grant
      exact absurd (invalid.symm.trans grant.1) (by decide)
    have post := move
    simp only [host,input,Daemon.handle,if_pos sink,Daemon.handle_hid_packet,of_value_iff.mpr invalid,
      Daemon.handle_hid_session_invalid,nobody,pair] at post
    exact ⟨refusal_delivered refuses post invalid rfl,popped (sent _ post)⟩

/-! ## Runs -/

theorem answer_board (input : ∃ clock, m.input = .board_packet packet clock) (type : packet.command = Cmd.SESSION_RESPONSE.value ∨
    (packet.command = Cmd.SESSION_INVALID.value ∧ packet.session_id = SESSION_BROADCAST)) : answer m = some packet := by
  obtain ⟨clock,input⟩ := input
  simp only [answer,input]
  exact if_pos type

/-- A move that is no request, no answer and none of the writer changes nothing about the requests. -/
theorem observe_other (answers : answer m = none)
    (request : ¬ ∃ client packet, Sends m.pre m.input client packet ∧ packet.Requests)
    (write : ∀ writes, m.input ≠ .write writes) : observe l m = l := by
  unfold observe
  split
  · rename_i client packet clock input
    refine if_neg ?_
    rintro ⟨heard,_,requests⟩
    exact request ⟨client,packet,⟨heard,clock,input⟩,requests⟩
  · rename_i writes input
    exact absurd input (write writes)
  · rw [answers]
    rfl
  · rfl

/-- One move: an answer is delivered, and the pending requests stay in the order of the requests at the board. -/
theorem accounted_step (windows : Windows m.pre) (aligned : Aligned m.pre) (sink : m.pre.hid_sink = true) (move : host m)
    (contract : (answer m).isSome → m.pre.hid = true ∧ l.received ≠ []) (fitting : Fitting m)
    (accounted : m.pre.hid = true → Accounted l m.pre) :
    (∀ packet ∈ answer m, ∀ asked ∈ l.received.head?, Delivered m asked.key.1 packet) ∧
      (m.post.hid = true → Accounted (observe l m) m.post) := by
  have before : m.post.hid = true → m.pre.hid = true := by
    intro there
    by_contra gone
    rw [Bool.not_eq_true] at gone
    rw [move,gone_event gone] at there
    cases there
  match answers : answer m with
  | some packet =>
    rw [answers] at contract
    obtain ⟨hid,_⟩ := contract rfl
    constructor
    · intro packet' same asked first
      cases same
      obtain ⟨rest,received⟩ := List.head?_eq_some_iff.mp first
      exact (accounted_answer windows aligned sink move answers fitting (accounted hid) received).1
    · intro there
      obtain ⟨r,rest,first⟩ := List.exists_cons_of_ne_nil (contract rfl).2
      obtain ⟨clock,input,_⟩ := answer_input answers
      have answered : observe l m = l.answered := by
        simp only [observe,input,answers]
        rfl
      rw [answered]
      exact (accounted_answer windows aligned sink move answers fitting (accounted hid) first).2 there
  | none =>
    refine ⟨fun packet same => (by cases same),?_⟩
    intro there
    have hid := before there
    by_cases request : ∃ client packet, Sends m.pre m.input client packet ∧ packet.Requests
    · obtain ⟨client,packet,⟨heard,clock,input⟩,requests⟩ := request
      exact accounted_request input heard requests move hid (accounted hid) there
    · by_cases write : ∃ writes, m.input = .write writes
      · obtain ⟨writes,input⟩ := write
        exact accounted_write input move hid (accounted hid) there
      · rw [observe_other answers request (fun writes input => write ⟨writes,input⟩)]
        have quiet : ¬ BoardAnswers m.input := by
          rintro ⟨packet,clock,input,type⟩
          rw [answer_board ⟨clock,input⟩ type] at answers
          cases answers
        have kept : Kept m.pre m.post := by
          rw [move]
          exact kept_event quiet request (fun writes input => write ⟨writes,input⟩)
        obtain ⟨_,pending,same⟩ := kept there
        exact accounted_kept (accounted hid) pending same

end

theorem ledger_snoc (ms : List HostMove) (m : HostMove) : ledger (ms ++ [m]) = observe (ledger ms) m := by
  rw [ledger,List.foldl_append]
  rfl

/-- In every run in which the board answers only what it received, and no answer comes while a request that does not
    fit a report is the oldest pending one, each answer is delivered to the client that it is for. -/
theorem answers_delivered {config : DaemonConfig} (real : config.hidraw = true) {ms : List HostMove} {daemon : Daemon}
    (run : HostRun config ms daemon) (contract : Throughout Contract ms) (fitting : ∀ m ∈ ms, Fitting m) : Throughout Delivers ms := by
  have all : (daemon.hid = true → Accounted (ledger ms) daemon) ∧ Throughout Delivers ms := by
    induction run with
    | refl =>
      refine ⟨?_,throughout_nil⟩
      intro _
      exact ⟨rfl,rfl,by simp [ledger,Ledger.empty],by simp [Daemon.start,board_requests]⟩
    | @next ms m before move ih =>
      obtain ⟨earlier,last⟩ := throughout_snoc.mp contract
      obtain ⟨accounted,delivered⟩ := ih earlier (fun m' member => fitting m' (List.mem_append_left _ member))
      have fresh := run_fresh before
      have numbered := reached_numbered ⟨ms,before⟩
      obtain ⟨delivers,after⟩ := accounted_step fresh.windows fresh.aligned (numbered.sink.trans real) move last
        (fitting m (by simp)) accounted
      rw [ledger_snoc]
      exact ⟨after,throughout_snoc.mpr ⟨delivered,delivers⟩⟩
  exact all.2

/-- Two requests that the board answers in their order, with sids in another order. -/
def two_asked : List Event := [.connect,.connect,.asks 0,.asks 1,.write true,.write true,.allots 2,.allots 1]

theorem answers_delivered_two : Throughout Delivers (moves host_step (.start .real) two_asked) :=
  answers_delivered rfl (host_events .real two_asked) (throughout_take.mpr (by decide)) (by decide)

/-- The writer drops a request with a hint of 59 bytes; the board answers the one that comes after it. -/
def large_asked : List Event :=
  [.connect,.connect,.client_packet 0 (make_request_session (List.replicate 59 0x61)) ⟨0,0⟩,.asks 1,.write true,.write true,.allots 1]

theorem large_asked_shifted : ¬ ∀ (config : DaemonConfig), config.hidraw = true → ∀ ms daemon, HostRun config ms daemon →
    Throughout Contract ms → Throughout Delivers ms := by
  intro claimed
  have delivers := claimed .real rfl _ _ (host_events .real large_asked) (throughout_take.mpr (by decide)) _ _ []
    (moves_append host_step (.start .real) (large_asked.take 6) _)
  have delivered := delivers (make_session_response 1 .CREATED) (by decide) ⟨(1,plugin_hint []),true⟩ (by decide)
  rw [Delivered,if_pos (by decide)] at delivered
  exact absurd delivered.1 (by decide)

end VibeBridge.Python
