import Mathlib.Logic.Relation
import VibeBridge.Python.Traffic

/-!
What one event makes the daemon do, as a sequence of acts on its tables
(`event_acts`). The properties of the daemon are proved act by act.
-/
namespace VibeBridge.Python

/-- Traffic of any time: no packet for a screen, no request and no grant. -/
def Ordinary : Allowed where
  queues packet := packet.command ≠ Cmd.VT100_STREAM.value ∧ packet.command ≠ Cmd.REQUEST_SESSION.value
  sends _ packet := packet.command ≠ Cmd.SESSION_RESPONSE.value

/-- Sessions are closed: the manager has its new table, and the callback runs on what it told. -/
def Daemon.close (daemon : Daemon) (manager : SessionManager) (told : List (Nat × Status)) : Daemon :=
  { daemon with sessions := manager }.on_session_invalidates told

/-- A window is opened for a client, after some sids lost their owners. -/
def Daemon.open_window (daemon : Daemon) (gone : List Nat) (sid : Nat) (client : Client) : Daemon :=
  { daemon with owners := (gone.foldl Dict.pop daemon.owners).set sid client, router := daemon.router.register sid }

/-- Several sessions are closed, one after another. -/
def Daemon.retire (daemon : Daemon) (sids : List Nat) (status : Status) : Daemon :=
  sids.foldl (fun daemon sid => daemon.invalidate sid status) daemon

/-- Bytes are appended to a window. -/
def Daemon.feed (daemon : Daemon) (sid : Nat) (data : List UInt8) : Daemon :=
  { daemon with router := (daemon.router.append sid data).1 }.screen_sink (daemon.router.append sid data).2

/-- The board opens a screen. -/
def Daemon.focus (daemon : Daemon) (sid : Option Nat) : Daemon := { daemon with focused_sid := sid }.set_active sid

/-- The board grants a sid that the host can use, and a request is pending. -/
def BoardGrants (daemon : Daemon) (event : Event) (client : Client) (sid : Nat) : Prop :=
  ∃ packet clock hint waiting, event = .board_packet packet clock ∧ daemon.hid_sink = true ∧
    packet.command = Cmd.SESSION_RESPONSE.value ∧ packet.session_id = sid ∧ daemon.sessions.Usable sid ∧
    (status_from_payload packet.payload .OK = .OK ∨ status_from_payload packet.payload .OK = .CREATED) ∧
    daemon.pending_sessions = (client,hint) :: waiting

/-- The event is a packet of a client that is heard. -/
def Sends (daemon : Daemon) (event : Event) (client : Client) (packet : Packet) : Prop :=
  daemon.Hears client packet ∧ ∃ clock, event = .client_packet client packet clock

/-- The packets that are only accepted for a live session, which then has their sender as its owner. -/
def Daemon.Checks (daemon : Daemon) (packet : Packet) : Prop :=
  match Cmd.of_value packet.command with
  | none => False
  | some .VT100_STREAM => True
  | some .STATUS_UPDATE => True
  | some .REQUEST_SESSION => False
  | some .WINDOW_ACTIVATE => False
  | some .WINDOW_SWITCH => False
  | some _ => daemon.hid = true ∧ packet.session_id ≠ SESSION_BROADCAST

/-- The board answers a request: with a SESSION_RESPONSE, or with a SESSION_INVALID of no session. -/
def BoardAnswers (event : Event) : Prop :=
  ∃ packet clock, event = .board_packet packet clock ∧ (packet.command = Cmd.SESSION_RESPONSE.value ∨
    (packet.command = Cmd.SESSION_INVALID.value ∧ packet.session_id = SESSION_BROADCAST))

/-- How a window is opened: which others are closed before it and which after it, and what the client is told. -/
structure Opening (daemon : Daemon) (manager : SessionManager) (told : List (Nat × Status)) (gone retired : List Nat)
    (sid : Nat) (client : Client) (packet : Packet) : Prop where
  opens : Opens daemon.sessions manager told sid
  kept : sid ∉ retired
  goes : ∀ x, x ∈ gone → x ∈ told.map Prod.fst ∨ x ∈ retired
  retires : ∀ x, x ∈ retired → x ∈ gone ∧ (daemon.close manager told).owners.get x = some client
  reply : packet.command = Cmd.SESSION_RESPONSE.value ∧ packet.session_id = sid

/-- The acts of an event that the daemon handles in the state `pre`. -/
inductive Act (pre : Daemon) (event : Event) : Daemon → Daemon → Prop
  | traffic {a b : Daemon} (traffic : Traffic Ordinary a b) : Act pre event a b
  | asked {a : Daemon} {client : Client} {packet : Packet} (sends : Sends pre event client packet)
      (type : packet.command = Cmd.REQUEST_SESSION.value) : Act pre event a (a.forward_packet_to_board packet).1
  | pended {a : Daemon} (pending : List (Client × List UInt8)) (cause : BoardAnswers event ∨
      ∃ client packet, Sends pre event client packet ∧ packet.command = Cmd.REQUEST_SESSION.value) :
      Act pre event a { a with pending_sessions := pending }
  | closed {a : Daemon} {manager : SessionManager} {told : List (Nat × Status)} (closes : Closes a.sessions manager told) :
      Act pre event a (a.close manager told)
  | opened {a : Daemon} {manager : SessionManager} {told : List (Nat × Status)} {gone retired : List Nat} {sid : Nat}
      {client : Client} {packet : Packet} (opening : Opening a manager told gone retired sid client packet)
      (cause : (∃ request, Sends pre event client request ∧ request.command = Cmd.REQUEST_SESSION.value) ∨
        BoardGrants pre event client sid) :
      Act pre event a ((((a.close manager told).open_window gone sid client).retire retired .RECLAIMED).send client packet)
  | rebound {a : Daemon} {client : Client} {packet : Packet} (sends : Sends pre event client packet) (checks : pre.Checks packet)
      (live : a.sessions.Live packet.session_id) (first : a = pre) :
      Act pre event a { a with owners := a.owners.set packet.session_id client }
  | touched {a : Daemon} (sid : Nat) (now : Int) : Act pre event a (a.touch sid now)
  | fed {a : Daemon} {client : Client} {packet : Packet} (sends : Sends pre event client packet)
      (type : packet.command = Cmd.VT100_STREAM.value) (live : a.sessions.Live packet.session_id)
      (first : a.router = pre.router) : Act pre event a (a.feed packet.session_id packet.payload)
  | focused {a : Daemon} {sid : Nat} (cause : ∃ packet clock, event = .board_packet packet clock) (live : a.sessions.Live sid) :
      Act pre event a (a.focus (some sid))
  | unfocused {a : Daemon} : Act pre event a (a.focus none)
  | joined {a : Daemon} (cause : event = .connect) :
      Act pre event a { a with clients := a.clients ++ [a.accepted], accepted := a.accepted + 1 }
  | left {a : Daemon} {client : Client} (cause : event = .disconnect client) :
      Act pre event a { a with clients := a.clients.filter (fun other => other ≠ client) }
  | wrote {a : Daemon} {writes : Bool} (cause : event = .write writes) (queue : List (Option Packet)) (writing : Bool)
      (written : List Packet) :
      Act pre event a { a with hid_tx_queue := queue, writing := writing, log := a.log ++ written.map .written }

abbrev Acts (pre : Daemon) (event : Event) : Daemon → Daemon → Prop := Relation.ReflTransGen (Act pre event)

/-- What the invalidation callback keeps is kept when sessions are closed. -/
theorem close_kept {P : Daemon → Prop} (each : ∀ daemon sid status, P daemon → P (daemon.on_session_invalidate sid status))
    {a : Daemon} {manager : SessionManager} (told : List (Nat × Status)) (start : P { a with sessions := manager }) :
    P (a.close manager told) := by
  have all : ∀ daemon, P daemon → P (daemon.on_session_invalidates told) := by
    induction told with
    | nil => exact fun _ => id
    | cons t rest ih => exact fun daemon before => ih (daemon.on_session_invalidate t.1 t.2) (each daemon t.1 t.2 before)
  exact all _ start

theorem retire_kept {P : Daemon → Prop} (each : ∀ daemon sid status, P daemon → P (daemon.invalidate sid status))
    (sids : List Nat) (status : Status) {a : Daemon} (start : P a) : P (a.retire sids status) := by
  induction sids generalizing a with
  | nil => exact start
  | cons sid rest ih => exact ih (each a sid status start)

/-- What each act keeps is kept by the event. -/
theorem acts_invariant {pre : Daemon} {event : Event} {P : Daemon → Prop}
    (kept : ∀ a b, Act pre event a b → P a → P b) {a b : Daemon} (acts : Acts pre event a b) (start : P a) : P b := by
  induction acts with
  | refl => exact start
  | tail _ act ih => exact kept _ _ act ih

section
variable {pre : Daemon} {event : Event}

theorem acts_traffic {a b : Daemon} (traffic : Traffic Ordinary a b) : Acts pre event a b := .single (.traffic traffic)

/-! ## Packets of the clients -/

/-- A packet for a session that is not live is answered with SESSION_INVALID and not accepted;
    otherwise the session has its sender as its owner. -/
theorem validate_acts {client : Client} {packet : Packet} (sends : Sends pre event client packet) (checks : pre.Checks packet) :
    Acts pre event pre (pre.validate_session packet client).1 ∧ (pre.validate_session packet client).1.router = pre.router ∧
      ((pre.validate_session packet client).2 = true →
        (pre.validate_session packet client).1.sessions.Live packet.session_id) := by
  unfold Daemon.validate_session
  split
  · exact ⟨acts_traffic (traffic_send pre (invalid_no_response _ _)),rfl,fun accepted => by cases accepted⟩
  · rename_i session found
    have live : pre.sessions.Live packet.session_id := Dict.mem_keys.mpr ⟨session,found⟩
    split
    · exact ⟨.single (.rebound sends checks live rfl),rfl,fun _ => live⟩
    · exact ⟨.refl,rfl,fun _ => live⟩

theorem vt100_acts {client : Client} {packet : Packet} (sends : Sends pre event client packet)
    (type : packet.command = Cmd.VT100_STREAM.value) (clock : Clock) :
    Acts pre event pre (pre.handle_vt100 packet client clock) := by
  have checks : pre.Checks packet := by
    rw [Daemon.Checks,of_value_iff.mpr type]
    trivial
  obtain ⟨valid,same,live⟩ := validate_acts sends checks
  unfold Daemon.handle_vt100
  split
  · rename_i refused
    rw [refused] at valid
    exact valid
  · rename_i b accepted
    rw [accepted] at valid same live
    exact (valid.tail (.touched packet.session_id clock.now)).tail (.fed sends type (touch_live.mpr (live rfl)) same)

theorem status_acts {client : Client} {packet : Packet} (sends : Sends pre event client packet)
    (type : packet.command = Cmd.STATUS_UPDATE.value) (clock : Clock) :
    Acts pre event pre (pre.handle_status_update packet client clock) := by
  have checks : pre.Checks packet := by
    rw [Daemon.Checks,of_value_iff.mpr type]
    trivial
  obtain ⟨valid,_,_⟩ := validate_acts sends checks
  unfold Daemon.handle_status_update
  split
  · rename_i refused
    rw [refused] at valid
    exact valid
  · rename_i b accepted
    rw [accepted] at valid
    split
    · exact valid
    · exact valid.tail (.touched packet.session_id clock.now)

theorem request_acts {client : Client} {packet : Packet} (sends : Sends pre event client packet)
    (type : packet.command = Cmd.REQUEST_SESSION.value) (clock : Clock) (a : Daemon) :
    Acts pre event a (a.handle_request_session packet client clock) := by
  unfold Daemon.handle_request_session
  rcases request_opens a.sessions clock.reaped clock.now with ⟨sid,evicted,result,subset,opens⟩ | ⟨result,closes⟩
  · simp only [result]
    rw [if_neg (by decide)]
    have opening : Opening a _ _ evicted [] sid client (make_session_response sid .CREATED) :=
      ⟨opens,by simp,fun x member => .inl (subset member),by simp,rfl,rfl⟩
    exact .single (.opened opening (.inl ⟨packet,sends,type⟩))
  · simp only [result]
    exact .single (.closed closes)

theorem forward_request_acts {client : Client} {packet : Packet} (sends : Sends pre event client packet)
    (type : packet.command = Cmd.REQUEST_SESSION.value) (a : Daemon) :
    Acts pre event a (a.forward_session_request_to_board packet client) := by
  have cause : BoardAnswers event ∨ ∃ client packet, Sends pre event client packet ∧
    packet.command = Cmd.REQUEST_SESSION.value := .inr ⟨client,packet,sends,type⟩
  have pended : Acts pre event a _ := .single (.pended (a.pending_sessions ++ [(client,plugin_hint packet.payload)]) cause)
  have forwarded := pended.tail (.asked sends type)
  unfold Daemon.forward_session_request_to_board
  simp only
  split
  · rename_i next taken
    rw [taken] at forwarded
    exact forwarded
  · rename_i next refused
    rw [refused] at forwarded
    exact (forwarded.tail (.pended _ cause)).tail (.traffic (traffic_send _ (invalid_no_response _ _)))

/-- Any other packet of a client is for the board, if it is for a live session or for none. -/
theorem other_acts {client : Client} {packet : Packet} (sends : Sends pre event client packet)
    (checks : packet.session_id ≠ SESSION_BROADCAST → pre.Checks packet) (queues : Ordinary.queues packet) :
    Acts pre event pre (if packet.session_id ≠ SESSION_BROADCAST then
      match pre.validate_session packet client with
      | (daemon,false) => daemon
      | (daemon,true) => (daemon.forward_packet_to_board packet).1
      else (pre.forward_packet_to_board packet).1) := by
  split
  · rename_i sid
    obtain ⟨valid,_,_⟩ := validate_acts sends (checks sid)
    split
    · rename_i refused
      rw [refused] at valid
      exact valid
    · rename_i b accepted
      rw [accepted] at valid
      exact valid.trans (acts_traffic (traffic_forward b queues))
  · exact acts_traffic (traffic_forward pre queues)

theorem real_acts {client : Client} {packet : Packet} (sends : Sends pre event client packet) {cmd : Cmd}
    (type : packet.command = cmd.value) (hid : pre.hid = true) (clock : Clock) :
    Acts pre event pre (pre.handle_plugin_packet_real packet client cmd clock) := by
  have other : cmd ≠ .VT100_STREAM → cmd ≠ .REQUEST_SESSION → Ordinary.queues packet := by
    intro stream request
    constructor
    · rw [type]
      cases cmd <;> first | exact absurd rfl stream | decide
    · rw [type]
      cases cmd <;> first | exact absurd rfl request | decide
  unfold Daemon.handle_plugin_packet_real
  split
  · exact forward_request_acts sends type pre
  · exact vt100_acts sends type clock
  · have updated := status_acts sends type clock
    simp only
    split
    · exact updated.trans (acts_traffic (traffic_forward _ (other (by decide) (by decide))))
    · exact updated
  · exact .refl
  · exact .refl
  · rename_i request stream update activate switch
    refine other_acts sends ?_ (other stream request)
    intro sid
    rw [Daemon.Checks,of_value_iff.mpr type]
    cases cmd <;> first | exact absurd rfl request | exact absurd rfl activate | exact absurd rfl switch | exact ⟨hid,sid⟩ | trivial

theorem packet_acts {client : Client} {packet : Packet} (sends : Sends pre event client packet) (clock : Clock) :
    Acts pre event pre (pre.handle_packet packet client clock) := by
  unfold Daemon.handle_packet
  split
  · refine acts_traffic (traffic_send pre ?_)
    change Cmd.ERROR.value ≠ Cmd.SESSION_RESPONSE.value
    decide
  · rename_i cmd known
    have type := of_value_iff.mp known
    split
    · rename_i hid
      exact real_acts sends type hid clock
    · split
      · exact request_acts sends type clock pre
      · exact vt100_acts sends type clock
      · exact status_acts sends type clock
      · exact .refl

/-! ## Packets of the board -/

/-- A grant opens a window for the client whose request is the first, and closes its former ones. -/
theorem grant_opens {client : Client} {sid : Nat} (grants : BoardGrants pre event client sid) :
    ∃ packet clock hint waiting told retired, event = .board_packet packet clock ∧
      pre.pending_sessions = (client,hint) :: waiting ∧
      Opening { pre with pending_sessions := waiting } (pre.sessions.adopt_session packet.session_id clock.reaped clock.now).manager
        told retired retired sid client packet ∧
      pre.handle_hid_session_response packet clock = (((({ pre with pending_sessions := waiting } : Daemon).close
        (pre.sessions.adopt_session packet.session_id clock.reaped clock.now).manager told).open_window retired sid client).retire
          retired .RECLAIMED).send client packet := by
  obtain ⟨packet,clock,hint,waiting,told,sink,type,rfl,usable,status,pending⟩ := grants
  obtain ⟨⟨evicted,result⟩,opens⟩ := adopt_opens usable clock.reaped clock.now
  have other : packet.session_id ≠ SESSION_BROADCAST := by
    have positive := usable.1
    unfold SESSION_BROADCAST
    omega
  let adopted := pre.sessions.adopt_session packet.session_id clock.reaped clock.now
  let retired := (({ pre with pending_sessions := waiting } : Daemon).close adopted.manager adopted.told).sessions_owned_by client
    packet.session_id
  refine ⟨packet,clock,hint,waiting,adopted.told,retired,told,pending,
    ⟨opens,?_,fun x member => .inr member,?_,type,rfl⟩,?_⟩
  · simp [retired,Daemon.sessions_owned_by]
  · intro x member
    refine ⟨member,?_⟩
    simp only [retired,Daemon.sessions_owned_by,List.mem_map,List.mem_filter,decide_eq_true_eq] at member
    obtain ⟨⟨sid,owner⟩,⟨there,rfl,_⟩,rfl⟩ := member
    exact Dict.get_iff.mpr there
  · simp only [Daemon.handle_hid_session_response,pending,if_pos (And.intro status other),result,true_or,and_self,if_true]
    rfl

theorem response_acts {packet : Packet} {clock : Clock} (told : event = .board_packet packet clock) (sink : pre.hid_sink = true)
    (type : packet.command = Cmd.SESSION_RESPONSE.value) :
    Acts pre event pre (pre.handle_hid_session_response packet clock) := by
  have invalid : ∀ (b : Daemon) (client : Client) sid status, Act pre event b (b.send client (make_session_invalid sid status)) :=
    fun b client sid status => .traffic (traffic_send b (invalid_no_response sid status))
  have popped : ∀ waiting, Acts pre event pre { pre with pending_sessions := waiting } :=
    fun waiting => .single (.pended waiting (.inl ⟨packet,clock,told,.inl type⟩))
  match pending : pre.pending_sessions with
  | [] =>
    simp only [Daemon.handle_hid_session_response,pending]
    exact .refl
  | (client,hint) :: waiting =>
    by_cases usable : pre.sessions.Usable packet.session_id ∧
        (status_from_payload packet.payload .OK = .OK ∨ status_from_payload packet.payload .OK = .CREATED)
    · have grants : BoardGrants pre event client packet.session_id :=
        ⟨packet,clock,hint,waiting,told,sink,type,rfl,usable.1,usable.2,pending⟩
      obtain ⟨packet',clock',hint',waiting',closed,retired,told',_,opening,handled⟩ := grant_opens grants
      cases told.symm.trans told'
      rw [handled]
      exact (popped waiting').tail (.opened opening (.inr grants))
    · simp only [Daemon.handle_hid_session_response,pending]
      split
      · rename_i granted
        have outside : ¬ pre.sessions.Usable packet.session_id := fun usable' => usable ⟨usable',granted.1⟩
        simp only [adopt_outside outside]
        rw [if_neg (by rintro ⟨bad | bad,_⟩ <;> cases bad)]
        exact (popped waiting).tail (invalid _ _ _ _)
      · exact (popped waiting).tail (invalid _ _ _ _)

theorem grant_handled {client : Client} {sid : Nat} (grants : BoardGrants pre event client sid) :
    ∃ packet clock hint waiting manager told retired, event = .board_packet packet clock ∧
      pre.pending_sessions = (client,hint) :: waiting ∧
      Opening { pre with pending_sessions := waiting } manager told retired retired sid client packet ∧
      pre.handle event =
        (((({ pre with pending_sessions := waiting } : Daemon).close manager told).open_window retired sid client).retire
          retired .RECLAIMED).send client packet := by
  obtain ⟨packet,clock,hint,waiting,told,retired,input,pending,opening,handled⟩ := grant_opens grants
  obtain ⟨packet',clock',_,_,input',sink,type,_⟩ := grants
  cases input.symm.trans input'
  refine ⟨packet,clock,hint,waiting,_,told,retired,input,pending,opening,?_⟩
  rw [← handled,input]
  simp only [Daemon.handle,if_pos sink,Daemon.handle_hid_packet,of_value_iff.mpr type]

theorem invalidate_acts (a : Daemon) (sid : Nat) (status : Status) : Acts pre event a (a.invalidate sid status) :=
  .single (.closed (closes_invalidate a.sessions sid status))

theorem invalid_acts {packet : Packet} {clock : Clock} (told : event = .board_packet packet clock)
    (type : packet.command = Cmd.SESSION_INVALID.value) (a : Daemon) :
    Acts pre event a (a.handle_hid_session_invalid packet) := by
  have sends : ∀ client, Ordinary.sends client packet := by
    intro client
    change packet.command ≠ Cmd.SESSION_RESPONSE.value
    rw [type]
    decide
  unfold Daemon.handle_hid_session_invalid
  simp only
  split
  · rename_i nobody
    split
    · rename_i client hint waiting pending
      exact (Relation.ReflTransGen.single (.pended waiting (.inl ⟨packet,clock,told,.inr ⟨type,nobody⟩⟩))).tail
        (.traffic (traffic_send _ (sends client)))
    · exact acts_traffic (traffic_broadcast a sends)
  · exact invalidate_acts a _ _

theorem focus_acts {packet : Packet} {clock : Clock} (told : event = .board_packet packet clock) (a : Daemon) :
    Acts pre event a (a.handle_hid_session_focus packet clock) := by
  unfold Daemon.handle_hid_session_focus
  simp only
  split
  · exact .single .unfocused
  · split
    · exact .refl
    · rename_i session found
      have live : a.sessions.Live packet.session_id := Dict.mem_keys.mpr ⟨session,found⟩
      exact (Relation.ReflTransGen.single (.touched packet.session_id clock.now)).tail
        (.focused ⟨packet,clock,told⟩ (touch_live.mpr live))

theorem route_acts {packet : Packet} (type : packet.command ≠ Cmd.SESSION_RESPONSE.value) (a : Daemon) :
    Acts pre event a (a.route_to_owner packet) := by
  unfold Daemon.route_to_owner
  split
  · exact acts_traffic (traffic_send a type)
  · exact .refl

theorem board_acts {packet : Packet} {clock : Clock} (told : event = .board_packet packet clock) (sink : pre.hid_sink = true) :
    Acts pre event pre (pre.handle_hid_packet packet clock) := by
  have input : ∀ cmd : Cmd, packet.command = cmd.value → cmd ≠ .SESSION_RESPONSE →
      Acts pre event pre (pre.route_board_input_to_session packet) := by
    intro cmd type other
    unfold Daemon.route_board_input_to_session
    split
    · exact .refl
    · refine route_acts ?_ pre
      rw [type]
      cases cmd <;> first | exact absurd rfl other | decide
  unfold Daemon.handle_hid_packet
  split
  · exact .refl
  · rename_i known
    exact response_acts told sink (of_value_iff.mp known)
  · rename_i known
    exact invalid_acts told (of_value_iff.mp known) pre
  · exact focus_acts told pre
  · rename_i known
    unfold Daemon.handle_hid_key_event
    split
    · exact input _ (of_value_iff.mp known) (by decide)
    · exact .refl
  · rename_i known
    unfold Daemon.handle_hid_encoder_event
    split
    · exact input _ (of_value_iff.mp known) (by decide)
    · exact .refl
  · rename_i cmd response invalid focus key encoder known
    have type : packet.command ≠ Cmd.SESSION_RESPONSE.value := by
      rw [of_value_iff.mp known]
      cases cmd <;> first | exact absurd rfl response | decide
    unfold Daemon.route_board_packet
    split
    · exact acts_traffic (traffic_broadcast pre (fun _ => type))
    · exact route_acts type pre

/-! ## Events -/

theorem fold_acts {α : Type} {step : Daemon → α → Daemon} (each : ∀ a x, Acts pre event a (step a x)) (xs : List α) (a : Daemon) :
    Acts pre event a (xs.foldl step a) := by
  induction xs generalizing a with
  | nil => exact .refl
  | cons x rest ih => exact (each a x).trans (ih (step a x))

theorem write_acts {writes : Bool} (told : event = .write writes) : Acts pre event pre (pre.write_next writes) := by
  have took : ∀ queue writing written, Acts pre event pre
      { pre with hid_tx_queue := queue, writing := writing, log := pre.log ++ List.map Effect.written written } :=
    fun queue writing written => .single (.wrote told queue writing written)
  have quiet : ∀ queue writing, Acts pre event pre { pre with hid_tx_queue := queue, writing := writing } := by
    intro queue writing
    have none := took queue writing []
    rwa [List.map_nil,List.append_nil] at none
  unfold Daemon.write_next
  split
  · exact .refl
  · exact quiet _ _
  · rename_i packet rest queue
    simp only
    split
    · exact quiet rest pre.writing
    · split
      · exact quiet rest pre.writing
      · split
        · exact took rest pre.writing [packet]
        · have gone := (quiet rest pre.writing).trans (acts_traffic (traffic_unavailable _))
          have stopped := gone.tail (.wrote told { pre with hid_tx_queue := rest }.mark_hidraw_unavailable.hid_tx_queue false [])
          rwa [List.map_nil,List.append_nil] at stopped

/-- Whatever the event, the daemon handles it by a sequence of acts. -/
theorem event_acts (pre : Daemon) (event : Event) : Acts pre event pre (pre.handle event) := by
  cases event with
  | connect => exact .single (.joined rfl)
  | disconnect client =>
    simp only [Daemon.handle]
    split
    · exact (Relation.ReflTransGen.single (.left rfl)).trans
        (fold_acts (fun a sid => invalidate_acts a sid .EXPIRED) _ _)
    · exact .refl
  | client_packet client packet clock =>
    simp only [Daemon.handle]
    split
    · rename_i heard
      exact packet_acts ⟨heard,clock,rfl⟩ clock
    · exact .refl
  | board_packet packet clock =>
    simp only [Daemon.handle]
    split
    · rename_i sink
      exact board_acts rfl sink
    · exact .refl
  | reap now => exact .single (.closed (closes_reap pre.sessions now))
  | heartbeat =>
    simp only [Daemon.handle,Daemon.heartbeat]
    split
    · exact .refl
    · refine acts_traffic (traffic_forward_all _ ?_ pre)
      intro packet member
      obtain ⟨sid,_,rfl⟩ := List.mem_map.mp member
      exact ⟨show Cmd.SESSION_HEARTBEAT.value ≠ Cmd.VT100_STREAM.value by decide,
        show Cmd.SESSION_HEARTBEAT.value ≠ Cmd.REQUEST_SESSION.value by decide⟩
  | write writes =>
    simp only [Daemon.handle]
    split
    · exact write_acts rfl
    · exact .refl
  | device_lost =>
    simp only [Daemon.handle]
    split
    · exact acts_traffic (traffic_unavailable pre)
    · exact .refl

end
end VibeBridge.Python
