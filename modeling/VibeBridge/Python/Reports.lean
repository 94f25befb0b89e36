import VibeBridge.Python.Codec
import VibeBridge.Python.Windows

/-!
The reports that the board reads. The threads of the daemon put packets into one
queue, and the writer takes them out one at a time: it writes a packet as one
report, skips one that no report can hold, and stops for good when the device
fails. So the reports are the packets in the order in which they were queued
(`reported_in_order`).
-/
namespace VibeBridge.Python
open Transitions VibeBridge.Text VibeBridge.Payloads

/-- The packets in the queue of the writer. -/
def Daemon.waiting (daemon : Daemon) : List Packet := daemon.hid_tx_queue.filterMap id

/-- The packets that were put into the queue. -/
def queued (log : List Effect) : List Packet := log.filterMap (fun e => match e with | .queued _ packet => some packet | _ => none)

/-- The packets that the device took. -/
def reported (log : List Effect) : List Packet := log.filterMap (fun e => match e with | .written packet => some packet | _ => none)

/-- One report can hold the packet. -/
def Packet.fits (packet : Packet) : Bool := packet.report.isOk

/-- The board reads the packet from its report. -/
theorem report_read {packet : Packet} {raw : List UInt8} (report : packet.report = .ok raw) : raw.length = MAX_HID_REPORT_SIZE ∧
    recv_packet raw = .ok { packet with report_id := packet.report_id % 256, command := packet.command % 256 } := by
  have framed : packet.Framed := by
    by_contra unframed
    obtain ⟨text,failed⟩ := encode_unframed unframed
    rw [Packet.report,failed] at report
    cases report
  have fits := (report_fits framed).mp ⟨raw,report⟩
  rw [report_of_encode (encode_framed framed) fits] at report
  cases report
  obtain ⟨sid,length⟩ := framed
  have size : (to_le_bytes 1 packet.report_id ++ to_le_bytes 1 packet.command ++ to_le_bytes 2 packet.session_id ++
      to_le_bytes 2 packet.payload.length ++ packet.payload ++
      List.replicate (MAX_PAYLOAD_PER_FRAME - packet.payload.length) 0).length = MAX_HID_REPORT_SIZE := by
    simp only [List.length_append,to_le_bytes_length,List.length_replicate]
    simp only [MAX_PAYLOAD_PER_FRAME,MAX_HID_REPORT_SIZE,HEADER_SIZE] at fits ⊢
    omega
  refine ⟨size,?_⟩
  have byte (value : Nat) : to_le_bytes 1 value = [UInt8.ofNat (value % 256)] := rfl
  have decoded := packet_decode (UInt8.ofNat (packet.report_id % 256)) (UInt8.ofNat (packet.command % 256))
    (to_le_bytes_length 2 packet.session_id) (to_le_bytes_length 2 packet.payload.length)
    (packet.payload ++ List.replicate (MAX_PAYLOAD_PER_FRAME - packet.payload.length) 0)
  rw [from_to_le_bytes,from_to_le_bytes,Nat.mod_eq_of_lt (by omega : packet.payload.length < 256 ^ 2),
    Nat.mod_eq_of_lt (by omega : packet.session_id < 256 ^ 2),if_neg (by simp),List.take_left'  rfl] at decoded
  rw [recv_packet,if_neg (by rw [size]; decide),byte,byte]
  simpa [List.append_assoc,UInt8.toNat_ofNat'] using decoded

/-- What a handler does for the writer: it puts packets into the queue, or gives the device up. -/
structure Feeds (a b : Daemon) : Prop where
  news : ∃ news, queued b.log = queued a.log ++ news ∧ b.waiting = a.waiting ++ news
  reported : reported b.log = reported a.log
  hid : b.hid = true → a.hid = true

section
variable {a b c : Daemon}

theorem feeds_refl (daemon : Daemon) : Feeds daemon daemon := ⟨⟨[],by simp⟩,rfl,id⟩

theorem feeds_trans (first : Feeds a b) (second : Feeds b c) : Feeds a c := by
  obtain ⟨news,log,waiting⟩ := first.news
  obtain ⟨news',log',waiting'⟩ := second.news
  refine ⟨⟨news ++ news',?_,?_⟩,second.reported.trans first.reported,first.hid ∘ second.hid⟩
  · rw [log',log,List.append_assoc]
  · rw [waiting',waiting,List.append_assoc]

/-- Only tables change. -/
theorem feeds_same (log : b.log = a.log) (queue : b.hid_tx_queue = a.hid_tx_queue) (hid : b.hid = a.hid) : Feeds a b := by
  refine ⟨⟨[],?_,?_⟩,by rw [log],fun there => hid ▸ there⟩
  · rw [log,List.append_nil]
  · rw [Daemon.waiting,queue,List.append_nil]
    rfl

theorem feeds_send (daemon : Daemon) (client : Client) (packet : Packet) : Feeds daemon (daemon.send client packet) := by
  refine ⟨⟨[],?_,(List.append_nil _).symm⟩,?_,id⟩
  · simp [queued,Daemon.send]
  · simp [reported,Daemon.send]

/-- What each turn of a loop does, the loop does. -/
theorem feeds_fold {α : Type} {turn : Daemon → α → Daemon} (each : ∀ daemon x, Feeds daemon (turn daemon x)) (xs : List α)
    (daemon : Daemon) : Feeds daemon (xs.foldl turn daemon) := by
  induction xs generalizing daemon with
  | nil => exact feeds_refl daemon
  | cons x rest ih => exact feeds_trans (each daemon x) (ih (turn daemon x))

theorem feeds_broadcast (daemon : Daemon) (packet : Packet) : Feeds daemon (daemon.broadcast packet) :=
  feeds_fold (fun daemon client => feeds_send daemon client packet) _ daemon

/-- Giving the device up puts no packet into the queue. -/
theorem feeds_unavailable (daemon : Daemon) : Feeds daemon daemon.mark_hidraw_unavailable := by
  have closed (queue : List (Option Packet)) (none : queue.filterMap id = daemon.waiting) :
      Feeds daemon (({ daemon with hid := false, hid_tx_queue := queue } : Daemon).fail_pending_sessions .INVALID) := by
    have gone : Feeds daemon { daemon with hid := false, hid_tx_queue := queue, pending_sessions := [] } := by
      refine ⟨⟨[],(List.append_nil _).symm,?_⟩,rfl,nofun⟩
      rw [List.append_nil]
      exact none
    exact feeds_trans gone (feeds_fold (fun daemon (pending : Client × List UInt8) => feeds_send daemon pending.1 _) _ _)
  rw [Daemon.mark_hidraw_unavailable,Daemon.put_nowait]
  split
  · exact closed daemon.hid_tx_queue rfl
  · refine closed (daemon.hid_tx_queue ++ [none]) ?_
    rw [List.filterMap_append]
    exact List.append_nil _

theorem feeds_forward (daemon : Daemon) (packet : Packet) : Feeds daemon (daemon.forward_packet_to_board packet).1 := by
  unfold Daemon.forward_packet_to_board
  split
  · exact feeds_refl daemon
  · rw [Daemon.put_nowait]
    by_cases full : daemon.hid_tx_queue.length ≥ HID_TX_QUEUE_LIMIT
    · rw [if_pos full]
      exact feeds_unavailable daemon
    · rw [if_neg full]
      refine ⟨⟨[packet],?_,?_⟩,?_,id⟩
      · simp [queued]
      · rw [Daemon.waiting,List.filterMap_append]
        rfl
      · simp [reported]

theorem feeds_forward_all (packets : List Packet) (daemon : Daemon) : Feeds daemon (daemon.forward_all packets) := by
  induction packets generalizing daemon with
  | nil => exact feeds_refl daemon
  | cons packet rest ih =>
    have first := feeds_forward daemon packet
    rw [Daemon.forward_all]
    split
    · rename_i next forwarded
      rw [forwarded] at first
      exact feeds_trans first (ih next)
    · rename_i next forwarded
      rw [forwarded] at first
      exact first

theorem feeds_screen (daemon : Daemon) (call : ScreenCall) : Feeds daemon (daemon.screen_sink call) := by
  unfold Daemon.screen_sink
  split
  · exact feeds_refl daemon
  · split
    · unfold Daemon.on_hid_screen_write
      split
      · exact feeds_refl daemon
      · split
        · exact feeds_refl daemon
        · exact feeds_forward_all _ daemon
    · refine ⟨⟨[],?_,(List.append_nil _).symm⟩,?_,id⟩
      · simp [queued,Daemon.on_screen_write]
      · simp [reported,Daemon.on_screen_write]

/-! ## Handlers -/

theorem feeds_invalidated (daemon : Daemon) (sid : Nat) (status : Status) : Feeds daemon (daemon.on_session_invalidate sid status) := by
  have unrouted : Feeds daemon (daemon.unroute sid) :=
    feeds_trans (b := { daemon with router := (daemon.router.unregister sid).1 }) (feeds_same rfl rfl rfl) (feeds_screen _ _)
  rw [on_session_invalidate_eq]
  refine feeds_trans unrouted ?_
  generalize daemon.unroute sid = mid
  cases owner : mid.owners.get sid with
  | none =>
    refine feeds_same ?_ rfl rfl
    rw [Daemon.disown,owner]
    exact List.append_nil _
  | some client =>
    have told : (mid.disown sid status).log = (mid.send client (make_session_invalid sid status)).log := by rw [Daemon.disown,owner]; rfl
    exact feeds_trans (feeds_send mid client (make_session_invalid sid status)) (feeds_same told rfl rfl)

/-- The manager has a new table, and the callback runs on what it told. -/
theorem feeds_told (daemon : Daemon) (manager : SessionManager) (told : List (Nat × Status)) :
    Feeds daemon (({ daemon with sessions := manager } : Daemon).on_session_invalidates told) :=
  feeds_trans (b := { daemon with sessions := manager }) (feeds_same rfl rfl rfl)
    (feeds_fold (fun daemon (t : Nat × Status) => feeds_invalidated daemon t.1 t.2) told _)

theorem feeds_invalidate (daemon : Daemon) (sid : Nat) (status : Status) : Feeds daemon (daemon.invalidate sid status) :=
  feeds_told daemon _ _

theorem feeds_validate (daemon : Daemon) (packet : Packet) (client : Client) :
    Feeds daemon (daemon.validate_session packet client).1 := by
  unfold Daemon.validate_session
  split
  · exact feeds_send daemon _ _
  · split
    · exact feeds_same rfl rfl rfl
    · exact feeds_refl daemon

theorem feeds_request (daemon : Daemon) (packet : Packet) (client : Client) (clock : Clock) :
    Feeds daemon (daemon.handle_request_session packet client clock) := by
  unfold Daemon.handle_request_session
  generalize daemon.sessions.request_session clock.reaped clock.now = o
  have told := feeds_told daemon o.manager o.told
  simp only
  generalize ({ daemon with sessions := o.manager } : Daemon).on_session_invalidates o.told = mid at told ⊢
  refine feeds_trans told ?_
  split
  · exact feeds_refl mid
  · rename_i sid status evicted result
    split
    · exact feeds_send mid _ _
    · exact feeds_trans (b := { mid with owners := (evicted.foldl Dict.pop mid.owners).set sid client,
                                         router := mid.router.register sid }) (feeds_same rfl rfl rfl) (feeds_send _ _ _)

theorem feeds_vt100 (daemon : Daemon) (packet : Packet) (client : Client) (clock : Clock) :
    Feeds daemon (daemon.handle_vt100 packet client clock) := by
  have valid := feeds_validate daemon packet client
  unfold Daemon.handle_vt100
  split
  · rename_i next refused
    rw [refused] at valid
    exact valid
  · rename_i next accepted
    rw [accepted] at valid
    let touched := next.touch packet.session_id clock.now
    exact feeds_trans valid (feeds_trans (b := { touched with router := (touched.router.append packet.session_id packet.payload).1 })
      (feeds_same rfl rfl rfl) (feeds_screen _ _))

theorem feeds_status (daemon : Daemon) (packet : Packet) (client : Client) (clock : Clock) :
    Feeds daemon (daemon.handle_status_update packet client clock) := by
  have valid := feeds_validate daemon packet client
  unfold Daemon.handle_status_update
  split
  · rename_i next refused
    rw [refused] at valid
    exact valid
  · rename_i next accepted
    rw [accepted] at valid
    split
    · exact valid
    · exact feeds_trans valid (feeds_same rfl rfl rfl)

theorem feeds_forward_request (daemon : Daemon) (packet : Packet) (client : Client) :
    Feeds daemon (daemon.forward_session_request_to_board packet client) := by
  unfold Daemon.forward_session_request_to_board
  simp only
  have pended : Feeds daemon { daemon with pending_sessions := daemon.pending_sessions ++ [(client,plugin_hint packet.payload)] } :=
    feeds_same rfl rfl rfl
  have forwarded := feeds_trans pended (feeds_forward _ packet)
  split
  · rename_i next went
    rw [went] at forwarded
    exact forwarded
  · rename_i next failed
    rw [failed] at forwarded
    exact feeds_trans forwarded (feeds_trans (b := next.drop_pending_session client (plugin_hint packet.payload))
      (feeds_same rfl rfl rfl) (feeds_send _ _ _))

theorem feeds_plugin_packet (daemon : Daemon) (packet : Packet) (client : Client) (cmd : Cmd) (clock : Clock) :
    Feeds daemon (daemon.handle_plugin_packet_real packet client cmd clock) := by
  unfold Daemon.handle_plugin_packet_real
  split
  · exact feeds_forward_request daemon packet client
  · exact feeds_vt100 daemon packet client clock
  · have updated := feeds_status daemon packet client clock
    simp only
    split
    · exact feeds_trans updated (feeds_forward _ packet)
    · exact updated
  · exact feeds_refl daemon
  · exact feeds_refl daemon
  · split
    · have valid := feeds_validate daemon packet client
      split
      · rename_i next refused
        rw [refused] at valid
        exact valid
      · rename_i next accepted
        rw [accepted] at valid
        exact feeds_trans valid (feeds_forward next packet)
    · exact feeds_forward daemon packet

theorem feeds_packet (daemon : Daemon) (packet : Packet) (client : Client) (clock : Clock) :
    Feeds daemon (daemon.handle_packet packet client clock) := by
  unfold Daemon.handle_packet
  split
  · exact feeds_send daemon _ _
  · split
    · exact feeds_plugin_packet daemon packet client _ clock
    · split
      · exact feeds_request daemon packet client clock
      · exact feeds_vt100 daemon packet client clock
      · exact feeds_status daemon packet client clock
      · exact feeds_refl daemon

theorem feeds_response (daemon : Daemon) (packet : Packet) (clock : Clock) :
    Feeds daemon (daemon.handle_hid_session_response packet clock) := by
  unfold Daemon.handle_hid_session_response
  split
  · exact feeds_refl daemon
  · rename_i client hint waiting pending
    extract_lets popped status o granted sid local_status old_sids owned routed retired
    have start : Feeds daemon popped := feeds_same rfl rfl rfl
    refine feeds_trans start ?_
    split
    · refine feeds_trans (feeds_told popped o.manager o.told) ?_
      change Feeds granted _
      split
      · have opened : Feeds granted routed := feeds_same rfl rfl rfl
        have closed : Feeds routed retired := feeds_fold (fun daemon old_sid => feeds_invalidate daemon old_sid .RECLAIMED) old_sids routed
        exact feeds_trans (feeds_trans opened closed) (feeds_send retired client packet)
      · exact feeds_send granted client _
    · exact feeds_send popped client _

theorem feeds_focus (daemon : Daemon) (sid : Option Nat) : Feeds daemon (daemon.set_active sid) :=
  feeds_trans (b := { daemon with router := (daemon.router.set_active sid).1 }) (feeds_same rfl rfl rfl) (feeds_screen _ _)

theorem feeds_route (daemon : Daemon) (packet : Packet) : Feeds daemon (daemon.route_to_owner packet) := by
  unfold Daemon.route_to_owner
  split
  · exact feeds_send daemon _ _
  · exact feeds_refl daemon

theorem feeds_board (daemon : Daemon) (packet : Packet) (clock : Clock) : Feeds daemon (daemon.handle_hid_packet packet clock) := by
  have input : Feeds daemon (daemon.route_board_input_to_session packet) := by
    unfold Daemon.route_board_input_to_session
    split
    · exact feeds_refl daemon
    · exact feeds_route daemon packet
  unfold Daemon.handle_hid_packet
  split
  · exact feeds_refl daemon
  · exact feeds_response daemon packet clock
  · unfold Daemon.handle_hid_session_invalid
    simp only
    split
    · split
      · rename_i client hint waiting pending
        exact feeds_trans (b := { daemon with pending_sessions := waiting }) (feeds_same rfl rfl rfl) (feeds_send _ _ _)
      · exact feeds_broadcast daemon packet
    · exact feeds_invalidate daemon _ _
  · unfold Daemon.handle_hid_session_focus
    simp only
    split
    · exact feeds_trans (b := { daemon with focused_sid := none }) (feeds_same rfl rfl rfl) (feeds_focus _ _)
    · split
      · exact feeds_refl daemon
      · exact feeds_trans (b := ({ daemon with focused_sid := some packet.session_id } : Daemon).touch packet.session_id clock.now)
          (feeds_same rfl rfl rfl) (feeds_focus _ _)
  · unfold Daemon.handle_hid_key_event
    split
    · exact input
    · exact feeds_refl daemon
  · unfold Daemon.handle_hid_encoder_event
    split
    · exact input
    · exact feeds_refl daemon
  · unfold Daemon.route_board_packet
    split
    · exact feeds_broadcast daemon packet
    · exact feeds_route daemon packet

theorem feeds_disconnect (daemon : Daemon) (client : Client) : Feeds daemon (daemon.disconnect client) :=
  feeds_trans (b := { daemon with clients := daemon.clients.filter (fun other => other ≠ client) }) (feeds_same rfl rfl rfl)
    (feeds_fold (fun daemon sid => feeds_invalidate daemon sid .EXPIRED) _ _)

/-- Every event but a turn of the writer. -/
theorem feeds_event (daemon : Daemon) {event : Event} (other : ∀ writes, event ≠ .write writes) : Feeds daemon (daemon.handle event) := by
  cases event with
  | connect => exact feeds_same rfl rfl rfl
  | disconnect client =>
    simp only [Daemon.handle]
    split
    · exact feeds_disconnect daemon client
    · exact feeds_refl daemon
  | client_packet client packet clock =>
    simp only [Daemon.handle]
    split
    · exact feeds_packet daemon packet client clock
    · exact feeds_refl daemon
  | board_packet packet clock =>
    simp only [Daemon.handle]
    split
    · exact feeds_board daemon packet clock
    · exact feeds_refl daemon
  | reap now => exact feeds_told daemon _ _
  | heartbeat =>
    simp only [Daemon.handle,Daemon.heartbeat]
    split
    · exact feeds_refl daemon
    · exact feeds_forward_all _ daemon
  | write writes => exact absurd rfl (other writes)
  | device_lost =>
    simp only [Daemon.handle]
    split
    · exact feeds_unavailable daemon
    · exact feeds_refl daemon

end

/-! ## The writer -/

/-- The packets that were taken out of the queue, and those of them that came before the device failed. -/
structure Reported (daemon : Daemon) (taken front : List Packet) : Prop where
  queue : queued daemon.log = taken ++ daemon.waiting
  early : front <+: taken
  all : daemon.hid = true → front = taken
  written : reported daemon.log = front.filter Packet.fits

theorem reported_feeds {a b : Daemon} {taken front : List Packet} (before : Reported a taken front) (feeds : Feeds a b) :
    Reported b taken front := by
  obtain ⟨news,log,waiting⟩ := feeds.news
  refine ⟨?_,before.early,before.all ∘ feeds.hid,feeds.reported.trans before.written⟩
  rw [log,before.queue,waiting,List.append_assoc]

/-- One turn of the writer. -/
theorem reported_write {daemon : Daemon} {taken front : List Packet} (before : Reported daemon taken front) (writes : Bool) :
    ∃ taken front, Reported (daemon.write_next writes) taken front := by
  unfold Daemon.write_next
  split
  · exact ⟨taken,front,before⟩
  · rename_i rest queue
    have waiting : daemon.waiting = rest.filterMap id := by rw [Daemon.waiting,queue]; rfl
    exact ⟨taken,front,before.queue.trans (by rw [waiting]; rfl),before.early,before.all,before.written⟩
  · rename_i packet rest queue
    have waiting : daemon.waiting = packet :: rest.filterMap id := by rw [Daemon.waiting,queue]; rfl
    have next : queued daemon.log = (taken ++ [packet]) ++ rest.filterMap id := by
      rw [before.queue,waiting,List.append_assoc]
      rfl
    have later : front <+: taken ++ [packet] := before.early.trans (List.prefix_append _ _)
    simp only
    split
    · rename_i gone
      refine ⟨taken ++ [packet],front,next,later,?_,before.written⟩
      intro there
      rw [show daemon.hid = true from there] at gone
      cases gone
    · rename_i there
      have all : front = taken := before.all (by simpa using there)
      subst all
      split
      · rename_i text failed
        have unfit : packet.fits = false := by rw [Packet.fits,failed]; rfl
        refine ⟨front ++ [packet],front ++ [packet],next,List.prefix_rfl,fun _ => rfl,?_⟩
        rw [List.filter_append,List.filter_singleton,unfit]
        exact before.written.trans (List.append_nil _).symm
      · rename_i raw report
        have fit : packet.fits = true := by rw [Packet.fits,report]; rfl
        split
        · have same : queued (daemon.log ++ [.written packet]) = queued daemon.log := by simp [queued]
          refine ⟨front ++ [packet],front ++ [packet],same.trans next,List.prefix_rfl,fun _ => rfl,?_⟩
          · rw [List.filter_append,List.filter_singleton,fit,← before.written]
            simp [reported]
        · -- the packet that the device did not take is lost with it
          have taken : Reported { daemon with hid := false, hid_tx_queue := rest } (front ++ [packet]) front :=
            ⟨next,later,nofun,before.written⟩
          have gone := feeds_unavailable { daemon with hid := false, hid_tx_queue := rest }
          have lost := reported_feeds taken gone
          exact ⟨front ++ [packet],front,lost.queue,lost.early,lost.all,lost.written⟩

theorem reported_run {config : DaemonConfig} {ms : List HostMove} {daemon : Daemon} (run : HostRun config ms daemon) :
    ∃ taken front, Reported daemon taken front := by
  refine path_invariant (P := fun daemon => ∃ taken front, Reported daemon taken front) ?_ run
    ⟨[],[],rfl,List.prefix_rfl,fun _ => rfl,rfl⟩
  rintro m move ⟨taken,front,before⟩
  rw [show m.post = m.pre.handle m.input from move]
  by_cases turn : ∃ writes, m.input = .write writes
  · obtain ⟨writes,input⟩ := turn
    rw [input]
    simp only [Daemon.handle]
    split
    · exact reported_write before writes
    · exact ⟨taken,front,before⟩
  · exact ⟨taken,front,reported_feeds before (feeds_event m.pre (not_exists.mp turn))⟩

/-- A device that was given up is not written again. -/
theorem given_up {ms : List HostMove} {start daemon : Daemon} (path : Path host start ms daemon) (gone : start.hid = false) :
    daemon.hid = false ∧ reported daemon.log = reported start.log := by
  refine path_invariant (P := fun daemon => daemon.hid = false ∧ reported daemon.log = reported start.log) ?_ path ⟨gone,rfl⟩
  rintro m move ⟨gone,same⟩
  have feeds : Feeds m.pre m.post ∨ m.post.hid = false ∧ m.post.log = m.pre.log := by
    rw [show m.post = m.pre.handle m.input from move]
    by_cases turn : ∃ writes, m.input = .write writes
    · obtain ⟨writes,input⟩ := turn
      right
      rw [input]
      simp only [Daemon.handle,Daemon.write_next]
      split
      · split
        · exact ⟨gone,rfl⟩
        · exact ⟨gone,rfl⟩
        · rw [if_pos (by rw [gone]; rfl)]
          exact ⟨gone,rfl⟩
      · exact ⟨gone,rfl⟩
    · exact .inl (feeds_event m.pre (not_exists.mp turn))
  rcases feeds with feeds | ⟨hid,log⟩
  · refine ⟨?_,feeds.reported.trans same⟩
    cases there : m.post.hid with
    | false => rfl
    | true => exact absurd (gone.symm.trans (feeds.hid there)) Bool.false_ne_true
  · exact ⟨hid,by rw [log]; exact same⟩

/-- Whatever the threads do, the reports are those of the queued packets that fit one, each once and in the order of the queue, up to
    where the device failed; the board reads these packets, and after a failure no more of them. -/
theorem reported_in_order {config : DaemonConfig} {ms : List HostMove} {daemon : Daemon} (run : HostRun config ms daemon) :
    (∃ taken front, Reported daemon taken front) ∧
      (∀ packet ∈ reported daemon.log, ∃ raw, packet.report = .ok raw ∧ raw.length = MAX_HID_REPORT_SIZE ∧
        recv_packet raw = .ok { packet with report_id := packet.report_id % 256, command := packet.command % 256 }) ∧
      ∀ since later, Path host daemon since later → daemon.hid = false → reported later.log = reported daemon.log := by
  obtain ⟨taken,front,run⟩ := reported_run run
  refine ⟨⟨taken,front,run⟩,?_,fun since later path gone => (given_up path gone).2⟩
  intro packet written
  rw [run.written] at written
  have fits := (List.mem_filter.mp written).2
  cases report : packet.report with
  | error text =>
    rw [Packet.fits,report] at fits
    cases fits
  | ok raw => exact ⟨raw,rfl,report_read report⟩

/-- A client asks with a hint that does not fit a report, and twice without one; the device takes one report and then fails. -/
def asked_thrice : List Event := [.connect,.client_packet 0 (make_request_session (List.replicate 60 0x61)) ⟨0,0⟩,.asks 0,.asks 0,
  .write true,.write true,.write false]

theorem reported_in_order_asked : (finish host_step (.start .real) (asked_thrice.take 4)).hid_tx_queue.length = 3 ∧
    reported (finish host_step (.start .real) asked_thrice).log = [make_request_session []] ∧
    (∃ taken front, Reported (finish host_step (.start .real) asked_thrice) taken front) ∧
    ∀ since later, Path host (finish host_step (.start .real) asked_thrice) since later →
      reported later.log = [make_request_session []] := by
  have once : reported (finish host_step (.start .real) asked_thrice).log = [make_request_session []] := by decide
  have gone : (finish host_step (.start .real) asked_thrice).hid = false := by decide
  obtain ⟨runs,_,silent⟩ := reported_in_order (host_events .real asked_thrice)
  exact ⟨by decide,once,runs,fun since later path => (silent since later path gone).trans once⟩

end VibeBridge.Python
