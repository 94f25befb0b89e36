import VibeBridge.Python.Host

/-!
What the daemon does outside its tables: it sends packets to clients and puts
packets into the queue of the HID writer, which may turn out to be full; then
the device is given up. None of this changes a table (`Traffic`).
-/
namespace VibeBridge.Python

/-- The packets that may be put into the queue, and those that may be sent to a client. -/
structure Allowed where
  queues : Packet → Prop
  sends : Client → Packet → Prop

/-- An effect of allowed traffic while the board is focused on the sid. Clients
    whose requests fail are told so in any case. -/
def Allowed.Logs (allowed : Allowed) (focused : Option Nat) : Effect → Prop
  | .sent client packet => allowed.sends client packet ∨ packet = make_session_invalid SESSION_BROADCAST .INVALID
  | .queued focused' packet => focused' = focused ∧ allowed.queues packet
  | .written _ => False
  | .screen _ => True

/-- The log grows by such effects. -/
def Adds (P : Effect → Prop) (a b : Daemon) : Prop := ∃ news, b.log = a.log ++ news ∧ ∀ e ∈ news, P e

theorem adds_refl {P : Effect → Prop} (daemon : Daemon) : Adds P daemon daemon := ⟨[],(List.append_nil _).symm,by simp⟩

theorem adds_trans {P : Effect → Prop} {a b c : Daemon} (first : Adds P a b) (second : Adds P b c) : Adds P a c := by
  obtain ⟨news,log,all⟩ := first
  obtain ⟨news',log',all'⟩ := second
  refine ⟨news ++ news',by rw [log',log,List.append_assoc],?_⟩
  intro e member
  rcases List.mem_append.mp member with early | late
  · exact all e early
  · exact all' e late

/-- Nothing but allowed traffic has happened. While the device is there, the
    packets wait in its queue, and nobody's request has failed. -/
structure Traffic (allowed : Allowed) (daemon daemon' : Daemon) : Prop where
  tables : daemon' = { daemon with
    hid := daemon'.hid
    hid_tx_queue := daemon'.hid_tx_queue
    pending_sessions := daemon'.pending_sessions
    log := daemon'.log }
  logged : ∃ effects, daemon'.log = daemon.log ++ effects ∧ ∀ e ∈ effects, allowed.Logs daemon.focused_sid e
  linked : daemon'.hid = true → daemon.hid = true ∧ daemon'.pending_sessions = daemon.pending_sessions ∧
    ∃ news : List Packet, daemon'.hid_tx_queue = daemon.hid_tx_queue ++ news.map some ∧ ∀ packet ∈ news, allowed.queues packet

section
variable {allowed : Allowed} {a b c : Daemon}

theorem traffic_refl (daemon : Daemon) : Traffic allowed daemon daemon :=
  ⟨rfl,⟨[],by simp,by simp⟩,fun hid => ⟨hid,rfl,[],by simp,by simp⟩⟩

theorem traffic_trans (first : Traffic allowed a b) (second : Traffic allowed b c) : Traffic allowed a c := by
  obtain ⟨tables,⟨effects,log,all⟩,linked⟩ := first
  obtain ⟨tables',⟨effects',log',all'⟩,linked'⟩ := second
  refine ⟨by rw [tables',tables],⟨effects ++ effects',by rw [log',log,List.append_assoc],?_⟩,?_⟩
  · have focus : b.focused_sid = a.focused_sid := by rw [tables]
    intro e member
    rcases List.mem_append.mp member with early | late
    · exact all e early
    · rw [← focus]
      exact all' e late
  · intro hid
    obtain ⟨mid,pending',news',queue',queued'⟩ := linked' hid
    obtain ⟨start,pending,news,queue,queued⟩ := linked mid
    refine ⟨start,pending'.trans pending,news ++ news',by rw [queue',queue]; simp,?_⟩
    intro packet member
    rcases List.mem_append.mp member with early | late
    · exact queued packet early
    · exact queued' packet late

theorem traffic_send (daemon : Daemon) {client : Client} {packet : Packet} (sends : allowed.sends client packet) :
    Traffic allowed daemon (daemon.send client packet) := by
  refine ⟨rfl,⟨[.sent client packet],rfl,?_⟩,fun hid => ⟨hid,rfl,[],by simp [Daemon.send],by simp⟩⟩
  intro e member
  rw [List.mem_singleton.mp member]
  exact .inl sends

theorem traffic_fold {α : Type} {step : Daemon → α → Daemon} {xs : List α}
    (each : ∀ daemon, ∀ x ∈ xs, Traffic allowed daemon (step daemon x)) (daemon : Daemon) :
    Traffic allowed daemon (xs.foldl step daemon) := by
  induction xs generalizing daemon with
  | nil => exact traffic_refl daemon
  | cons x rest ih =>
    exact traffic_trans (each daemon x List.mem_cons_self)
      (ih (fun daemon y member => each daemon y (List.mem_cons_of_mem x member)) (step daemon x))

theorem traffic_broadcast (daemon : Daemon) {packet : Packet} (sends : ∀ client, allowed.sends client packet) :
    Traffic allowed daemon (daemon.broadcast packet) :=
  traffic_fold (fun daemon client _ => traffic_send daemon (sends client)) daemon

/-- Without a device, the clients whose requests are pending are told that these failed. -/
theorem fail_pending (pending : List (Client × List UInt8)) (gone : a.hid = false) :
    Traffic allowed a (pending.foldl
      (fun daemon pending => daemon.send pending.1 (make_session_invalid SESSION_BROADCAST .INVALID)) a) ∧
    (pending.foldl (fun daemon pending => daemon.send pending.1 (make_session_invalid SESSION_BROADCAST .INVALID)) a).hid = false := by
  induction pending generalizing a with
  | nil => exact ⟨traffic_refl a,gone⟩
  | cons first rest ih =>
    have step : Traffic allowed a (a.send first.1 (make_session_invalid SESSION_BROADCAST .INVALID)) := by
      refine ⟨rfl,⟨[_],rfl,?_⟩,fun hid => ⟨hid,rfl,[],by simp [Daemon.send],by simp⟩⟩
      intro e member
      rw [List.mem_singleton.mp member]
      exact .inr rfl
    obtain ⟨later,still⟩ := ih (a := a.send first.1 (make_session_invalid SESSION_BROADCAST .INVALID)) gone
    exact ⟨traffic_trans step later,still⟩

/-- The device is given up. -/
theorem unavailable (allowed : Allowed) (daemon : Daemon) :
    Traffic allowed daemon daemon.mark_hidraw_unavailable ∧ daemon.mark_hidraw_unavailable.hid = false := by
  have all : ∀ queue, let gone : Daemon := { daemon with hid := false, hid_tx_queue := queue }
      Traffic allowed daemon (gone.fail_pending_sessions .INVALID) ∧ (gone.fail_pending_sessions .INVALID).hid = false := by
    intro queue
    let gone : Daemon := { daemon with hid := false, hid_tx_queue := queue, pending_sessions := [] }
    have start : Traffic allowed daemon gone := by
      refine ⟨rfl,⟨[],by simp [gone],by simp⟩,?_⟩
      intro hid
      cases hid
    obtain ⟨later,still⟩ := fail_pending daemon.pending_sessions (show gone.hid = false from rfl)
    exact ⟨traffic_trans start later,still⟩
  rw [Daemon.mark_hidraw_unavailable,Daemon.put_nowait]
  by_cases full : daemon.hid_tx_queue.length ≥ HID_TX_QUEUE_LIMIT
  · simp only [if_pos full,Option.getD_none]
    exact all _
  · simp only [if_neg full,Option.getD_some]
    exact all _

theorem traffic_unavailable (daemon : Daemon) : Traffic allowed daemon daemon.mark_hidraw_unavailable := (unavailable allowed daemon).1

theorem unavailable_gone (daemon : Daemon) : daemon.mark_hidraw_unavailable.hid = false :=
  (unavailable ⟨fun _ => True,fun _ _ => True⟩ daemon).2

theorem forward_room (packet : Packet) {daemon : Daemon} (hid : daemon.hid = true)
    (room : daemon.hid_tx_queue.length < HID_TX_QUEUE_LIMIT) : daemon.forward_packet_to_board packet =
      ({ daemon with
        hid_tx_queue := daemon.hid_tx_queue ++ [some packet]
        log := daemon.log ++ [.queued daemon.focused_sid packet] },true) := by
  have free : ¬ daemon.hid_tx_queue.length ≥ HID_TX_QUEUE_LIMIT := by omega
  simp [Daemon.forward_packet_to_board,hid,Daemon.put_nowait,free]

theorem forward_full (packet : Packet) {daemon : Daemon} (hid : daemon.hid = true)
    (full : HID_TX_QUEUE_LIMIT ≤ daemon.hid_tx_queue.length) :
    daemon.forward_packet_to_board packet = (daemon.mark_hidraw_unavailable,false) := by
  simp [Daemon.forward_packet_to_board,hid,Daemon.put_nowait,full]

theorem traffic_forward (daemon : Daemon) {packet : Packet} (queues : allowed.queues packet) :
    Traffic allowed daemon (daemon.forward_packet_to_board packet).1 := by
  unfold Daemon.forward_packet_to_board
  by_cases gone : daemon.hid = false
  · simp only [gone,Bool.not_false,if_true]
    exact traffic_refl daemon
  · rw [Bool.not_eq_false] at gone
    simp only [gone,Bool.not_true,Bool.false_eq_true,if_false]
    unfold Daemon.put_nowait
    by_cases full : daemon.hid_tx_queue.length ≥ HID_TX_QUEUE_LIMIT
    · simp only [if_pos full]
      exact traffic_unavailable daemon
    · simp only [if_neg full]
      refine ⟨rfl,⟨[.queued daemon.focused_sid packet],rfl,?_⟩,fun hid => ⟨hid,rfl,[packet],by simp,by simpa using queues⟩⟩
      intro e member
      rw [List.mem_singleton.mp member]
      exact ⟨rfl,queues⟩

theorem traffic_forward_all (packets : List Packet) (queues : ∀ packet ∈ packets, allowed.queues packet) (daemon : Daemon) :
    Traffic allowed daemon (daemon.forward_all packets) := by
  induction packets generalizing daemon with
  | nil => exact traffic_refl daemon
  | cons packet rest ih =>
    have first := traffic_forward daemon (queues packet List.mem_cons_self)
    rw [Daemon.forward_all]
    split
    · rename_i next forwarded
      rw [forwarded] at first
      exact traffic_trans first (ih (fun packet member => queues packet (List.mem_cons_of_mem _ member)) next)
    · rename_i next forwarded
      rw [forwarded] at first
      exact first

/-- A call of the screen sink forwards the fragments of the data when the board is focused on the sid. -/
theorem traffic_screen (daemon : Daemon) {call : ScreenCall} (queues : ∀ sid data, call = some (sid,data) →
    daemon.focused_sid = some sid → ∀ packet ∈ stream_iter_packets sid data, allowed.queues packet) :
    Traffic allowed daemon (daemon.screen_sink call) := by
  unfold Daemon.screen_sink
  split
  · exact traffic_refl daemon
  · rename_i sid data
    split
    · unfold Daemon.on_hid_screen_write
      split
      · exact traffic_refl daemon
      · rename_i focused
        rw [not_or,not_not] at focused
        split
        · exact traffic_refl daemon
        · exact traffic_forward_all _ (queues sid data rfl focused.2) daemon
    · refine ⟨rfl,⟨[.screen data],rfl,?_⟩,fun hid => ⟨hid,rfl,[],by simp [Daemon.on_screen_write],by simp⟩⟩
      intro e member
      rw [List.mem_singleton.mp member]
      trivial

end
end VibeBridge.Python
