import VibeBridge.Python.Focus

/-!
What the board gets when it opens a screen. The router replays a window only
when it becomes the active one, so a window that is active already is not
replayed to a board that opens it: the first one that was registered, one that
took the place of another, and one that is opened again (`replays_iff`).
-/
namespace VibeBridge.Python
open Transitions

/-! ## What the queue takes -/

/-- No packet is put into the queue. -/
def Unqueued : Allowed := ⟨fun _ => False,fun _ _ => True⟩

/-- The packet that is put into the queue for the screen. -/
def screen_packet : Effect → Option Packet
  | .queued _ packet => if packet.command = Cmd.VT100_STREAM.value then some packet else none
  | _ => none

theorem unqueued_packets {focused : Option Nat} {news : List Effect} (none : ∀ e ∈ news, Unqueued.Logs focused e) :
    news.filterMap screen_packet = [] := by
  rw [List.filterMap_eq_nil_iff]
  intro e member
  cases e with
  | queued _ _ => exact (none _ member).2.elim
  | sent _ _ => rfl
  | written _ => rfl
  | screen _ => rfl

theorem queued_packets (focused : Option Nat) {packets : List Packet}
    (stream : ∀ packet ∈ packets, packet.command = Cmd.VT100_STREAM.value) :
    (packets.map (Effect.queued focused)).filterMap screen_packet = packets := by
  rw [List.filterMap_map]
  induction packets with
  | nil => rfl
  | cons packet rest ih =>
    rw [List.filterMap_cons_some,ih (fun p member => stream p (List.mem_cons_of_mem packet member))]
    exact if_pos (stream packet List.mem_cons_self)

/-- A queue with room takes all the packets. -/
theorem forward_all_room (packets : List Packet) (daemon : Daemon) (hid : daemon.hid = true)
    (room : daemon.hid_tx_queue.length + packets.length ≤ HID_TX_QUEUE_LIMIT) :
    (daemon.forward_all packets).log = daemon.log ++ packets.map (.queued daemon.focused_sid) := by
  induction packets generalizing daemon with
  | nil => simp [Daemon.forward_all]
  | cons packet rest ih =>
    rw [List.length_cons] at room
    have later := ih { daemon with
      hid_tx_queue := daemon.hid_tx_queue ++ [some packet]
      log := daemon.log ++ [.queued daemon.focused_sid packet] } hid (by simp only [List.length_append,List.length_singleton]; omega)
    rw [Daemon.forward_all,forward_room packet hid (by omega)]
    exact later.trans (by simp)

/-- Of more packets than there is room for, the queue takes the first ones. -/
theorem forward_all_full (packets : List Packet) (daemon : Daemon) (hid : daemon.hid = true) (some_packet : packets ≠ [])
    (full : HID_TX_QUEUE_LIMIT < daemon.hid_tx_queue.length + packets.length) :
    ∃ k news, k < packets.length ∧
      (daemon.forward_all packets).log = daemon.log ++ (packets.take k).map (.queued daemon.focused_sid) ++ news ∧
      ∀ e ∈ news, Unqueued.Logs daemon.focused_sid e := by
  induction packets generalizing daemon with
  | nil => exact absurd rfl some_packet
  | cons packet rest ih =>
    rw [List.length_cons] at full
    rw [Daemon.forward_all]
    by_cases last : HID_TX_QUEUE_LIMIT ≤ daemon.hid_tx_queue.length
    · have failed : Traffic Unqueued daemon daemon.mark_hidraw_unavailable := traffic_unavailable daemon
      obtain ⟨_,⟨news,log,all⟩,_⟩ := failed
      rw [forward_full packet hid last]
      exact ⟨0,news,by simp,by simpa using log,all⟩
    · have more : rest ≠ [] := by
        rintro rfl
        rw [List.length_nil] at full
        omega
      obtain ⟨k,news,within,log,all⟩ := ih { daemon with
        hid_tx_queue := daemon.hid_tx_queue ++ [some packet]
        log := daemon.log ++ [.queued daemon.focused_sid packet] } hid more
        (by simp only [List.length_append,List.length_singleton]; omega)
      rw [forward_room packet hid (by omega)]
      refine ⟨k + 1,news,by rw [List.length_cons]; omega,log.trans ?_,all⟩
      simp

/-! ## What a focus shows -/

/-- The packets for the screen that a move queues. -/
def shown (m : HostMove) : List Packet := (effects m).filterMap screen_packet

/-- The packets are for this session, and carry the screen-clear and all that its buffer holds. -/
def Replays (daemon : Daemon) (sid : Nat) (packets : List Packet) : Prop :=
  (∀ packet ∈ packets, packet.session_id = sid) ∧
    (packets.map Packet.payload).flatten = SCREEN_CLEAR ++ daemon.router.snapshot sid

theorem stream_payloads (sid : Nat) (data : List UInt8) : (stream_iter_packets sid data).map Packet.payload = fragment_payload data := by
  rw [stream_iter_packets,List.map_map]
  exact List.map_id' (fragment_payload data)

/-- Some of the fragments do not make up the whole. -/
theorem fragments_all {data : List UInt8} (bytes : data ≠ []) {k : Nat} (whole : ((fragment_payload data).take k).flatten = data) :
    (fragment_payload data).length ≤ k := by
  have rest : ((fragment_payload data).drop k).flatten = [] := by
    have both := fragments_flatten data
    rw [← List.take_append_drop k (fragment_payload data),List.flatten_append,whole] at both
    exact List.append_right_eq_self.mp both
  by_contra fewer
  have later : (fragment_payload data).drop k ≠ [] := by
    rw [Ne,List.drop_eq_nil_iff]
    exact fewer
  obtain ⟨chunk,member⟩ := List.exists_mem_of_ne_nil _ later
  exact fragments_ne_nil bytes (List.mem_of_mem_drop member) (List.flatten_eq_nil_iff.mp rest chunk member)

theorem stream_commands {sid : Nat} {data : List UInt8} : ∀ packet ∈ stream_iter_packets sid data,
    packet.command = Cmd.VT100_STREAM.value ∧ packet.session_id = sid := by
  intro packet member
  obtain ⟨chunk,_,rfl⟩ := List.mem_map.mp member
  exact ⟨rfl,rfl⟩

/-- The packets of a stream that get into the queue make up its data exactly when there is room for all of them. -/
theorem stream_whole {daemon after : Daemon} (hid : daemon.hid = true) {sid : Nat} {data : List UInt8} (bytes : data ≠ [])
    (forwarded : after = daemon.forward_all (stream_iter_packets sid data)) :
    let packets := (after.log.drop daemon.log.length).filterMap screen_packet
    ((∀ packet ∈ packets, packet.session_id = sid) ∧ (packets.map Packet.payload).flatten = data) ↔
      daemon.hid_tx_queue.length + (stream_iter_packets sid data).length ≤ HID_TX_QUEUE_LIMIT := by
  have commands : ∀ packet ∈ stream_iter_packets sid data, _ := stream_commands
  intro packets
  by_cases room : daemon.hid_tx_queue.length + (stream_iter_packets sid data).length ≤ HID_TX_QUEUE_LIMIT
  · have all : packets = stream_iter_packets sid data := by
      simp only [packets]
      rw [forwarded,forward_all_room _ _ hid room,List.drop_left]
      exact queued_packets _ (fun packet member => (commands packet member).1)
    refine iff_of_true ?_ room
    rw [all]
    exact ⟨fun packet member => (commands packet member).2,by rw [stream_payloads,fragments_flatten]⟩
  · have more : stream_iter_packets sid data ≠ [] := by
      intro none
      have whole := fragments_flatten data
      rw [← stream_payloads sid,none] at whole
      exact bytes whole.symm
    obtain ⟨k,news,within,log,unqueued⟩ := forward_all_full _ daemon hid more (by omega)
    have first : packets = (stream_iter_packets sid data).take k := by
      simp only [packets]
      rw [forwarded,log,List.append_assoc,List.drop_left,List.filterMap_append,unqueued_packets unqueued,List.append_nil]
      exact queued_packets _ (fun packet member => (commands packet (List.mem_of_mem_take member)).1)
    refine iff_of_false ?_ room
    rintro ⟨_,whole⟩
    rw [first,List.map_take,stream_payloads] at whole
    have enough := fragments_all bytes whole
    rw [← stream_payloads sid,List.length_map] at enough
    omega

/-- What the screen sink gets for a window that the board opens. -/
theorem set_active_call {router : Vt100Router} {sid : Nat} (there : router.Has sid) : (router.set_active (some sid)).2.2 =
    if router.active = some sid then none else some (sid,SCREEN_CLEAR ++ router.snapshot sid) := by
  simp only [Vt100Router.set_active]
  split
  · rename_i absent
    exact absurd there absent
  · split <;> rfl

/-- The daemon after a focus on a live session, before anything is shown. -/
def Daemon.focusing (daemon : Daemon) (sid : Nat) (now : Int) : Daemon :=
  { daemon with
    focused_sid := some sid
    sessions := daemon.sessions.touch sid now
    router := (daemon.router.set_active (some sid)).1 }

theorem focus_handled {daemon : Daemon} {packet : Packet} {clock : Clock} (positive : 0 < packet.session_id)
    (live : daemon.sessions.Live packet.session_id) (there : daemon.router.Has packet.session_id) :
    daemon.handle_hid_session_focus packet clock = (daemon.focusing packet.session_id clock.now).screen_sink
      (if daemon.router.active = some packet.session_id then none
        else some (packet.session_id,SCREEN_CLEAR ++ daemon.router.snapshot packet.session_id)) := by
  obtain ⟨session,found⟩ := Dict.mem_keys.mp live
  have other : packet.session_id ≠ SESSION_BROADCAST := by
    unfold SESSION_BROADCAST
    omega
  rw [← set_active_call there]
  simp only [Daemon.handle_hid_session_focus,if_neg other,SessionManager.get,found]
  rfl

/-- A focus on a live session replays its window exactly when the window is not the active one already, the device
    is there and its queue has room for all of it. -/
theorem replays_iff {config : DaemonConfig} (real : config.hidraw = true) {m : HostMove} (move : host m)
    (reached : Reached config m.pre) {packet : Packet} {clock : Clock} (input : m.input = .board_packet packet clock)
    (type : packet.command = Cmd.SESSION_FOCUS.value) (live : m.pre.sessions.Live packet.session_id) :
    Replays m.pre packet.session_id (shown m) ↔ m.pre.router.active ≠ some packet.session_id ∧ m.pre.hid = true ∧
      m.pre.hid_tx_queue.length + (stream_iter_packets packet.session_id
        (SCREEN_CLEAR ++ m.pre.router.snapshot packet.session_id)).length ≤ HID_TX_QUEUE_LIMIT := by
  have numbered := reached_numbered reached
  have there := ((windows_agree reached).routed _).mp live
  have post : m.post = (m.pre.focusing packet.session_id clock.now).screen_sink
      (if m.pre.router.active = some packet.session_id then none
        else some (packet.session_id,SCREEN_CLEAR ++ m.pre.router.snapshot packet.session_id)) := by
    rw [move,input,← focus_handled (numbered.positive _ live) live there]
    simp only [Daemon.handle,numbered.sink,real,if_true,Daemon.handle_hid_packet,of_value_iff.mpr type]
  have nothing : shown m = [] → ¬ Replays m.pre packet.session_id (shown m) := by
    intro none replays
    rw [none] at replays
    exact absurd replays.2 (by simp [SCREEN_CLEAR])
  by_cases active : m.pre.router.active = some packet.session_id
  · refine iff_of_false (nothing ?_) (fun condition => condition.1 active)
    rw [if_pos active] at post
    rw [shown,effects,post]
    simp [Daemon.screen_sink,Daemon.focusing]
  · rw [if_neg active] at post
    by_cases gone : m.pre.hid = false
    · refine iff_of_false (nothing ?_) (fun condition => by simp [gone] at condition)
      rw [shown,effects,post]
      simp [Daemon.screen_sink,Daemon.focusing,Daemon.on_hid_screen_write,numbered.sink,real,gone]
    · rw [Bool.not_eq_false] at gone
      have sent : m.post = (m.pre.focusing packet.session_id clock.now).forward_all
          (stream_iter_packets packet.session_id (SCREEN_CLEAR ++ m.pre.router.snapshot packet.session_id)) := by
        rw [post]
        simp [Daemon.screen_sink,Daemon.focusing,Daemon.on_hid_screen_write,numbered.sink,real,gone]
      have start : (m.pre.focusing packet.session_id clock.now).hid = true := gone
      have whole := stream_whole start (by simp [SCREEN_CLEAR]) sent
      exact whole.trans ⟨fun room => ⟨active,gone,room⟩,fun condition => condition.2.2⟩

/-- The board opens the screen of a session that the router has as its active window or has not. -/
def opening (events : List Event) (sid : Nat) : HostMove :=
  ⟨finish host_step (.start .real) events,.focuses sid,(finish host_step (.start .real) events).handle (.focuses sid),()⟩

/-- Two sessions, of which the second has bytes and is not the active window. -/
def second_written : List Event :=
  [.connect,.connect,.asks 0,.asks 1,.write true,.write true,.allots 1,.allots 2,.streams 1 2 [0x68,0x69]]

theorem replays_iff_second :
    Replays (finish host_step (.start .real) second_written) 2 (shown (opening second_written 2)) := by
  have iff := @replays_iff .real rfl (opening second_written 2) rfl ⟨_,host_events .real second_written⟩
    (make_session_focus 2) ⟨0,0⟩ rfl rfl (by decide)
  exact iff.mpr (by decide)

/-- The first session is registered as the active window, and the board that opens it is shown nothing. -/
theorem first_focus_silent : ¬ ∀ (config : DaemonConfig), config.hidraw = true → ∀ m, host m → Reached config m.pre →
    ∀ packet clock, m.input = .board_packet packet clock → packet.command = Cmd.SESSION_FOCUS.value →
      m.pre.sessions.Live packet.session_id → Replays m.pre packet.session_id (shown m) := by
  intro claimed
  have replays := claimed .real rfl (opening [.connect,.asks 0,.write true,.allots 1,.streams 0 1 [0x68,0x69]] 1) rfl ⟨_,host_events .real _⟩
    _ _ rfl rfl (by decide)
  exact absurd replays.2 (by decide)

end VibeBridge.Python
