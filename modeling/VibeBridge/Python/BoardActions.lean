import VibeBridge.Python.Grants
import VibeBridge.Python.PtyLoop

/-!
The keys of the board (`wrapper.py`). The daemon hands a key event to the client
that owns the session it is for, and to nobody else, and the wrapper turns it
into a byte for its child or into a packet for the daemon, which ignores it. So
what a wrapper types into its child are the actions of the keys that were
pressed for the sessions it owned, in their order (`keys_typed`).
-/
namespace VibeBridge.Python
open Transitions PtyRunner

/-! ## Key events -/

inductive BoardKey
  | REJECT
  | VOICE
  | SESSION
  | VOTE_REVIEW
  | AGENT_MODEL
  | MULTI_FUNCTION
  | CONFIRM
  | MENU_DEBUG
  deriving DecidableEq

/-- The bit of the key in the bitmap. -/
def BoardKey.bit : BoardKey → Nat
  | .REJECT => 0
  | .VOICE => 1
  | .SESSION => 2
  | .VOTE_REVIEW => 3
  | .AGENT_MODEL => 4
  | .MULTI_FUNCTION => 5
  | .CONFIRM => 6
  | .MENU_DEBUG => 7

structure KeyEvent where
  key_bits : UInt8
  encoder_pressed : Bool
  deriving DecidableEq

def KeyEvent.pressed (event : KeyEvent) (key : BoardKey) : Bool := event.key_bits.toNat.testBit key.bit

def decode_key_event_payload (payload : List UInt8) : Except String KeyEvent :=
  match payload with
  | key_bits :: encoder :: _ => .ok ⟨key_bits, encoder.toNat.testBit 0⟩
  | _ => .error s!"KEY_EVENT payload shorter than 2 bytes: {payload.length}"

def encode_key_event_payload (key_bits : Nat) (encoder_pressed : Bool) : Except String (List UInt8) :=
  if key_bits ≤ 0xFF then .ok [UInt8.ofNat key_bits, if encoder_pressed then 0x01 else 0x00]
  else .error s!"key_bits out of range: {key_bits}"

def make_key_event (key_bits : Nat) (encoder_pressed : Bool) (session_id : Nat) : Except String Packet := do
  .ok ⟨ReportId.HOST_BOUND.value, Cmd.KEY_EVENT.value, session_id, ← encode_key_event_payload key_bits encoder_pressed⟩

/-- The daemon drops a key event exactly when the wrapper cannot decode it. -/
theorem key_event_decodes_iff (payload : List UInt8) :
    key_event_decodes payload = true ↔ ∃ event, decode_key_event_payload payload = .ok event := by
  match payload with
  | [] => simp [key_event_decodes,decode_key_event_payload]
  | [_] => simp [key_event_decodes,decode_key_event_payload]
  | _ :: _ :: _ => simp [key_event_decodes,decode_key_event_payload]

/-- A key event is read back as it was made. -/
theorem key_event_read_back {key_bits : Nat} (fits : key_bits ≤ 0xFF) (encoder_pressed : Bool) (session_id : Nat) :
    ∃ packet, make_key_event key_bits encoder_pressed session_id = .ok packet ∧
      decode_key_event_payload packet.payload = .ok ⟨UInt8.ofNat key_bits,encoder_pressed⟩ := by
  refine ⟨⟨ReportId.HOST_BOUND.value,Cmd.KEY_EVENT.value,session_id,
    [UInt8.ofNat key_bits,if encoder_pressed then 0x01 else 0x00]⟩,?_,?_⟩
  · rw [make_key_event,encode_key_event_payload,if_pos fits]
    rfl
  · cases encoder_pressed <;> rfl

/-! ## Actions -/

def KEY_ENTER : List UInt8 := [0x0D]
def KEY_CTRL_C : List UInt8 := [0x03]

/-- What the handler does with a packet. -/
inductive Action
  | inject_input (data : List UInt8)
  | send_packet (packet : Packet)
  deriving DecidableEq

/-- `_send_window_switch`; a session that the plugin does not hold is sid 0. -/
def window_switch (session_id : Option Nat) (delta : Int) : Packet :=
  let delta := max (-127) (min 127 delta)
  ⟨ReportId.HOST_BOUND.value, Cmd.WINDOW_SWITCH.value, session_id.getD 0, [UInt8.ofNat (delta % 256).toNat]⟩

def handle_key_event (session_id : Option Nat) (packet : Packet) : Option Action :=
  match decode_key_event_payload packet.payload with
  | .error _ => none
  | .ok event =>
    if event.pressed .REJECT then some (.inject_input KEY_CTRL_C)
    else if event.pressed .SESSION then some (.send_packet (window_switch session_id 1))
    else if event.pressed .CONFIRM || event.encoder_pressed then some (.inject_input KEY_ENTER)
    else none

/-- `BoardActionHandler.handle_packet`; an encoder event is only decoded. -/
def handle_packet (session_id : Option Nat) (packet : Packet) : Option Action :=
  match Cmd.of_value packet.command with
  | some .KEY_EVENT => handle_key_event session_id packet
  | _ => none

/-- What a packet makes the wrapper put into the queue for its child. -/
def keys (packet : Packet) : List (List UInt8) :=
  match handle_packet none packet with
  | some (.inject_input data) => [data]
  | _ => []

/-- The queue does not depend on the session that the plugin holds. -/
theorem keys_any (session_id : Option Nat) (packet : Packet) : keys packet =
    match handle_packet session_id packet with
    | some (.inject_input data) => [data]
    | _ => [] := by
  unfold keys handle_packet handle_key_event
  cases Cmd.of_value packet.command with
  | none => rfl
  | some cmd =>
    cases cmd <;> try rfl
    simp only
    cases decode_key_event_payload packet.payload with
    | error text => rfl
    | ok event =>
      cases reject : event.pressed .REJECT with
      | true => simp [reject]
      | false =>
        cases session : event.pressed .SESSION with
        | true => simp [reject,session]
        | false => simp [reject,session]

/-- The daemon ignores what the SESSION key sends it. -/
theorem window_switch_ignored (daemon : Daemon) (client : Client) (clock : Clock) (session_id : Option Nat) (delta : Int) :
    daemon.handle_packet (window_switch session_id delta) client clock = daemon := by
  have known : Cmd.of_value (window_switch session_id delta).command = some .WINDOW_SWITCH := of_value_iff.mpr rfl
  rw [Daemon.handle_packet,known]
  cases daemon.hid <;> rfl

/-! ## Key events of the daemon -/

/-- No key event is sent. -/
def Keyless : Effect → Prop
  | .sent _ packet => packet.command ≠ Cmd.KEY_EVENT.value
  | _ => True

theorem invalid_keyless (sid : Nat) (status : Status) :
    (make_session_invalid sid status).command ≠ Cmd.KEY_EVENT.value := by
  show Cmd.SESSION_INVALID.value ≠ Cmd.KEY_EVENT.value
  decide

theorem muted_keyless {e : Effect} (muted : Muted e) : Keyless e := by
  cases e with
  | sent client packet =>
    rw [show packet = _ from muted]
    exact invalid_keyless _ _
  | queued _ _ => trivial
  | written _ => trivial
  | screen _ => trivial

section
variable {a b c : Daemon}

/-- A change of tables alone. -/
theorem keyless_same (log : b.log = a.log) : Adds Keyless a b := ⟨[],by rw [log,List.append_nil],by simp⟩

theorem keyless_send (daemon : Daemon) (client : Client) {packet : Packet}
    (other : packet.command ≠ Cmd.KEY_EVENT.value) : Adds Keyless daemon (daemon.send client packet) := by
  refine ⟨[.sent client packet],rfl,?_⟩
  intro e member
  rw [List.mem_singleton.mp member]
  exact other

/-- Traffic that sends the clients no key event. -/
def KeylessTraffic : Allowed := ⟨fun _ => True,fun _ packet => packet.command ≠ Cmd.KEY_EVENT.value⟩

theorem keyless_traffic (traffic : Traffic KeylessTraffic a b) : Adds Keyless a b := by
  obtain ⟨news,log,all⟩ := traffic.logged
  refine ⟨news,log,?_⟩
  intro e member
  have logs := all e member
  cases e with
  | sent client packet =>
    rcases logs with other | rfl
    · exact other
    · exact invalid_keyless _ _
  | queued _ _ => trivial
  | written _ => trivial
  | screen _ => trivial

theorem keyless_forward (daemon : Daemon) (packet : Packet) :
    Adds Keyless daemon (daemon.forward_packet_to_board packet).1 := keyless_traffic (traffic_forward daemon trivial)

theorem keyless_shown (daemon : Daemon) (call : ScreenCall) : Adds Keyless daemon (daemon.screen_sink call) := by
  obtain ⟨news,log,muted⟩ := shown_muted daemon call
  exact ⟨news,log,fun e member => muted_keyless (muted e member)⟩

theorem keyless_callback (daemon : Daemon) (sid : Nat) (status : Status) :
    Adds Keyless daemon (daemon.on_session_invalidate sid status) := by
  obtain ⟨news,log,muted⟩ := invalidate_log daemon sid status
  refine ⟨news ++ notice (daemon.owners.get sid) sid status,by rw [log,List.append_assoc],?_⟩
  intro e member
  rcases List.mem_append.mp member with shown | told
  · exact muted_keyless (muted e shown)
  · cases owner : daemon.owners.get sid with
    | none => rw [owner] at told; cases told
    | some client =>
      rw [owner] at told
      rw [List.mem_singleton.mp told]
      exact invalid_keyless _ _

theorem keyless_fold {α : Type} {step : Daemon → α → Daemon} (each : ∀ daemon x, Adds Keyless daemon (step daemon x))
    (xs : List α) (daemon : Daemon) : Adds Keyless daemon (xs.foldl step daemon) := by
  induction xs generalizing daemon with
  | nil => exact adds_refl daemon
  | cons x rest ih => exact adds_trans (each daemon x) (ih (step daemon x))

theorem keyless_close (daemon : Daemon) (manager : SessionManager) (told : List (Nat × Status)) :
    Adds Keyless daemon ({ daemon with sessions := manager }.on_session_invalidates told) :=
  adds_trans (keyless_same rfl) (keyless_fold (fun daemon t => keyless_callback daemon t.1 t.2) told _)

theorem keyless_invalidate (daemon : Daemon) (sid : Nat) (status : Status) :
    Adds Keyless daemon (daemon.invalidate sid status) := keyless_close daemon _ _

theorem keyless_validate (daemon : Daemon) (packet : Packet) (client : Client) :
    Adds Keyless daemon (daemon.validate_session packet client).1 := by
  unfold Daemon.validate_session
  split
  · exact keyless_send daemon client (invalid_keyless _ _)
  · split
    · exact keyless_same rfl
    · exact adds_refl daemon

theorem keyless_request (daemon : Daemon) (packet : Packet) (client : Client) (clock : Clock) :
    Adds Keyless daemon (daemon.handle_request_session packet client clock) := by
  have closed := keyless_close daemon (daemon.sessions.request_session clock.reaped clock.now).manager
    (daemon.sessions.request_session clock.reaped clock.now).told
  unfold Daemon.handle_request_session
  dsimp only
  split
  · exact closed
  · refine adds_trans closed ?_
    split
    · exact keyless_send _ _ (invalid_keyless _ _)
    · refine adds_trans (keyless_same rfl) (keyless_send _ _ ?_)
      show Cmd.SESSION_RESPONSE.value ≠ Cmd.KEY_EVENT.value
      decide

theorem keyless_vt100 (daemon : Daemon) (packet : Packet) (client : Client) (clock : Clock) :
    Adds Keyless daemon (daemon.handle_vt100 packet client clock) := by
  have checked := keyless_validate daemon packet client
  unfold Daemon.handle_vt100
  split
  · next refused => rw [refused] at checked; exact checked
  · next accepted =>
    rw [accepted] at checked
    exact adds_trans (adds_trans checked (keyless_same rfl)) (keyless_shown _ _)

theorem keyless_status (daemon : Daemon) (packet : Packet) (client : Client) (clock : Clock) :
    Adds Keyless daemon (daemon.handle_status_update packet client clock) := by
  have checked := keyless_validate daemon packet client
  unfold Daemon.handle_status_update
  split
  · next refused => rw [refused] at checked; exact checked
  · next accepted =>
    rw [accepted] at checked
    split
    · exact checked
    · exact adds_trans checked (keyless_same rfl)

theorem keyless_request_to_board (daemon : Daemon) (packet : Packet) (client : Client) :
    Adds Keyless daemon (daemon.forward_session_request_to_board packet client) := by
  unfold Daemon.forward_session_request_to_board
  dsimp only
  have forwarded := keyless_forward
    { daemon with pending_sessions := daemon.pending_sessions ++ [(client,plugin_hint packet.payload)] } packet
  have waits : Adds Keyless daemon
      { daemon with pending_sessions := daemon.pending_sessions ++ [(client,plugin_hint packet.payload)] } := keyless_same rfl
  split
  · next queued => rw [queued] at forwarded; exact adds_trans waits forwarded
  · next full =>
    rw [full] at forwarded
    exact adds_trans (adds_trans waits forwarded) (adds_trans (keyless_same rfl) (keyless_send _ _ (invalid_keyless _ _)))

theorem keyless_packet (daemon : Daemon) (packet : Packet) (client : Client) (clock : Clock) :
    Adds Keyless daemon (daemon.handle_packet packet client clock) := by
  unfold Daemon.handle_packet
  split
  · refine keyless_send _ _ ?_
    show Cmd.ERROR.value ≠ Cmd.KEY_EVENT.value
    decide
  · split
    · unfold Daemon.handle_plugin_packet_real
      split
      · exact keyless_request_to_board daemon packet client
      · exact keyless_vt100 daemon packet client clock
      · have updated := keyless_status daemon packet client clock
        dsimp only
        split
        · exact adds_trans updated (keyless_forward _ _)
        · exact updated
      · exact adds_refl daemon
      · exact adds_refl daemon
      · split
        · have checked := keyless_validate daemon packet client
          split
          · next refused => rw [refused] at checked; exact checked
          · next accepted => rw [accepted] at checked; exact adds_trans checked (keyless_forward _ _)
        · exact keyless_forward _ _
    · split
      · exact keyless_request daemon packet client clock
      · exact keyless_vt100 daemon packet client clock
      · exact keyless_status daemon packet client clock
      · exact adds_refl daemon
theorem keyless_response (daemon : Daemon) {packet : Packet} (clock : Clock)
    (other : packet.command ≠ Cmd.KEY_EVENT.value) : Adds Keyless daemon (daemon.handle_hid_session_response packet clock) := by
  unfold Daemon.handle_hid_session_response
  split
  · exact adds_refl daemon
  · next client hint waiting _ =>
    dsimp only
    have taken : Adds Keyless daemon { daemon with pending_sessions := waiting } := keyless_same rfl
    split
    · have adopted := adds_trans taken (keyless_close { daemon with pending_sessions := waiting }
        (daemon.sessions.adopt_session packet.session_id clock.reaped clock.now).manager
        (daemon.sessions.adopt_session packet.session_id clock.reaped clock.now).told)
      split
      · refine adds_trans (adds_trans (adds_trans adopted (keyless_same ?_))
          (keyless_fold (fun daemon sid => keyless_invalidate daemon sid .RECLAIMED) _ _)) (keyless_send _ _ other)
        rfl
      · exact adds_trans adopted (keyless_send _ _ (invalid_keyless _ _))
    · exact adds_trans taken (keyless_send _ _ (invalid_keyless _ _))

theorem keyless_broadcast (daemon : Daemon) {packet : Packet} (other : packet.command ≠ Cmd.KEY_EVENT.value) :
    Adds Keyless daemon (daemon.broadcast packet) :=
  keyless_traffic (traffic_broadcast daemon (fun _ => other))

theorem keyless_invalid (daemon : Daemon) {packet : Packet} (other : packet.command ≠ Cmd.KEY_EVENT.value) :
    Adds Keyless daemon (daemon.handle_hid_session_invalid packet) := by
  unfold Daemon.handle_hid_session_invalid
  dsimp only
  split
  · split
    · exact adds_trans (keyless_same rfl) (keyless_send _ _ other)
    · exact keyless_broadcast daemon other
  · exact keyless_invalidate _ _ _

theorem keyless_focus (daemon : Daemon) (packet : Packet) (clock : Clock) :
    Adds Keyless daemon (daemon.handle_hid_session_focus packet clock) := by
  unfold Daemon.handle_hid_session_focus Daemon.set_active
  dsimp only
  split
  · exact adds_trans (keyless_same rfl) (keyless_shown _ _)
  · split
    · exact adds_refl daemon
    · exact adds_trans (keyless_same rfl) (keyless_shown _ _)

theorem keyless_route (daemon : Daemon) {packet : Packet} (other : packet.command ≠ Cmd.KEY_EVENT.value) :
    Adds Keyless daemon (daemon.route_to_owner packet) := by
  unfold Daemon.route_to_owner
  split
  · exact keyless_send _ _ other
  · exact adds_refl daemon

/-- The board's other packets send no key event. -/
theorem keyless_board (daemon : Daemon) {packet : Packet} (clock : Clock) (other : packet.command ≠ Cmd.KEY_EVENT.value) :
    Adds Keyless daemon (daemon.handle_hid_packet packet clock) := by
  unfold Daemon.handle_hid_packet
  split
  · exact adds_refl daemon
  · exact keyless_response daemon clock other
  · exact keyless_invalid daemon other
  · exact keyless_focus daemon packet clock
  · next key => exact absurd (of_value_iff.mp key) other
  · unfold Daemon.handle_hid_encoder_event Daemon.route_board_input_to_session
    split
    · split
      · exact adds_refl daemon
      · exact keyless_route daemon other
    · exact adds_refl daemon
  · unfold Daemon.route_board_packet
    split
    · exact keyless_broadcast daemon other
    · exact keyless_route daemon other

/-- The event is a key event of the board. -/
def Pressed (event : Event) : Prop := ∃ packet clock, event = .board_packet packet clock ∧ packet.command = Cmd.KEY_EVENT.value

/-- Whatever else happens sends no key event. -/
theorem keyless_event (daemon : Daemon) {event : Event} (other : ¬ Pressed event) : Adds Keyless daemon (daemon.handle event) := by
  cases event with
  | connect => exact keyless_same rfl
  | disconnect client =>
    simp only [Daemon.handle]
    split
    · exact adds_trans (keyless_same rfl) (keyless_fold (fun daemon sid => keyless_invalidate daemon sid .EXPIRED) _ _)
    · exact adds_refl daemon
  | client_packet client packet clock =>
    simp only [Daemon.handle]
    split
    · exact keyless_packet daemon packet client clock
    · exact adds_refl daemon
  | board_packet packet clock =>
    simp only [Daemon.handle]
    split
    · exact keyless_board daemon clock (fun key => other ⟨packet,clock,rfl,key⟩)
    · exact adds_refl daemon
  | reap now => exact keyless_close daemon _ _
  | heartbeat =>
    simp only [Daemon.handle,Daemon.heartbeat]
    split
    · exact adds_refl daemon
    · exact keyless_traffic (traffic_forward_all _ (fun _ _ => trivial) daemon)
  | write writes =>
    simp only [Daemon.handle]
    split
    · unfold Daemon.write_next
      split
      · exact adds_refl daemon
      · exact keyless_same rfl
      · next packet rest queue =>
        obtain ⟨news,log,gone⟩ := keyless_traffic (traffic_unavailable { daemon with hid_tx_queue := rest })
        dsimp only
        split
        · exact keyless_same rfl
        · split
          · exact keyless_same rfl
          · split
            · exact ⟨[.written _],rfl,by simp [Keyless]⟩
            · exact ⟨news,log,gone⟩
    · exact adds_refl daemon
  | device_lost =>
    simp only [Daemon.handle]
    split
    · exact keyless_traffic (traffic_unavailable daemon)
    · exact adds_refl daemon
end

/-! ## Runs -/

/-- The key event that a move of the daemon hands to a client: one that can be
    decoded, for a session that the client owns. -/
def pressed (client : Client) (m : HostMove) : Option Packet :=
  match m.input with
  | .board_packet packet _ =>
    if m.pre.hid_sink ∧ packet.command = Cmd.KEY_EVENT.value ∧ key_event_decodes packet.payload ∧
      packet.session_id ≠ SESSION_BROADCAST ∧ m.pre.owners.get packet.session_id = some client then some packet else none
  | _ => none

/-- The key events among the packets of a client. -/
def key_events (packets : List Packet) : List Packet := packets.filter (fun packet => packet.command = Cmd.KEY_EVENT.value)

theorem keyless_events {news : List Effect} (keyless : ∀ e ∈ news, Keyless e) (client : Client) :
    key_events (sent_to news client) = [] := by
  refine List.filter_eq_nil_iff.mpr ?_
  intro packet member
  obtain ⟨e,there,sends⟩ := List.mem_filterMap.mp member
  cases e with
  | sent other sent =>
    simp only [sends_to] at sends
    split at sends
    · cases sends
      simpa [Keyless] using keyless _ there
    · cases sends
  | queued _ _ => cases sends
  | written _ => cases sends
  | screen _ => cases sends

theorem key_events_append (packets more : List Packet) : key_events (packets ++ more) = key_events packets ++ key_events more :=
  List.filter_append _ _

/-- A key event goes to the owner of its session. -/
theorem pressed_step {m : HostMove} (move : host m) (client : Client) :
    ∃ news, m.post.log = m.pre.log ++ news ∧ key_events (sent_to news client) = (pressed client m).toList := by
  by_cases key : Pressed m.input
  · obtain ⟨packet,clock,input,type⟩ := key
    have move : m.post = m.pre.handle m.input := move
    rw [input] at move
    simp only [Daemon.handle,Daemon.handle_hid_packet,of_value_iff.mpr type,Daemon.handle_hid_key_event,
      Daemon.route_board_input_to_session,Daemon.route_to_owner] at move
    simp only [pressed,input,type]
    cases sink : m.pre.hid_sink with
    | false => exact ⟨[],by simp [move,sink],by simp [sent_to,key_events]⟩
    | true =>
      cases decodes : key_event_decodes packet.payload with
      | false => exact ⟨[],by simp [move,sink,decodes],by simp [sent_to,key_events]⟩
      | true =>
        by_cases broadcast : packet.session_id = SESSION_BROADCAST
        · exact ⟨[],by simp [move,sink,decodes,broadcast],by simp [sent_to,key_events,broadcast]⟩
        · cases owner : m.pre.owners.get packet.session_id with
          | none => exact ⟨[],by simp [move,sink,decodes,broadcast,owner],by simp [sent_to,key_events]⟩
          | some other =>
            refine ⟨[.sent other packet],by simp [move,sink,decodes,broadcast,owner,Daemon.send],?_⟩
            by_cases same : other = client
            · simp [sent_to,sends_to,key_events,same,type,broadcast]
            · simp [sent_to,sends_to,key_events,same]
  · have move : m.post = m.pre.handle m.input := move
    obtain ⟨news,log,keyless⟩ := keyless_event m.pre key
    refine ⟨news,by rw [move,log],?_⟩
    rw [keyless_events keyless]
    unfold pressed
    split
    · next packet clock input =>
      rw [if_neg]
      · rfl
      · rintro ⟨_,type,_⟩
        exact key ⟨packet,clock,input,type⟩
    · rfl

/-- In every run, the key events that a client was sent are those pressed for the sessions it owned, in order. -/
theorem keys_routed {config : DaemonConfig} {ms : List HostMove} {daemon : Daemon} (run : HostRun config ms daemon)
    (client : Client) : key_events (sent_to daemon.log client) = ms.filterMap (pressed client) := by
  induction run with
  | refl => rfl
  | @next ms m before move ih =>
    obtain ⟨news,log,sent⟩ := pressed_step move client
    rw [log,sent_to_append,key_events_append,ih,sent,List.filterMap_append,List.filterMap_cons]
    cases pressed client m <;> rfl

/-- A key event goes to one client at most. -/
theorem pressed_once {m : HostMove} {client other : Client} {packet packet' : Packet} (here : pressed client m = some packet)
    (there : pressed other m = some packet') : other = client := by
  unfold pressed at here there
  split at here
  · next input =>
    rw [input] at there
    simp only at there
    split at here
    · next owned =>
      split at there
      · next owned' => exact Option.some.inj (owned'.2.2.2.2.symm.trans owned.2.2.2.2)
      · cases there
    · cases here
  · cases here

/-- Only a key event makes a wrapper type anything, and then Enter or Ctrl-C. -/
theorem keys_some {packet : Packet} {data : List UInt8} (member : data ∈ keys packet) :
    packet.command = Cmd.KEY_EVENT.value ∧ (data = KEY_ENTER ∨ data = KEY_CTRL_C) := by
  unfold keys handle_packet at member
  split at member
  · next inject =>
    rw [List.mem_singleton.mp member]
    split at inject
    · next key =>
      refine ⟨of_value_iff.mp key,?_⟩
      unfold handle_key_event at inject
      split at inject
      · cases inject
      · split at inject
        · cases inject; exact .inr rfl
        · split at inject
          · cases inject
          · split at inject
            · cases inject; exact .inl rfl
            · cases inject
    · cases inject
  · cases member

theorem keys_of_events (packets : List Packet) : (key_events packets).flatMap keys = packets.flatMap keys := by
  induction packets with
  | nil => rfl
  | cons packet rest ih =>
    by_cases key : packet.command = Cmd.KEY_EVENT.value
    · rw [key_events,List.filter_cons_of_pos (by simpa using key),List.flatMap_cons,List.flatMap_cons,← ih]
      rfl
    · have none : keys packet = [] := List.eq_nil_iff_forall_not_mem.mpr (fun data member => key (keys_some member).1)
      rw [key_events,List.filter_cons_of_neg (by simpa using key),List.flatMap_cons,none,List.nil_append,← ih]
      rfl

/-- The child of a wrapper, whose reader has put actions into the queue, from some packet
    on that the wrapper was sent: beside what the user types, the child is written Enter
    and Ctrl-C only, one for each key that the board pressed for a session that this
    wrapper then owned, in their order and after those that were missed, and no key goes
    to two wrappers. -/
theorem keys_typed {config : DaemonConfig} {ms : List HostMove} {daemon : Daemon} (run : HostRun config ms daemon)
    (client : Client) {σ : Type} (on_output : Option (σ → Bytes → σ)) (output : σ) (reads_stdin : Bool) (turns : List Turn)
    {missed heard : List Packet} (sent : sent_to daemon.log client = missed ++ heard)
    (puts : turns.flatMap (·.puts) <+: heard.flatMap keys) :
    let r := io_loop on_output true (.start output reads_stdin) turns
    missed.flatMap keys ++ injected r.1 <+: (ms.filterMap (pressed client)).flatMap keys ∧
      (∀ data ∈ injected r.1, data = KEY_ENTER ∨ data = KEY_CTRL_C) ∧ Ends r ∧
      ∀ m ∈ ms, ∀ other, (pressed client m).isSome → (pressed other m).isSome → other = client := by
  intro r
  have all : missed.flatMap keys ++ heard.flatMap keys = (ms.filterMap (pressed client)).flatMap keys := by
    rw [← keys_routed run client,keys_of_events,sent,List.flatMap_append]
  obtain ⟨front,⟨back,turns_split⟩,_,relayed,ends,_⟩ :=
    loop_relayed true turns (start_relayed on_output output reads_stdin) rfl (start_reads output reads_stdin)
  have taken : front.flatMap (·.puts) <+: heard.flatMap keys := by
    refine List.IsPrefix.trans ?_ puts
    rw [← turns_split,List.flatMap_append]
    exact List.prefix_append _ _
  have whole : some_bytes (front.flatMap (·.puts)) = front.flatMap (·.puts) := by
    refine List.filter_eq_self.mpr ?_
    intro data member
    obtain ⟨packet,_,typed⟩ := List.mem_flatMap.mp (taken.subset member)
    rcases (keys_some typed).2 with rfl | rfl <;> rfl
  have order := relayed.order
  rw [List.nil_append,whole] at order
  have fed : injected r.1 <+: heard.flatMap keys := List.IsPrefix.trans ⟨_,order⟩ taken
  refine ⟨?_,?_,ends,?_⟩
  · rw [← all]
    exact (List.prefix_append_right_inj _).mpr fed
  · intro data member
    obtain ⟨packet,_,typed⟩ := List.mem_flatMap.mp (fed.subset member)
    exact (keys_some typed).2
  · intro m _ other here there
    obtain ⟨packet,here⟩ := Option.isSome_iff_exists.mp here
    obtain ⟨packet',there⟩ := Option.isSome_iff_exists.mp there
    exact pressed_once here there

/-- A client gets sid 1, and the board presses CONFIRM for it twice. -/
def confirmed : List Event :=
  [.connect,.asks 0,.write true,.allots 1,.board_packet ⟨ReportId.HOST_BOUND.value,Cmd.KEY_EVENT.value,1,[0x40,0]⟩ ⟨0,0⟩,
    .board_packet ⟨ReportId.HOST_BOUND.value,Cmd.KEY_EVENT.value,1,[0x40,0]⟩ ⟨0,0⟩]

/-- The turn of the loop that writes Enter to the child. -/
def enter_turn : Turn := ⟨[KEY_ENTER],fun _ _ => some 1,.interrupted,.fails,fun _ => none,.fails,fun _ => none⟩

/-- The handler of the wrapper is installed between the two keys. -/
theorem keys_typed_enter :
    let r := io_loop (σ := Unit) none true (.start () true) [enter_turn]
    let sent := sent_to (finish host_step (.start .real) confirmed).log 0
    (sent.take 2).flatMap keys ++ injected r.1 <+: ((moves host_step (.start .real) confirmed).filterMap (pressed 0)).flatMap keys ∧
      (∀ data ∈ injected r.1, data = KEY_ENTER ∨ data = KEY_CTRL_C) ∧ Ends r ∧
      ∀ m ∈ moves host_step (.start .real) confirmed, ∀ other, (pressed 0 m).isSome → (pressed other m).isSome → other = 0 :=
  keys_typed (host_events .real confirmed) 0 none () true [enter_turn] (List.take_append_drop 2 _).symm (by decide)

end VibeBridge.Python
