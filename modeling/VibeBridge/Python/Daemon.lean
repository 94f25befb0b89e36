import VibeBridge.Text
import VibeBridge.Python.SessionManager
import VibeBridge.Python.Vt100Router

/-!
The daemon of the Python host (`daemon.py`), in mock mode and with a real HID
device. Its handlers are atomic. What it does outside its own tables is logged:
packets handed to the connection of a client, packets put into the queue of the
HID writer, reports written to the device and writes to the mock screen. The
state file and the log file are left out, and so is the JSON of a status update,
which only the state file shows. A hint is kept as the bytes of its payload.
-/
namespace VibeBridge.Python
open VibeBridge.Text

def HID_TX_QUEUE_LIMIT : Nat := 4096

/-- A connection to the server; each one that is accepted gets a number of its own. -/
abbrev Client := Nat

inductive Effect
  | sent (client : Client) (packet : Packet)
  /-- The packet was put into the HID queue while the board was focused on the sid. -/
  | queued (focused : Option Nat) (packet : Packet)
  | written (packet : Packet)
  | screen (data : List UInt8)
  deriving DecidableEq

/-- What a daemon is started with. -/
structure DaemonConfig where
  max_sessions : Nat := 256
  ttl_seconds : Int := 30 * 24 * 60 * 60
  /-- There is a HID device. -/
  hidraw : Bool
  in_range : 0 < max_sessions ∧ max_sessions ≤ 0xFFFF

structure Daemon where
  sessions : SessionManager
  router : Vt100Router
  owners : Dict Nat Client
  /-- The sink of the router is `_on_hid_screen_write`. -/
  hid_sink : Bool
  /-- `_hid` is not `None`. -/
  hid : Bool
  hid_tx_queue : List (Option Packet)
  /-- The writer thread has not returned. -/
  writing : Bool
  pending_sessions : List (Client × List UInt8)
  focused_sid : Option Nat
  /-- The clients of the server, and how many it has accepted. -/
  clients : List Client
  accepted : Nat
  log : List Effect
  deriving DecidableEq

/-- The daemon after `__init__` and `start`. -/
def Daemon.start (config : DaemonConfig) : Daemon where
  sessions := ⟨config.max_sessions,config.ttl_seconds * 1000,.empty,1,config.in_range,Nat.zero_lt_one⟩
  router := .new
  owners := .empty
  hid_sink := config.hidraw
  hid := config.hidraw
  hid_tx_queue := []
  writing := config.hidraw
  pending_sessions := []
  focused_sid := none
  clients := []
  accepted := 0
  log := []

/-- The readings of the clock in one handler: for the reaping, and for a stamp. -/
structure Clock where
  reaped : Int
  now : Int

/-! ## Sending -/

/-- `ClientHandle.send` -/
def Daemon.send (daemon : Daemon) (client : Client) (packet : Packet) : Daemon :=
  { daemon with log := daemon.log ++ [.sent client packet] }

/-- `MockHidServer.broadcast` -/
def Daemon.broadcast (daemon : Daemon) (packet : Packet) : Daemon :=
  daemon.clients.foldl (fun daemon client => daemon.send client packet) daemon

/-- `queue.put_nowait`, or nothing when the queue is full. -/
def Daemon.put_nowait (daemon : Daemon) (item : Option Packet) : Option Daemon :=
  if daemon.hid_tx_queue.length ≥ HID_TX_QUEUE_LIMIT then none
  else some { daemon with hid_tx_queue := daemon.hid_tx_queue ++ [item] }

def Daemon.fail_pending_sessions (daemon : Daemon) (status : Status) : Daemon :=
  daemon.pending_sessions.foldl
    (fun daemon pending => daemon.send pending.1 (make_session_invalid SESSION_BROADCAST status))
    { daemon with pending_sessions := [] }

def Daemon.mark_hidraw_unavailable (daemon : Daemon) : Daemon :=
  let daemon := { daemon with hid := false }
  ((daemon.put_nowait none).getD daemon).fail_pending_sessions .INVALID

/-- Whether the packet is in the queue; otherwise `TransportClosed` is raised. -/
def Daemon.forward_packet_to_board (daemon : Daemon) (packet : Packet) : Daemon × Bool :=
  if !daemon.hid then (daemon,false)
  else
    match daemon.put_nowait (some packet) with
    | some queued => ({ queued with log := queued.log ++ [.queued daemon.focused_sid packet] },true)
    | none => (daemon.mark_hidraw_unavailable,false)

/-- Forwards packets one after another, until one of them raises. -/
def Daemon.forward_all (daemon : Daemon) : List Packet → Daemon
  | [] => daemon
  | packet :: rest =>
    match daemon.forward_packet_to_board packet with
    | (daemon,true) => daemon.forward_all rest
    | (daemon,false) => daemon

/-! ## Screens -/

def Daemon.on_hid_screen_write (daemon : Daemon) (sid : Nat) (data : List UInt8) : Daemon :=
  if daemon.focused_sid = none ∨ daemon.focused_sid ≠ some sid then daemon
  else if !daemon.hid then daemon
  else daemon.forward_all (stream_iter_packets sid data)

def Daemon.on_screen_write (daemon : Daemon) (_sid : Nat) (data : List UInt8) : Daemon :=
  { daemon with log := daemon.log ++ [.screen data] }

/-- A call of the router's screen sink. -/
def Daemon.screen_sink (daemon : Daemon) : ScreenCall → Daemon
  | none => daemon
  | some (sid,data) => if daemon.hid_sink then daemon.on_hid_screen_write sid data else daemon.on_screen_write sid data

/-! ## Sessions -/

/-- The invalidation callback. -/
def Daemon.on_session_invalidate (daemon : Daemon) (sid : Nat) (status : Status) : Daemon :=
  let r := daemon.router.unregister sid
  let daemon := { daemon with router := r.1 }.screen_sink r.2
  let owner := daemon.owners.get sid
  let daemon := { daemon with owners := daemon.owners.pop sid }
  let daemon := match owner with
    | some owner => daemon.send owner (make_session_invalid sid status)
    | none => daemon
  if daemon.focused_sid = some sid then { daemon with focused_sid := none } else daemon

/-- Runs the callback on what the session manager told it. -/
def Daemon.on_session_invalidates (daemon : Daemon) (told : List (Nat × Status)) : Daemon :=
  told.foldl (fun daemon t => daemon.on_session_invalidate t.1 t.2) daemon

/-- `sessions.invalidate` -/
def Daemon.invalidate (daemon : Daemon) (sid : Nat) (status : Status) : Daemon :=
  let o := daemon.sessions.invalidate sid status
  { daemon with sessions := o.manager }.on_session_invalidates o.told

def Daemon.validate_session (daemon : Daemon) (packet : Packet) (client : Client) : Daemon × Bool :=
  match daemon.sessions.get packet.session_id with
  | none => (daemon.send client (make_session_invalid packet.session_id .INVALID),false)
  | some _ =>
    if daemon.owners.get packet.session_id ≠ some client then
      ({ daemon with owners := daemon.owners.set packet.session_id client },true)
    else (daemon,true)

def Daemon.sessions_owned_by (daemon : Daemon) (client : Client) (except_sid : Nat) : List Nat :=
  (daemon.owners.items.filter (fun e => e.2 = client ∧ e.1 ≠ except_sid)).map Prod.fst

def status_from_payload (payload : List UInt8) (default : Status) : Status :=
  match payload with
  | [] => default
  | byte :: _ => (Status.of_byte byte).getD default

/-! ## Packets of the clients -/

/-- `str.decode(...) or "unknown"` -/
def plugin_hint (payload : List UInt8) : List UInt8 := if payload.isEmpty then as_bytes "unknown" else payload

def Daemon.handle_request_session (daemon : Daemon) (_packet : Packet) (client : Client) (clock : Clock) : Daemon :=
  let o := daemon.sessions.request_session clock.reaped clock.now
  let daemon := { daemon with sessions := o.manager }.on_session_invalidates o.told
  match o.result with
  | none => daemon
  | some (sid,status,evicted) =>
    if status = .POOL_FULL then daemon.send client (make_session_invalid SESSION_BROADCAST .POOL_FULL)
    else
      let daemon := { daemon with owners := (evicted.foldl Dict.pop daemon.owners).set sid client }
      let daemon := { daemon with router := daemon.router.register sid }
      daemon.send client (make_session_response sid status)

def Daemon.touch (daemon : Daemon) (sid : Nat) (now : Int) : Daemon :=
  { daemon with sessions := daemon.sessions.touch sid now }

def Daemon.handle_vt100 (daemon : Daemon) (packet : Packet) (client : Client) (clock : Clock) : Daemon :=
  match daemon.validate_session packet client with
  | (daemon,false) => daemon
  | (daemon,true) =>
    let daemon := daemon.touch packet.session_id clock.now
    let r := daemon.router.append packet.session_id packet.payload
    { daemon with router := r.1 }.screen_sink r.2

def Daemon.handle_status_update (daemon : Daemon) (packet : Packet) (client : Client) (clock : Clock) : Daemon :=
  match daemon.validate_session packet client with
  | (daemon,false) => daemon
  | (daemon,true) =>
    match daemon.sessions.get packet.session_id with
    | none => daemon
    | some _ => daemon.touch packet.session_id clock.now

def Daemon.drop_pending_session (daemon : Daemon) (client : Client) (hint : List UInt8) : Daemon :=
  { daemon with pending_sessions := daemon.pending_sessions.erase (client,hint) }

def Daemon.forward_session_request_to_board (daemon : Daemon) (packet : Packet) (client : Client) : Daemon :=
  let hint := plugin_hint packet.payload
  let daemon := { daemon with pending_sessions := daemon.pending_sessions ++ [(client,hint)] }
  match daemon.forward_packet_to_board packet with
  | (daemon,true) => daemon
  | (daemon,false) =>
    (daemon.drop_pending_session client hint).send client (make_session_invalid SESSION_BROADCAST .INVALID)

def Daemon.handle_plugin_packet_real (daemon : Daemon) (packet : Packet) (client : Client) (cmd : Cmd) (clock : Clock) :
    Daemon :=
  match cmd with
  | .REQUEST_SESSION => daemon.forward_session_request_to_board packet client
  | .VT100_STREAM => daemon.handle_vt100 packet client clock
  | .STATUS_UPDATE =>
    let daemon := daemon.handle_status_update packet client clock
    match daemon.sessions.get packet.session_id with
    | some _ => (daemon.forward_packet_to_board packet).1
    | none => daemon
  | .WINDOW_ACTIVATE => daemon
  | .WINDOW_SWITCH => daemon
  | _ =>
    if packet.session_id ≠ SESSION_BROADCAST then
      match daemon.validate_session packet client with
      | (daemon,false) => daemon
      | (daemon,true) => (daemon.forward_packet_to_board packet).1
    else (daemon.forward_packet_to_board packet).1

def Daemon.handle_packet (daemon : Daemon) (packet : Packet) (client : Client) (clock : Clock) : Daemon :=
  match Cmd.of_value packet.command with
  | none => daemon.send client
      (make_error packet.session_id s!"unknown cmd 0x{format_02x (UInt8.ofNat packet.command)}")
  | some cmd =>
    if daemon.hid then daemon.handle_plugin_packet_real packet client cmd clock
    else
      match cmd with
      | .REQUEST_SESSION => daemon.handle_request_session packet client clock
      | .VT100_STREAM => daemon.handle_vt100 packet client clock
      | .STATUS_UPDATE => daemon.handle_status_update packet client clock
      | _ => daemon

/-- `_handle_client_disconnect`: which sids the client owns is read before any of them is released. -/
def Daemon.handle_client_disconnect (daemon : Daemon) (client : Client) : Daemon :=
  let released := (daemon.owners.items.filter (fun e => e.2 = client)).map Prod.fst
  released.foldl (fun daemon sid => daemon.invalidate sid .EXPIRED) daemon

/-- The end of `_client_loop`. -/
def Daemon.disconnect (daemon : Daemon) (client : Client) : Daemon :=
  { daemon with clients := daemon.clients.filter (fun other => other ≠ client) }.handle_client_disconnect client

/-! ## Packets of the board -/

def Daemon.handle_hid_session_response (daemon : Daemon) (packet : Packet) (clock : Clock) : Daemon :=
  match daemon.pending_sessions with
  | [] => daemon
  | (client,_) :: waiting =>
    let daemon := { daemon with pending_sessions := waiting }
    let status := status_from_payload packet.payload .OK
    if (status = .OK ∨ status = .CREATED) ∧ packet.session_id ≠ SESSION_BROADCAST then
      let o := daemon.sessions.adopt_session packet.session_id clock.reaped clock.now
      let daemon := { daemon with sessions := o.manager }.on_session_invalidates o.told
      let sid := o.result.1
      let local_status := o.result.2.1
      if (local_status = .CREATED ∨ local_status = .OK) ∧ sid = packet.session_id then
        let old_sids := daemon.sessions_owned_by client sid
        let daemon := { daemon with owners := (old_sids.foldl Dict.pop daemon.owners).set sid client }
        let daemon := { daemon with router := daemon.router.register sid }
        let daemon := old_sids.foldl (fun daemon old_sid => daemon.invalidate old_sid .RECLAIMED) daemon
        daemon.send client packet
      else daemon.send client (make_session_invalid packet.session_id local_status)
    else
      let reject_status := if status ≠ .OK ∧ status ≠ .CREATED then status else .INVALID
      daemon.send client (make_session_invalid packet.session_id reject_status)

def Daemon.handle_hid_session_invalid (daemon : Daemon) (packet : Packet) : Daemon :=
  let status := status_from_payload packet.payload .INVALID
  if packet.session_id = SESSION_BROADCAST then
    match daemon.pending_sessions with
    | (client,_) :: waiting => { daemon with pending_sessions := waiting }.send client packet
    | [] => daemon.broadcast packet
  else daemon.invalidate packet.session_id status

def Daemon.set_active (daemon : Daemon) (sid : Option Nat) : Daemon :=
  let r := daemon.router.set_active sid
  { daemon with router := r.1 }.screen_sink r.2.2

def Daemon.handle_hid_session_focus (daemon : Daemon) (packet : Packet) (clock : Clock) : Daemon :=
  let sid := packet.session_id
  if sid = SESSION_BROADCAST then { daemon with focused_sid := none }.set_active none
  else
    match daemon.sessions.get sid with
    | none => daemon
    | some _ => ({ daemon with focused_sid := some sid }.touch sid clock.now).set_active (some sid)

/-- `_route_board_packet`, and `_route_board_input_to_session` for another sid than 0. -/
def Daemon.route_to_owner (daemon : Daemon) (packet : Packet) : Daemon :=
  match daemon.owners.get packet.session_id with
  | some owner => daemon.send owner packet
  | none => daemon

def Daemon.route_board_packet (daemon : Daemon) (packet : Packet) : Daemon :=
  if packet.session_id = SESSION_BROADCAST then daemon.broadcast packet else daemon.route_to_owner packet

def Daemon.route_board_input_to_session (daemon : Daemon) (packet : Packet) : Daemon :=
  if packet.session_id = SESSION_BROADCAST then daemon else daemon.route_to_owner packet

def Daemon.handle_hid_key_event (daemon : Daemon) (packet : Packet) : Daemon :=
  if key_event_decodes packet.payload then daemon.route_board_input_to_session packet else daemon

def Daemon.handle_hid_encoder_event (daemon : Daemon) (packet : Packet) : Daemon :=
  if encoder_delta_decodes packet.payload then daemon.route_board_input_to_session packet else daemon

def Daemon.handle_hid_packet (daemon : Daemon) (packet : Packet) (clock : Clock) : Daemon :=
  match Cmd.of_value packet.command with
  | none => daemon
  | some .SESSION_RESPONSE => daemon.handle_hid_session_response packet clock
  | some .SESSION_INVALID => daemon.handle_hid_session_invalid packet
  | some .SESSION_FOCUS => daemon.handle_hid_session_focus packet clock
  | some .KEY_EVENT => daemon.handle_hid_key_event packet
  | some .ENCODER_EVENT => daemon.handle_hid_encoder_event packet
  | some _ => daemon.route_board_packet packet

/-! ## Threads -/

/-- A turn of `_reap_loop`. -/
def Daemon.reap (daemon : Daemon) (now : Int) : Daemon :=
  let o := daemon.sessions.reap_expired now
  { daemon with sessions := o.manager }.on_session_invalidates o.told

/-- A turn of `_heartbeat_loop`. -/
def Daemon.heartbeat (daemon : Daemon) : Daemon :=
  if !daemon.hid then daemon else daemon.forward_all (daemon.sessions.all_sids.map make_session_heartbeat)

/-- A turn of `_hid_writer_loop` that finds an item in the queue; `writes` tells whether the device takes the report. -/
def Daemon.write_next (daemon : Daemon) (writes : Bool) : Daemon :=
  match daemon.hid_tx_queue with
  | [] => daemon
  | none :: rest => { daemon with hid_tx_queue := rest, writing := false }
  | some packet :: rest =>
    let daemon := { daemon with hid_tx_queue := rest }
    if !daemon.hid then daemon
    else
      match packet.report with
      | .error _ => daemon
      | .ok _ =>
        if writes then { daemon with log := daemon.log ++ [.written packet] }
        else { daemon.mark_hidraw_unavailable with writing := false }

end VibeBridge.Python
