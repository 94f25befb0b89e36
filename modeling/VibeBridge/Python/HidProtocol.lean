import VibeBridge.Payloads

/-!
The packets of the Python host (`hid_protocol.py`). Numbers are natural numbers,
as they are unbounded in the source; encoding checks that they fit.
-/
namespace VibeBridge.Python
open VibeBridge.Text VibeBridge.Payloads

def HEADER_SIZE : Nat := 6
def MAX_HID_REPORT_SIZE : Nat := 64
def MAX_PAYLOAD_PER_FRAME : Nat := MAX_HID_REPORT_SIZE - HEADER_SIZE
def SESSION_BROADCAST : Nat := 0

inductive ReportId
  | HOST_BOUND
  | DEVICE_BOUND
  | ACK
  | FEATURE

def ReportId.value : ReportId → Nat
  | .HOST_BOUND => 0x10
  | .DEVICE_BOUND => 0x20
  | .ACK => 0x21
  | .FEATURE => 0x30

inductive Cmd
  | REQUEST_SESSION
  | SESSION_RESPONSE
  | SESSION_INVALID
  | SESSION_HEARTBEAT
  | SESSION_FOCUS
  | KEY_EVENT
  | ENCODER_EVENT
  | WINDOW_SWITCH
  | WINDOW_ACTIVATE
  | VT100_STREAM
  | UI_SCALE_CHANGE
  | STATUS_UPDATE
  | FEEDBACK_EVENT
  | ERROR
  deriving DecidableEq

def Cmd.value : Cmd → Nat
  | .REQUEST_SESSION => 0x01
  | .SESSION_RESPONSE => 0x02
  | .SESSION_INVALID => 0x03
  | .SESSION_HEARTBEAT => 0x04
  | .SESSION_FOCUS => 0x05
  | .KEY_EVENT => 0x10
  | .ENCODER_EVENT => 0x11
  | .WINDOW_SWITCH => 0x20
  | .WINDOW_ACTIVATE => 0x21
  | .VT100_STREAM => 0x30
  | .UI_SCALE_CHANGE => 0x40
  | .STATUS_UPDATE => 0x50
  | .FEEDBACK_EVENT => 0x60
  | .ERROR => 0xFF

/-- `Cmd(value)`, which raises `ValueError` on a value that is no command. -/
def Cmd.of_value (value : Nat) : Option Cmd :=
  [Cmd.REQUEST_SESSION, .SESSION_RESPONSE, .SESSION_INVALID, .SESSION_HEARTBEAT, .SESSION_FOCUS, .KEY_EVENT,
    .ENCODER_EVENT, .WINDOW_SWITCH, .WINDOW_ACTIVATE, .VT100_STREAM, .UI_SCALE_CHANGE, .STATUS_UPDATE,
    .FEEDBACK_EVENT, .ERROR].find? (fun cmd => cmd.value = value)

theorem of_value_iff {value : Nat} {cmd : Cmd} : Cmd.of_value value = some cmd ↔ value = cmd.value := by
  constructor
  · intro found
    rw [Cmd.of_value] at found
    have same := List.find?_some found
    exact (of_decide_eq_true same).symm
  · rintro rfl
    cases cmd <;> rfl

inductive Status
  | OK
  | CREATED
  | INVALID
  | EXPIRED
  | POOL_FULL
  | RECLAIMED
  | DISCONNECTED
  deriving DecidableEq

def Status.byte : Status → UInt8
  | .OK => 0x00
  | .CREATED => 0x01
  | .INVALID => 0x02
  | .EXPIRED => 0x03
  | .POOL_FULL => 0x04
  | .RECLAIMED => 0x05
  | .DISCONNECTED => 0x06

/-- `Status(value)` on a byte. -/
def Status.of_byte (byte : UInt8) : Option Status :=
  [Status.OK, .CREATED, .INVALID, .EXPIRED, .POOL_FULL, .RECLAIMED, .DISCONNECTED].find?
    (fun status => status.byte = byte)

structure Packet where
  report_id : Nat
  command : Nat
  session_id : Nat
  payload : List UInt8
  deriving DecidableEq

/-- A frame can hold the packet. -/
def Packet.Framed (packet : Packet) : Prop := packet.session_id ≤ 0xFFFF ∧ packet.payload.length ≤ 0xFFFF

instance (packet : Packet) : Decidable packet.Framed := inferInstanceAs (Decidable (_ ∧ _))

/-- `Packet.encode`, or the text of its `ProtocolError`. -/
def Packet.encode (packet : Packet) : Except String (List UInt8) :=
  if packet.session_id > 0xFFFF then .error s!"session_id out of range: {packet.session_id}"
  else if packet.payload.length > 0xFFFF then .error s!"payload too long: {packet.payload.length}"
  else
    .ok (to_le_bytes 1 packet.report_id ++ to_le_bytes 1 packet.command ++ to_le_bytes 2 packet.session_id ++
      to_le_bytes 2 packet.payload.length ++ packet.payload)

/-- What `HidrawTransport.send_packet` writes to the device, or the text of its `ProtocolError`. -/
def Packet.report (packet : Packet) : Except String (List UInt8) := do
  let raw ← packet.encode
  if raw.length > MAX_HID_REPORT_SIZE then
    .error (s!"packet too large for HID report: {raw.length} > {MAX_HID_REPORT_SIZE} " ++
      "(caller must fragment via stream_iter_packets / fragment_payload)")
  else return raw ++ List.replicate (MAX_HID_REPORT_SIZE - raw.length) 0

theorem encode_framed {packet : Packet} (framed : packet.Framed) :
    packet.encode = .ok (to_le_bytes 1 packet.report_id ++ to_le_bytes 1 packet.command ++
      to_le_bytes 2 packet.session_id ++ to_le_bytes 2 packet.payload.length ++ packet.payload) := by
  obtain ⟨sid,length⟩ := framed
  rw [Packet.encode,if_neg (by omega),if_neg (by omega)]

/-- A packet that no frame can hold is not encoded. -/
theorem encode_unframed {packet : Packet} (unframed : ¬ packet.Framed) : ∃ text, packet.encode = .error text := by
  by_cases sid : packet.session_id > 0xFFFF
  · exact ⟨_,by rw [Packet.encode,if_pos sid]⟩
  · have length : packet.payload.length > 0xFFFF := by
      rw [Packet.Framed,not_and_or] at unframed
      omega
    exact ⟨_,by rw [Packet.encode,if_neg sid,if_pos length]⟩

theorem encode_size {packet : Packet} {raw : List UInt8} (encoded : packet.encode = .ok raw) :
    raw.length = HEADER_SIZE + packet.payload.length := by
  by_cases framed : packet.Framed
  · rw [encode_framed framed] at encoded
    cases encoded
    simp only [List.length_append,to_le_bytes_length,HEADER_SIZE]
  · obtain ⟨text,failed⟩ := encode_unframed framed
    rw [failed] at encoded
    cases encoded

/-- The report of a packet is its frame with zeros behind it. -/
theorem report_of_encode {packet : Packet} {raw : List UInt8} (encoded : packet.encode = .ok raw)
    (fits : packet.payload.length ≤ MAX_PAYLOAD_PER_FRAME) :
    packet.report = .ok (raw ++ List.replicate (MAX_PAYLOAD_PER_FRAME - packet.payload.length) 0) := by
  have size := encode_size encoded
  simp only [MAX_PAYLOAD_PER_FRAME,MAX_HID_REPORT_SIZE,HEADER_SIZE] at fits size ⊢
  have small : ¬ raw.length > MAX_HID_REPORT_SIZE := by simp only [MAX_HID_REPORT_SIZE]; omega
  have zeros : MAX_HID_REPORT_SIZE - raw.length = 64 - 6 - packet.payload.length := by
    simp only [MAX_HID_REPORT_SIZE]
    omega
  simp only [Packet.report,encoded,bind,Except.bind,if_neg small,zeros,pure,Except.pure]

theorem report_of_large {packet : Packet} (large : MAX_PAYLOAD_PER_FRAME < packet.payload.length) :
    ∃ text, packet.report = .error text := by
  cases encoded : packet.encode with
  | error text => exact ⟨text,by simp only [Packet.report,encoded,bind,Except.bind]⟩
  | ok raw =>
    have size := encode_size encoded
    simp only [MAX_PAYLOAD_PER_FRAME,MAX_HID_REPORT_SIZE,HEADER_SIZE] at large size
    have exceeds : raw.length > MAX_HID_REPORT_SIZE := by simp only [MAX_HID_REPORT_SIZE]; omega
    exact ⟨_,by simp only [Packet.report,encoded,bind,Except.bind,if_pos exceeds]; rfl⟩

/-- A packet of a frame fits a report exactly when its payload does. -/
theorem report_fits {packet : Packet} (framed : packet.Framed) :
    (∃ raw, packet.report = .ok raw) ↔ packet.payload.length ≤ MAX_PAYLOAD_PER_FRAME := by
  constructor
  · rintro ⟨raw,report⟩
    by_contra large
    obtain ⟨text,failed⟩ := report_of_large (Nat.lt_of_not_le large)
    rw [failed] at report
    cases report
  · intro fits
    exact ⟨_,report_of_encode (encode_framed framed) fits⟩

/-- `decode_key_event_payload` raises no `ProtocolError`. -/
def key_event_decodes (payload : List UInt8) : Bool := payload.length ≥ 2

/-- `decode_encoder_delta_payload` raises no `ProtocolError`. -/
def encoder_delta_decodes (payload : List UInt8) : Bool := payload.length ≥ 1

/-- The state of a session, as the board shows it. -/
inductive SessionState
  | CONNECTED | DISCONNECTED | RUN | WAIT | DONE | ERROR
  deriving DecidableEq

def SessionState.byte : SessionState → UInt8
  | .CONNECTED => 0x00
  | .DISCONNECTED => 0x01
  | .RUN => 0x02
  | .WAIT => 0x03
  | .DONE => 0x04
  | .ERROR => 0x05

/-! ## Packets made by the host -/

def make_request_session (hint : List UInt8) : Packet :=
  ⟨ReportId.DEVICE_BOUND.value, Cmd.REQUEST_SESSION.value, SESSION_BROADCAST, hint⟩

def make_session_response (session_id : Nat) (status : Status) : Packet :=
  ⟨ReportId.HOST_BOUND.value, Cmd.SESSION_RESPONSE.value, session_id, [status.byte]⟩

def make_session_invalid (session_id : Nat) (status : Status) : Packet :=
  ⟨ReportId.HOST_BOUND.value, Cmd.SESSION_INVALID.value, session_id, [status.byte]⟩

/-- An invalidation is no grant. -/
theorem invalid_no_response (session_id : Nat) (status : Status) :
    (make_session_invalid session_id status).command ≠ Cmd.SESSION_RESPONSE.value :=
  show Cmd.SESSION_INVALID.value ≠ Cmd.SESSION_RESPONSE.value by decide

def make_session_heartbeat (session_id : Nat) : Packet :=
  ⟨ReportId.DEVICE_BOUND.value, Cmd.SESSION_HEARTBEAT.value, session_id, []⟩

def make_session_focus (session_id : Nat) : Packet :=
  ⟨ReportId.HOST_BOUND.value, Cmd.SESSION_FOCUS.value, session_id, []⟩

def make_status_update (session_id : Nat) (state : SessionState) : Packet :=
  ⟨ReportId.DEVICE_BOUND.value, Cmd.STATUS_UPDATE.value, session_id, [state.byte]⟩

def make_vt100_chunk (session_id : Nat) (chunk : List UInt8) : Packet :=
  ⟨ReportId.DEVICE_BOUND.value, Cmd.VT100_STREAM.value, session_id, chunk⟩

def make_error (session_id : Nat) (message : String) : Packet :=
  ⟨ReportId.HOST_BOUND.value, Cmd.ERROR.value, session_id, (as_bytes message).take MAX_PAYLOAD_PER_FRAME⟩

/-- A payload as the chunks that fit a report; an empty payload is one empty chunk. -/
def fragment_payload (payload : List UInt8) : List (List UInt8) :=
  if payload.isEmpty then [[]] else Protocol.chunks MAX_PAYLOAD_PER_FRAME payload

def stream_iter_packets (session_id : Nat) (payload : List UInt8) : List Packet :=
  (fragment_payload payload).map (make_vt100_chunk session_id)

/-- The fragments put together are the payload. -/
theorem fragments_flatten (payload : List UInt8) : (fragment_payload payload).flatten = payload := by
  unfold fragment_payload
  split
  · rename_i empty
    rw [List.isEmpty_iff.mp empty]
    rfl
  · exact Protocol.chunks_flatten (by decide) payload

/-- The fragments of a payload with bytes have bytes. -/
theorem fragments_ne_nil {payload : List UInt8} (bytes : payload ≠ []) {chunk : List UInt8}
    (fragment : chunk ∈ fragment_payload payload) : chunk ≠ [] := by
  rintro rfl
  rw [fragment_payload,if_neg (by simpa using bytes)] at fragment
  exact Protocol.chunksFrom_ne_nil (by decide) _ _ fragment

end VibeBridge.Python
