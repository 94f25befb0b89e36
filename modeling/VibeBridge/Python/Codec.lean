import VibeBridge.Codec
import VibeBridge.Python.HidProtocol

/-!
The frames of the Python host on the wire (`Packet.decode` and the reports of
`HidrawTransport`), and that the Rust daemon writes and reads the same ones.
-/
namespace VibeBridge.Python
open VibeBridge.Text VibeBridge.Payloads VibeBridge.Protocol

/-- `Packet.decode`, or the text of its `ProtocolError`. -/
def Packet.decode (buf : List UInt8) : Except String Packet :=
  if buf.length < HEADER_SIZE then .error s!"buffer shorter than header: {buf.length} < {HEADER_SIZE}"
  else
    let plen := from_le_bytes ((buf.drop 4).take 2)
    let payload := (buf.drop HEADER_SIZE).take plen
    if payload.length ≠ plen then .error s!"payload truncated: declared {plen}, got {payload.length}"
    else
      .ok ⟨from_le_bytes (buf.take 1), from_le_bytes ((buf.drop 1).take 1), from_le_bytes ((buf.drop 2).take 2), payload⟩

/-- What `HidrawTransport.recv_packet` makes of a report it has read. -/
def recv_packet (data : List UInt8) : Except String Packet :=
  if data.length < HEADER_SIZE then
    .error s!"hidraw read shorter than packet header: {data.length} < {HEADER_SIZE}"
  else Packet.decode data

/-- A frame of the daemon as a packet. -/
def packet_of (frame : HidFrame) : Packet :=
  ⟨frame.report_id.toNat, frame.cmd.byte.toNat, frame.sid.toNat, frame.payload⟩

theorem byte_field (byte : UInt8) : to_le_bytes 1 byte.toNat = [byte] := by
  have low := byte.toNat_lt
  rw [to_le_bytes,to_le_bytes,Nat.mod_eq_of_lt (by omega),UInt8.ofNat_toNat]

theorem packet_framed {frame : HidFrame} (length : frame.payload.length ≤ 0xFFFF) : (packet_of frame).Framed := by
  have sid := frame.sid.toNat_lt
  exact ⟨by simp only [packet_of]; omega,length⟩

/-! ## Writing -/

/-- A frame that fits a report is the same report on both sides. -/
theorem same_report (frame : HidFrame) (fits : frame.payload.length ≤ HID_MAX_PAYLOAD) :
    ∃ report, frame.encode = .ok report ∧ (packet_of frame).report = .ok report := by
  have framed : (packet_of frame).Framed := by
    refine packet_framed ?_
    simp only [HID_MAX_PAYLOAD,HID_REPORT_LEN,HID_HEADER_SIZE] at fits
    omega
  refine ⟨_,encode_of_fits fits,?_⟩
  rw [report_of_encode (encode_framed framed) fits]
  simp only [packet_of,byte_field]
  rfl

theorem same_fragments (cmd : Protocol.Cmd) (sid : UInt16) (payload : List UInt8) :
    (split_host_to_board cmd sid payload).map (·.payload) = fragment_payload payload :=
  split_payloads cmd sid payload

theorem same_stream (sid : UInt16) (payload : List UInt8) :
    (split_host_to_board .Vt100Stream sid payload).map packet_of = stream_iter_packets sid.toNat payload := by
  rw [stream_iter_packets,← same_fragments .Vt100Stream sid payload,List.map_map]
  apply List.map_congr_left
  intro frame mem
  obtain ⟨report_id,cmd,same_sid,fits⟩ := split_frames mem
  simp only [packet_of,report_id,cmd,same_sid,Function.comp_apply,make_vt100_chunk]
  rfl

/-! ## Reading -/

/-- Decoding, on the fields of the header and the rest. -/
theorem packet_decode (report_id command : UInt8) {sid length : List UInt8} (sid_size : sid.length = 2)
    (length_size : length.length = 2) (body : List UInt8) :
    Packet.decode ([report_id, command] ++ sid ++ length ++ body) =
      if body.length < from_le_bytes length then
        .error s!"payload truncated: declared {from_le_bytes length}, got {body.length}"
      else .ok ⟨report_id.toNat, command.toNat, from_le_bytes sid, body.take (from_le_bytes length)⟩ := by
  obtain ⟨sid_low,sid_high,rfl⟩ := List.length_eq_two.mp sid_size
  obtain ⟨length_low,length_high,rfl⟩ := List.length_eq_two.mp length_size
  let buf : List UInt8 := [report_id, command] ++ [sid_low, sid_high] ++ [length_low, length_high] ++ body
  have size : ¬ buf.length < HEADER_SIZE := by simp [buf,HEADER_SIZE]
  have plen : (buf.drop 4).take 2 = [length_low, length_high] := rfl
  have rest : buf.drop HEADER_SIZE = body := rfl
  have first : from_le_bytes (buf.take 1) = report_id.toNat := rfl
  have second : from_le_bytes ((buf.drop 1).take 1) = command.toNat := rfl
  have third : (buf.drop 2).take 2 = [sid_low, sid_high] := rfl
  show Packet.decode buf = _
  rw [Packet.decode,if_neg size]
  simp only [plen,rest,first,second,third,List.length_take]
  by_cases truncated : body.length < from_le_bytes [length_low, length_high]
  · rw [if_pos truncated,Nat.min_eq_right (by omega),if_pos (by omega)]
  · rw [if_neg truncated,Nat.min_eq_left (by omega),if_neg (by simp)]

theorem same_fields {data : List UInt8} (long : HEADER_SIZE ≤ data.length) {cmd : Protocol.Cmd}
    (known : Protocol.Cmd.from_u8 (data.getD 1 0) = some cmd) :
    (∃ error text, HidFrame.decode data = .error error ∧ Packet.decode data = .error text) ∨
      ∃ frame, HidFrame.decode data = .ok frame ∧ Packet.decode data = .ok (packet_of frame) := by
  obtain ⟨report_id,command,sid,length,body,rfl,sid_size,length_size⟩ := header_split long
  replace known : Protocol.Cmd.from_u8 command = some cmd := known
  rw [decode_known known report_id sid_size length_size body,
    packet_decode report_id command sid_size length_size body]
  by_cases truncated : body.length < from_le_bytes length
  · exact .inl ⟨_,_,if_pos truncated,if_pos truncated⟩
  · refine .inr ⟨_,if_neg truncated,?_⟩
    have bound := from_le_bytes_bound sid
    rw [sid_size] at bound
    have sid_word : (UInt16.ofNat (from_le_bytes sid)).toNat = from_le_bytes sid := by
      rw [UInt16.toNat_ofNat']
      exact Nat.mod_eq_of_lt bound
    rw [if_neg truncated,packet_of,sid_word,← from_u8_eq_some.mp known]

/-- The codecs of the daemon and of the Python host are one protocol: they cut a
    payload into the same pieces, write the same reports and reject the same
    payloads, and read the same fields from a report. -/
theorem one_wire_protocol :
    (∀ (cmd : Protocol.Cmd) (sid : UInt16) (payload : List UInt8),
        (split_host_to_board cmd sid payload).map (·.payload) = fragment_payload payload) ∧
      (∀ (sid : UInt16) (payload : List UInt8),
        (split_host_to_board .Vt100Stream sid payload).map packet_of = stream_iter_packets sid.toNat payload) ∧
      (∀ (report_id : UInt8) (cmd : Protocol.Cmd) (sid : UInt16) (payload : List UInt8),
        payload.length ≤ HID_MAX_PAYLOAD →
          ∃ report, HidFrame.encode ⟨report_id, cmd, sid, payload⟩ = .ok report ∧
            Packet.report ⟨report_id.toNat, cmd.byte.toNat, sid.toNat, payload⟩ = .ok report) ∧
      (∀ (report_id : UInt8) (cmd : Protocol.Cmd) (sid : UInt16) (payload : List UInt8),
        HID_MAX_PAYLOAD < payload.length →
          (∃ error, HidFrame.encode ⟨report_id, cmd, sid, payload⟩ = .error error) ∧
            ∃ text, Packet.report ⟨report_id.toNat, cmd.byte.toNat, sid.toNat, payload⟩ = .error text) ∧
      ∀ (data : List UInt8) (cmd : Protocol.Cmd), data.length = HID_REPORT_LEN →
        Protocol.Cmd.from_u8 (data.getD 1 0) = some cmd →
          (∃ error text, HidFrame.decode data = .error error ∧ recv_packet data = .error text) ∨
            ∃ frame, HidFrame.decode data = .ok frame ∧
              recv_packet data = .ok ⟨frame.report_id.toNat, frame.cmd.byte.toNat, frame.sid.toNat, frame.payload⟩ := by
  refine ⟨same_fragments,same_stream,?_,?_,?_⟩
  · intro report_id cmd sid payload fits
    exact same_report ⟨report_id,cmd,sid,payload⟩ fits
  · intro report_id cmd sid payload large
    exact ⟨⟨_,encode_of_large large⟩,report_of_large large⟩
  · intro data cmd size known
    have long : HEADER_SIZE ≤ data.length := by rw [size]; decide
    rw [recv_packet,if_neg (by omega)]
    exact same_fields long known

end VibeBridge.Python
