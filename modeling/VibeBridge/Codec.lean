import VibeBridge.Payloads

/-!
The frames of the board protocol on the wire (`vb_protocol::codec`): one report
is a header of six bytes, the payload and zeros up to the length of a report.
-/
namespace VibeBridge.Protocol
open VibeBridge.Text VibeBridge.Payloads

/-! ## Commands -/

/-- The command byte (`cmd as u8`). -/
def Cmd.byte : Cmd → UInt8
  | .RequestSession => 0x01
  | .SessionResponse => 0x02
  | .SessionInvalid => 0x03
  | .SessionHeartbeat => 0x04
  | .SessionFocus => 0x05
  | .KeyEvent => 0x10
  | .EncoderEvent => 0x11
  | .PermissionRes => 0x12
  | .AbortSession => 0x13
  | .SendKey => 0x14
  | .Vt100Stream => 0x30
  | .UiScaleChange => 0x40
  | .StatusUpdate => 0x50
  | .TokenUsage => 0x51
  | .TurnAppend => 0x52
  | .PermissionReq => 0x53
  | .AgentMeta => 0x54
  | .FeedbackEvent => 0x60
  | .Error => 0xFF

def Cmd.from_u8 (value : UInt8) : Option Cmd :=
  match value.toNat with
  | 0x01 => some .RequestSession
  | 0x02 => some .SessionResponse
  | 0x03 => some .SessionInvalid
  | 0x04 => some .SessionHeartbeat
  | 0x05 => some .SessionFocus
  | 0x10 => some .KeyEvent
  | 0x11 => some .EncoderEvent
  | 0x12 => some .PermissionRes
  | 0x13 => some .AbortSession
  | 0x14 => some .SendKey
  | 0x30 => some .Vt100Stream
  | 0x40 => some .UiScaleChange
  | 0x50 => some .StatusUpdate
  | 0x51 => some .TokenUsage
  | 0x52 => some .TurnAppend
  | 0x53 => some .PermissionReq
  | 0x54 => some .AgentMeta
  | 0x60 => some .FeedbackEvent
  | 0xFF => some .Error
  | _ => none

@[simp] theorem from_u8_byte (cmd : Cmd) : Cmd.from_u8 cmd.byte = some cmd := by cases cmd <;> rfl

/-- A byte that is a command is that command's byte. -/
theorem from_u8_eq_some {value : UInt8} {cmd : Cmd} : Cmd.from_u8 value = some cmd ↔ value = cmd.byte := by
  constructor
  · intro known
    rw [← UInt8.toNat_inj]
    rw [Cmd.from_u8] at known
    split at known <;> cases known <;> assumption
  · rintro rfl
    exact from_u8_byte cmd

/-! ## Frames -/

inductive FrameError
  | TooShort
  | PayloadTooLarge
  | UnknownCmd (byte : UInt8)
  | HeaderLenMismatch
  deriving DecidableEq, Repr

def FrameError.display : FrameError → String
  | .TooShort => "frame shorter than HID header"
  | .PayloadTooLarge => s!"payload exceeds HID_MAX_PAYLOAD ({HID_MAX_PAYLOAD})"
  | .UnknownCmd byte => s!"unknown command byte: 0x{format_02x byte}"
  | .HeaderLenMismatch => "header length exceeds frame size"

/-- A frame as one report. -/
def HidFrame.encode (frame : HidFrame) : Except FrameError (List UInt8) :=
  if frame.payload.length > HID_MAX_PAYLOAD then .error .PayloadTooLarge
  else
    .ok ([frame.report_id, frame.cmd.byte] ++ to_le_bytes 2 frame.sid.toNat ++ to_le_bytes 2 frame.payload.length ++
      frame.payload ++ List.replicate (HID_MAX_PAYLOAD - frame.payload.length) 0)

/-- The payload length that the header of a report declares. -/
def declared_length (data : List UInt8) : Nat := from_le_bytes ((data.drop 4).take 2)

def HidFrame.decode (data : List UInt8) : Except FrameError HidFrame :=
  if data.length < HID_HEADER_SIZE then .error .TooShort
  else
    match Cmd.from_u8 (data.getD 1 0) with
    | none => .error (.UnknownCmd (data.getD 1 0))
    | some cmd =>
      if HID_HEADER_SIZE + declared_length data > data.length then .error .HeaderLenMismatch
      else
        .ok ⟨data.getD 0 0, cmd, UInt16.ofNat (from_le_bytes ((data.drop 2).take 2)),
          (data.drop HID_HEADER_SIZE).take (declared_length data)⟩

/-! ## Encoding -/

theorem encode_of_fits {frame : HidFrame} (fits : frame.payload.length ≤ HID_MAX_PAYLOAD) :
    frame.encode = .ok ([frame.report_id, frame.cmd.byte] ++ to_le_bytes 2 frame.sid.toNat ++
      to_le_bytes 2 frame.payload.length ++ frame.payload ++
      List.replicate (HID_MAX_PAYLOAD - frame.payload.length) 0) := by
  rw [HidFrame.encode,if_neg (by omega)]

theorem encode_of_large {frame : HidFrame} (large : HID_MAX_PAYLOAD < frame.payload.length) :
    frame.encode = .error .PayloadTooLarge := by
  rw [HidFrame.encode,if_pos large]

theorem encode_length {frame : HidFrame} {report : List UInt8} (encoded : frame.encode = .ok report) :
    report.length = HID_REPORT_LEN := by
  by_cases fits : frame.payload.length ≤ HID_MAX_PAYLOAD
  · rw [encode_of_fits fits] at encoded
    cases encoded
    simp only [List.length_append,List.length_cons,List.length_nil,to_le_bytes_length,List.length_replicate]
    simp only [HID_MAX_PAYLOAD,HID_REPORT_LEN,HID_HEADER_SIZE] at fits ⊢
    omega
  · rw [encode_of_large (by omega)] at encoded
    cases encoded

/-! ## Decoding -/

theorem decode_unknown {command : UInt8} (unknown : Cmd.from_u8 command = none) (report_id : UInt8)
    {rest : List UInt8} (long : 4 ≤ rest.length) :
    HidFrame.decode (report_id :: command :: rest) = .error (.UnknownCmd command) := by
  have size : ¬ (report_id :: command :: rest).length < HID_HEADER_SIZE := by
    simp only [HID_HEADER_SIZE,List.length_cons]
    omega
  have second : (report_id :: command :: rest).getD 1 0 = command := rfl
  rw [HidFrame.decode,if_neg size,second,unknown]

/-- Decoding a known command, on the fields of the header and the rest. -/
theorem decode_known {command : UInt8} {cmd : Cmd} (known : Cmd.from_u8 command = some cmd) (report_id : UInt8)
    {sid length : List UInt8} (sid_size : sid.length = 2) (length_size : length.length = 2) (body : List UInt8) :
    HidFrame.decode ([report_id, command] ++ sid ++ length ++ body) =
      if body.length < from_le_bytes length then .error .HeaderLenMismatch
      else .ok ⟨report_id, cmd, UInt16.ofNat (from_le_bytes sid), body.take (from_le_bytes length)⟩ := by
  obtain ⟨sid_low,sid_high,rfl⟩ := List.length_eq_two.mp sid_size
  obtain ⟨length_low,length_high,rfl⟩ := List.length_eq_two.mp length_size
  let data : List UInt8 := [report_id, command] ++ [sid_low, sid_high] ++ [length_low, length_high] ++ body
  have size : data.length = HID_HEADER_SIZE + body.length := by simp [data,HID_HEADER_SIZE]; omega
  have second : data.getD 1 0 = command := rfl
  have declared : declared_length data = from_le_bytes [length_low, length_high] := rfl
  show HidFrame.decode data = _
  rw [HidFrame.decode,if_neg (by omega),second,known]
  by_cases truncated : body.length < from_le_bytes [length_low, length_high]
  · rw [if_pos truncated]
    exact if_pos (by rw [size,declared]; omega)
  · rw [if_neg truncated]
    exact if_neg (by rw [size,declared]; omega)

/-- A report that holds a header is its fields and the rest. -/
theorem header_split {data : List UInt8} (long : HID_HEADER_SIZE ≤ data.length) :
    ∃ report_id command sid length body, data = [report_id, command] ++ sid ++ length ++ body ∧
      sid.length = 2 ∧ length.length = 2 := by
  simp only [HID_HEADER_SIZE] at long
  have two : (data.take 2).length = 2 := by simp; omega
  obtain ⟨report_id,command,front⟩ := List.length_eq_two.mp two
  refine ⟨report_id,command,(data.drop 2).take 2,((data.drop 2).drop 2).take 2,((data.drop 2).drop 2).drop 2,?_,?_,?_⟩
  · rw [← front,List.append_assoc,List.append_assoc,List.take_append_drop,List.take_append_drop,
      List.take_append_drop]
  · simp
    omega
  · simp
    omega

theorem declared_of_header (report_id command : UInt8) {sid length : List UInt8} (sid_size : sid.length = 2)
    (length_size : length.length = 2) (body : List UInt8) :
    declared_length ([report_id, command] ++ sid ++ length ++ body) = from_le_bytes length := by
  obtain ⟨sid_low,sid_high,rfl⟩ := List.length_eq_two.mp sid_size
  obtain ⟨length_low,length_high,rfl⟩ := List.length_eq_two.mp length_size
  rfl

/-- What is decoded is what was encoded. -/
theorem decode_encode {frame : HidFrame} (fits : frame.payload.length ≤ HID_MAX_PAYLOAD) :
    ∃ report, frame.encode = .ok report ∧ report.length = HID_REPORT_LEN ∧ HidFrame.decode report = .ok frame := by
  refine ⟨_,encode_of_fits fits,encode_length (encode_of_fits fits),?_⟩
  have sid : from_le_bytes (to_le_bytes 2 frame.sid.toNat) = frame.sid.toNat := by
    have bound := frame.sid.toNat_lt
    rw [from_to_le_bytes,Nat.mod_eq_of_lt (by omega)]
  have length : from_le_bytes (to_le_bytes 2 frame.payload.length) = frame.payload.length := by
    simp only [HID_MAX_PAYLOAD,HID_REPORT_LEN,HID_HEADER_SIZE] at fits
    rw [from_to_le_bytes,Nat.mod_eq_of_lt (by omega)]
  rw [List.append_assoc,decode_known (from_u8_byte _) _ (to_le_bytes_length _ _) (to_le_bytes_length _ _)]
  simp [sid,length]

/-- A report that is accepted is the encoding of its frame, but for the padding. -/
theorem encode_decode {data : List UInt8} {frame : HidFrame} (size : data.length = HID_REPORT_LEN)
    (accepted : HidFrame.decode data = .ok frame) :
    frame.payload.length = declared_length data ∧
      frame.encode = .ok (data.take (HID_HEADER_SIZE + declared_length data) ++
        List.replicate (HID_MAX_PAYLOAD - declared_length data) 0) := by
  obtain ⟨report_id,command,sid,length,body,rfl,sid_size,length_size⟩ := header_split (by rw [size]; decide)
  rw [declared_of_header report_id command sid_size length_size]
  have body_size : body.length = HID_MAX_PAYLOAD := by
    simp only [HID_MAX_PAYLOAD,HID_REPORT_LEN,HID_HEADER_SIZE,List.length_append,List.length_cons,List.length_nil,
      sid_size,length_size] at size ⊢
    omega
  cases known : Cmd.from_u8 command with
  | none =>
    have long : 4 ≤ (sid ++ length ++ body).length := by
      simp only [List.length_append]
      omega
    have rejected := decode_unknown known report_id long
    rw [List.append_assoc,List.append_assoc,List.cons_append,List.cons_append,List.nil_append,
      ← List.append_assoc,rejected] at accepted
    cases accepted
  | some cmd =>
    rw [decode_known known report_id sid_size length_size] at accepted
    by_cases truncated : body.length < from_le_bytes length
    · rw [if_pos truncated] at accepted
      cases accepted
    · rw [if_neg truncated] at accepted
      cases accepted
      have taken : (body.take (from_le_bytes length)).length = from_le_bytes length := by
        rw [List.length_take]
        omega
      have sid_back := to_from_le_bytes sid
      have length_back := to_from_le_bytes length
      have sid_bound := from_le_bytes_bound sid
      rw [sid_size] at sid_back sid_bound
      rw [length_size] at length_back
      have sid_word : (UInt16.ofNat (from_le_bytes sid)).toNat = from_le_bytes sid := by
        rw [UInt16.toNat_ofNat']
        exact Nat.mod_eq_of_lt sid_bound
      refine ⟨taken,?_⟩
      rw [encode_of_fits (by rw [taken]; omega),taken]
      have front : ([report_id, command] ++ sid ++ length).length = HID_HEADER_SIZE := by
        simp [sid_size,length_size,HID_HEADER_SIZE]
      have header : ([report_id, command] ++ sid ++ length).take (HID_HEADER_SIZE + from_le_bytes length) =
          [report_id, command] ++ sid ++ length := List.take_of_length_le (by rw [front]; omega)
      rw [List.take_append,header,front,Nat.add_sub_cancel_left]
      rw [sid_word,sid_back,length_back,← from_u8_eq_some.mp known]

/-! ## Splitting -/

theorem split_length (cmd : Cmd) (sid : UInt16) (payload : List UInt8) :
    (split_host_to_board cmd sid payload).length =
      max 1 ((payload.length + HID_MAX_PAYLOAD - 1) / HID_MAX_PAYLOAD) := by
  rw [split_host_to_board]
  cases payload with
  | nil => rfl
  | cons b bs =>
    have frames : 1 ≤ ((b :: bs).length + HID_MAX_PAYLOAD - 1) / HID_MAX_PAYLOAD := by
      rw [Nat.le_div_iff_mul_le (by decide)]
      simp
    rw [if_neg (by simp),List.length_map,chunks_length (by decide),Nat.max_eq_right frames]

theorem split_payloads (cmd : Cmd) (sid : UInt16) (payload : List UInt8) :
    (split_host_to_board cmd sid payload).map (·.payload) =
      if payload.isEmpty then [[]] else chunks HID_MAX_PAYLOAD payload := by
  rw [split_host_to_board]
  cases payload with
  | nil => rfl
  | cons b bs => simp [Function.comp_def]

theorem split_flatten (cmd : Cmd) (sid : UInt16) (payload : List UInt8) :
    ((split_host_to_board cmd sid payload).map (·.payload)).flatten = payload := by
  rw [split_payloads]
  cases payload with
  | nil => rfl
  | cons b bs => exact chunks_flatten (by decide) (b :: bs)

/-- Every frame is addressed as asked and fits a report. -/
theorem split_frames {cmd : Cmd} {sid : UInt16} {payload : List UInt8} {frame : HidFrame}
    (mem : frame ∈ split_host_to_board cmd sid payload) :
    frame.report_id = REPORT_ID_DEVICE_BOUND ∧ frame.cmd = cmd ∧ frame.sid = sid ∧
      frame.payload.length ≤ HID_MAX_PAYLOAD := by
  cases payload with
  | nil =>
    have only : frame = ⟨REPORT_ID_DEVICE_BOUND, cmd, sid, []⟩ := by simpa [split_host_to_board] using mem
    subst only
    simp
  | cons b bs =>
    rw [split_host_to_board,if_neg (by simp),List.mem_map] at mem
    obtain ⟨chunk,piece,rfl⟩ := mem
    exact ⟨rfl,rfl,rfl,chunks_bound piece⟩

/-- Frames that fit their reports go over the wire and come back. -/
theorem frames_over_the_wire (frames : List HidFrame)
    (fit : ∀ frame ∈ frames, frame.payload.length ≤ HID_MAX_PAYLOAD) :
    ∃ reports, frames.mapM HidFrame.encode = .ok reports ∧ (∀ report ∈ reports, report.length = HID_REPORT_LEN) ∧
      reports.mapM HidFrame.decode = .ok frames := by
  induction frames with
  | nil => exact ⟨[],rfl,by simp,rfl⟩
  | cons frame frames ih =>
    obtain ⟨report,encoded,size,decoded⟩ := decode_encode (fit frame (by simp))
    obtain ⟨reports,all_encoded,sizes,all_decoded⟩ := ih (fun other mem => fit other (by simp [mem]))
    refine ⟨report :: reports,?_,?_,?_⟩
    · rw [List.mapM_cons,encoded,all_encoded]
      rfl
    · intro other mem
      rcases List.mem_cons.mp mem with rfl | mem
      · exact size
      · exact sizes other mem
    · rw [List.mapM_cons,decoded,all_decoded]
      rfl

/-- A payload goes over the wire in as few reports as hold it and comes back
    whole, and a report that is accepted is the encoding of what it is read as,
    but for the bytes after the declared payload. -/
theorem wire_round_trip :
    (∀ (cmd : Cmd) (sid : UInt16) (payload : List UInt8),
      (split_host_to_board cmd sid payload).length =
          max 1 ((payload.length + HID_MAX_PAYLOAD - 1) / HID_MAX_PAYLOAD) ∧
        (∀ frame ∈ split_host_to_board cmd sid payload,
          frame.report_id = REPORT_ID_DEVICE_BOUND ∧ frame.cmd = cmd ∧ frame.sid = sid) ∧
        ∃ reports, (split_host_to_board cmd sid payload).mapM HidFrame.encode = .ok reports ∧
          (∀ report ∈ reports, report.length = HID_REPORT_LEN) ∧
          ∃ frames, reports.mapM HidFrame.decode = .ok frames ∧ frames = split_host_to_board cmd sid payload ∧
            (frames.map (·.payload)).flatten = payload) ∧
      ∀ (data : List UInt8) (frame : HidFrame), data.length = HID_REPORT_LEN → HidFrame.decode data = .ok frame →
        frame.payload.length = declared_length data ∧
          frame.encode = .ok (data.take (HID_HEADER_SIZE + declared_length data) ++
            List.replicate (HID_MAX_PAYLOAD - declared_length data) 0) := by
  constructor
  · intro cmd sid payload
    obtain ⟨reports,encoded,sizes,decoded⟩ := frames_over_the_wire (split_host_to_board cmd sid payload)
      (fun frame mem => (split_frames mem).2.2.2)
    refine ⟨split_length cmd sid payload,?_,reports,encoded,sizes,_,decoded,rfl,split_flatten cmd sid payload⟩
    intro frame mem
    obtain ⟨report_id,same_cmd,same_sid,fits⟩ := split_frames mem
    exact ⟨report_id,same_cmd,same_sid⟩
  · intro data frame size accepted
    exact encode_decode size accepted

end VibeBridge.Protocol
