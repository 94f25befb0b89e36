import VibeBridge.Codec
import VibeBridge.Flushing
import VibeBridge.Text

/-!
The HID transport that opens its device again. A call takes the open device, or
opens it, and tries twice; a call that fails leaves the device closed. What the
system answers, and what the other threads do to the device in between, is given
with each pass of the loop. A report that was written is on the wire; one whose
write failed may be (`send_step`), so that each frame that a flush delivers is on
the wire once or twice, and the one that failed at most twice (`flush_step`).
-/
namespace VibeBridge.Transport
open VibeBridge.Core VibeBridge.Protocol VibeBridge.Daemon VibeBridge.Flushing

/-! ## Devices -/

def VIBE_USB_VID : UInt16 := 0x359f
def VIBE_USB_PID : UInt16 := 0x2120

/-- The error of an overlapped read that was cancelled. -/
def ERROR_OPERATION_ABORTED : UInt32 := 995

abbrev HANDLE := Int

def INVALID_HANDLE_VALUE : HANDLE := -1

def last_error_code (context : String) (code : UInt32) : TransportError :=
  .Io s!"{context} failed with Win32 error {code.toNat}"

structure WinHidDeviceInfo where
  path : String
  vid : Option UInt16
  pid : Option UInt16

structure WinHidTransport where
  handle : HANDLE

def WinHidTransport.is_connected (transport : WinHidTransport) : Bool :=
  transport.handle != 0 && transport.handle != INVALID_HANDLE_VALUE

/-- What the system answers when the device is opened. -/
structure Opening where
  /-- The variable `VIBE_WINHID_DEVICE`. -/
  variable_path : Option String
  devices : Except TransportError (List WinHidDeviceInfo)
  /-- What `CreateFileW` returns for a path. -/
  created : String → HANDLE
  /-- The error if this is no handle. -/
  error : UInt32

def resolve_win_hid_device (system : Opening) : Except TransportError (Option String) :=
  let listed := system.devices.map fun devices =>
    (devices.find? (fun dev => dev.vid == some VIBE_USB_VID && dev.pid == some VIBE_USB_PID)).map (·.path)
  match system.variable_path with
  | some path => if Text.trim path ≠ "" then .ok (some path) else listed
  | none => listed

def WinHidTransport.open (system : Opening) (path : String) : Except TransportError WinHidTransport :=
  if system.created path = INVALID_HANDLE_VALUE then .error (last_error_code "CreateFileW" system.error)
  else .ok ⟨system.created path⟩

def WinHidTransport.open_auto (system : Opening) : Except TransportError WinHidTransport :=
  match resolve_win_hid_device system with
  | .error err => .error err
  | .ok none => .error (.Io "no Vibe HID 359f:2120 device found")
  | .ok (some path) => WinHidTransport.open system path

def open_device (system : Opening) (device : String) : Except TransportError WinHidTransport :=
  if device = "auto" then WinHidTransport.open_auto system else WinHidTransport.open system device

/-! ## One call -/

/-- How an overlapped call of the system ends, at once or after waiting for it. -/
inductive Overlapped (α : Type)
  | no_event (code : UInt32)
  | refused (code : UInt32)
  | timed_out
  | wait_failed (code : UInt32)
  | aborted (code : UInt32)
  | done (value : α)

/-- The result of writing a report, given how `WriteFile` ends and how many bytes it wrote. -/
def write_result (raw : List UInt8) : Overlapped Nat → Except TransportError Unit
  | .no_event code => .error (last_error_code "CreateEventW" code)
  | .refused code => .error (last_error_code "WriteFile" code)
  | .timed_out => .error .Timeout
  | .wait_failed code => .error (last_error_code "WaitForSingleObject" code)
  | .aborted code => .error (last_error_code "GetOverlappedResult" code)
  | .done written =>
    if written ≠ raw.length then .error (.Io s!"short HID write: {written}/{raw.length}") else .ok ()

/-- How a write ends, and whether the report has reached the device although the write failed. -/
structure Write where
  ended : Overlapped Nat
  reached : Bool

/-- The reports that have reached the device. -/
abbrev Wire := List (List UInt8)

def WinHidTransport.send (msg : HidMessage) (_transport : WinHidTransport) (write : Write) (wire : Wire) :
    Wire × Except TransportError Unit :=
  match HidFrame.encode ⟨REPORT_ID_DEVICE_BOUND, msg.cmd, msg.sid, msg.payload⟩ with
  | .error err => (wire, .error (.Decode err.display))
  | .ok raw =>
    match write_result raw write.ended with
    | .ok () => (wire ++ [raw], .ok ())
    | .error err => (if write.reached then wire ++ [raw] else wire, .error err)

/-- `recv_timeout`: nothing when the time is over or the read was cancelled. -/
def WinHidTransport.recv_timeout : Overlapped (List UInt8) → Except TransportError (Option HidMessage)
  | .no_event code => .error (last_error_code "CreateEventW" code)
  | .refused code => .error (last_error_code "ReadFile" code)
  | .timed_out => .ok none
  | .wait_failed code => .error (last_error_code "WaitForSingleObject" code)
  | .aborted code =>
    if code = ERROR_OPERATION_ABORTED then .ok none else .error (last_error_code "GetOverlappedResult" code)
  | .done buf =>
    match HidFrame.decode buf with
    | .error err => .error (.Decode err.display)
    | .ok frame => .ok (some ⟨frame.cmd, frame.sid, frame.payload⟩)

def WinHidTransport.recv (_transport : WinHidTransport) (read : Overlapped (List UInt8)) (wire : Wire) :
    Wire × Except TransportError HidMessage :=
  match WinHidTransport.recv_timeout read with
  | .error err => (wire, .error err)
  | .ok none => (wire, .error .Timeout)
  | .ok (some msg) => (wire, .ok msg)

/-! ## Opening again -/

structure ReopenWinHidTransport where
  device : String
  inner : Option WinHidTransport

def ReopenWinHidTransport.open_lazy (device : String) : ReopenWinHidTransport := ⟨device, none⟩

def ReopenWinHidTransport.is_connected (hid : ReopenWinHidTransport) : Bool :=
  hid.inner.any WinHidTransport.is_connected

def ReopenWinHidTransport.invalidate (hid : ReopenWinHidTransport) : ReopenWinHidTransport :=
  { hid with inner := none }

/-- The part of a pass that holds the lock: the device that is open, or the one that is opened now. -/
def ReopenWinHidTransport.current (hid : ReopenWinHidTransport) (system : Opening) :
    Except TransportError (ReopenWinHidTransport × WinHidTransport) :=
  match hid.inner with
  | some transport => .ok (hid, transport)
  | none =>
    match open_device system hid.device with
    | .error err => .error err
    | .ok transport => .ok ({ hid with inner := some transport }, transport)

/-- What a thread does to the device while it holds the lock. -/
inductive Touch
  | take (system : Opening)
  | invalidate

def Touch.apply (hid : ReopenWinHidTransport) : Touch → ReopenWinHidTransport
  | .take system =>
    match hid.current system with
    | .error _ => hid
    | .ok (hid, _) => hid
  | .invalidate => hid.invalidate

/-- What happens in one pass of the loop: what other threads have done to the
    device before it, what the system answers if it is opened, and how the call ends. -/
structure Pass (ω : Type) where
  others : List Touch
  system : Opening
  call : ω

/-- The transport, and what has reached the device. -/
structure Hid where
  transport : ReopenWinHidTransport
  wire : Wire

section
variable {ω ρ : Type} (op : WinHidTransport → ω → Wire → Wire × Except TransportError ρ) (passes : Nat → Pass ω)

/-- The loop of `with_transport` over the attempts that are left. -/
def attempts : List Nat → Hid → Hid × Except TransportError ρ
  | [], hid => (hid, .error .NotConnected)
  | attempt :: rest, hid =>
    let before := (passes attempt).others.foldl Touch.apply hid.transport
    match before.current (passes attempt).system with
    | .error err => (⟨before, hid.wire⟩, .error err)
    | .ok (opened, transport) =>
      match op transport (passes attempt).call hid.wire with
      | (wire, .ok value) => (⟨opened, wire⟩, .ok value)
      | (wire, .error err) =>
        if attempt > 0 then (⟨opened.invalidate, wire⟩, .error err) else attempts rest ⟨opened.invalidate, wire⟩

def with_transport (hid : Hid) : Hid × Except TransportError ρ := attempts op passes (List.range 2) hid
end

def ReopenWinHidTransport.send (passes : Nat → Pass Write) (msg : HidMessage) (hid : Hid) :
    Hid × Except TransportError Unit := with_transport (WinHidTransport.send msg) passes hid

def ReopenWinHidTransport.recv (passes : Nat → Pass (Overlapped (List UInt8))) (hid : Hid) :
    Hid × Except TransportError HidMessage :=
  match with_transport WinHidTransport.recv passes hid with
  | (hid, .ok msg) => (hid, .ok msg)
  | (hid, .error err) => ({ hid with transport := hid.transport.invalidate }, .error err)

/-! ## Flushing -/

/-- What happens during each call of a flush. -/
abbrev Calls := Nat → Nat → Pass Write

/-- Sends the frames of one message, the first of them with call number `call`. -/
def send_frames (calls : Calls) : Nat → List HidFrame → Hid → Hid × Option TransportError
  | _, [], hid => (hid, none)
  | call, frame :: frames, hid =>
    match ReopenWinHidTransport.send (calls call) ⟨frame.cmd, frame.sid, frame.payload⟩ hid with
    | (hid, .error err) => (hid, some err)
    | (hid, .ok ()) => send_frames calls (call + 1) frames hid

/-- The loop of `flush_board_outbox`: what stays in the outbox, and the result. -/
def flush_messages (calls : Calls) : Nat → List HidMessage → Hid → Hid × List HidMessage × Except String Unit
  | _, [], hid => (hid, [], .ok ())
  | call, msg :: outbox, hid =>
    let frames := split_host_to_board msg.cmd msg.sid msg.payload
    match send_frames calls call frames hid with
    | (hid, some err) =>
      (hid, msg :: outbox, .error s!"HID send {msg.cmd.debug}/sid {msg.sid.toNat}: {err.display}")
    | (hid, none) => flush_messages calls (call + frames.length) outbox hid

def flush_board_outbox (calls : Calls) (daemon : BridgeDaemon) (hid : Hid) : BridgeDaemon × Hid × Except String Unit :=
  if !hid.transport.is_connected then (daemon, hid, .ok ())
  else
    let flushed := flush_messages calls 0 daemon.board_outbox hid
    ({ daemon with board_outbox := flushed.2.1 }, flushed.1, flushed.2.2)

/-! ## What a call does -/

/-- The report of a message, and no bytes if it fits none. -/
def report_of (msg : HidMessage) : List UInt8 :=
  match HidFrame.encode ⟨REPORT_ID_DEVICE_BOUND, msg.cmd, msg.sid, msg.payload⟩ with
  | .error _ => []
  | .ok raw => raw

theorem report_fits {msg : HidMessage} (fits : msg.payload.length ≤ HID_MAX_PAYLOAD) :
    HidFrame.encode ⟨REPORT_ID_DEVICE_BOUND, msg.cmd, msg.sid, msg.payload⟩ = .ok (report_of msg) ∧
      (report_of msg).length = HID_REPORT_LEN ∧
      HidFrame.decode (report_of msg) = .ok ⟨REPORT_ID_DEVICE_BOUND, msg.cmd, msg.sid, msg.payload⟩ := by
  obtain ⟨raw,encoded,size,decoded⟩ :=
    decode_encode (show (⟨REPORT_ID_DEVICE_BOUND,msg.cmd,msg.sid,msg.payload⟩ : HidFrame).payload.length ≤ HID_MAX_PAYLOAD from fits)
  have same : report_of msg = raw := by rw [report_of,encoded]
  rw [same]
  exact ⟨encoded,size,decoded⟩

/-- One write puts the report on the wire at most once, and does so when it succeeds. -/
theorem write_step {msg : HidMessage} (fits : msg.payload.length ≤ HID_MAX_PAYLOAD) (transport : WinHidTransport)
    (write : Write) (wire : Wire) :
    (WinHidTransport.send msg transport write wire = (wire ++ [report_of msg],.ok ())) ∨
    ∃ copies ≤ 1, ∃ err, WinHidTransport.send msg transport write wire =
      (wire ++ List.replicate copies (report_of msg),.error err) := by
  rw [WinHidTransport.send,(report_fits fits).1]
  dsimp only
  cases write_result (report_of msg) write.ended with
  | ok done => exact .inl rfl
  | error err =>
    right
    cases write.reached with
    | true => exact ⟨1,Nat.le_refl 1,err,rfl⟩
    | false => exact ⟨0,Nat.zero_le 1,err,by simp⟩

/-- Attempts to send put the report on the wire at most once each, and at least
    once when they succeed. When they fail the device is closed. -/
theorem attempts_send {msg : HidMessage} (fits : msg.payload.length ≤ HID_MAX_PAYLOAD) (passes : Nat → Pass Write)
    (todo : List Nat) (hid : Hid) (closes : todo = [] → hid.transport.inner = none) :
    ∃ copies ≤ todo.length, ∃ transport result,
      attempts (WinHidTransport.send msg) passes todo hid =
        (⟨transport,hid.wire ++ List.replicate copies (report_of msg)⟩,result) ∧
      (result = .ok () ∧ 1 ≤ copies ∨ (∃ err, result = .error err) ∧ transport.inner = none) := by
  induction todo generalizing hid with
  | nil =>
    exact ⟨0,Nat.le_refl 0,hid.transport,.error .NotConnected,by simp [attempts],.inr ⟨⟨_,rfl⟩,closes rfl⟩⟩
  | cons attempt rest ih =>
    simp only [attempts]
    generalize (passes attempt).others.foldl Touch.apply hid.transport = before
    cases opened : before.current (passes attempt).system with
    | error err =>
      have closed : before.inner = none := by
        cases inner : before.inner with
        | none => rfl
        | some transport => simp [ReopenWinHidTransport.current,inner] at opened
      exact ⟨0,Nat.zero_le _,before,.error err,by simp,.inr ⟨⟨err,rfl⟩,closed⟩⟩
    | ok pair =>
      obtain ⟨open_now,transport⟩ := pair
      dsimp only
      rcases write_step fits transport (passes attempt).call hid.wire with sent | ⟨copies,few,err,failed⟩
      · rw [sent]
        exact ⟨1,by simp,open_now,.ok (),rfl,.inl ⟨rfl,Nat.le_refl 1⟩⟩
      · rw [failed]
        dsimp only
        by_cases again : attempt > 0
        · rw [if_pos again]
          exact ⟨copies,by simp; omega,open_now.invalidate,.error err,rfl,.inr ⟨⟨err,rfl⟩,rfl⟩⟩
        · rw [if_neg again]
          obtain ⟨more,bound,final,result,same,ends⟩ :=
            ih ⟨open_now.invalidate,hid.wire ++ List.replicate copies (report_of msg)⟩ (fun _ => rfl)
          refine ⟨copies + more,by simp; omega,final,result,?_,?_⟩
          · rw [same,List.append_assoc,List.replicate_append_replicate]
          · rcases ends with ⟨fine,positive⟩ | failed
            · exact .inl ⟨fine,by omega⟩
            · exact .inr failed

/-- A call puts its report on the wire at most twice. It is there when the call
    succeeds; when the call fails the device is closed. -/
theorem send_step {msg : HidMessage} (fits : msg.payload.length ≤ HID_MAX_PAYLOAD) (passes : Nat → Pass Write)
    (hid : Hid) :
    ∃ copies ≤ 2, ∃ transport result,
      ReopenWinHidTransport.send passes msg hid =
        (⟨transport,hid.wire ++ List.replicate copies (report_of msg)⟩,result) ∧
      (result = .ok () ∧ 1 ≤ copies ∨ (∃ err, result = .error err) ∧ transport.inner = none) :=
  attempts_send fits passes (List.range 2) hid (by simp)

/-- What attempts do to the device is what threads do to it while they hold the lock. -/
theorem attempts_touches {ω ρ : Type} {op : WinHidTransport → ω → Wire → Wire × Except TransportError ρ}
    (passes : Nat → Pass ω) (todo : List Nat) (hid : Hid) :
    ∃ touches : List Touch, (attempts op passes todo hid).1.transport = touches.foldl Touch.apply hid.transport := by
  induction todo generalizing hid with
  | nil => exact ⟨[],rfl⟩
  | cons attempt rest ih =>
    simp only [attempts]
    cases current : ((passes attempt).others.foldl Touch.apply hid.transport).current (passes attempt).system with
    | error err => exact ⟨(passes attempt).others,rfl⟩
    | ok pair =>
      obtain ⟨opened,transport⟩ := pair
      have taken : Touch.apply ((passes attempt).others.foldl Touch.apply hid.transport)
          (.take (passes attempt).system) = opened := by
        simp only [Touch.apply,current]
      have dropped : ((passes attempt).others ++ [Touch.take (passes attempt).system,.invalidate]).foldl Touch.apply
          hid.transport = opened.invalidate := by
        rw [List.foldl_append,List.foldl_cons,taken]
        rfl
      dsimp only
      split
      · exact ⟨(passes attempt).others ++ [.take (passes attempt).system],by rw [List.foldl_append]; exact taken.symm⟩
      · split
        · exact ⟨_,dropped.symm⟩
        · obtain ⟨touches,same⟩ := ih ⟨opened.invalidate,_⟩
          refine ⟨(passes attempt).others ++ [.take (passes attempt).system,.invalidate] ++ touches,?_⟩
          rw [same,List.foldl_append,dropped]

/-- What `recv` does to the device is what threads do to it while they hold the lock. -/
theorem recv_touches (passes : Nat → Pass (Overlapped (List UInt8))) (hid : Hid) : ∃ touches : List Touch,
    (ReopenWinHidTransport.recv passes hid).1.transport = touches.foldl Touch.apply hid.transport := by
  obtain ⟨touches,same⟩ : ∃ touches : List Touch, (attempts WinHidTransport.recv passes (List.range 2) hid).1.transport =
      touches.foldl Touch.apply hid.transport := attempts_touches passes (List.range 2) hid
  rw [ReopenWinHidTransport.recv]
  cases tried : with_transport WinHidTransport.recv passes hid with
  | mk after result =>
    rw [← with_transport,tried] at same
    cases result with
    | ok msg => exact ⟨touches,same⟩
    | error err =>
      refine ⟨touches ++ [.invalidate],?_⟩
      rw [List.foldl_append,← same]
      rfl

/-! ## What a flush does -/

/-- The reports carry the messages: each one once or twice in a row. -/
inductive Carried : List HidMessage → Wire → Prop
  | nil : Carried [] []
  | cons {msg : HidMessage} {rest : List HidMessage} {wire : Wire} {copies : Nat} (once : 1 ≤ copies)
      (twice : copies ≤ 2) (later : Carried rest wire) :
      Carried (msg :: rest) (List.replicate copies (report_of msg) ++ wire)

theorem carried_append {msgs msgs' : List HidMessage} {wire wire' : Wire} (first : Carried msgs wire)
    (second : Carried msgs' wire') : Carried (msgs ++ msgs') (wire ++ wire') := by
  induction first with
  | nil => exact second
  | cons once twice later ih =>
    rw [List.append_assoc]
    exact .cons once twice ih

/-- Every message is on the wire, in order. -/
theorem carried_sublist {msgs : List HidMessage} {wire : Wire} (carried : Carried msgs wire) :
    (msgs.map report_of).Sublist wire := by
  induction carried with
  | nil => exact .slnil
  | @cons msg rest wire copies once twice later ih =>
    obtain ⟨n,rfl⟩ := Nat.exists_eq_add_of_le' once
    exact List.Sublist.cons_cons _ (ih.trans (List.sublist_append_right _ _))

/-- Nothing else is on it. -/
theorem carried_mem {msgs : List HidMessage} {wire : Wire} (carried : Carried msgs wire) {raw : List UInt8}
    (member : raw ∈ wire) : ∃ msg ∈ msgs, raw = report_of msg := by
  induction carried with
  | nil => cases member
  | @cons msg rest wire copies once twice later ih =>
    rcases List.mem_append.mp member with here | there
    · exact ⟨msg,by simp,List.eq_of_mem_replicate here⟩
    · obtain ⟨other,among,same⟩ := ih there
      exact ⟨other,by simp [among],same⟩

/-- The transport after one call for each of the messages, the first with call number `call`. -/
def after (calls : Calls) : Nat → List HidMessage → Hid → Hid
  | _, [], hid => hid
  | call, msg :: rest, hid => after calls (call + 1) rest (ReopenWinHidTransport.send (calls call) msg hid).1

theorem after_append (calls : Calls) (call : Nat) (msgs msgs' : List HidMessage) (hid : Hid) :
    after calls call (msgs ++ msgs') hid = after calls (call + msgs.length) msgs' (after calls call msgs hid) := by
  induction msgs generalizing call hid with
  | nil => rfl
  | cons msg rest ih =>
    rw [List.cons_append,after,ih,List.length_cons,Nat.add_assoc,Nat.add_comm 1]
    rfl

/-- What the calls for some messages answer when they are all made. -/
def answers (calls : Calls) (msgs : List HidMessage) (hid : Hid) : Sends := fun n =>
  match msgs[n]? with
  | none => .ok ()
  | some msg => (ReopenWinHidTransport.send (calls n) msg (after calls 0 (msgs.take n) hid)).2

theorem answers_next (calls : Calls) (sent rest : List HidMessage) (msg : HidMessage) (hid : Hid) :
    answers calls (sent ++ msg :: rest) hid sent.length =
      (ReopenWinHidTransport.send (calls sent.length) msg (after calls 0 sent hid)).2 := by
  simp [answers]

/-- Some copies of one of the messages. -/
def Remains (msgs : List HidMessage) (wire : Wire) : Prop :=
  ∃ msg ∈ msgs, ∃ copies ≤ 2, wire = List.replicate copies (report_of msg)

/-- What `send_frames` does after the messages `sent`, with the answers that the transport gives. -/
theorem frames_step (calls : Calls) (start : Hid) (rest : List HidMessage) {frames : List HidFrame}
    (fit : ∀ frame ∈ frames, frame.payload.length ≤ HID_MAX_PAYLOAD) (sent : List HidMessage) :
    ∃ hid reports last delivered failed,
      send_frames calls sent.length frames (after calls 0 sent start) = (hid,failed) ∧
      Daemon.send_frames (answers calls (sent ++ (frames.map as_message ++ rest)) start) sent.length frames =
        (delivered,failed) ∧
      hid.wire = (after calls 0 sent start).wire ++ (reports ++ last) ∧ Carried delivered reports ∧
      (failed = none ∧ last = [] ∧ hid = after calls 0 (sent ++ frames.map as_message) start ∨
        failed.isSome ∧ Remains (frames.map as_message) last ∧ hid.transport.inner = none) := by
  induction frames generalizing sent with
  | nil => exact ⟨_,[],[],[],none,rfl,rfl,by simp,.nil,.inl ⟨rfl,rfl,by simp⟩⟩
  | cons frame frames ih =>
    obtain ⟨copies,few,transport,result,called,ends⟩ :=
      send_step (show (as_message frame).payload.length ≤ HID_MAX_PAYLOAD from fit frame (by simp)) (calls sent.length)
        (after calls 0 sent start)
    have asked := answers_next calls sent (frames.map as_message ++ rest) (as_message frame) start
    rw [called] at asked
    simp only [send_frames,Daemon.send_frames,List.map_cons,List.cons_append,asked]
    rw [show (⟨frame.cmd,frame.sid,frame.payload⟩ : HidMessage) = as_message frame from rfl,called]
    rcases ends with ⟨rfl,once⟩ | ⟨⟨err,rfl⟩,closed⟩
    · have step : after calls 0 (sent ++ [as_message frame]) start =
          ⟨transport,(after calls 0 sent start).wire ++ List.replicate copies (report_of (as_message frame))⟩ := by
        rw [after_append,Nat.zero_add]
        simp only [after,called]
      obtain ⟨hid,reports,last,delivered,failed,ran,told,wire,carried,left⟩ :=
        ih (fun other member => fit other (by simp [member])) (sent ++ [as_message frame])
      rw [List.length_append,List.length_singleton,step] at ran
      rw [List.length_append,List.length_singleton,List.append_assoc,List.singleton_append] at told
      rw [step] at wire
      refine ⟨hid,List.replicate copies (report_of (as_message frame)) ++ reports,last,as_message frame :: delivered,
        failed,ran,?_,?_,.cons once few carried,?_⟩
      · rw [told]
      · rw [wire]
        simp only [List.append_assoc]
      · rcases left with ⟨fine,none,same⟩ | ⟨fails,⟨msg,among,few,rest⟩,closed⟩
        · exact .inl ⟨fine,none,by rw [same]; simp⟩
        · exact .inr ⟨fails,⟨msg,by simp [among],few,rest⟩,closed⟩
    · exact ⟨_,[],_,[],some err,rfl,rfl,rfl,.nil,.inr ⟨rfl,⟨as_message frame,by simp,copies,few,rfl⟩,closed⟩⟩

/-- What the loop of a flush does after the messages `sent`, with the answers that the transport gives. -/
theorem messages_step (calls : Calls) (start : Hid) (outbox sent : List HidMessage) :
    ∃ hid reports last delivered left result,
      flush_messages calls sent.length outbox (after calls 0 sent start) = (hid,left,result) ∧
      Daemon.flush_messages (answers calls (sent ++ all_frames outbox) start) sent.length outbox =
        (left,delivered,result) ∧
      hid.wire = (after calls 0 sent start).wire ++ (reports ++ last) ∧ Carried delivered reports ∧
      (result = .ok () ∧ last = [] ∨
        (∃ text, result = .error text) ∧ Remains (all_frames left) last ∧ hid.transport.inner = none) := by
  induction outbox generalizing sent with
  | nil => exact ⟨_,[],[],[],[],.ok (),rfl,rfl,by simp,.nil,.inl ⟨rfl,rfl⟩⟩
  | cons msg outbox ih =>
    obtain ⟨hid,reports,last,delivered,failed,ran,told,wire,carried,left⟩ :=
      frames_step calls start (all_frames outbox)
        (show ∀ frame ∈ split_host_to_board msg.cmd msg.sid msg.payload, _ from fun frame member => (split_frames member).2.2.2) sent
    have whole : all_frames (msg :: outbox) =
        (split_host_to_board msg.cmd msg.sid msg.payload).map as_message ++ all_frames outbox := rfl
    simp only [flush_messages,Daemon.flush_messages]
    rw [whole,ran,told]
    rcases left with ⟨rfl,rfl,same⟩ | ⟨fails,rest,closed⟩
    · obtain ⟨hid',reports',last',delivered',left',result,ran',told',wire',carried',ends⟩ :=
        ih (sent ++ (split_host_to_board msg.cmd msg.sid msg.payload).map as_message)
      rw [List.length_append,List.length_map,← same] at ran'
      rw [List.length_append,List.length_map,List.append_assoc] at told'
      rw [← same,wire] at wire'
      refine ⟨hid',reports ++ reports',last',delivered ++ delivered',left',result,ran',?_,?_,
        carried_append carried carried',ends⟩
      · simp only [told']
      · rw [wire']
        simp only [List.append_nil,List.append_assoc]
    · obtain ⟨err,rfl⟩ := Option.isSome_iff_exists.mp fails
      obtain ⟨other,among,few,bound,rest⟩ := rest
      refine ⟨hid,reports,last,delivered,msg :: outbox,_,rfl,rfl,wire,carried,.inr ⟨⟨_,rfl⟩,?_,closed⟩⟩
      exact ⟨other,by rw [whole]; simp [among],few,bound,rest⟩

/-- A flush over this transport is a flush with the answers that the transport
    gives. What it delivers is on the wire, each frame once or twice; when a call
    fails, its frame may be there too, and the device is closed. -/
theorem flush_step (calls : Calls) (daemon : BridgeDaemon) (hid : Hid) :
    ∃ post final result delivered reports last,
      flush_board_outbox calls daemon hid = (post,final,result) ∧
      Daemon.flush_board_outbox daemon hid.transport.is_connected (answers calls (all_frames daemon.board_outbox) hid) =
        (post,delivered,result) ∧
      final.wire = hid.wire ++ (reports ++ last) ∧ Carried delivered reports ∧
      (result = .ok () ∧ last = [] ∨
        (∃ text, result = .error text) ∧ Remains (all_frames post.board_outbox) last ∧ final.transport.inner = none) := by
  unfold flush_board_outbox Daemon.flush_board_outbox
  cases hid.transport.is_connected with
  | false => exact ⟨daemon,hid,.ok (),[],[],[],rfl,rfl,by simp,.nil,.inl ⟨rfl,rfl⟩⟩
  | true =>
    obtain ⟨final,reports,last,delivered,left,result,ran,told,wire,carried,ends⟩ :=
      messages_step calls hid daemon.board_outbox []
    simp only [List.length_nil,after,List.nil_append] at ran told wire
    simp only [Bool.not_true,Bool.false_eq_true,↓reduceIte]
    refine ⟨{ daemon with board_outbox := left },final,result,delivered,reports,last,?_,?_,wire,carried,ends⟩
    · rw [ran]
    · rw [told]

end VibeBridge.Transport
