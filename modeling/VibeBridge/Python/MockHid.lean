import VibeBridge.Framing
import VibeBridge.Python.Codec

/-!
The packet socket of the Python host (`mock_hid.py`): each packet goes over a
stream behind its length in four bytes. The client reads it in pieces as they
arrive and gives up at a receive timeout, together with the bytes it has read.
-/
namespace VibeBridge.Python.MockHid
open VibeBridge.Payloads

def LENGTH_PREFIX_SIZE : Nat := 4

/-! ## The socket -/

/-- What a blocked read meets: bytes that arrive together, or its timeout. -/
inductive Event
  | segment (first : UInt8) (rest : List UInt8)
  | timeout
  deriving DecidableEq

/-- The receiving end of a stream socket: the bytes that have arrived but are not
    read, and what comes after them until the peer closes. -/
structure Socket where
  arrived : List UInt8
  coming : List Event
  deriving DecidableEq

/-- The exceptions of a read. -/
inductive Fault
  | timeout
  | closed (text : String)
  | protocol (text : String)
  deriving DecidableEq

/-- `socket.recv`: at most `n` bytes, and none once the peer has closed. -/
def Socket.recv (sock : Socket) (n : Nat) : Except Fault (List UInt8) × Socket :=
  match sock.arrived, sock.coming with
  | byte :: bytes, coming => (.ok ((byte :: bytes).take n), ⟨(byte :: bytes).drop n, coming⟩)
  | [], .segment first rest :: coming => (.ok ((first :: rest).take n), ⟨(first :: rest).drop n, coming⟩)
  | [], .timeout :: coming => (.error .timeout, ⟨[], coming⟩)
  | [], [] => (.ok [], ⟨[], []⟩)

/-! ## Reading packets -/

/-- The loop of `_recv_exact`, in at most `fuel` turns. -/
def recv_loop (n : Nat) : Nat → List UInt8 → Socket → Except Fault (List UInt8) × Socket
  | 0, buf, sock => (.ok buf, sock)
  | fuel + 1, buf, sock =>
    if buf.length < n then
      match sock.recv (n - buf.length) with
      | (.error fault, sock) => (.error fault, sock)
      | (.ok [], sock) => (.error (.closed "peer closed mid-frame"), sock)
      | (.ok (byte :: chunk), sock) => recv_loop n fuel (buf ++ byte :: chunk) sock
    else (.ok buf, sock)

/-- `_recv_exact`: every turn reads a byte or more, so that `n` turns are enough. -/
def recv_exact (sock : Socket) (n : Nat) : Except Fault (List UInt8) × Socket := recv_loop n n [] sock

/-- What `_read_packet` makes of the body of a frame. -/
def read_body (declared : Nat) (body : List UInt8) : Except Fault Packet :=
  if body.length < HEADER_SIZE then .error (.protocol s!"frame smaller than HID header: {declared}")
  else
    match Packet.decode body with
    | .ok packet => .ok packet
    | .error text => .error (.protocol text)

/-- `_read_packet`. -/
def read_packet (sock : Socket) : Except Fault Packet × Socket :=
  match recv_exact sock LENGTH_PREFIX_SIZE with
  | (.error fault, sock) => (.error fault, sock)
  | (.ok header, sock) =>
    let declared := from_le_bytes header
    match recv_exact sock declared with
    | (.error fault, sock) => (.error fault, sock)
    | (.ok body, sock) => (read_body declared body, sock)

/-- `MockHidClient.recv_packet`: a packet or `None`, or the text of a `ProtocolError`. -/
def client_recv (sock : Socket) : Except String (Option Packet) × Socket :=
  match read_packet sock with
  | (.ok packet, sock) => (.ok (some packet), sock)
  | (.error .timeout, sock) => (.ok none, sock)
  | (.error (.closed _), sock) => (.ok none, sock)
  | (.error (.protocol text), sock) => (.error text, sock)

/-- The results of a number of successive calls. -/
def client_calls : Nat → Socket → List (Except String (Option Packet))
  | 0, _ => []
  | count + 1, sock => (client_recv sock).1 :: client_calls count (client_recv sock).2

/-- The packet that a call returns, if it returns one. -/
def returned : Except String (Option Packet) → Option Packet
  | .ok packet => packet
  | .error _ => none

/-- Successive calls return these packets and, from some call on, no more. -/
def Delivers (sock : Socket) (sent : List Packet) : Prop :=
  ∃ enough, ∀ count ≥ enough, (client_calls count sock).filterMap returned = sent

/-! ## Writing packets -/

/-- What `_write_packet` sends, or the text of its `ProtocolError`. -/
def write_packet (packet : Packet) : Except String (List UInt8) := do
  let raw ← packet.encode
  return to_le_bytes LENGTH_PREFIX_SIZE raw.length ++ raw

/-- The bytes that arrive. -/
def arriving (events : List Event) : List UInt8 :=
  events.flatMap (fun event => match event with
    | .segment first rest => first :: rest
    | .timeout => [])

/-! ## The frames on the socket -/

/-- A packet whose fields the header of a frame has room for. -/
def Carried (packet : Packet) : Prop := packet.Framed ∧ packet.report_id < 256 ∧ packet.command < 256

/-- A packet behind its length; nothing for a packet that cannot be encoded. -/
def packet_wire (packet : Packet) : List UInt8 :=
  match packet.encode with
  | .ok raw => to_le_bytes LENGTH_PREFIX_SIZE raw.length ++ raw
  | .error _ => []

/-- The frame at the front of a stream, if all of it is there. -/
def next_packet (stream : List UInt8) : Option (Option Packet × Nat) :=
  let declared := from_le_bytes (stream.take LENGTH_PREFIX_SIZE)
  if stream.length < LENGTH_PREFIX_SIZE then none
  else if stream.length < LENGTH_PREFIX_SIZE + declared then none
  else
    some ((read_body declared ((stream.drop LENGTH_PREFIX_SIZE).take declared)).toOption,
      LENGTH_PREFIX_SIZE + declared)

theorem next_takes {stream : List UInt8} {read : Option Packet} {length : Nat}
    (next : next_packet stream = some (read, length)) : 0 < length ∧ length ≤ stream.length := by
  simp only [next_packet] at next
  split at next
  · cases next
  · split at next
    · cases next
    · rename_i long whole
      cases next
      simp only [LENGTH_PREFIX_SIZE] at whole ⊢
      omega

/-- A packet that is read from the body of a frame is carried by it. -/
theorem read_body_carried {declared : Nat} {body : List UInt8} {packet : Packet}
    (read : read_body declared body = .ok packet) :
    Carried packet ∧ HEADER_SIZE + packet.payload.length ≤ body.length := by
  simp only [read_body] at read
  split at read
  · cases read
  · rename_i long
    obtain ⟨report_id,command,sid,length,rest,rfl,sid_size,length_size⟩ := Protocol.header_split (Nat.le_of_not_lt long)
    rw [packet_decode report_id command sid_size length_size rest] at read
    by_cases truncated : rest.length < from_le_bytes length
    · rw [if_pos truncated] at read
      cases read
    · rw [if_neg truncated] at read
      cases read
      have sid_bound := from_le_bytes_bound sid
      have length_bound := from_le_bytes_bound length
      rw [sid_size] at sid_bound
      rw [length_size] at length_bound
      refine ⟨⟨⟨?_,?_⟩,report_id.toNat_lt,command.toNat_lt⟩,?_⟩
      · simp only
        omega
      · simp only [List.length_take]
        omega
      · simp only [List.length_take,List.length_append,List.length_cons,List.length_nil,sid_size,length_size,
          HEADER_SIZE]
        omega

theorem wire_length {packet : Packet} (framed : packet.Framed) :
    (packet_wire packet).length = LENGTH_PREFIX_SIZE + (HEADER_SIZE + packet.payload.length) := by
  have encoded := encode_framed framed
  rw [packet_wire,encoded]
  simp only [List.length_append,to_le_bytes_length,HEADER_SIZE]

theorem next_reads {stream : List UInt8} {packet : Packet} {length : Nat}
    (next : next_packet stream = some (some packet, length)) :
    Carried packet ∧ (packet_wire packet).length ≤ length := by
  simp only [next_packet] at next
  split at next
  · cases next
  · split at next
    · cases next
    · cases body : read_body (from_le_bytes (stream.take LENGTH_PREFIX_SIZE))
          ((stream.drop LENGTH_PREFIX_SIZE).take (from_le_bytes (stream.take LENGTH_PREFIX_SIZE))) with
      | error fault =>
        rw [body] at next
        cases next
      | ok read =>
        rw [body] at next
        cases next
        obtain ⟨carried,fits⟩ := read_body_carried body
        refine ⟨carried,?_⟩
        rw [List.length_take] at fits
        rw [wire_length carried.1]
        omega

/-- A packet that a frame carries decodes from its encoding. -/
theorem decode_carried {packet : Packet} (carried : Carried packet) :
    ∃ raw, packet.encode = .ok raw ∧ Packet.decode raw = .ok packet := by
  obtain ⟨framed,report_id,command⟩ := carried
  refine ⟨_,encode_framed framed,?_⟩
  obtain ⟨sid,length⟩ := framed
  have byte : ∀ value, to_le_bytes 1 value = [UInt8.ofNat (value % 256)] := fun value => rfl
  have sid_back : from_le_bytes (to_le_bytes 2 packet.session_id) = packet.session_id := by
    rw [from_to_le_bytes,Nat.mod_eq_of_lt (by omega)]
  have length_back : from_le_bytes (to_le_bytes 2 packet.payload.length) = packet.payload.length := by
    rw [from_to_le_bytes,Nat.mod_eq_of_lt (by omega)]
  have decoded := packet_decode (UInt8.ofNat (packet.report_id % 256)) (UInt8.ofNat (packet.command % 256))
    (to_le_bytes_length 2 packet.session_id) (to_le_bytes_length 2 packet.payload.length) packet.payload
  rw [sid_back,length_back,if_neg (by omega),List.take_length] at decoded
  rw [byte,byte]
  refine decoded.trans ?_
  simp [Nat.mod_eq_of_lt report_id,Nat.mod_eq_of_lt command]

theorem next_whole {packet : Packet} (rest : List UInt8) (carried : Carried packet) :
    next_packet (packet_wire packet ++ rest) = some (some packet, (packet_wire packet).length) := by
  obtain ⟨raw,encoded,decoded⟩ := decode_carried carried
  have size := encode_size encoded
  have bound := carried.1.2
  have wire : packet_wire packet = to_le_bytes LENGTH_PREFIX_SIZE raw.length ++ raw := by rw [packet_wire,encoded]
  have header : (to_le_bytes LENGTH_PREFIX_SIZE raw.length).length = LENGTH_PREFIX_SIZE := to_le_bytes_length _ _
  have declared : from_le_bytes (to_le_bytes LENGTH_PREFIX_SIZE raw.length) = raw.length := by
    simp only [HEADER_SIZE] at size
    rw [from_to_le_bytes,LENGTH_PREFIX_SIZE,Nat.mod_eq_of_lt (by omega)]
  have front : (packet_wire packet ++ rest).take LENGTH_PREFIX_SIZE = to_le_bytes LENGTH_PREFIX_SIZE raw.length := by
    rw [wire,List.append_assoc,List.take_left' header]
  have body : (packet_wire packet ++ rest).drop LENGTH_PREFIX_SIZE = raw ++ rest := by
    rw [wire,List.append_assoc,List.drop_left' header]
  have total : (packet_wire packet).length = LENGTH_PREFIX_SIZE + raw.length := by
    rw [wire,List.length_append,header]
  have read : read_body raw.length raw = .ok packet := by
    rw [read_body,if_neg (by omega),decoded]
  have long : ¬ (packet_wire packet ++ rest).length < LENGTH_PREFIX_SIZE := by
    rw [List.length_append,total]
    omega
  have full : ¬ (packet_wire packet ++ rest).length < LENGTH_PREFIX_SIZE + raw.length := by
    rw [List.length_append,total]
    omega
  simp only [next_packet,front,declared,body,List.take_left,read]
  rw [if_neg long,if_neg full,total]
  rfl

/-- The frames of the packet socket. -/
def packets : Framing UInt8 Packet where
  wire := packet_wire
  Carried := Carried
  next := next_packet
  takes := next_takes
  reads := next_reads
  whole := next_whole

/-! ## Runs between timeouts -/

/-- The bytes that arrive before the next timeout, and what comes after it. -/
def next_timeout : List Event → List UInt8 × Option (List Event)
  | [] => ([], none)
  | .timeout :: events => ([], some events)
  | .segment first rest :: events => (first :: rest ++ (next_timeout events).1, (next_timeout events).2)

/-- The bytes that can be read before the next timeout. -/
def Socket.ready (sock : Socket) : List UInt8 := sock.arrived ++ (next_timeout sock.coming).1

/-- What comes after the next timeout, if there is one. -/
def Socket.later (sock : Socket) : Option (List Event) := (next_timeout sock.coming).2

/-- How a read ends that needs more bytes than are ready. -/
def Socket.fault (sock : Socket) : Fault :=
  if sock.later.isSome then .timeout else .closed "peer closed mid-frame"

/-- The socket after a read that needs more bytes than are ready: they are lost. -/
def Socket.lost (sock : Socket) : Socket := ⟨[], sock.later.getD []⟩

/-- Nothing but the given bytes has been read from a socket. -/
def Reads (sock : Socket) (bytes : List UInt8) (after : Socket) : Prop :=
  sock.ready = bytes ++ after.ready ∧ after.later = sock.later

theorem recv_ready {sock : Socket} (some_ready : sock.ready ≠ []) {n : Nat} (positive : 0 < n) :
    ∃ byte chunk after, sock.recv n = (.ok (byte :: chunk), after) ∧ Reads sock (byte :: chunk) after ∧
      (byte :: chunk).length ≤ n := by
  obtain ⟨n,rfl⟩ : ∃ less, n = less + 1 := ⟨n - 1,by omega⟩
  obtain ⟨arrived,coming⟩ := sock
  cases arrived with
  | cons byte bytes =>
    refine ⟨byte,bytes.take n,⟨bytes.drop n,coming⟩,rfl,⟨?_,rfl⟩,by simp only [List.length_cons,List.length_take]; omega⟩
    simp [Socket.ready,← List.append_assoc]
  | nil =>
    cases coming with
    | nil => exact absurd rfl some_ready
    | cons event events =>
      cases event with
      | timeout => exact absurd rfl some_ready
      | segment first rest =>
        refine ⟨first,rest.take n,⟨rest.drop n,events⟩,rfl,⟨?_,rfl⟩,by simp only [List.length_cons,List.length_take]; omega⟩
        simp [Socket.ready,next_timeout,← List.append_assoc]

/-- A read that finds no bytes ready times out or learns that the peer has closed. -/
theorem recv_none {sock : Socket} (none_ready : sock.ready = []) (n : Nat) :
    sock.recv n = (if sock.later.isSome then .error .timeout else .ok [], sock.lost) := by
  obtain ⟨arrived,coming⟩ := sock
  cases arrived with
  | cons byte bytes => simp [Socket.ready] at none_ready
  | nil =>
    cases coming with
    | nil => rfl
    | cons event events =>
      cases event with
      | timeout => rfl
      | segment first rest => simp [Socket.ready,next_timeout] at none_ready

theorem recv_loop_spec {n fuel : Nat} {buf : List UInt8} (sock : Socket) (short : buf.length ≤ n)
    (enough : n ≤ fuel + buf.length) :
    (n - buf.length ≤ sock.ready.length → ∃ bytes after, recv_loop n fuel buf sock = (.ok (buf ++ bytes), after) ∧
        bytes.length = n - buf.length ∧ Reads sock bytes after) ∧
      (sock.ready.length < n - buf.length → recv_loop n fuel buf sock = (.error sock.fault, sock.lost)) := by
  induction fuel generalizing buf sock with
  | zero =>
    refine ⟨fun _ => ⟨[],sock,by rw [List.append_nil]; rfl,by simp; omega,by simp [Reads]⟩,fun less => ?_⟩
    omega
  | succ fuel ih =>
    by_cases full : buf.length = n
    · have stop : recv_loop n (fuel + 1) buf sock = (.ok buf, sock) := by rw [recv_loop,if_neg (by omega)]
      refine ⟨fun _ => ⟨[],sock,by rw [List.append_nil]; exact stop,by simp; omega,by simp [Reads]⟩,fun less => ?_⟩
      omega
    · have more : buf.length < n := by omega
      by_cases none_ready : sock.ready = []
      · refine ⟨fun room => ?_,fun _ => ?_⟩
        · rw [none_ready,List.length_nil] at room
          omega
        · rw [recv_loop,if_pos more,recv_none none_ready]
          cases later : sock.later with
          | none => simp [Socket.fault,Socket.lost,later]
          | some events => simp [Socket.fault,Socket.lost,later]
      · obtain ⟨byte,chunk,after,read,⟨ready,later⟩,bound⟩ := recv_ready none_ready (n := n - buf.length) (by omega)
        have turn : recv_loop n (fuel + 1) buf sock = recv_loop n fuel (buf ++ byte :: chunk) after := by
          rw [recv_loop,if_pos more,read]
        have size : (buf ++ byte :: chunk).length = buf.length + (byte :: chunk).length := List.length_append
        have ready_size : sock.ready.length = (byte :: chunk).length + after.ready.length := by
          rw [ready,List.length_append]
        have need : n - (buf ++ byte :: chunk).length = n - buf.length - (byte :: chunk).length := by omega
        have shorter : (buf ++ byte :: chunk).length ≤ n := by omega
        have still_enough : n ≤ fuel + (buf ++ byte :: chunk).length := by
          rw [size,List.length_cons]
          omega
        rw [turn]
        constructor
        · intro room
          have rest_ready : n - (buf ++ byte :: chunk).length ≤ after.ready.length := by omega
          obtain ⟨bytes,last,result,length,rest,same⟩ := (ih after shorter still_enough).1 rest_ready
          refine ⟨byte :: chunk ++ bytes,last,by rw [result,List.append_assoc],?_,?_,same.trans later⟩
          · rw [List.length_append,length]
            omega
          · rw [ready,rest,List.append_assoc]
        · intro less
          have rest_less : after.ready.length < n - (buf ++ byte :: chunk).length := by omega
          rw [(ih after shorter still_enough).2 rest_less,Socket.fault,Socket.fault,Socket.lost,Socket.lost,later]

theorem recv_exact_spec (sock : Socket) (n : Nat) :
    (n ≤ sock.ready.length → ∃ after, recv_exact sock n = (.ok (sock.ready.take n), after) ∧
        after.ready = sock.ready.drop n ∧ after.later = sock.later) ∧
      (sock.ready.length < n → recv_exact sock n = (.error sock.fault, sock.lost)) := by
  have spec := @recv_loop_spec n n [] sock (Nat.zero_le n) (Nat.le_refl n)
  rw [List.length_nil,Nat.sub_zero] at spec
  refine ⟨fun room => ?_,spec.2⟩
  obtain ⟨bytes,after,result,length,ready,later⟩ := spec.1 room
  refine ⟨after,?_,?_,later⟩
  · rw [ready,List.take_left' length]
    exact result
  · rw [ready,List.drop_left' length]

theorem read_body_fault {declared : Nat} {body : List UInt8} {fault : Fault}
    (failed : read_body declared body = .error fault) : ∃ text, fault = .protocol text := by
  simp only [read_body] at failed
  split at failed
  · cases failed
    exact ⟨_,rfl⟩
  · split at failed
    · cases failed
    · cases failed
      exact ⟨_,rfl⟩

theorem read_packet_unfinished {sock : Socket} (unfinished : next_packet sock.ready = none) :
    read_packet sock = (.error sock.fault, sock.lost) := by
  obtain ⟨whole,less⟩ := recv_exact_spec sock LENGTH_PREFIX_SIZE
  by_cases short : sock.ready.length < LENGTH_PREFIX_SIZE
  · rw [read_packet,less short]
  · obtain ⟨after,header,ready,later⟩ := whole (Nat.le_of_not_lt short)
    rw [next_packet,if_neg short] at unfinished
    by_cases missing : sock.ready.length < LENGTH_PREFIX_SIZE + from_le_bytes (sock.ready.take LENGTH_PREFIX_SIZE)
    · have rest : after.ready.length < from_le_bytes (sock.ready.take LENGTH_PREFIX_SIZE) := by
        rw [ready,List.length_drop]
        omega
      have body := (recv_exact_spec after (from_le_bytes (sock.ready.take LENGTH_PREFIX_SIZE))).2 rest
      rw [read_packet,header]
      simp only [body,Socket.fault,Socket.lost,later]
    · rw [if_neg missing] at unfinished
      cases unfinished

/-- A frame that is all there is read. -/
theorem read_packet_whole {sock : Socket}
    (whole : LENGTH_PREFIX_SIZE + from_le_bytes (sock.ready.take LENGTH_PREFIX_SIZE) ≤ sock.ready.length) :
    ∃ after, read_packet sock = (read_body (from_le_bytes (sock.ready.take LENGTH_PREFIX_SIZE))
        ((sock.ready.drop LENGTH_PREFIX_SIZE).take (from_le_bytes (sock.ready.take LENGTH_PREFIX_SIZE))),after) ∧
      after.ready = sock.ready.drop (LENGTH_PREFIX_SIZE + from_le_bytes (sock.ready.take LENGTH_PREFIX_SIZE)) ∧
      after.later = sock.later := by
  obtain ⟨after,header,ready,later⟩ := (recv_exact_spec sock LENGTH_PREFIX_SIZE).1 (by omega)
  have rest : from_le_bytes (sock.ready.take LENGTH_PREFIX_SIZE) ≤ after.ready.length := by
    rw [ready,List.length_drop]
    omega
  obtain ⟨last,body,left,same⟩ := (recv_exact_spec after _).1 rest
  rw [ready] at body left
  refine ⟨last,?_,?_,same.trans later⟩
  · rw [read_packet,header]
    simp only [body]
  · rw [left,List.drop_drop]

theorem read_packet_next {sock : Socket} {read : Option Packet} {length : Nat}
    (next : next_packet sock.ready = some (read, length)) :
    ∃ declared body after, read_packet sock = (read_body declared body, after) ∧
      (read_body declared body).toOption = read ∧ after.ready = sock.ready.drop length ∧ after.later = sock.later := by
  rw [next_packet] at next
  by_cases short : sock.ready.length < LENGTH_PREFIX_SIZE
  · rw [if_pos short] at next
    cases next
  · by_cases missing : sock.ready.length < LENGTH_PREFIX_SIZE + from_le_bytes (sock.ready.take LENGTH_PREFIX_SIZE)
    · rw [if_neg short,if_pos missing] at next
      cases next
    · rw [if_neg short,if_neg missing] at next
      cases next
      obtain ⟨after,result,ready,later⟩ := read_packet_whole (Nat.le_of_not_lt missing)
      exact ⟨_,_,after,result,rfl,ready,later⟩

theorem client_recv_unfinished {sock : Socket} (unfinished : next_packet sock.ready = none) :
    client_recv sock = (.ok none, sock.lost) := by
  rw [client_recv,read_packet_unfinished unfinished,Socket.fault]
  cases sock.later with
  | none => rfl
  | some events => rfl

theorem client_recv_next {sock : Socket} {read : Option Packet} {length : Nat}
    (next : next_packet sock.ready = some (read, length)) :
    ∃ result after, client_recv sock = (result, after) ∧ returned result = read ∧
      after.ready = sock.ready.drop length ∧ after.later = sock.later := by
  obtain ⟨declared,body,after,result,same,ready,later⟩ := read_packet_next next
  cases outcome : read_body declared body with
  | ok packet =>
    rw [outcome] at result same
    exact ⟨.ok (some packet),after,by rw [client_recv,result],same,ready,later⟩
  | error fault =>
    obtain ⟨text,rfl⟩ := read_body_fault outcome
    rw [outcome] at result same
    exact ⟨.error text,after,by rw [client_recv,result],same,ready,later⟩

/-! ## Successive calls -/

/-- The bytes that arrive between the timeouts. -/
def runs : List Event → List (List UInt8)
  | [] => [[]]
  | .timeout :: events => [] :: runs events
  | .segment first rest :: events =>
    match runs events with
    | [] => [first :: rest]
    | run :: more => (first :: rest ++ run) :: more

/-- The runs that are left to read. -/
def Socket.runs (sock : Socket) : List (List UInt8) :=
  sock.ready :: match sock.later with
    | none => []
    | some events => MockHid.runs events

theorem runs_eq (events : List Event) : runs events = Socket.runs ⟨[], events⟩ := by
  induction events with
  | nil => rfl
  | cons event events ih =>
    cases event with
    | timeout => rfl
    | segment first rest =>
      rw [runs,ih]
      rfl

theorem client_recv_closed : client_recv ⟨[], []⟩ = (.ok none, ⟨[], []⟩) := rfl

section
variable {β γ : Type} {framing : Framing UInt8 β} {view : Except String (Option Packet) → Option γ} {f : β → γ}

/-- A call shows the next frame of a socket, and nothing when the frame is not all there. -/
structure Viewed (framing : Framing UInt8 β) (view : Except String (Option Packet) → Option γ) (f : β → γ) : Prop where
  quiet : view (.ok none) = none
  unfinished : ∀ {sock : Socket}, framing.next sock.ready = none → client_recv sock = (.ok none, sock.lost)
  next : ∀ {sock : Socket} {read : Option β} {length : Nat}, framing.next sock.ready = some (read, length) →
    ∃ result after, client_recv sock = (result, after) ∧ view result = read.map f ∧
      after.ready = sock.ready.drop length ∧ after.later = sock.later

/-- Successive calls show the whole frames of the runs. -/
def Shows (framing : Framing UInt8 β) (view : Except String (Option Packet) → Option γ) (f : β → γ) (sock : Socket) :
    Prop :=
  ∃ enough, ∀ count ≥ enough, (client_calls count sock).filterMap view = (framing.received sock.runs).map f

theorem calls_succ (count : Nat) (sock : Socket) :
    (client_calls (count + 1) sock).filterMap view =
      (view (client_recv sock).1).toList ++ (client_calls count (client_recv sock).2).filterMap view := by
  rw [client_calls,List.filterMap_cons]
  cases view (client_recv sock).1 <;> rfl

theorem calls_closed (viewed : Viewed framing view f) (count : Nat) :
    (client_calls count ⟨[], []⟩).filterMap view = [] := by
  induction count with
  | zero => rfl
  | succ count ih =>
    rw [calls_succ,client_recv_closed,ih,viewed.quiet]
    rfl

/-- One call after which the rest is shown shows all. -/
theorem shows_step {sock after : Socket} {result : Except String (Option Packet)}
    (call : client_recv sock = (result, after)) (rest : Shows framing view f after)
    (all : (framing.received sock.runs).map f = (view result).toList ++ (framing.received after.runs).map f) :
    Shows framing view f sock := by
  obtain ⟨enough,shows_rest⟩ := rest
  refine ⟨enough + 1,?_⟩
  intro count more
  obtain ⟨less,rfl⟩ : ∃ less, count = less + 1 := ⟨count - 1,by omega⟩
  rw [calls_succ,call,all,shows_rest less (by omega)]

/-- A run is shown if what comes after it is. -/
theorem shows_run (viewed : Viewed framing view f) (later : Option (List Event))
    (rest : ∀ events, later = some events → Shows framing view f ⟨[], events⟩)
    (stream : List UInt8) : ∀ sock : Socket, sock.ready = stream → sock.later = later → Shows framing view f sock := by
  induction stream using Framing.frames_induction framing with
  | unfinished stream none =>
    rintro sock rfl rfl
    have nothing := Framing.frames_none none
    have call := viewed.unfinished none
    cases after : sock.later with
    | none =>
      have closed : sock.lost = ⟨[], []⟩ := by rw [Socket.lost,after]; rfl
      rw [closed] at call
      refine shows_step call ⟨0,fun count _ => calls_closed viewed count⟩ ?_
      simp only [Socket.runs,after,Framing.received,List.flatMap_cons,List.flatMap_nil,nothing,viewed.quiet]
      rfl
    | some events =>
      have next : sock.lost = ⟨[], events⟩ := by rw [Socket.lost,after]; rfl
      rw [next] at call
      refine shows_step call (rest events after) ?_
      simp only [Socket.runs,after,Framing.received,List.flatMap_cons,nothing,viewed.quiet]
      rw [runs_eq]
      rfl
  | frame stream read length front ih =>
    rintro sock rfl rfl
    obtain ⟨result,after,call,same,ready,later⟩ := viewed.next front
    refine shows_step call (ih after ready later) ?_
    simp only [Socket.runs,later,Framing.received,List.flatMap_cons,Framing.frames_next front,ready,same,
      List.append_assoc,List.map_append]
    cases read <;> rfl

theorem later_shorter {events later : List Event} (next : (next_timeout events).2 = some later) :
    later.length < events.length := by
  induction events with
  | nil => cases next
  | cons event events ih =>
    cases event with
    | timeout =>
      cases next
      simp
    | segment first rest =>
      have shorter := ih next
      rw [List.length_cons]
      omega

theorem shows_all (viewed : Viewed framing view f) (sock : Socket) : Shows framing view f sock := by
  have fresh : ∀ size (events : List Event), events.length ≤ size → Shows framing view f ⟨[], events⟩ := by
    intro size
    induction size with
    | zero =>
      intro events short
      refine shows_run viewed (next_timeout events).2 ?_ _ _ rfl rfl
      intro later next
      have := later_shorter next
      omega
    | succ size ih =>
      intro events short
      refine shows_run viewed (next_timeout events).2 ?_ _ _ rfl rfl
      intro later next
      have := later_shorter next
      exact ih later (by omega)
  exact shows_run viewed _ (fun events _ => fresh events.length events (Nat.le_refl _)) _ sock rfl rfl

end

/-- Successive calls return what the whole frames of the runs read as. -/
def Receives (sock : Socket) : Prop :=
  ∃ enough, ∀ count ≥ enough, (client_calls count sock).filterMap returned = packets.received sock.runs

theorem packets_viewed : Viewed packets returned id where
  quiet := rfl
  unfinished := client_recv_unfinished
  next := by
    intro sock read length front
    obtain ⟨result,after,call,same,rest⟩ := client_recv_next front
    exact ⟨result,after,call,by rw [same,Option.map_id_fun,id],rest⟩

theorem receives_all (sock : Socket) : Receives sock := by
  obtain ⟨enough,shown⟩ := shows_all packets_viewed sock
  exact ⟨enough,fun count more => by rw [shown count more,List.map_id]⟩

/-- What the calls return settles to what the frames of the runs read as. -/
theorem delivers_iff {sock : Socket} {sent : List Packet} :
    Delivers sock sent ↔ packets.received sock.runs = sent := by
  obtain ⟨enough,receives⟩ := receives_all sock
  constructor
  · rintro ⟨settled,delivered⟩
    rw [← receives (max enough settled) (Nat.le_max_left _ _)]
    exact delivered _ (Nat.le_max_right _ _)
  · rintro rfl
    exact ⟨enough,receives⟩

/-! ## Timeouts between frames -/

theorem runs_flatten (events : List Event) : (runs events).flatten = arriving events := by
  induction events with
  | nil => rfl
  | cons event events ih =>
    cases event with
    | timeout => exact ih
    | segment first rest =>
      have split : runs (.segment first rest :: events) =
          (first :: rest ++ Socket.ready ⟨[], events⟩) :: (Socket.runs ⟨[], events⟩).tail := by
        rw [runs,runs_eq]
        rfl
      have whole : (runs events).flatten = Socket.ready ⟨[], events⟩ ++ (Socket.runs ⟨[], events⟩).tail.flatten := by
        rw [runs_eq]
        rfl
      rw [split,List.flatten_cons,List.append_assoc,← whole,ih]
      rfl

/-- A timeout ends a run. -/
theorem runs_append (before after : List Event) :
    runs (before ++ .timeout :: after) = runs before ++ runs after := by
  induction before with
  | nil => rfl
  | cons event before ih =>
    cases event with
    | timeout =>
      show [] :: runs (before ++ .timeout :: after) = [] :: runs before ++ runs after
      rw [ih]
      rfl
    | segment first rest =>
      rw [List.cons_append,runs,runs,ih,runs_eq before]
      rfl

theorem runs_ne_nil (events : List Event) : runs events ≠ [] := by
  rw [runs_eq]
  exact List.cons_ne_nil _ _

/-- Where a run ends there is a timeout. -/
theorem runs_split {events : List Event} {before after : List (List UInt8)} (split : runs events = before ++ after)
    (some_before : before ≠ []) (some_after : after ≠ []) :
    ∃ earlier later, events = earlier ++ .timeout :: later ∧ before.flatten = arriving earlier := by
  induction events generalizing before with
  | nil =>
    have sizes := congrArg List.length split
    have one := List.length_pos_iff.mpr some_before
    have other := List.length_pos_iff.mpr some_after
    rw [List.length_append] at sizes
    simp [runs] at sizes
    omega
  | cons event events ih =>
    cases before with
    | nil => exact absurd rfl some_before
    | cons run before =>
      cases event with
      | timeout =>
        obtain ⟨rfl,rest⟩ := List.cons.inj split
        by_cases last : before = []
        · subst last
          exact ⟨[],events,rfl,rfl⟩
        · obtain ⟨earlier,later,rfl,bytes⟩ := ih rest last
          exact ⟨.timeout :: earlier,later,rfl,bytes⟩
      | segment first rest =>
        obtain ⟨front,more,pieces⟩ := List.exists_cons_of_ne_nil (runs_ne_nil events)
        rw [runs,pieces] at split
        obtain ⟨rfl,same⟩ := List.cons.inj split
        have shorter : runs events = (front :: before) ++ after := by rw [pieces,same]; rfl
        obtain ⟨earlier,later,rfl,bytes⟩ := ih shorter (by simp)
        refine ⟨.segment first rest :: earlier,later,rfl,?_⟩
        rw [List.flatten_cons,List.append_assoc]
        exact congrArg (first :: rest ++ ·) bytes

/-! ## The packets that are written -/

theorem write_wire {packet : Packet} {bytes : List UInt8} (written : write_packet packet = .ok bytes) :
    packet.Framed ∧ bytes = packet_wire packet := by
  by_cases framed : packet.Framed
  · rw [write_packet,encode_framed framed] at written
    rw [packet_wire,encode_framed framed]
    cases written
    exact ⟨framed,rfl⟩
  · obtain ⟨text,failed⟩ := encode_unframed framed
    rw [write_packet,failed] at written
    cases written

theorem writes_wire {sent : List Packet} {writes : List (List UInt8)} (written : sent.mapM write_packet = .ok writes) :
    (∀ packet ∈ sent, packet.Framed) ∧ writes = sent.map packet_wire := by
  induction sent generalizing writes with
  | nil =>
    cases written
    simp
  | cons packet sent ih =>
    rw [List.mapM_cons] at written
    cases first : write_packet packet with
    | error text =>
      rw [first] at written
      cases written
    | ok bytes =>
      cases others : sent.mapM write_packet with
      | error text =>
        rw [first,others] at written
        cases written
      | ok more =>
        rw [first,others] at written
        cases written
        obtain ⟨framed,rfl⟩ := write_wire first
        obtain ⟨all,rfl⟩ := ih others
        refine ⟨?_,rfl⟩
        intro other mem
        rcases List.mem_cons.mp mem with rfl | mem
        · exact framed
        · exact all other mem

/-- The client returns the packets that were written, whatever pieces they arrive
    in, exactly when their fields fit the header and every timeout strikes after
    whole packets. -/
theorem packets_survive_timeouts {sent : List Packet} {writes : List (List UInt8)} {events : List Event}
    (written : sent.mapM write_packet = .ok writes) (arrived : arriving events = writes.flatten) :
    Delivers ⟨[], events⟩ sent ↔ (∀ packet ∈ sent, packet.report_id < 256 ∧ packet.command < 256) ∧
      ∀ before after, events = before ++ .timeout :: after →
        ∃ count, arriving before = (writes.take count).flatten := by
  obtain ⟨framed,rfl⟩ := writes_wire written
  have wires : ∀ count, ((sent.map packet_wire).take count).flatten = (sent.take count).flatMap packets.wire := by
    intro count
    rw [← List.map_take]
    rfl
  have stream : (Socket.runs ⟨[], events⟩).flatten = sent.flatMap packets.wire := by
    rw [← runs_eq,runs_flatten,arrived]
    rfl
  rw [delivers_iff,Framing.received_iff stream]
  constructor
  · rintro ⟨carried,between⟩
    refine ⟨fun packet mem => (carried packet mem).2,?_⟩
    rintro before after rfl
    obtain ⟨count,cut⟩ := between (runs before) (runs after) (by rw [← runs_eq,runs_append])
    exact ⟨count,by rw [wires,← cut,runs_flatten]⟩
  · rintro ⟨fields,between⟩
    refine ⟨fun packet mem => ⟨framed packet mem,fields packet mem⟩,?_⟩
    intro before after split
    rw [← runs_eq] at split
    by_cases first : before = []
    · exact ⟨0,by rw [first]; rfl⟩
    · by_cases last : after = []
      · refine ⟨sent.length,?_⟩
        rw [last,List.append_nil] at split
        rw [← split,runs_eq,stream,List.take_length]
      · obtain ⟨earlier,later,rfl,bytes⟩ := runs_split split first last
        obtain ⟨count,cut⟩ := between earlier later rfl
        exact ⟨count,by rw [bytes,cut,wires]⟩

/-- A heartbeat in two pieces and a timeout between two heartbeats. -/
def two_heartbeats : List Event :=
  [.segment 6 [0], .segment 0 [0, 0x20, 4, 1, 0, 0, 0], .timeout, .segment 6 [0, 0, 0, 0x20, 4, 2, 0, 0, 0]]

theorem packets_survive_timeouts_two :
    Delivers ⟨[], two_heartbeats⟩ [make_session_heartbeat 1, make_session_heartbeat 2] := by
  have written : [make_session_heartbeat 1, make_session_heartbeat 2].mapM write_packet =
      .ok [[6, 0, 0, 0, 0x20, 4, 1, 0, 0, 0], [6, 0, 0, 0, 0x20, 4, 2, 0, 0, 0]] := by rfl
  refine (packets_survive_timeouts written (by rfl)).mpr ⟨by decide,?_⟩
  intro before after split
  rcases before with _ | ⟨first,_ | ⟨second,_ | ⟨third,_ | ⟨fourth,before⟩⟩⟩⟩ <;> simp [two_heartbeats] at split
  obtain ⟨rfl,rfl,_⟩ := split
  exact ⟨1,rfl⟩

/-- A heartbeat whose length prefix is cut by a timeout. -/
def cut_heartbeat : List Event := [.segment 6 [0], .timeout, .segment 0 [0, 0x20, 4, 1, 0, 0, 0]]

theorem packets_lost_at_timeout : ∃ (sent : List Packet) (writes : List (List UInt8)) (events : List Event),
    sent.mapM write_packet = .ok writes ∧ arriving events = writes.flatten ∧ ¬ Delivers ⟨[], events⟩ sent := by
  refine ⟨[make_session_heartbeat 1],[[6, 0, 0, 0, 0x20, 4, 1, 0, 0, 0]],cut_heartbeat,by rfl,by rfl,?_⟩
  rw [delivers_iff]
  decide

end VibeBridge.Python.MockHid
