import VibeBridge.Python.MockHid
import VibeBridge.Python.PluginClient
import VibeBridge.Suffixes

/-!
The reader thread of a plugin client on its socket (`_reader_loop` of
`plugin_client.py`). The loop catches a peer that has closed and the errors of
the operating system. A body that does not decode, a status byte that is no
`Status` and a request that cannot be written end the thread. As long as no
frame does that, the client holds the sid that it was granted last and that was
not invalidated since (`reader_keeps_iff`).
-/
namespace VibeBridge.Python
open VibeBridge.Payloads MockHid

/-! ## The loop -/

/-- The client after an exception in its reader. -/
def PluginClient.stop (client : PluginClient) : PluginClient := { client with reading := false }

/-- `_dispatch` in the reader: `_write_packet` raises `ProtocolError` on a request that cannot be encoded. -/
def PluginClient.hear (client : PluginClient) (packet : Packet) : PluginClient :=
  match (client.dispatch packet).2.mapM write_packet with
  | .ok _ => (client.dispatch packet).1
  | .error _ => (client.dispatch packet).1.stop

/-- A turn of `_reader_loop`: it does not catch the `ProtocolError` of `recv_packet`. -/
def reader_turn (client : PluginClient) (sock : Socket) : PluginClient × Socket :=
  if client.reading then
    match client_recv sock with
    | (.error _,after) => (client.stop,after)
    | (.ok none,after) => (client,after)
    | (.ok (some packet),after) => (client.hear packet,after)
  else (client,sock)

/-- The client after a number of turns. -/
def reader_loop : Nat → PluginClient → Socket → PluginClient
  | 0, client, _ => client
  | turns + 1, client, sock => reader_loop turns (reader_turn client sock).1 (reader_turn client sock).2

/-! ## The frames on its socket -/

/-- A body behind its length. -/
def frame_wire (body : List UInt8) : List UInt8 := to_le_bytes LENGTH_PREFIX_SIZE body.length ++ body

/-- The frame at the front of a stream, if all of it is there. -/
def next_frame (stream : List UInt8) : Option (Option (List UInt8) × Nat) :=
  let declared := from_le_bytes (stream.take LENGTH_PREFIX_SIZE)
  if stream.length < LENGTH_PREFIX_SIZE + declared then none
  else some (some ((stream.drop LENGTH_PREFIX_SIZE).take declared),LENGTH_PREFIX_SIZE + declared)

section
variable {stream body : List UInt8} {read : Option (List UInt8)} {length : Nat}

theorem next_frame_whole (next : next_frame stream = some (read,length)) :
    length = LENGTH_PREFIX_SIZE + from_le_bytes (stream.take LENGTH_PREFIX_SIZE) ∧ length ≤ stream.length ∧
      read = some ((stream.drop LENGTH_PREFIX_SIZE).take (from_le_bytes (stream.take LENGTH_PREFIX_SIZE))) := by
  simp only [next_frame] at next
  split at next
  · cases next
  · rename_i whole
    cases next
    exact ⟨rfl,Nat.le_of_not_lt whole,rfl⟩

/-- A frame takes some of the stream, and no more than there is. -/
theorem next_frame_takes (next : next_frame stream = some (read,length)) : 0 < length ∧ length ≤ stream.length := by
  obtain ⟨same,whole,_⟩ := next_frame_whole next
  exact ⟨by rw [same,LENGTH_PREFIX_SIZE]; omega,whole⟩

/-- A frame holds a body whose length fits the prefix. -/
theorem next_frame_reads (next : next_frame stream = some (some body,length)) :
    body.length < 2 ^ 32 ∧ (frame_wire body).length ≤ length := by
  obtain ⟨rfl,whole,read⟩ := next_frame_whole next
  cases read
  have bound := from_le_bytes_bound (stream.take LENGTH_PREFIX_SIZE)
  have front : (stream.take LENGTH_PREFIX_SIZE).length = LENGTH_PREFIX_SIZE := List.length_take_of_le (by omega)
  rw [front] at bound
  have size : ((stream.drop LENGTH_PREFIX_SIZE).take (from_le_bytes (stream.take LENGTH_PREFIX_SIZE))).length =
      from_le_bytes (stream.take LENGTH_PREFIX_SIZE) := by
    rw [List.length_take,List.length_drop]
    omega
  rw [frame_wire,List.length_append,to_le_bytes_length,size]
  exact ⟨bound,Nat.le_refl _⟩

theorem next_frame_wire (rest : List UInt8) (fits : body.length < 2 ^ 32) :
    next_frame (frame_wire body ++ rest) = some (some body,(frame_wire body).length) := by
  have size : (to_le_bytes LENGTH_PREFIX_SIZE body.length).length = LENGTH_PREFIX_SIZE := to_le_bytes_length _ _
  have declared : from_le_bytes ((frame_wire body ++ rest).take LENGTH_PREFIX_SIZE) = body.length := by
    rw [frame_wire,List.append_assoc,List.take_left' size]
    rw [from_to_le_bytes,Nat.mod_eq_of_lt (by simpa [LENGTH_PREFIX_SIZE] using fits)]
  have after : (frame_wire body ++ rest).drop LENGTH_PREFIX_SIZE = body ++ rest := by
    rw [frame_wire,List.append_assoc,List.drop_left' size]
  have total : (frame_wire body).length = LENGTH_PREFIX_SIZE + body.length := by
    rw [frame_wire,List.length_append,size]
  simp only [next_frame,declared,after,List.take_left,total]
  rw [if_neg (by rw [List.length_append,total]; omega)]

end

/-- The frames of the socket, whatever their bodies are. -/
def frames : Framing UInt8 (List UInt8) where
  wire := frame_wire
  Carried body := body.length < 2 ^ 32
  next := next_frame
  takes := next_frame_takes
  reads := next_frame_reads
  whole := next_frame_wire

/-- The bodies of the frames that a client receives. -/
def client_frames (events : List Event) : List (List UInt8) := Framing.received frames (runs events)

/-- Frames that arrive whole, with the timeouts between them, are what is received. -/
theorem client_frames_sent {events : List Event} {bodies : List (List UInt8)} (fit : ∀ body ∈ bodies, body.length < 2 ^ 32)
    (arrived : arriving events = bodies.flatMap frame_wire)
    (between : ∀ before after, runs events = before ++ after →
      ∃ count, before.flatten = (bodies.take count).flatMap frame_wire) : client_frames events = bodies :=
  (Framing.received_iff (by rw [runs_flatten]; exact arrived)).mpr ⟨fit,between⟩

/-- The packet of a frame, unless `_read_packet` raises `ProtocolError`. -/
def frame_packet (body : List UInt8) : Option Packet := (read_body body.length body).toOption

/-- What a call gives the loop to do: a packet, or an exception. -/
def given : Except String (Option Packet) → Option (Option Packet)
  | .ok none => none
  | .ok (some packet) => some (some packet)
  | .error _ => some none

theorem frames_viewed : Viewed frames given frame_packet where
  quiet := rfl
  unfinished := by
    intro sock unfinished
    refine client_recv_unfinished ?_
    have short : sock.ready.length < LENGTH_PREFIX_SIZE + from_le_bytes (sock.ready.take LENGTH_PREFIX_SIZE) := by
      by_contra whole
      simp only [frames,next_frame,if_neg whole] at unfinished
      cases unfinished
    rw [next_packet,if_pos short]
    exact ite_self _
  next := by
    intro sock read length next
    obtain ⟨same,whole,rfl⟩ := next_frame_whole next
    subst same
    obtain ⟨after,result,ready,later⟩ := read_packet_whole whole
    have size : ((sock.ready.drop LENGTH_PREFIX_SIZE).take (from_le_bytes (sock.ready.take LENGTH_PREFIX_SIZE))).length =
        from_le_bytes (sock.ready.take LENGTH_PREFIX_SIZE) := by
      rw [List.length_take,List.length_drop]
      omega
    rw [Option.map_some,frame_packet,size]
    cases outcome : read_body (from_le_bytes (sock.ready.take LENGTH_PREFIX_SIZE))
        ((sock.ready.drop LENGTH_PREFIX_SIZE).take (from_le_bytes (sock.ready.take LENGTH_PREFIX_SIZE))) with
    | ok packet =>
      rw [outcome] at result
      exact ⟨.ok (some packet),after,by rw [client_recv,result],rfl,ready,later⟩
    | error fault =>
      obtain ⟨text,rfl⟩ := read_body_fault outcome
      rw [outcome] at result
      exact ⟨.error text,after,by rw [client_recv,result],rfl,ready,later⟩

/-! ## What the loop makes of them -/

/-- The client after a packet, or after an exception of `recv_packet`. -/
def PluginClient.face (client : PluginClient) : Option Packet → PluginClient
  | none => client.stop
  | some packet => if client.reading then client.hear packet else client

theorem stop_stopped {client : PluginClient} (stopped : client.reading = false) : client.stop = client := by
  cases client
  cases stopped
  rfl

theorem face_stopped {client : PluginClient} (stopped : client.reading = false) (packet : Option Packet) :
    client.face packet = client := by
  cases packet with
  | none => exact stop_stopped stopped
  | some packet => rw [PluginClient.face,if_neg (by rw [stopped]; decide)]

theorem faces_stopped {client : PluginClient} (stopped : client.reading = false) (packets : List (Option Packet)) :
    packets.foldl PluginClient.face client = client := by
  induction packets with
  | nil => rfl
  | cons packet packets ih => rw [List.foldl_cons,face_stopped stopped,ih]

/-- The loop does one after the other what the calls give it. -/
theorem loop_calls (turns : Nat) (client : PluginClient) (sock : Socket) :
    reader_loop turns client sock = ((client_calls turns sock).filterMap given).foldl PluginClient.face client := by
  induction turns generalizing client sock with
  | zero => rfl
  | succ turns ih =>
    cases reading : client.reading with
    | false =>
      have stays : reader_turn client sock = (client,sock) := by rw [reader_turn,if_neg (by rw [reading]; decide)]
      rw [reader_loop,stays,ih,faces_stopped reading,faces_stopped reading]
    | true =>
      rw [reader_loop,reader_turn,if_pos reading,client_calls,List.filterMap_cons]
      cases call : client_recv sock with
      | mk result after =>
        cases result with
        | error text => exact ih _ _
        | ok packet =>
          cases packet with
          | none => exact ih _ _
          | some packet =>
            simp only [given,List.foldl_cons,PluginClient.face,if_pos reading]
            exact ih _ _

/-- The client after it has received the frames. -/
def PluginClient.receive (client : PluginClient) (bodies : List (List UInt8)) : PluginClient :=
  (bodies.map frame_packet).foldl PluginClient.face client

theorem loop_receives (client : PluginClient) (events : List Event) :
    ∃ enough, ∀ turns ≥ enough, reader_loop turns client ⟨[], events⟩ = client.receive (client_frames events) := by
  obtain ⟨enough,shown⟩ := shows_all frames_viewed ⟨[], events⟩
  refine ⟨enough,?_⟩
  intro turns more
  rw [loop_calls,shown turns more,← runs_eq]
  rfl

/-- A reader that has ended does not go on. -/
theorem loop_reading {client : PluginClient} {sock : Socket} {turns more : Nat}
    (reading : (reader_loop (turns + more) client sock).reading = true) :
    (reader_loop turns client sock).reading = true := by
  induction turns generalizing client sock with
  | zero =>
    cases alive : client.reading with
    | true => exact alive
    | false =>
      rw [loop_calls,faces_stopped alive,alive] at reading
      cases reading
  | succ turns ih =>
    rw [Nat.add_right_comm,reader_loop] at reading
    exact ih reading

/-! ## The sid of the client -/

/-- The last grant is one of the sid, and no invalidation of the sid or of all sids comes after it. -/
def LastGranted (packets : List Packet) (sid : Nat) : Prop :=
  ∃ before response after, packets = before ++ response :: after ∧ response.command = Cmd.SESSION_RESPONSE.value ∧
    response.session_id = sid ∧ ∀ packet ∈ after, packet.command ≠ Cmd.SESSION_RESPONSE.value ∧
      (packet.command = Cmd.SESSION_INVALID.value → packet.session_id ≠ sid ∧ packet.session_id ≠ 0)

/-- The packets of the frames that decode. -/
def decoded (bodies : List (List UInt8)) : List Packet := bodies.filterMap frame_packet

section
variable {packets : List Packet} {packet : Packet} {sid : Nat}

theorem granted_nil : ¬ LastGranted [] sid := by
  rintro ⟨before,response,after,whole,_⟩
  simp at whole

theorem granted_response (type : packet.command = Cmd.SESSION_RESPONSE.value) :
    LastGranted (packets ++ [packet]) sid ↔ packet.session_id = sid := by
  constructor
  · rintro ⟨before,response,after,whole,response_type,same,later⟩
    rcases Suffixes.split_snoc.mp whole with ⟨_,rfl,_⟩ | ⟨middle,_,rfl⟩
    · exact same
    · exact absurd type (later packet (by simp)).1
  · rintro rfl
    exact ⟨packets,packet,[],rfl,type,rfl,by simp⟩

theorem granted_other (type : packet.command ≠ Cmd.SESSION_RESPONSE.value) :
    LastGranted (packets ++ [packet]) sid ↔
      LastGranted packets sid ∧ (packet.command = Cmd.SESSION_INVALID.value → packet.session_id ≠ sid ∧ packet.session_id ≠ 0) := by
  constructor
  · rintro ⟨before,response,after,whole,response_type,same,later⟩
    rcases Suffixes.split_snoc.mp whole with ⟨_,rfl,_⟩ | ⟨middle,front,rfl⟩
    · exact absurd response_type type
    · exact ⟨⟨before,response,middle,front,response_type,same,fun other member => later other (by simp [member])⟩,
        (later packet (by simp)).2⟩
  · rintro ⟨⟨before,response,after,rfl,response_type,same,later⟩,last⟩
    refine ⟨before,response,after ++ [packet],by simp,response_type,same,?_⟩
    intro other member
    rcases List.mem_append.mp member with old | new
    · exact later other old
    · rw [List.mem_singleton.mp new]
      exact ⟨type,last⟩

end

/-! ## When the reader goes on -/

section
variable {client : PluginClient} {packet : Packet}

/-- The packet does not end the reader: the status of an invalidation is known, and where it takes the sid
    from a client that asks again, the request can be written. -/
def PluginClient.Bears (client : PluginClient) (packet : Packet) : Prop :=
  packet.command = Cmd.SESSION_INVALID.value → (∃ status, invalid_status packet.payload = some status) ∧
    (client.auto_reacquire = true → packet.session_id = 0 ∨ client.sid = some packet.session_id →
      client.plugin_name.length ≤ 0xFFFF)

theorem write_request (name : List UInt8) :
    (∃ bytes, [make_request_session name].mapM write_packet = .ok bytes) ↔ name.length ≤ 0xFFFF := by
  have framed : (make_request_session name).Framed ↔ name.length ≤ 0xFFFF := by
    simp [Packet.Framed,make_request_session,SESSION_BROADCAST]
  rw [← framed]
  constructor
  · rintro ⟨bytes,written⟩
    exact (writes_wire written).1 _ (by simp)
  · intro fits
    refine ⟨[packet_wire (make_request_session name)],?_⟩
    simp only [List.mapM_cons,List.mapM_nil,write_packet,packet_wire,encode_framed fits]
    rfl

/-- What `_dispatch` does with a packet. -/
inductive Dispatched (client : PluginClient) (packet : Packet) : PluginClient × List Packet → Prop
  | granted (type : packet.command = Cmd.SESSION_RESPONSE.value) :
      Dispatched client packet ({ client with sid := some packet.session_id },[])
  | unknown (type : packet.command = Cmd.SESSION_INVALID.value) (status : invalid_status packet.payload = none) :
      Dispatched client packet (client.stop,[])
  | foreign (type : packet.command = Cmd.SESSION_INVALID.value) (known : ∃ status, invalid_status packet.payload = some status)
      (some_sid : packet.session_id ≠ 0) (other : client.sid ≠ some packet.session_id) : Dispatched client packet (client,[])
  | taken (type : packet.command = Cmd.SESSION_INVALID.value) (known : ∃ status, invalid_status packet.payload = some status)
      (own : packet.session_id = 0 ∨ client.sid = some packet.session_id) :
      Dispatched client packet ({ client with sid := none },
        if client.auto_reacquire then [make_request_session client.plugin_name] else [])
  | other (no_grant : packet.command ≠ Cmd.SESSION_RESPONSE.value) (no_end : packet.command ≠ Cmd.SESSION_INVALID.value) :
      Dispatched client packet (client,[])

theorem dispatch_dispatched (client : PluginClient) (packet : Packet) : Dispatched client packet (client.dispatch packet) := by
  unfold PluginClient.dispatch
  by_cases response : packet.command = Cmd.SESSION_RESPONSE.value
  · rw [if_pos response]
    exact .granted response
  · by_cases invalid : packet.command = Cmd.SESSION_INVALID.value
    · rw [if_neg response,if_pos invalid]
      cases status : invalid_status packet.payload with
      | none => exact .unknown invalid status
      | some known =>
        by_cases foreign : packet.session_id ≠ 0 ∧ some packet.session_id ≠ client.sid
        · simp only [if_pos foreign]
          exact .foreign invalid ⟨known,status⟩ foreign.1 foreign.2.symm
        · simp only [if_neg foreign]
          refine .taken invalid ⟨known,status⟩ ?_
          by_contra neither
          exact foreign ⟨fun zero => neither (.inl zero),fun held => neither (.inr held.symm)⟩
    · rw [if_neg response,if_neg invalid]
      exact .other response invalid

theorem grant_no_end (type : packet.command = Cmd.SESSION_RESPONSE.value) : packet.command ≠ Cmd.SESSION_INVALID.value := by
  rw [type]
  decide

/-- The reader goes on after the packets that it bears. -/
theorem hear_reading (reading : client.reading = true) : (client.hear packet).reading = true ↔ client.Bears packet := by
  have dispatched := dispatch_dispatched client packet
  generalize outcome : client.dispatch packet = result at dispatched
  rw [PluginClient.hear,outcome]
  cases dispatched with
  | granted type => exact ⟨fun _ invalid => absurd invalid (grant_no_end type),fun _ => reading⟩
  | unknown type status =>
    constructor
    · intro alive
      cases alive
    · intro bears
      obtain ⟨known,same⟩ := (bears type).1
      rw [status] at same
      cases same
  | foreign type known some_sid other =>
    refine ⟨fun _ _ => ⟨known,fun _ own => ?_⟩,fun _ => reading⟩
    rcases own with all | held
    · exact absurd all some_sid
    · exact absurd held other
  | taken type known own =>
    by_cases again : client.auto_reacquire = true
    · rw [if_pos again]
      have request := write_request client.plugin_name
      cases written : [make_request_session client.plugin_name].mapM write_packet with
      | ok bytes => exact ⟨fun _ _ => ⟨known,fun _ _ => request.mp ⟨bytes,written⟩⟩,fun _ => reading⟩
      | error text =>
        constructor
        · intro alive
          cases alive
        · intro bears
          obtain ⟨bytes,done⟩ := request.mpr ((bears type).2 again own)
          rw [written] at done
          cases done
    · rw [if_neg again]
      exact ⟨fun _ _ => ⟨known,fun asks => absurd asks again⟩,fun _ => reading⟩
  | other no_grant no_end => exact ⟨fun _ type => absurd type no_end,fun _ => reading⟩

/-- What the reader does not change, whether it goes on or not. -/
theorem hear_fields (client : PluginClient) (packet : Packet) :
    (client.hear packet).plugin_name = client.plugin_name ∧ (client.hear packet).auto_reacquire = client.auto_reacquire ∧
      (client.hear packet).sid = (client.dispatch packet).1.sid := by
  have dispatched := dispatch_dispatched client packet
  generalize outcome : client.dispatch packet = result at dispatched
  rw [PluginClient.hear,outcome]
  cases dispatched <;> split <;> exact ⟨rfl,rfl,rfl⟩

/-- A client that held what it was granted holds it after a packet that it bears. -/
theorem hear_granted {packets : List Packet} (held : ∀ sid, client.sid = some sid ↔ LastGranted packets sid)
    (bears : client.Bears packet) (sid : Nat) : (client.hear packet).sid = some sid ↔ LastGranted (packets ++ [packet]) sid := by
  rw [(hear_fields client packet).2.2]
  have dispatched := dispatch_dispatched client packet
  generalize client.dispatch packet = result at dispatched
  cases dispatched with
  | granted type =>
    rw [granted_response type]
    exact Option.some_inj
  | unknown type status =>
    obtain ⟨known,same⟩ := (bears type).1
    rw [status] at same
    cases same
  | foreign type known some_sid other =>
    rw [granted_other (fun grant => grant_no_end grant type),← held]
    refine ⟨fun same => ⟨same,fun _ => ⟨?_,some_sid⟩⟩,And.left⟩
    rintro rfl
    exact other same
  | taken type known own =>
    rw [granted_other (fun grant => grant_no_end grant type),← held]
    constructor
    · intro same
      cases same
    · rintro ⟨same,spared⟩
      rcases own with all | mine
      · exact absurd all (spared type).2
      · rw [mine] at same
        exact absurd (Option.some.inj same) (spared type).1
  | other no_grant no_end =>
    rw [granted_other no_grant,← held]
    exact ⟨fun same => ⟨same,fun type => absurd type no_end⟩,And.left⟩

end

/-- The frame decodes, an invalidation has a known status or none, and where it ends the session of a client that
    asks again the name of the plugin fits a frame. The packets are those before it. -/
def Borne (plugin_name : List UInt8) (auto_reacquire : Bool) (packets : List Packet) (body : List UInt8) : Prop :=
  ∃ packet, Packet.decode body = .ok packet ∧ (packet.command = Cmd.SESSION_INVALID.value →
    (∃ status, invalid_status packet.payload = some status) ∧
      (auto_reacquire = true → packet.session_id = 0 ∨ LastGranted packets packet.session_id → plugin_name.length ≤ 0xFFFF))

/-- Each frame is borne. -/
def Bearable (plugin_name : List UInt8) (auto_reacquire : Bool) (bodies : List (List UInt8)) : Prop :=
  ∀ before body after, bodies = before ++ body :: after → Borne plugin_name auto_reacquire (decoded before) body

section
variable {plugin_name : List UInt8} {auto_reacquire : Bool} {bodies : List (List UInt8)} {body : List UInt8}

theorem bearable_nil : Bearable plugin_name auto_reacquire [] := by
  intro before body after whole
  simp at whole

theorem bearable_snoc : Bearable plugin_name auto_reacquire (bodies ++ [body]) ↔
    Bearable plugin_name auto_reacquire bodies ∧ Borne plugin_name auto_reacquire (decoded bodies) body :=
  Suffixes.everywhere_snoc

theorem frame_packet_decode {packet : Packet} : frame_packet body = some packet ↔ Packet.decode body = .ok packet := by
  rw [frame_packet,read_body]
  split
  · rename_i short
    rw [Packet.decode,if_pos short]
    constructor <;> intro same <;> cases same
  · cases Packet.decode body with
    | ok read => exact ⟨fun same => by cases same; rfl,fun same => by cases same; rfl⟩
    | error text => constructor <;> intro same <;> cases same

theorem borne_packet {client : PluginClient} {packets : List Packet} {packet : Packet} (read : frame_packet body = some packet)
    (held : ∀ sid, client.sid = some sid ↔ LastGranted packets sid) :
    Borne client.plugin_name client.auto_reacquire packets body ↔ client.Bears packet := by
  have decodes := frame_packet_decode.mp read
  rw [PluginClient.Bears,held]
  constructor
  · rintro ⟨other,decodes',bears⟩
    rw [decodes] at decodes'
    cases decodes'
    exact bears
  · intro bears
    exact ⟨packet,decodes,bears⟩

/-- A frame that does not decode is not borne. -/
theorem borne_none {packets : List Packet} (read : frame_packet body = none) : ¬ Borne plugin_name auto_reacquire packets body := by
  rintro ⟨packet,decodes,_⟩
  rw [frame_packet_decode.mpr decodes] at read
  cases read

end

/-- What a client is after the frames. -/
structure Received (plugin_name : List UInt8) (auto_reacquire : Bool) (bodies : List (List UInt8)) (client : PluginClient) :
    Prop where
  name : client.plugin_name = plugin_name
  auto : client.auto_reacquire = auto_reacquire
  reading : client.reading = true ↔ Bearable plugin_name auto_reacquire bodies
  held : client.reading = true → ∀ sid, client.sid = some sid ↔ LastGranted (decoded bodies) sid

theorem received_next {plugin_name : List UInt8} {auto_reacquire : Bool} {bodies : List (List UInt8)}
    {client : PluginClient} (body : List UInt8) (before : Received plugin_name auto_reacquire bodies client) :
    Received plugin_name auto_reacquire (bodies ++ [body]) (client.face (frame_packet body)) := by
  obtain ⟨rfl,rfl,reading,held⟩ := before
  cases read : frame_packet body with
  | none =>
    refine ⟨rfl,rfl,⟨fun alive => (by cases alive),fun bearable => ?_⟩,fun alive => (by cases alive)⟩
    exact absurd (bearable_snoc.mp bearable).2 (borne_none read)
  | some packet =>
    have more : decoded (bodies ++ [body]) = decoded bodies ++ [packet] := by simp [decoded,read]
    cases alive : client.reading with
    | false =>
      have off : ¬ client.reading = true := by
        rw [alive]
        decide
      rw [face_stopped alive]
      exact ⟨rfl,rfl,⟨fun on => absurd on off,fun bearable => reading.mpr (bearable_snoc.mp bearable).1⟩,fun on => absurd on off⟩
    | true =>
      have hears : client.face (some packet) = client.hear packet := if_pos alive
      have fields := hear_fields client packet
      rw [hears]
      refine ⟨fields.1,fields.2.1,?_,fun on => ?_⟩
      · rw [hear_reading alive,bearable_snoc,borne_packet read (held alive)]
        exact (and_iff_right (reading.mp alive)).symm
      · rw [more]
        exact hear_granted (held alive) ((hear_reading alive).mp on)

theorem receive_received (plugin_name : List UInt8) (auto_reacquire : Bool) (bodies : List (List UInt8)) :
    Received plugin_name auto_reacquire bodies ((PluginClient.new plugin_name auto_reacquire).receive bodies) := by
  induction bodies using List.reverseRecOn with
  | nil =>
    refine ⟨rfl,rfl,⟨fun _ => bearable_nil,fun _ => rfl⟩,fun _ sid => ⟨fun same => ?_,fun granted => absurd granted granted_nil⟩⟩
    cases same
  | append_singleton bodies body ih =>
    rw [PluginClient.receive,List.map_append,List.foldl_append]
    exact received_next body ih

/-- The reader neither ends nor stops, and when all frames are received the client holds what it was granted. -/
def ReaderKeeps (plugin_name : List UInt8) (auto_reacquire : Bool) (events : List Event) : Prop :=
  (∀ turns, (reader_loop turns (.new plugin_name auto_reacquire) ⟨[], events⟩).reading = true) ∧
    ∃ enough, ∀ turns ≥ enough, ∀ sid,
      (reader_loop turns (.new plugin_name auto_reacquire) ⟨[], events⟩).sid = some sid ↔
        LastGranted (decoded (client_frames events)) sid

/-- The reader of a client goes on, and the client holds the sid of its last grant unless that was invalidated, exactly
    when it bears each frame that it receives. -/
theorem reader_keeps_iff (plugin_name : List UInt8) (auto_reacquire : Bool) (events : List Event) :
    ReaderKeeps plugin_name auto_reacquire events ↔ Bearable plugin_name auto_reacquire (client_frames events) := by
  obtain ⟨enough,receives⟩ := loop_receives (.new plugin_name auto_reacquire) events
  obtain ⟨_,_,reading,held⟩ := receive_received plugin_name auto_reacquire (client_frames events)
  constructor
  · rintro ⟨alive,_⟩
    rw [← reading,← receives enough (Nat.le_refl _)]
    exact alive enough
  · intro bearable
    have alive := reading.mpr bearable
    refine ⟨?_,enough,?_⟩
    · intro turns
      rw [← receives (turns + enough) (Nat.le_add_left _ _)] at alive
      exact loop_reading alive
    · intro turns more sid
      rw [receives turns more]
      exact held alive sid

/-- An invalidation of all sids with a status byte that is no `Status`. -/
def unknown_status : List Event := [.segment 7 [0, 0, 0, 0x10, 3, 0, 0, 1, 0, 9]]

theorem reader_ends : ¬ ∀ plugin_name auto_reacquire events, ReaderKeeps plugin_name auto_reacquire events := by
  intro all
  have alive := (all [] true unknown_status).1 1
  revert alive
  decide

end VibeBridge.Python
