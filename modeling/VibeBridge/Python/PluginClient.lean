import VibeBridge.Python.HidProtocol

/-!
The client of a plugin (`plugin_client.py`): the sid that it holds and its
reader thread. A status byte that is no `Status` raises an exception in the
reader, which ends with it. The callbacks of the plugin are left out; what they
send is a packet of the plugin like any other.
-/
namespace VibeBridge.Python

structure PluginClient where
  plugin_name : List UInt8
  auto_reacquire : Bool
  /-- `_sid` -/
  sid : Option Nat
  /-- The reader thread has not ended. -/
  reading : Bool
  deriving DecidableEq

/-- The client after `__init__` and `connect`. -/
def PluginClient.new (plugin_name : List UInt8) (auto_reacquire : Bool) : PluginClient := ⟨plugin_name,auto_reacquire,none,true⟩

/-- The status of a SESSION_INVALID, unless `Status(...)` raises. -/
def invalid_status (payload : List UInt8) : Option Status :=
  match payload with
  | [] => some .INVALID
  | byte :: _ => Status.of_byte byte

/-- `_dispatch`: the client after it, and the packets that it sends. -/
def PluginClient.dispatch (client : PluginClient) (packet : Packet) : PluginClient × List Packet :=
  if packet.command = Cmd.SESSION_RESPONSE.value then ({ client with sid := some packet.session_id },[])
  else if packet.command = Cmd.SESSION_INVALID.value then
    match invalid_status packet.payload with
    | none => ({ client with reading := false },[])
    | some _ =>
      if packet.session_id ≠ 0 ∧ some packet.session_id ≠ client.sid then (client,[])
      else ({ client with sid := none },if client.auto_reacquire then [make_request_session client.plugin_name] else [])
  else (client,[])

/-- A turn of `_reader_loop` with a packet. -/
def PluginClient.take (client : PluginClient) (packet : Packet) : Option PluginClient :=
  if client.reading then some (client.dispatch packet).1 else none

/-- The client after it has taken all of the packets. -/
def PluginClient.take_all (client : PluginClient) (packets : List Packet) : Option PluginClient := packets.foldlM PluginClient.take client

section
variable {client client' : PluginClient} {packet : Packet} {sid : Nat}

theorem take_all_append {packets packets' : List Packet} : client.take_all (packets ++ packets') = some client' ↔
    ∃ mid, client.take_all packets = some mid ∧ mid.take_all packets' = some client' := by
  rw [PluginClient.take_all,List.foldlM_append,Option.bind_eq_bind,Option.bind_eq_some_iff]
  rfl

theorem take_all_one : client.take_all [packet] = some client' ↔ client.take packet = some client' := by
  rw [PluginClient.take_all,List.foldlM_cons,Option.bind_eq_bind]
  cases client.take packet <;> simp

theorem take_dispatch (took : client.take packet = some client') : client' = (client.dispatch packet).1 := by
  unfold PluginClient.take at took
  split at took
  · exact (Option.some.inj took).symm
  · cases took

/-- A grant is what the client holds after it. -/
theorem take_response (type : packet.command = Cmd.SESSION_RESPONSE.value) (took : client.take packet = some client') :
    client'.sid = some packet.session_id := by
  rw [take_dispatch took,PluginClient.dispatch,if_pos type]

/-- Only a grant gives the client a sid. -/
theorem take_keeps (type : packet.command ≠ Cmd.SESSION_RESPONSE.value) (took : client.take packet = some client')
    (held : client'.sid = some sid) : client.sid = some sid := by
  rw [take_dispatch took,PluginClient.dispatch,if_neg type] at held
  split at held
  · split at held
    · exact held
    · split at held
      · exact held
      · cases held
  · exact held

/-- After the invalidation of a sid the client does not hold it. -/
theorem take_invalid {status : Status} (type : packet.command = Cmd.SESSION_INVALID.value)
    (known : invalid_status packet.payload = some status) (took : client.take packet = some client') :
    client'.sid ≠ some packet.session_id := by
  have other : packet.command ≠ Cmd.SESSION_RESPONSE.value := by
    rw [type]
    decide
  intro held
  rw [take_dispatch took,PluginClient.dispatch,if_neg other,if_pos type,known] at held
  by_cases foreign : packet.session_id ≠ 0 ∧ some packet.session_id ≠ client.sid
  · simp only [if_pos foreign] at held
    exact foreign.2 held.symm
  · simp only [if_neg foreign] at held
    cases held

theorem invalid_status_byte (status : Status) : invalid_status [status.byte] = some status := by
  cases status <;> rfl

end
end VibeBridge.Python
