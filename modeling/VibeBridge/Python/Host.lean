import VibeBridge.Transitions
import VibeBridge.Python.Daemon

/-!
The Python daemon as a transition system. An event is one turn of a thread: a
connection that is accepted or ends, a packet of a client, a packet of the
board, a turn of the reaper, of the heartbeat or of the HID writer, and the
reader finding the device closed. A frame that is not a packet ends the
connection, so only packets are events.
-/
namespace VibeBridge.Python
open Transitions

inductive Event
  | connect
  | disconnect (client : Client)
  | client_packet (client : Client) (packet : Packet) (clock : Clock)
  | board_packet (packet : Packet) (clock : Clock)
  | reap (now : Int)
  | heartbeat
  | write (writes : Bool)
  | device_lost

/-- A client is heard while it is connected, in packets that its frames can hold. -/
def Daemon.Hears (daemon : Daemon) (client : Client) (packet : Packet) : Prop := client ∈ daemon.clients ∧ packet.Framed

instance (daemon : Daemon) (client : Client) (packet : Packet) : Decidable (daemon.Hears client packet) :=
  inferInstanceAs (Decidable (_ ∧ _))

/-- The board is heard only with a HID device, and the writer runs until it has returned. -/
def Daemon.handle (daemon : Daemon) : Event → Daemon
  | .connect => { daemon with clients := daemon.clients ++ [daemon.accepted], accepted := daemon.accepted + 1 }
  | .disconnect client => if client ∈ daemon.clients then daemon.disconnect client else daemon
  | .client_packet client packet clock =>
    if daemon.Hears client packet then daemon.handle_packet packet client clock else daemon
  | .board_packet packet clock => if daemon.hid_sink then daemon.handle_hid_packet packet clock else daemon
  | .reap now => daemon.reap now
  | .heartbeat => daemon.heartbeat
  | .write writes => if daemon.writing then daemon.write_next writes else daemon
  | .device_lost => if daemon.hid_sink then daemon.mark_hidraw_unavailable else daemon

abbrev HostMove := Move Daemon Event Unit

/-- The moves of the daemon. -/
def host : System Daemon Event Unit := fun m => m.post = m.pre.handle m.input

/-- A run of the daemon from its start. -/
def HostRun (config : DaemonConfig) (ms : List HostMove) (daemon : Daemon) : Prop := Path host (.start config) ms daemon

/-- The states that a daemon with this configuration can be in. -/
def Reached (config : DaemonConfig) (daemon : Daemon) : Prop := ∃ ms, HostRun config ms daemon

/-- The daemon handles an event. -/
def host_step (daemon : Daemon) (event : Event) : Daemon × Unit := (daemon.handle event,())

/-- Events handled one after another are a run. -/
theorem host_events (config : DaemonConfig) (events : List Event) :
    HostRun config (moves host_step (.start config) events) (finish host_step (.start config) events) := by
  refine moves_path _ events ?_
  intro m member
  exact (congrArg Prod.fst (moves_step member)).symm

/-- What a move does outside the tables of the daemon. -/
def effects (m : HostMove) : List Effect := m.post.log.drop m.pre.log.length

/-! ## Events at time 0 -/

/-- A daemon with a HID device and the default limits. -/
def DaemonConfig.real : DaemonConfig := { hidraw := true, in_range := by decide }

def Event.asks (client : Client) : Event := .client_packet client (make_request_session []) ⟨0,0⟩

def Event.streams (client : Client) (sid : Nat) (data : List UInt8) : Event :=
  .client_packet client (make_vt100_chunk sid data) ⟨0,0⟩

def Event.allots (sid : Nat) : Event := .board_packet (make_session_response sid .CREATED) ⟨0,0⟩

def Event.focuses (sid : Nat) : Event := .board_packet (make_session_focus sid) ⟨0,0⟩

end VibeBridge.Python
