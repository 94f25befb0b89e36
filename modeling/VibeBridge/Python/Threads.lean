import VibeBridge.Python.Requests

/-!
The daemon with the threads of its clients. A thread that handles a
REQUEST_SESSION first finds the device there, then puts the request on the list of
those that are pending, and then forwards the packet; other threads may have their
turns in between, and take the device away. All other handlers are atomic still.
-/
namespace VibeBridge.Python
open Transitions

/-- The daemon, and the clients whose threads are in `_forward_session_request_to_board`: which packet they handle,
    and whether its request is pending already. -/
structure Threads where
  daemon : Daemon
  handling : Dict Client (Packet × Bool)

inductive Turn
  | event (event : Event)
  | pends (client : Client)
  | forwards (client : Client)

/-- The client whose thread handles the event. -/
def Event.client : Event → Option Client
  | .client_packet client _ _ => some client
  | .disconnect client => some client
  | _ => none

/-- The thread that would handle the event is not done with a request. -/
def Threads.Busy (threads : Threads) (event : Event) : Prop := ∃ client ∈ event.client, client ∈ threads.handling.keys

instance (threads : Threads) (event : Event) : Decidable (threads.Busy event) :=
  inferInstanceAs (Decidable (∃ client ∈ event.client, _))

/-- The event is a request that is for the board. -/
def Daemon.Accepts (daemon : Daemon) (event : Event) (client : Client) (packet : Packet) : Prop :=
  Sends daemon event client packet ∧ daemon.hid = true ∧ packet.Requests

/-- The end of `_forward_session_request_to_board`. -/
def Daemon.finish_request (daemon : Daemon) (packet : Packet) (client : Client) : Daemon :=
  match daemon.forward_packet_to_board packet with
  | (daemon,true) => daemon
  | (daemon,false) => (daemon.drop_pending_session client (plugin_hint packet.payload)).send client
      (make_session_invalid SESSION_BROADCAST .INVALID)

def Daemon.pend_request (daemon : Daemon) (packet : Packet) (client : Client) : Daemon :=
  { daemon with pending_sessions := daemon.pending_sessions ++ [(client,plugin_hint packet.payload)] }

/-- An event that no busy thread has to handle; a request for the board is only begun. -/
def Threads.begin (threads : Threads) (event : Event) : Threads :=
  match event with
  | .client_packet client packet _ =>
    if threads.daemon.Hears client packet ∧ threads.daemon.hid = true ∧ packet.Requests then
      { threads with handling := threads.handling.set client (packet,false) }
    else { threads with daemon := threads.daemon.handle event }
  | _ => { threads with daemon := threads.daemon.handle event }

def Threads.take (threads : Threads) : Turn → Threads
  | .event event => if threads.Busy event then threads else threads.begin event
  | .pends client =>
    match threads.handling.get client with
    | some (packet,false) => ⟨threads.daemon.pend_request packet client,threads.handling.set client (packet,true)⟩
    | _ => threads
  | .forwards client =>
    match threads.handling.get client with
    | some (packet,true) => ⟨threads.daemon.finish_request packet client,threads.handling.pop client⟩
    | _ => threads

abbrev ThreadMove := Move Threads Turn Unit

def threads : System Threads Turn Unit := fun m => m.post = m.pre.take m.input

def Threads.start (config : DaemonConfig) : Threads := ⟨.start config,.empty⟩

def ThreadRun (config : DaemonConfig) (ms : List ThreadMove) (t : Threads) : Prop := Path threads (.start config) ms t

/-- A thread has its turn. -/
def thread_step (t : Threads) (turn : Turn) : Threads × Unit := (t.take turn,())

theorem thread_turns (config : DaemonConfig) (turns : List Turn) :
    ThreadRun config (moves thread_step (.start config) turns) (finish thread_step (.start config) turns) := by
  refine moves_path _ turns ?_
  intro m member
  exact (congrArg Prod.fst (moves_step member)).symm

section
variable {t : Threads} {event : Event}

/-- What is not a request for the board is handled at once. -/
theorem begin_other (other : ¬ ∃ client packet, t.daemon.Accepts event client packet) :
    t.begin event = { t with daemon := t.daemon.handle event } := by
  cases event with
  | client_packet client packet clock =>
    have refused : ¬ (t.daemon.Hears client packet ∧ t.daemon.hid = true ∧ packet.Requests) := by
      rintro ⟨heard,hid,requests⟩
      exact other ⟨client,packet,⟨heard,clock,rfl⟩,hid,requests⟩
    simp only [Threads.begin,if_neg refused]
  | _ => rfl

theorem begin_accepted {client : Client} {packet : Packet} (accepts : t.daemon.Accepts event client packet) :
    t.begin event = { t with handling := t.handling.set client (packet,false) } := by
  obtain ⟨⟨heard,clock,rfl⟩,hid,requests⟩ := accepts
  simp only [Threads.begin,if_pos (And.intro heard (And.intro hid requests))]

/-- A thread that is not interrupted handles its request as the daemon does. -/
theorem undisturbed {client : Client} {packet : Packet} (accepts : t.daemon.Accepts event client packet)
    (free : client ∉ t.handling.keys) :
    (((t.take (.event event)).take (.pends client)).take (.forwards client)).daemon = t.daemon.handle event := by
  have idle : ¬ t.Busy event := by
    obtain ⟨⟨_,clock,rfl⟩,_⟩ := accepts
    rintro ⟨other,same,busy⟩
    cases same
    exact free busy
  obtain ⟨⟨heard,clock,input⟩,hid,requests⟩ := id accepts
  have handled : t.daemon.handle event = (t.daemon.pend_request packet client).finish_request packet client := by
    rw [input]
    simp only [Daemon.handle,if_pos heard,Daemon.handle_packet,of_value_iff.mpr requests,if_pos hid,
      Daemon.handle_plugin_packet_real]
    rfl
  rw [handled,Threads.take,if_neg idle,begin_accepted accepts]
  simp only [Threads.take,Dict.get_set,if_true]

end
end VibeBridge.Python
