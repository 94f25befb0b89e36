import VibeBridge.Transitions
import VibeBridge.Daemon

/-!
The daemon as a transition system. An event is one call that a thread makes
while it holds the daemon's lock: a JSON line of a client, a message of the
board, the calls of the discovery thread, a heartbeat tick, a flush of the
outbox or its draining. Before each of them the hash map of the registered
agents may iterate in any order.
-/
namespace VibeBridge.Bridge
open Transitions
open VibeBridge.Core VibeBridge.Protocol VibeBridge.Agent VibeBridge.Envelope VibeBridge.Daemon

inductive Event
  /-- A JSON line as it deserializes, and what the transcript poller would find. -/
  | json_line (line : Except String RegistrationEnvelope) (polled : Except String AgentPollSnapshot)
  | board_message (msg : HidMessage)
  | discovered_sessions (sessions : List AgentSession)
  | discovered_turns (turns : List DiscoveredTurn)
  | prune (latest : List AgentSession)
  | heartbeat
  | flush (is_connected : Bool) (send : Sends)
  | drain

/-- What a call returns; a flush also tells which frames the transport took. -/
inductive Reply
  | json (answer : Answer)
  | board (result : Except String Unit)
  | count (n : Nat)
  | dropped (keys : List AgentKey)
  | nothing
  | flushed (delivered : List HidMessage) (result : Except String Unit)
  | drained (msgs : List HidMessage)

def handle (daemon : BridgeDaemon) : Event → BridgeDaemon × Reply
  | .json_line line polled => let r := handle_json_line daemon line polled; (r.1, .json r.2)
  | .board_message msg => let r := handle_board_message daemon msg; (r.1, .board r.2)
  | .discovered_sessions sessions => let r := register_discovered_sessions daemon sessions; (r.1, .count r.2)
  | .discovered_turns turns => let r := ingest_discovered_turns daemon turns; (r.1, .count r.2)
  | .prune latest => let r := prune_missing_passive_sessions daemon latest; (r.1, .dropped r.2)
  | .heartbeat => (push_heartbeats daemon, .nothing)
  | .flush is_connected send => let r := flush_board_outbox daemon is_connected send; (r.1, .flushed r.2.1 r.2.2)
  | .drain => let r := drain_board_outbox daemon; (r.1, .drained r.2)

/-- The same daemon with another iteration order of its agents. -/
def Rehashed (daemon other : BridgeDaemon) : Prop :=
  ∃ registered, KeyedMap.Reordered daemon.registered registered ∧ other = { daemon with registered := registered }

/-- The moves of the daemon. -/
abbrev BridgeMove := Move BridgeDaemon Event Reply

/-- A move handles its event in some iteration order of the agents. -/
def bridge : System BridgeDaemon Event Reply := fun m =>
  ∃ daemon, Rehashed m.pre daemon ∧ handle daemon m.input = (m.post, m.output)

theorem rehashed_refl (daemon : BridgeDaemon) : Rehashed daemon daemon :=
  ⟨daemon.registered,List.Perm.refl _,rfl⟩

/-- The move that handles the event in the order at hand. -/
def move_of (daemon : BridgeDaemon) (event : Event) : BridgeMove :=
  ⟨daemon,event,(handle daemon event).1,(handle daemon event).2⟩

theorem bridge_move_of (daemon : BridgeDaemon) (event : Event) : bridge (move_of daemon event) :=
  ⟨daemon,rehashed_refl daemon,rfl⟩

/-- The record of an agent does not depend on the order. -/
theorem rehashed_lookup {daemon other : BridgeDaemon} (same : Rehashed daemon other) (key : AgentKey) :
    other.registered.lookup key = daemon.registered.lookup key := by
  obtain ⟨registered,order,rfl⟩ := same
  exact KeyedMap.lookup_reordered order key

/-- A run of the daemon from its start. -/
def Run (ms : List BridgeMove) (daemon : BridgeDaemon) : Prop := Path bridge BridgeDaemon.new ms daemon

/-- The states that the daemon can be in. -/
def Reachable (daemon : BridgeDaemon) : Prop := ∃ ms, Run ms daemon

/-- Inputs handled one after another are a run. -/
theorem run_events (events : List Event) :
    Run (moves handle BridgeDaemon.new events) (finish handle BridgeDaemon.new events) :=
  moves_path BridgeDaemon.new events (fun m member => ⟨m.pre,rehashed_refl m.pre,moves_step member⟩)

/-! ### What the parties see of a state -/

/-- The sid of an agent, if it is registered and has one. -/
def sid_of (daemon : BridgeDaemon) (key : AgentKey) : Option BoardSid :=
  (daemon.registered.lookup key).bind (·.board_sid)

theorem sid_of_iff {daemon : BridgeDaemon} {key : AgentKey} {sid : BoardSid} :
    sid_of daemon key = some sid ↔ ∃ agent, daemon.registered.lookup key = some agent ∧ agent.board_sid = some sid := by
  simp [sid_of,Option.bind_eq_some_iff]

end VibeBridge.Bridge
