import VibeBridge.Python.Windows

/-!
Who owns the sessions. When a client leaves, the sessions that it owns are
closed, but its request may still wait at the board: a grant that comes later
makes it the owner of a session that nobody uses (`Stray`). Otherwise every
session has an owner that is connected (`served_iff`).
-/
namespace VibeBridge.Python
open Transitions

/-- Every live session has an owner that is still connected. -/
def Served (daemon : Daemon) : Prop :=
  ∀ sid, daemon.sessions.Live sid → ∃ client, daemon.owners.get sid = some client ∧ client ∈ daemon.clients

/-- The board grants a sid while the first of the pending requests is from a client that has gone. -/
def Stray (m : HostMove) : Prop := ∃ client sid, BoardGrants m.pre m.input client sid ∧ client ∉ m.pre.clients

/-- While the event goes on, the owners are connected. -/
structure Attending (pre a : Daemon) : Prop where
  windows : Windows a
  owned : ∀ sid client, a.owners.get sid = some client → client ∈ a.clients
  stays : ∀ client, client ∈ pre.clients → client ∈ a.clients

section
variable {pre : Daemon} {event : Event}

theorem served_windows {daemon : Daemon} (windows : Windows daemon) :
    Served daemon ↔ ∀ sid client, daemon.owners.get sid = some client → client ∈ daemon.clients := by
  constructor
  · intro served sid client owned
    obtain ⟨client',owned',connected⟩ := served sid ((windows.owned sid).mpr (Dict.mem_keys.mpr ⟨client,owned⟩))
    cases owned.symm.trans owned'
    exact connected
  · intro owners sid live
    obtain ⟨client,owned⟩ := Dict.mem_keys.mp ((windows.owned sid).mp live)
    exact ⟨client,owned,owners sid client owned⟩

theorem attending_traffic {allowed : Allowed} {a b : Daemon} (traffic : Traffic allowed a b) (windows : Windows b)
    (attending : Attending pre a) : Attending pre b := by
  refine ⟨windows,?_,?_⟩
  · rw [traffic.tables]
    exact attending.owned
  · rw [traffic.tables]
    exact attending.stays

/-- Where no client leaves and no client that has gone gets a session, the owners stay connected. -/
theorem attending_act (remain : ∀ client, event ≠ .disconnect client)
    (granted : ∀ client sid, BoardGrants pre event client sid → client ∈ pre.clients) (a b : Daemon) (act : Act pre event a b)
    (attending : Attending pre a) : Attending pre b := by
  have windows := windows_act a b act attending.windows
  obtain ⟨before,owned,stays⟩ := attending
  cases act with
  | traffic traffic => exact attending_traffic traffic windows ⟨before,owned,stays⟩
  | @asked client packet _ _ =>
    have asked : Traffic Anything a (a.forward_packet_to_board packet).1 := traffic_forward a trivial
    exact attending_traffic asked windows ⟨before,owned,stays⟩
  | @closed manager told closes =>
    have shut := shut_close a manager told
    refine ⟨windows,?_,by rw [shut.clients]; exact stays⟩
    intro sid client owner
    rw [shut.owners] at owner
    rw [shut.clients]
    split at owner
    · cases owner
    · exact owned sid client owner
  | @opened manager told gone retired sid client packet opening cause =>
    have connected : client ∈ pre.clients := by
      rcases cause with ⟨request,sends,_⟩ | grants
      · exact sends.1.1
      · exact granted client sid grants
    have clients : (((a.close manager told).open_window gone sid client).retire retired .RECLAIMED).clients = a.clients :=
      (retire_frame retired .RECLAIMED _).2.2.trans (shut_close a manager told).clients
    refine ⟨windows,?_,?_⟩
    · intro sid' client' owner
      change (((a.close manager told).open_window gone sid client).retire retired .RECLAIMED).owners.get sid' = _ at owner
      change client' ∈ (((a.close manager told).open_window gone sid client).retire retired .RECLAIMED).clients
      rw [opening_owners before opening] at owner
      rw [clients]
      split at owner
      · cases owner
        exact stays client connected
      · split at owner
        · cases owner
        · exact owned sid' client' owner
    · intro client' member
      change client' ∈ (((a.close manager told).open_window gone sid client).retire retired .RECLAIMED).clients
      rw [clients]
      exact stays client' member
  | @rebound client packet sends _ _ _ =>
    refine ⟨windows,?_,stays⟩
    intro sid client' owner
    change (a.owners.set packet.session_id client).get sid = _ at owner
    rw [Dict.get_set] at owner
    split at owner
    · cases owner
      exact stays client sends.1.1
    · exact owned sid client' owner
  | @fed client packet _ _ _ _ =>
    have start := windows_append before ‹_› packet.payload
    exact attending_traffic (anything_shown _ _) windows ⟨start,owned,stays⟩
  | @focused sid _ _ =>
    exact attending_traffic (anything_shown _ _) windows ⟨windows_set_active before (some sid) (some sid),owned,stays⟩
  | unfocused => exact attending_traffic (anything_shown _ _) windows ⟨windows_set_active before none none,owned,stays⟩
  | pended _ _ => exact ⟨windows,owned,stays⟩
  | touched _ _ => exact ⟨windows,owned,stays⟩
  | joined _ =>
    exact ⟨windows,fun sid client owner => List.mem_append_left _ (owned sid client owner),
      fun client member => List.mem_append_left _ (stays client member)⟩
  | @left client cause => exact absurd cause (remain client)
  | wrote _ _ _ _ => exact ⟨windows,owned,stays⟩

/-- When a client leaves, it owns nothing any more. -/
theorem served_disconnect {client : Client} (windows : Windows pre) (served : Served pre) (connected : client ∈ pre.clients) :
    Served (pre.handle (.disconnect client)) := by
  have after : Windows (pre.handle (.disconnect client)) :=
    acts_invariant windows_act (event_acts pre (.disconnect client)) windows
  have handled : pre.handle (.disconnect client) =
      ({ pre with clients := pre.clients.filter (fun other => other ≠ client) } : Daemon).retire
        ((pre.owners.items.filter (fun e => e.2 = client)).map Prod.fst) .EXPIRED := by
    simp only [Daemon.handle,if_pos connected]
    rfl
  rw [served_windows after]
  have live : ∀ sid ∈ ({ pre with clients := pre.clients.filter (fun other => other ≠ client) } : Daemon).owners.keys,
      pre.sessions.Live sid := fun sid => (windows.owned sid).mpr
  intro sid owner owned
  rw [handled] at owned ⊢
  rw [retire_owners live] at owned
  rw [(retire_frame _ _ _).2.2]
  split at owned
  · cases owned
  · rename_i kept
    refine List.mem_filter.mpr ⟨(served_windows windows).mp served sid owner owned,?_⟩
    rw [decide_eq_true_eq]
    rintro rfl
    exact kept (List.mem_map.mpr ⟨(sid,owner),by simp [Dict.get_iff.mp owned],rfl⟩)

theorem served_event (windows : Windows pre) (served : Served pre)
    (granted : ∀ client sid, BoardGrants pre event client sid → client ∈ pre.clients) : Served (pre.handle event) := by
  by_cases leaves : ∃ client, event = .disconnect client
  · obtain ⟨client,rfl⟩ := leaves
    by_cases connected : client ∈ pre.clients
    · exact served_disconnect windows served connected
    · simp only [Daemon.handle,if_neg connected]
      exact served
  · have start : Attending pre pre := ⟨windows,(served_windows windows).mp served,fun _ => id⟩
    have attending := acts_invariant (attending_act (fun client left => leaves ⟨client,left⟩) granted)
      (event_acts pre event) start
    exact (served_windows attending.windows).mpr attending.owned

/-- A client that the board grants a session is its owner. -/
theorem granted_owner {client : Client} {sid : Nat} (windows : Windows pre) (grants : BoardGrants pre event client sid) :
    (pre.handle event).owners.get sid = some client ∧ (pre.handle event).clients = pre.clients := by
  obtain ⟨packet,clock,hint,waiting,manager,told,retired,input,_,opening,handled⟩ := grant_handled grants
  rw [handled]
  constructor
  · have popped : Windows { pre with pending_sessions := waiting } := windows_same windows rfl rfl rfl
    exact (opening_owners popped opening sid).trans (if_pos rfl)
  · exact (retire_frame _ _ _).2.2.trans (shut_close _ manager told).clients

end

theorem tight_served {m : HostMove} (move : host m) (windows : Windows m.pre) (served : Served m.pre) (allowed : ¬ Stray m) :
    Served m.post := by
  rw [move]
  refine served_event windows served ?_
  intro client sid grants
  by_contra gone
  exact allowed ⟨client,sid,grants,gone⟩

theorem stray_unserved {m : HostMove} (move : host m) (windows : Windows m.pre) (stray : Stray m) : ¬ Served m.post := by
  obtain ⟨client,sid,grants,gone⟩ := stray
  obtain ⟨owner,clients⟩ := granted_owner windows grants
  rw [← move] at owner clients
  intro served
  have connected := (served_windows (windows_next move windows)).mp served sid client owner
  rw [clients] at connected
  exact gone connected

/-- Every session is owned by a connected client throughout a run exactly when no grant goes to a client that has gone. -/
theorem served_iff {config : DaemonConfig} {ms : List HostMove} {daemon : Daemon} (run : HostRun config ms daemon) :
    Throughout (fun _ m => Served m.post) ms ↔ Throughout (fun _ m => ¬ Stray m) ms := by
  refine throughout_iff (P := fun _ daemon => Windows daemon ∧ Served daemon) ?_ ?_ run ⟨windows_start config,fun sid live => (by cases live)⟩
  · rintro ms m move ⟨windows,served⟩
    exact ⟨fun after stray => stray_unserved move windows stray after,tight_served move windows served⟩
  · rintro ms m move ⟨windows,served⟩ allowed
    exact ⟨windows_next move windows,tight_served move windows served allowed⟩

/-- A client leaves while its request waits at the board, which then grants it. -/
def abandoned : List Event := [.connect,.asks 0,.write true,.disconnect 0,.allots 1]

theorem abandoned_unserved : ¬ Throughout (fun _ m => Served m.post) (moves host_step (.start .real) abandoned) := by
  intro served
  obtain ⟨client,owner,connected⟩ := served _ _ [] (moves_append host_step (.start .real) (abandoned.take 4) _) 1 (by decide)
  revert connected
  have none : ∀ client, client ∉ (finish host_step (.start .real) abandoned).clients := by decide
  exact none client

theorem abandoned_owner : ¬ ∀ config ms daemon, HostRun config ms daemon → Throughout (fun _ m => Served m.post) ms := by
  intro claimed
  exact abandoned_unserved (claimed _ _ _ (host_events .real abandoned))

theorem served_iff_abandoned : ¬ Throughout (fun _ m => ¬ Stray m) (moves host_step (.start .real) abandoned) := by
  intro tight
  exact abandoned_unserved ((served_iff (host_events .real abandoned)).mpr tight)

end VibeBridge.Python
