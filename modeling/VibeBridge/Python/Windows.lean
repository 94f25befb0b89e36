import VibeBridge.Python.Acts

/-!
The sessions of the manager, the owners and the buffers of the router are tables
of the same windows (`windows_agree`). The manager tells the daemon which
sessions it closed, and the daemon closes their windows; a new window is opened
in all three. Only while a client gives up its former windows, their owners are
gone before the rest (`Retiring`).
-/
namespace VibeBridge.Python
open Transitions

/-- Any traffic at all. -/
def Anything : Allowed := ⟨fun _ => True,fun _ _ => True⟩

theorem anything_shown (daemon : Daemon) (call : ScreenCall) : Traffic Anything daemon (daemon.screen_sink call) :=
  traffic_screen daemon (fun _ _ _ _ _ _ => trivial)

/-! ## The invalidation callback -/

/-- The message to the owner of a session that ends. -/
def notice (owner : Option Client) (sid : Nat) (status : Status) : List Effect :=
  owner.toList.map (fun owner => .sent owner (make_session_invalid sid status))

/-- The window closes, and the router shows another one in its place. -/
def Daemon.unroute (daemon : Daemon) (sid : Nat) : Daemon :=
  { daemon with router := (daemon.router.unregister sid).1 }.screen_sink (daemon.router.unregister sid).2

theorem unroute_tables (daemon : Daemon) (sid : Nat) : ∃ hid queue pending log, daemon.unroute sid =
    { daemon with
      router := (daemon.router.unregister sid).1
      hid := hid
      hid_tx_queue := queue
      pending_sessions := pending
      log := log } := by
  have traffic : Traffic Anything { daemon with router := (daemon.router.unregister sid).1 } (daemon.unroute sid) :=
    anything_shown _ _
  exact ⟨_,_,_,_,traffic.tables⟩

/-- Then the sid loses its owner, who is told, and the board its focus. -/
def Daemon.disown (daemon : Daemon) (sid : Nat) (status : Status) : Daemon :=
  { daemon with
    owners := daemon.owners.pop sid
    focused_sid := if daemon.focused_sid = some sid then none else daemon.focused_sid
    log := daemon.log ++ notice (daemon.owners.get sid) sid status }

theorem on_session_invalidate_eq (daemon : Daemon) (sid : Nat) (status : Status) :
    daemon.on_session_invalidate sid status = (daemon.unroute sid).disown sid status := by
  rw [Daemon.on_session_invalidate]
  have unrouted : { daemon with router := (daemon.router.unregister sid).1 }.screen_sink (daemon.router.unregister sid).2 =
    daemon.unroute sid := rfl
  simp only [unrouted]
  generalize daemon.unroute sid = mid
  by_cases focused : mid.focused_sid = some sid
  · cases owner : mid.owners.get sid <;> simp [owner,focused,notice,Daemon.send,Daemon.disown]
  · cases owner : mid.owners.get sid <;> simp [owner,focused,notice,Daemon.send,Daemon.disown]

/-- Exactly the windows of these sids are closed. -/
structure Shut (daemon daemon' : Daemon) (sids : List Nat) : Prop where
  sessions : daemon'.sessions = daemon.sessions
  owners : ∀ sid, daemon'.owners.get sid = if sid ∈ sids then none else daemon.owners.get sid
  routed : ∀ sid, daemon'.router.Has sid ↔ daemon.router.Has sid ∧ sid ∉ sids
  selects : daemon.router.Selects → daemon'.router.Selects
  clients : daemon'.clients = daemon.clients
  sink : daemon'.hid_sink = daemon.hid_sink

theorem shut_one (daemon : Daemon) (sid : Nat) (status : Status) :
    Shut daemon (daemon.on_session_invalidate sid status) [sid] := by
  obtain ⟨hid,queue,pending,log,unrouted⟩ := unroute_tables daemon sid
  rw [on_session_invalidate_eq,unrouted]
  constructor
  · rfl
  · intro sid'
    rw [Daemon.disown,Dict.get_pop]
    simp
  · intro sid'
    rw [Daemon.disown,has_unregister]
    simp
  · exact selects_unregister
  · rfl
  · rfl

theorem shut_all (told : List (Nat × Status)) (daemon : Daemon) :
    Shut daemon (daemon.on_session_invalidates told) (told.map Prod.fst) := by
  induction told generalizing daemon with
  | nil => exact ⟨rfl,by simp [Daemon.on_session_invalidates],by simp [Daemon.on_session_invalidates],id,rfl,rfl⟩
  | cons t rest ih =>
    have first := shut_one daemon t.1 t.2
    have later := ih (daemon.on_session_invalidate t.1 t.2)
    refine ⟨later.sessions.trans first.sessions,?_,?_,fun selects => later.selects (first.selects selects),
      later.clients.trans first.clients,later.sink.trans first.sink⟩
    · intro sid
      rw [Daemon.on_session_invalidates,List.foldl_cons,← Daemon.on_session_invalidates,later.owners,first.owners]
      by_cases later : sid ∈ rest.map Prod.fst
      · simp [later]
      · by_cases same : sid = t.1 <;> simp [later,same]
    · intro sid
      rw [Daemon.on_session_invalidates,List.foldl_cons,← Daemon.on_session_invalidates,later.routed,first.routed]
      simp [and_assoc]

/-- What a closing leaves: the tables without the sids that the callback was told. -/
theorem shut_close (daemon : Daemon) (manager : SessionManager) (told : List (Nat × Status)) :
    Shut { daemon with sessions := manager } (daemon.close manager told) (told.map Prod.fst) := shut_all told _

/-! ## The three tables -/

/-- The tables agree, but for some sids that have lost their owners. -/
structure Retiring (daemon : Daemon) (sids : List Nat) : Prop where
  owned : ∀ sid, sid ∈ daemon.owners.keys ↔ daemon.sessions.Live sid ∧ sid ∉ sids
  routed : ∀ sid, daemon.router.Has sid ↔ daemon.sessions.Live sid
  selects : daemon.router.Selects

/-- The live sessions, the sids with an owner and the sids with a buffer are the same,
    and the active window is one of them. -/
structure Windows (daemon : Daemon) : Prop where
  owned : ∀ sid, daemon.sessions.Live sid ↔ sid ∈ daemon.owners.keys
  routed : ∀ sid, daemon.sessions.Live sid ↔ sid ∈ daemon.router.buffers.keys
  selects : ∀ sid, daemon.router.active = some sid → daemon.sessions.Live sid

theorem windows_retiring {daemon : Daemon} : Windows daemon ↔ Retiring daemon [] := by
  constructor
  · intro windows
    refine ⟨fun sid => by simp [windows.owned],fun sid => (windows.routed sid).symm,?_⟩
    intro sid active
    exact (windows.routed sid).mp (windows.selects sid active)
  · intro retiring
    refine ⟨fun sid => by simp [retiring.owned],fun sid => (retiring.routed sid).symm,?_⟩
    intro sid active
    exact (retiring.routed sid).mp (retiring.selects sid active)

theorem windows_same {a b : Daemon} (windows : Windows a) (sessions : b.sessions = a.sessions) (owners : b.owners = a.owners)
    (router : b.router = a.router) : Windows b := by
  constructor
  · rw [sessions,owners]
    exact windows.owned
  · rw [sessions,router]
    exact windows.routed
  · rw [sessions,router]
    exact windows.selects

theorem windows_traffic {allowed : Allowed} {a b : Daemon} (traffic : Traffic allowed a b) (windows : Windows a) : Windows b := by
  have tables := traffic.tables
  exact windows_same windows (by rw [tables]) (by rw [tables]) (by rw [tables])

/-- The router has another state with the same windows. -/
theorem windows_routed {a b : Daemon} (windows : Windows a) (sessions : b.sessions = a.sessions) (owners : b.owners = a.owners)
    (has : ∀ sid, b.router.Has sid ↔ a.router.Has sid) (selects : b.router.Selects) : Windows b := by
  constructor
  · rw [sessions,owners]
    exact windows.owned
  · rw [sessions]
    exact fun sid => (windows.routed sid).trans (has sid).symm
  · rw [sessions]
    exact fun sid active => (windows.routed sid).mpr ((has sid).mp (selects sid active))

theorem windows_append {a : Daemon} {sid : Nat} (windows : Windows a) (live : a.sessions.Live sid) (data : List UInt8) :
    Windows { a with router := (a.router.append sid data).1 } := by
  have there := (windows.routed sid).mp live
  exact windows_routed windows rfl rfl (fun _ => has_append there) (selects_append there (windows_retiring.mp windows).selects)

theorem windows_set_active {a : Daemon} (windows : Windows a) (focused chosen : Option Nat) :
    Windows { a with focused_sid := focused, router := (a.router.set_active chosen).1 } :=
  windows_routed windows rfl rfl (fun _ => has_set_active) (selects_set_active (windows_retiring.mp windows).selects)

section
variable {daemon : Daemon} {manager : SessionManager} {told : List (Nat × Status)}

theorem shut_owned {daemon' : Daemon} {sids : List Nat} (shut : Shut daemon daemon' sids) (sid : Nat) :
    sid ∈ daemon'.owners.keys ↔ sid ∈ daemon.owners.keys ∧ sid ∉ sids := by
  by_cases member : sid ∈ sids
  · simp [Dict.mem_keys,shut.owners,member]
  · simp [Dict.mem_keys,shut.owners,member]

/-- Sessions are closed while others still wait for that. -/
theorem retiring_close {sids : List Nat} (closes : Closes daemon.sessions manager told) (retiring : Retiring daemon sids) :
    Retiring (daemon.close manager told) sids := by
  have shut := shut_close daemon manager told
  refine ⟨?_,?_,shut.selects retiring.selects⟩
  · intro sid
    rw [shut_owned shut,shut.sessions,closes,retiring.owned]
    tauto
  · intro sid
    rw [shut.routed,shut.sessions,closes]
    exact and_congr_left' (retiring.routed sid)

theorem retiring_invalidate {sid : Nat} {sids : List Nat} (status : Status) (retiring : Retiring daemon (sid :: sids)) :
    Retiring (daemon.invalidate sid status) sids := by
  have closes := closes_invalidate daemon.sessions sid status
  obtain ⟨owned,routed,selects⟩ := retiring_close closes retiring
  have ended : ¬ (daemon.invalidate sid status).sessions.Live sid := by
    have shut := shut_close daemon (daemon.sessions.invalidate sid status).manager (daemon.sessions.invalidate sid status).told
    intro live
    change (daemon.close _ _).sessions.Live sid at live
    rw [shut.sessions] at live
    exact (invalidate_ends.mp live).2 rfl
  refine ⟨?_,routed,selects⟩
  intro sid'
  refine (owned sid').trans (and_congr_right ?_)
  intro live
  rw [List.mem_cons,not_or]
  refine and_iff_right ?_
  rintro rfl
  exact ended live

theorem retiring_all {sids : List Nat} (status : Status) (retiring : Retiring daemon sids) : Windows (daemon.retire sids status) := by
  induction sids generalizing daemon with
  | nil => exact windows_retiring.mpr retiring
  | cons sid rest ih => exact ih (retiring_invalidate status retiring)

theorem windows_close (closes : Closes daemon.sessions manager told) (windows : Windows daemon) :
    Windows (daemon.close manager told) :=
  windows_retiring.mpr (retiring_close closes (windows_retiring.mp windows))

/-- A window is opened in all three tables; the former windows of its client are still to be closed. -/
theorem retiring_open {gone retired : List Nat} {sid : Nat} {client : Client} {packet : Packet} (windows : Windows daemon)
    (opening : Opening daemon manager told gone retired sid client packet) :
    Retiring ((daemon.close manager told).open_window gone sid client) retired := by
  have shut := shut_close daemon manager told
  constructor
  · intro sid'
    have live := opening.opens.live sid'
    have owned := windows.owned sid'
    change sid' ∈ ((gone.foldl Dict.pop (daemon.close manager told).owners).set sid client).keys ↔
      (daemon.close manager told).sessions.Live sid' ∧ _
    rw [Dict.mem_set,Dict.mem_pop_all,shut_owned shut,shut.sessions,live]
    constructor
    · rintro (rfl | ⟨⟨there,kept⟩,stays⟩)
      · exact ⟨.inl rfl,opening.kept⟩
      · exact ⟨.inr ⟨owned.mpr there,kept⟩,fun retires => stays (opening.retires sid' retires).1⟩
    · rintro ⟨rfl | ⟨there,kept⟩,stays⟩
      · exact .inl rfl
      · refine .inr ⟨⟨owned.mp there,kept⟩,?_⟩
        intro goes
        rcases opening.goes sid' goes with closed | retires
        · exact kept closed
        · exact stays retires
  · intro sid'
    change ((daemon.close manager told).router.register sid).Has sid' ↔ (daemon.close manager told).sessions.Live sid'
    rw [has_register,shut.routed,shut.sessions,opening.opens.live sid']
    exact or_congr_right (and_congr_left' (windows.routed sid').symm)
  · exact selects_register (shut.selects (windows_retiring.mp windows).selects)

end

/-! ## Acts -/

/-- Every act keeps the tables in agreement. -/
theorem windows_act {pre : Daemon} {event : Event} (a b : Daemon) (act : Act pre event a b) (windows : Windows a) : Windows b := by
  cases act with
  | traffic traffic => exact windows_traffic traffic windows
  | @asked client packet _ _ =>
    have asked : Traffic Anything a (a.forward_packet_to_board packet).1 := traffic_forward a trivial
    exact windows_traffic asked windows
  | closed closes => exact windows_close closes windows
  | opened opening _ => exact windows_same (retiring_all .RECLAIMED (retiring_open windows opening)) rfl rfl rfl
  | @rebound client packet sends _ live _ =>
    refine ⟨?_,windows.routed,windows.selects⟩
    intro sid
    change _ ↔ sid ∈ (a.owners.set packet.session_id client).keys
    rw [Dict.mem_set,← windows.owned]
    constructor
    · exact .inr
    · rintro (rfl | there)
      · exact live
      · exact there
  | touched sid now =>
    exact ⟨fun sid => touch_live.trans (windows.owned sid),fun sid => touch_live.trans (windows.routed sid),
      fun sid active => touch_live.mpr (windows.selects sid active)⟩
  | @fed client packet _ _ live _ => exact windows_traffic (anything_shown _ _) (windows_append windows live packet.payload)
  | @focused sid _ _ => exact windows_traffic (anything_shown _ _) (windows_set_active windows (some sid) (some sid))
  | unfocused => exact windows_traffic (anything_shown _ _) (windows_set_active windows none none)
  | pended _ _ => exact windows_same windows rfl rfl rfl
  | joined _ => exact windows_same windows rfl rfl rfl
  | left _ => exact windows_same windows rfl rfl rfl
  | wrote _ _ _ _ => exact windows_same windows rfl rfl rfl

/-! ## Closing several sessions -/

/-- Closing sessions opens none and changes nothing but the tables. -/
theorem retire_frame (sids : List Nat) (status : Status) (daemon : Daemon) :
    (∀ sid, (daemon.retire sids status).sessions.Live sid → daemon.sessions.Live sid) ∧
      (daemon.retire sids status).hid_sink = daemon.hid_sink ∧ (daemon.retire sids status).clients = daemon.clients := by
  let Frame (mid : Daemon) := (∀ sid, mid.sessions.Live sid → daemon.sessions.Live sid) ∧ mid.hid_sink = daemon.hid_sink ∧
    mid.clients = daemon.clients
  refine retire_kept (P := Frame) ?_ sids status ⟨fun _ => id,rfl,rfl⟩
  rintro mid first status ⟨live,sink,clients⟩
  have shut : Shut _ (mid.invalidate first status) _ := shut_close mid _ _
  refine ⟨?_,shut.sink.trans sink,shut.clients.trans clients⟩
  intro sid there
  rw [shut.sessions] at there
  exact live sid (invalidate_ends.mp there).1

/-- Exactly these sids lose their owners, when only live ones have any. -/
theorem retire_owners {sids : List Nat} {status : Status} {daemon : Daemon}
    (live : ∀ sid ∈ daemon.owners.keys, daemon.sessions.Live sid) (sid : Nat) :
    (daemon.retire sids status).owners.get sid = if sid ∈ sids then none else daemon.owners.get sid := by
  induction sids generalizing daemon with
  | nil => simp [Daemon.retire]
  | cons first rest ih =>
    have shut : Shut _ (daemon.invalidate first status) _ := shut_close daemon _ _
    have owner : ∀ sid, (daemon.invalidate first status).owners.get sid = if sid = first then none else daemon.owners.get sid := by
      intro sid
      rw [shut.owners]
      by_cases there : daemon.sessions.Live first
      · simp [invalidate_told,there]
      · have unowned : daemon.owners.get first = none := Dict.get_none.mpr (fun member => there (live first member))
        by_cases same : sid = first
        · simp [same,unowned]
        · simp [invalidate_told,there,same]
    have still : ∀ sid ∈ (daemon.invalidate first status).owners.keys, (daemon.invalidate first status).sessions.Live sid := by
      intro sid member
      obtain ⟨client,owned⟩ := Dict.mem_keys.mp member
      rw [owner] at owned
      split at owned
      · cases owned
      · rename_i other
        rw [shut.sessions]
        exact invalidate_ends.mpr ⟨live sid (Dict.mem_keys.mpr ⟨client,owned⟩),other⟩
    refine (ih still).trans ?_
    rw [owner]
    by_cases later : sid ∈ rest
    · simp [later]
    · by_cases same : sid = first <;> simp [later,same]

/-- The owners after a window was opened. -/
theorem opening_owners {a : Daemon} {manager : SessionManager} {told : List (Nat × Status)} {gone retired : List Nat} {sid : Nat}
    {client : Client} {packet : Packet} (windows : Windows a) (opening : Opening a manager told gone retired sid client packet)
    (sid' : Nat) : (((a.close manager told).open_window gone sid client).retire retired .RECLAIMED).owners.get sid' =
      if sid' = sid then some client else if sid' ∈ told.map Prod.fst ∨ sid' ∈ retired then none else a.owners.get sid' := by
  have open_window := retiring_open windows opening
  rw [retire_owners (fun x member => ((open_window.owned x).mp member).1)]
  change (if sid' ∈ retired then none else ((gone.foldl Dict.pop (a.close manager told).owners).set sid client).get sid') = _
  rw [Dict.get_set,Dict.get_pop_all,(shut_close a manager told).owners]
  by_cases own : sid' = sid
  · rw [own,if_neg opening.kept,if_pos rfl,if_pos rfl]
  · by_cases retires : sid' ∈ retired
    · simp [own,retires]
    · by_cases closed : sid' ∈ told.map Prod.fst
      · simp [own,closed]
      · have stays : sid' ∉ gone := by
          intro goes
          rcases opening.goes sid' goes with bad | bad
          · exact closed bad
          · exact retires bad
        simp only [own,retires,closed,stays,if_false,or_self]

/-! ## Sids and mode -/

/-- The mode never changes, and the sids of sessions are numbers from 1. -/
structure Numbered (config : DaemonConfig) (daemon : Daemon) : Prop where
  sink : daemon.hid_sink = config.hidraw
  positive : ∀ sid, daemon.sessions.Live sid → 0 < sid

theorem numbered_traffic {config : DaemonConfig} {allowed : Allowed} {a b : Daemon} (traffic : Traffic allowed a b)
    (numbered : Numbered config a) : Numbered config b := by
  rw [traffic.tables]
  exact ⟨numbered.sink,numbered.positive⟩

theorem numbered_act {config : DaemonConfig} {pre : Daemon} {event : Event} (a b : Daemon) (act : Act pre event a b)
    (numbered : Numbered config a) : Numbered config b := by
  obtain ⟨sink,positive⟩ := numbered
  cases act with
  | traffic traffic => exact numbered_traffic traffic ⟨sink,positive⟩
  | @asked client packet _ _ =>
    have asked : Traffic Anything a (a.forward_packet_to_board packet).1 := traffic_forward a trivial
    exact numbered_traffic asked ⟨sink,positive⟩
  | @closed manager told closes =>
    have shut := shut_close a manager told
    refine ⟨shut.sink.trans sink,?_⟩
    intro sid live
    rw [shut.sessions] at live
    exact positive sid ((closes sid).mp live).1
  | @opened manager told gone retired sid client packet opening _ =>
    have shut := shut_close a manager told
    obtain ⟨retires,frame,_⟩ := retire_frame retired .RECLAIMED ((a.close manager told).open_window gone sid client)
    refine ⟨frame.trans (shut.sink.trans sink),?_⟩
    intro sid' live
    have before : (a.close manager told).sessions.Live sid' := retires sid' live
    rw [shut.sessions,opening.opens.live] at before
    rcases before with rfl | ⟨there,_⟩
    · exact opening.opens.positive
    · exact positive sid' there
  | rebound _ _ _ _ => exact ⟨sink,positive⟩
  | touched _ _ => exact ⟨sink,fun sid live => positive sid (touch_live.mp live)⟩
  | @fed client packet _ _ _ _ =>
    have start : Numbered config { a with router := (a.router.append packet.session_id packet.payload).1 } := ⟨sink,positive⟩
    exact numbered_traffic (anything_shown _ _) start
  | @focused sid _ _ =>
    have start : Numbered config { a with focused_sid := some sid, router := (a.router.set_active (some sid)).1 } := ⟨sink,positive⟩
    exact numbered_traffic (anything_shown _ _) start
  | unfocused =>
    have start : Numbered config { a with focused_sid := none, router := (a.router.set_active none).1 } := ⟨sink,positive⟩
    exact numbered_traffic (anything_shown _ _) start
  | pended _ _ => exact ⟨sink,positive⟩
  | joined _ => exact ⟨sink,positive⟩
  | left _ => exact ⟨sink,positive⟩
  | wrote _ _ _ _ => exact ⟨sink,positive⟩

theorem reached_numbered {config : DaemonConfig} {daemon : Daemon} (reached : Reached config daemon) : Numbered config daemon := by
  obtain ⟨ms,run⟩ := reached
  refine path_invariant ?_ run ⟨rfl,fun sid live => (by cases live)⟩
  intro m move numbered
  rw [move]
  exact acts_invariant numbered_act (event_acts m.pre m.input) numbered

/-! ## Runs -/

theorem windows_start (config : DaemonConfig) : Windows (.start config) := by
  constructor
  · intro sid
    exact Iff.rfl
  · intro sid
    exact Iff.rfl
  · intro sid active
    cases active

theorem windows_next {m : HostMove} (move : host m) (windows : Windows m.pre) : Windows m.post := by
  rw [move]
  exact acts_invariant windows_act (event_acts m.pre m.input) windows

/-- In every state that the daemon reaches, in mock mode or with a HID device, its three tables agree. -/
theorem windows_agree {config : DaemonConfig} {daemon : Daemon} (reached : Reached config daemon) : Windows daemon := by
  obtain ⟨ms,run⟩ := reached
  exact path_invariant (fun _ move windows => windows_next move windows) run (windows_start config)

/-- With room for one session, each request takes the sid of the one before. -/
theorem windows_agree_recycled : Windows (finish host_step (.start { max_sessions := 1, hidraw := false, in_range := by decide })
    [.connect,.connect,.client_packet 0 (make_request_session []) ⟨0,0⟩,.client_packet 1 (make_request_session []) ⟨1,1⟩]) :=
  windows_agree ⟨_,host_events _ _⟩

end VibeBridge.Python
