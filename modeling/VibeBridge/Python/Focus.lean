import VibeBridge.Python.Windows

/-!
What the board is shown. The board is focused on at most one session, and this
is then the active window of the router (`Aligned`). A packet for the screen is
queued only while the board is focused on its session, and it carries a piece of
the screen-clear with what this session has received, or of what it receives
(`Shown`). What was received under a sid counts from the last grant of the sid
(`received`), so nothing of an earlier session is ever shown.
-/
namespace VibeBridge.Python
open Transitions

/-! ## What a session received -/

/-- The bytes that the event gives to a live session: a connected client sends them. -/
def appended (pre : Daemon) (event : Event) (sid : Nat) : List UInt8 :=
  match event with
  | .client_packet client packet _ =>
    if pre.Hears client packet ∧ packet.command = Cmd.VT100_STREAM.value ∧ packet.session_id = sid ∧ pre.sessions.Live sid then
      packet.payload
    else []
  | _ => []

/-- A client is told that a session was granted under the sid. -/
def grants (sid : Nat) : Effect → Bool
  | .sent _ packet => packet.command = Cmd.SESSION_RESPONSE.value ∧ packet.session_id = sid
  | _ => false

/-- What was given to the session that has the sid, since it was granted. -/
def received (ms : List HostMove) (sid : Nat) : List UInt8 :=
  ms.foldl (fun bytes m => if (effects m).any (grants sid) ∨ ¬ m.post.sessions.Live sid then []
    else bytes ++ appended m.pre m.input sid) []

/-- The packets for the screen that this move queues: each while the board is focused on its session, and with a piece of
    what is replayed of this session or of what it is given. -/
def Shown (before : List HostMove) (m : HostMove) : Prop :=
  ∀ focused packet, .queued focused packet ∈ effects m → packet.command = Cmd.VT100_STREAM.value →
    focused = some packet.session_id ∧
      ((∃ own, own <:+ received before packet.session_id ∧ packet.payload ∈ fragment_payload (SCREEN_CLEAR ++ own)) ∨
        packet.payload ∈ fragment_payload (appended m.pre m.input packet.session_id))

/-! ## What shows nothing but a cleared screen -/

/-- The window that the board is focused on is the active one. -/
def Aligned (daemon : Daemon) : Prop := ∀ sid, daemon.focused_sid = some sid → daemon.router.active = some sid

/-- No grant, and nothing for the screen but that it is cleared for the session that the board is focused on. -/
def Quiet : Effect → Prop
  | .sent _ packet => packet.command ≠ Cmd.SESSION_RESPONSE.value
  | .queued focused packet => packet.command = Cmd.VT100_STREAM.value →
    focused = some packet.session_id ∧ packet.payload ∈ fragment_payload SCREEN_CLEAR
  | _ => True

/-- Windows are closed or left as they are, and nothing else is shown. -/
structure Tidy (a b : Daemon) : Prop where
  aligned : Aligned b
  stored : ∀ sid, b.router.snapshot sid = [] ∨ b.router.snapshot sid = a.router.snapshot sid
  logged : ∃ news, b.log = a.log ++ news ∧ ∀ e ∈ news, Quiet e

section
variable {a b c : Daemon}

theorem tidy_refl (aligned : Aligned a) : Tidy a a := ⟨aligned,fun _ => .inr rfl,adds_refl a⟩

theorem tidy_trans (first : Tidy a b) (second : Tidy b c) : Tidy a c := by
  refine ⟨second.aligned,?_,adds_trans first.logged second.logged⟩
  intro sid
  rcases second.stored sid with empty | same
  · exact .inl empty
  · rw [same]
    exact first.stored sid

/-- Traffic without grants that shows only cleared screens. -/
theorem tidy_traffic {allowed : Allowed} (aligned : Aligned a) (traffic : Traffic allowed a b)
    (quiet : ∀ e, allowed.Logs a.focused_sid e → Quiet e) : Tidy a b := by
  obtain ⟨tables,⟨news,log,all⟩,_⟩ := traffic
  refine ⟨?_,?_,news,log,fun e member => quiet e (all e member)⟩
  · intro sid focused
    rw [tables] at focused ⊢
    exact aligned sid focused
  · intro sid
    rw [tables]
    exact .inr rfl

theorem quiet_logs {allowed : Allowed} {focused : Option Nat} {e : Effect} (logs : allowed.Logs focused e)
    (queues : ∀ packet, allowed.queues packet → packet.command = Cmd.VT100_STREAM.value →
      focused = some packet.session_id ∧ packet.payload ∈ fragment_payload SCREEN_CLEAR)
    (sends : ∀ client packet, allowed.sends client packet → packet.command ≠ Cmd.SESSION_RESPONSE.value) : Quiet e := by
  cases e with
  | sent client packet =>
    rcases logs with sent | rfl
    · exact sends client packet sent
    · exact invalid_no_response _ _
  | queued focused' packet =>
    obtain ⟨rfl,queued⟩ := logs
    exact queues packet queued
  | written _ => trivial
  | screen _ => trivial

theorem tidy_ordinary (aligned : Aligned a) (traffic : Traffic Ordinary a b) : Tidy a b :=
  tidy_traffic aligned traffic (fun _ logs => quiet_logs logs (fun _ queues stream => absurd stream queues.1) (fun _ _ sends => sends))

/-- What the closing of the active window shows reaches the board only as a cleared screen. -/
theorem tidy_invalidate (aligned : Aligned a) (sid : Nat) (status : Status) : Tidy a (a.on_session_invalidate sid status) := by
  let clears : Allowed := ⟨fun packet => a.focused_sid = some packet.session_id ∧ packet.payload ∈ fragment_payload SCREEN_CLEAR,
    fun _ _ => False⟩
  have shown : Traffic clears { a with router := (a.router.unregister sid).1 } (a.unroute sid) := by
    refine traffic_screen _ ?_
    intro sid' data call focused packet member
    have active := aligned sid' focused
    unfold Vt100Router.unregister at call
    by_cases own : a.router.active = some sid
    · have same : sid' = sid := Option.some.inj (active.symm.trans own)
      rw [same] at call member focused
      simp only [if_pos own] at call
      split at call
      · cases call
        obtain ⟨chunk,piece,rfl⟩ := List.mem_map.mp member
        exact ⟨focused,piece⟩
      · -- the replacement is another window than the one the board is focused on
        rename_i replacement found
        cases call
        exact absurd rfl (Dict.mem_pop.mp (List.mem_of_head? found)).2
    · simp only [if_neg own] at call
      cases call
  obtain ⟨tables,⟨news,log,all⟩,_⟩ := shown
  rw [on_session_invalidate_eq]
  refine ⟨?_,?_,news ++ notice ((a.unroute sid).owners.get sid) sid status,?_,?_⟩
  · intro sid' focused
    simp only [Daemon.disown] at focused ⊢
    rw [tables] at focused ⊢
    simp only at focused ⊢
    split at focused
    · cases focused
    · rename_i other
      have active := aligned sid' focused
      rw [active_unregister,if_neg]
      · exact active
      · rw [active,← focused]
        exact other
  · intro sid'
    simp only [Daemon.disown]
    rw [tables,snapshot_unregister]
    by_cases same : sid' = sid
    · exact .inl (if_pos same)
    · exact .inr (if_neg same)
  · rw [Daemon.disown,log,List.append_assoc]
  · intro e member
    rcases List.mem_append.mp member with early | late
    · exact quiet_logs (all e early) (fun _ queues _ => queues) (fun _ _ sends => sends.elim)
    · obtain ⟨owner,_,rfl⟩ := List.mem_map.mp late
      exact invalid_no_response _ _

theorem tidy_close (aligned : Aligned a) (manager : SessionManager) (told : List (Nat × Status)) :
    Tidy a (a.close manager told) := by
  have start : Tidy a { a with sessions := manager } := ⟨aligned,fun _ => .inr rfl,adds_refl a⟩
  exact close_kept (fun _ sid status before => tidy_trans before (tidy_invalidate before.aligned sid status)) told start

theorem tidy_retire (aligned : Aligned a) (sids : List Nat) (status : Status) : Tidy a (a.retire sids status) :=
  retire_kept (fun _ _ _ before => tidy_trans before (tidy_close before.aligned _ _)) sids status (tidy_refl aligned)

theorem tidy_open (aligned : Aligned a) (gone : List Nat) (sid : Nat) (client : Client) : Tidy a (a.open_window gone sid client) := by
  refine ⟨?_,fun _ => .inr snapshot_register,[],by simp [Daemon.open_window],by simp⟩
  intro sid' focused
  have active := aligned sid' focused
  simp [Daemon.open_window,Vt100Router.register,active]

/-- Whatever is queued, the board is shown only what it is focused on. -/
theorem tidy_unfocus : Tidy a (a.focus none) := by
  have hidden : Traffic ⟨fun _ => False,fun _ _ => False⟩
      { a with focused_sid := none, router := (a.router.set_active none).1 } (a.focus none) := by
    refine traffic_screen _ ?_
    intro sid data call focused
    cases focused
  have start : Tidy a { a with focused_sid := none, router := (a.router.set_active none).1 } :=
    ⟨fun sid focused => (by cases focused),fun sid => .inr snapshot_set_active,[],by simp,by simp⟩
  exact tidy_trans start (tidy_traffic start.aligned hidden
    (fun _ logs => quiet_logs logs (fun _ queues _ => queues.elim) (fun _ _ sends => sends.elim)))

end

/-! ## What an event shows -/

/-- What may happen in an event that is handled in the state `pre`. -/
def Shows (pre : Daemon) (event : Event) : Effect → Prop
  | .queued focused packet => packet.command = Cmd.VT100_STREAM.value → focused = some packet.session_id ∧
    ((∃ own, own <:+ pre.router.snapshot packet.session_id ∧ packet.payload ∈ fragment_payload (SCREEN_CLEAR ++ own)) ∨
      packet.payload ∈ fragment_payload (appended pre event packet.session_id))
  | _ => True

/-- What the acts of an event have done so far: a buffer has lost some of its oldest bytes, or got those of the
    event, and a session that was granted starts with an empty one. -/
structure Facing (pre : Daemon) (event : Event) (a : Daemon) : Prop where
  windows : Windows a
  aligned : Aligned a
  stored : ∀ sid, a.router.snapshot sid <:+ pre.router.snapshot sid ∨
    a.router.snapshot sid <:+ pre.router.snapshot sid ++ appended pre event sid
  logged : ∃ news, a.log = pre.log ++ news ∧ (∀ e ∈ news, Shows pre event e) ∧ ∀ sid, (∃ e ∈ news, grants sid e = true) →
    a.router.snapshot sid = [] ∧ ∀ sid', appended pre event sid' = []

section
variable {pre a b : Daemon} {event : Event}

theorem appended_sends {client : Client} {packet : Packet} (sends : Sends pre event client packet)
    (live : pre.sessions.Live packet.session_id) (type : packet.command = Cmd.VT100_STREAM.value) :
    appended pre event packet.session_id = packet.payload := by
  obtain ⟨heard,clock,rfl⟩ := sends
  exact if_pos ⟨heard,type,rfl,live⟩

/-- Nothing is appended when a session is opened. -/
theorem appended_opening {client : Client} {sid : Nat} (cause : (∃ request, Sends pre event client request ∧
    request.command = Cmd.REQUEST_SESSION.value) ∨ BoardGrants pre event client sid) (sid' : Nat) :
    appended pre event sid' = [] := by
  rcases cause with ⟨request,⟨_,clock,rfl⟩,type⟩ | ⟨packet,clock,hint,waiting,rfl,_⟩
  · refine if_neg ?_
    rintro ⟨_,stream,_⟩
    rw [type] at stream
    exact absurd stream (by decide)
  · rfl

theorem facing_start (windows : Windows pre) (aligned : Aligned pre) : Facing pre event pre :=
  ⟨windows,aligned,fun _ => .inl List.suffix_rfl,[],by simp,by simp,by simp⟩

theorem quiet_shows {e : Effect} (quiet : Quiet e) : Shows pre event e := by
  cases e with
  | queued focused packet =>
    intro stream
    obtain ⟨focus,piece⟩ := quiet stream
    exact ⟨focus,.inl ⟨[],List.nil_suffix,by simpa using piece⟩⟩
  | sent _ _ => trivial
  | written _ => trivial
  | screen _ => trivial

theorem quiet_grants {e : Effect} (quiet : Quiet e) (sid : Nat) : grants sid e = false := by
  cases e with
  | sent client packet => simp [grants,show packet.command ≠ Cmd.SESSION_RESPONSE.value from quiet]
  | queued _ _ => rfl
  | written _ => rfl
  | screen _ => rfl

theorem facing_tidy (facing : Facing pre event a) (windows : Windows b) (tidy : Tidy a b) : Facing pre event b := by
  obtain ⟨_,_,stored,news,log,shows,fresh⟩ := facing
  obtain ⟨aligned,stored',news',log',quiet⟩ := tidy
  refine ⟨windows,aligned,?_,news ++ news',by rw [log',log,List.append_assoc],?_,?_⟩
  · intro sid
    rcases stored' sid with empty | same
    · rw [empty]
      exact .inl List.nil_suffix
    · rw [same]
      exact stored sid
  · intro e member
    rcases List.mem_append.mp member with early | late
    · exact shows e early
    · exact quiet_shows (quiet e late)
  · rintro sid ⟨e,member,grant⟩
    rcases List.mem_append.mp member with early | late
    · obtain ⟨empty,silent⟩ := fresh sid ⟨e,early,grant⟩
      rcases stored' sid with empty' | same
      · exact ⟨empty',silent⟩
      · exact ⟨same.trans empty,silent⟩
    · rw [quiet_grants (quiet e late)] at grant
      cases grant

/-- The session that is opened has an empty buffer, and then its client is told. -/
theorem facing_opened {manager : SessionManager} {told : List (Nat × Status)} {gone retired : List Nat} {sid : Nat}
    {client : Client} {packet : Packet} (opening : Opening a manager told gone retired sid client packet)
    (silent : ∀ sid', appended pre event sid' = []) (facing : Facing pre event a) :
    Facing pre event ((((a.close manager told).open_window gone sid client).retire retired .RECLAIMED).send client packet) := by
  have closed := tidy_close facing.aligned manager told
  have opened := tidy_open closed.aligned gone sid client
  have done := tidy_retire opened.aligned retired .RECLAIMED
  have windows := retiring_all .RECLAIMED (retiring_open facing.windows opening)
  have empty : (((a.close manager told).open_window gone sid client).retire retired .RECLAIMED).router.snapshot sid = [] := by
    have absent : ¬ (a.close manager told).router.Has sid := by
      rw [(shut_close a manager told).routed]
      rintro ⟨has,kept⟩
      exact kept (opening.opens.fresh ((facing.windows.routed sid).mpr has))
    rcases done.stored sid with empty | same
    · exact empty
    · rw [same]
      exact snapshot_register.trans (snapshot_absent absent)
  obtain ⟨windows,aligned,stored,news,log,shows,fresh⟩ := facing_tidy facing windows (tidy_trans closed (tidy_trans opened done))
  refine ⟨windows_same windows rfl rfl rfl,aligned,stored,news ++ [.sent client packet],?_,?_,?_⟩
  · change _ ++ [_] = _
    rw [log,List.append_assoc]
  · intro e member
    rcases List.mem_append.mp member with early | late
    · exact shows e early
    · rw [List.mem_singleton.mp late]
      trivial
  · rintro sid' ⟨e,member,grant⟩
    rcases List.mem_append.mp member with early | late
    · exact fresh sid' ⟨e,early,grant⟩
    · rw [List.mem_singleton.mp late] at grant
      simp only [grants,decide_eq_true_eq] at grant
      rw [← grant.2,opening.reply.2]
      exact ⟨empty,silent⟩

/-- Effects of which each is something that may be shown, while the buffers are as they were. -/
theorem facing_shown {allowed : Allowed} (facing : Facing pre event a) (windows : Windows b) (aligned : Aligned b)
    (stored : ∀ sid, b.router.snapshot sid <:+ pre.router.snapshot sid ∨
      b.router.snapshot sid <:+ pre.router.snapshot sid ++ appended pre event sid)
    (emptied : ∀ sid, a.router.snapshot sid = [] → (∀ sid', appended pre event sid' = []) → b.router.snapshot sid = [])
    (log : b.log = a.log) {c : Daemon} (traffic : Traffic allowed b c) (sends : ∀ client packet, ¬ allowed.sends client packet)
    (queues : ∀ packet, allowed.queues packet → Shows pre event (.queued b.focused_sid packet)) : Facing pre event c := by
  obtain ⟨_,_,_,news,early,shows,fresh⟩ := facing
  have tables := traffic.tables
  obtain ⟨_,⟨news',late,all⟩,_⟩ := traffic
  have router : c.router = b.router := by rw [tables]
  refine ⟨windows_same windows (by rw [tables]) (by rw [tables]) router,?_,by rw [router]; exact stored,
    news ++ news',by rw [late,log,early,List.append_assoc],?_,?_⟩
  · intro sid focused
    rw [tables] at focused ⊢
    exact aligned sid focused
  · intro e member
    rcases List.mem_append.mp member with member | member
    · exact shows e member
    · have logs := all e member
      cases e with
      | queued focused packet =>
        obtain ⟨rfl,queued⟩ := logs
        exact queues packet queued
      | sent _ _ => trivial
      | written _ => trivial
      | screen _ => trivial
  · rintro sid ⟨e,member,grant⟩
    rw [router]
    rcases List.mem_append.mp member with member | member
    · obtain ⟨empty,silent⟩ := fresh sid ⟨e,member,grant⟩
      exact ⟨emptied sid empty silent,silent⟩
    · have logs := all e member
      cases e with
      | sent client packet =>
        rcases logs with sent | rfl
        · exact absurd sent (sends client packet)
        · rw [grants,decide_eq_true_eq] at grant
          exact absurd grant.1 (by decide)
      | queued _ _ => cases grant
      | written _ => cases grant
      | screen _ => cases grant

/-- The window that is fed shows the new bytes if the board is focused on it. -/
theorem facing_fed {client : Client} {packet : Packet} (sends : Sends pre event client packet)
    (type : packet.command = Cmd.VT100_STREAM.value) (live : a.sessions.Live packet.session_id) (first : a.router = pre.router)
    (before : Windows pre) (facing : Facing pre event a) : Facing pre event (a.feed packet.session_id packet.payload) := by
  have there : a.router.Has packet.session_id := (facing.windows.routed _).mp live
  have start : pre.sessions.Live packet.session_id := (before.routed _).mpr (by rw [← first]; exact there)
  have given := appended_sends sends start type
  have windows := windows_append facing.windows live packet.payload
  have traffic : Traffic ⟨fun p => a.focused_sid = some p.session_id ∧ p.session_id = packet.session_id ∧
      p.payload ∈ fragment_payload packet.payload,fun _ _ => False⟩
      { a with router := (a.router.append packet.session_id packet.payload).1 } (a.feed packet.session_id packet.payload) := by
    refine traffic_screen _ ?_
    intro sid data call focused piece member
    unfold Vt100Router.append at call
    split at call
    · cases call
    · simp only at call
      split at call
      · cases call
        obtain ⟨chunk,of,rfl⟩ := List.mem_map.mp member
        exact ⟨focused,rfl,of⟩
      · cases call
  refine facing_shown facing windows ?_ ?_ ?_ rfl traffic (fun _ _ => id) ?_
  · intro sid focused
    exact active_append.trans (facing.aligned sid focused)
  · intro sid
    change (a.router.append _ _).1.snapshot sid <:+ _ ∨ (a.router.append _ _).1.snapshot sid <:+ _
    by_cases same : sid = packet.session_id
    · rw [same,given,← first]
      exact .inr snapshot_append
    · rw [snapshot_append_other same,first]
      exact .inl List.suffix_rfl
  · intro sid empty silent
    change (a.router.append _ _).1.snapshot sid = []
    have silence : packet.payload = [] := given.symm.trans (silent packet.session_id)
    by_cases same : sid = packet.session_id
    · have kept : (a.router.append sid packet.payload).1.snapshot sid <:+ a.router.snapshot sid ++ packet.payload := snapshot_append
      rw [empty,silence,List.append_nil,List.suffix_nil] at kept
      rw [← same,silence]
      exact kept
    · rw [snapshot_append_other same]
      exact empty
  · rintro piece ⟨focused,same,of⟩ _
    rw [same,given]
    exact ⟨by rw [← same]; exact focused,.inr of⟩

/-- The window that the board chooses is replayed, unless it was active already. -/
theorem facing_focused {sid : Nat} (cause : ∃ packet clock, event = .board_packet packet clock) (live : a.sessions.Live sid)
    (facing : Facing pre event a) : Facing pre event (a.focus (some sid)) := by
  have there : a.router.Has sid := (facing.windows.routed sid).mp live
  have silent : ∀ sid', appended pre event sid' = [] := by
    obtain ⟨packet,clock,rfl⟩ := cause
    exact fun _ => rfl
  have windows := windows_set_active facing.windows (some sid) (some sid)
  have traffic : Traffic ⟨fun p => p.session_id = sid ∧ p.payload ∈ fragment_payload (SCREEN_CLEAR ++ a.router.snapshot sid),
      fun _ _ => False⟩ { a with focused_sid := some sid, router := (a.router.set_active (some sid)).1 } (a.focus (some sid)) := by
    refine traffic_screen _ ?_
    intro sid' data call _ piece member
    simp only [Vt100Router.set_active] at call
    split at call
    · cases call
    · split at call
      · cases call
      · cases call
        obtain ⟨chunk,of,rfl⟩ := List.mem_map.mp member
        exact ⟨rfl,of⟩
  refine facing_shown facing windows ?_ ?_ ?_ rfl traffic (fun _ _ => id) ?_
  · intro sid' focused
    cases focused
    exact active_set_active there
  · intro sid'
    change (a.router.set_active _).1.snapshot sid' <:+ _ ∨ (a.router.set_active _).1.snapshot sid' <:+ _
    rw [snapshot_set_active]
    exact facing.stored sid'
  · intro sid' empty _
    exact snapshot_set_active.trans empty
  · rintro piece ⟨rfl,of⟩ _
    refine ⟨rfl,.inl ⟨a.router.snapshot piece.session_id,?_,of⟩⟩
    have kept := facing.stored piece.session_id
    rwa [silent,List.append_nil,or_self] at kept

/-- What any act does. -/
theorem facing_act (before : Windows pre) (a b : Daemon) (act : Act pre event a b) (facing : Facing pre event a) :
    Facing pre event b := by
  have windows := windows_act a b act facing.windows
  have quiet : ∀ {c : Daemon}, c.router = a.router → c.focused_sid = a.focused_sid → c.log = a.log → Tidy a c := by
    intro c router focused log
    refine ⟨?_,fun sid => .inr (by rw [router]),[],by simp [log],by simp⟩
    intro sid focus
    rw [focused] at focus
    rw [router]
    exact facing.aligned sid focus
  cases act with
  | traffic traffic => exact facing_tidy facing windows (tidy_ordinary facing.aligned traffic)
  | @asked client packet _ type =>
    have other : packet.command ≠ Cmd.VT100_STREAM.value := by
      rw [type]
      decide
    have asks : Traffic ⟨fun p => p.command ≠ Cmd.VT100_STREAM.value,fun _ _ => False⟩ a (a.forward_packet_to_board packet).1 :=
      traffic_forward a other
    exact facing_tidy facing windows (tidy_traffic facing.aligned asks
      (fun _ logs => quiet_logs logs (fun _ queues stream => absurd stream queues) (fun _ _ sends => sends.elim)))
  | pended _ _ => exact facing_tidy facing windows (quiet rfl rfl rfl)
  | closed closes => exact facing_tidy facing windows (tidy_close facing.aligned _ _)
  | opened opening cause => exact facing_opened opening (appended_opening cause) facing
  | rebound _ _ _ _ => exact facing_tidy facing windows (quiet rfl rfl rfl)
  | touched _ _ => exact facing_tidy facing windows (quiet rfl rfl rfl)
  | fed sends type live first => exact facing_fed sends type live first before facing
  | focused cause live => exact facing_focused cause live facing
  | unfocused => exact facing_tidy facing windows tidy_unfocus
  | joined _ => exact facing_tidy facing windows (quiet rfl rfl rfl)
  | left _ => exact facing_tidy facing windows (quiet rfl rfl rfl)
  | wrote _ queue writing written =>
    refine facing_tidy facing windows ⟨facing.aligned,fun _ => .inr rfl,_,rfl,?_⟩
    intro e member
    obtain ⟨packet,_,rfl⟩ := List.mem_map.mp member
    trivial

/-- Bytes for a live session are appended to its buffer. -/
theorem stream_router {client : Client} {packet : Packet} (sends : Sends pre event client packet)
    (type : packet.command = Cmd.VT100_STREAM.value) (live : pre.sessions.Live packet.session_id) :
    (pre.handle event).router = (pre.router.append packet.session_id packet.payload).1 := by
  obtain ⟨heard,clock,rfl⟩ := sends
  have streams : (pre.handle_vt100 packet client clock).router = (pre.router.append packet.session_id packet.payload).1 := by
    obtain ⟨session,found⟩ := Dict.mem_keys.mp live
    have shown : ∀ (b : Daemon) call, (b.screen_sink call).router = b.router := by
      intro b call
      rw [(anything_shown b call).tables]
    simp only [Daemon.handle_vt100,Daemon.validate_session,SessionManager.get,found]
    by_cases owned : pre.owners.get packet.session_id = some client
    · rw [if_neg (not_not.mpr owned)]
      exact shown _ _
    · rw [if_pos owned]
      exact shown _ _
  simp only [Daemon.handle,if_pos heard,Daemon.handle_packet,of_value_iff.mpr type]
  split
  · exact streams
  · exact streams

end

/-! ## Runs -/

/-- The buffers hold what the sessions received, but for their oldest bytes. -/
structure Fresh (ms : List HostMove) (daemon : Daemon) : Prop where
  windows : Windows daemon
  aligned : Aligned daemon
  stored : ∀ sid, daemon.router.snapshot sid <:+ received ms sid

theorem received_snoc (ms : List HostMove) (m : HostMove) (sid : Nat) : received (ms ++ [m]) sid =
    if (effects m).any (grants sid) ∨ ¬ m.post.sessions.Live sid then [] else received ms sid ++ appended m.pre m.input sid := by
  rw [received,List.foldl_append]
  rfl

theorem fresh_step {ms : List HostMove} {m : HostMove} (move : host m) (fresh : Fresh ms m.pre) :
    Fresh (ms ++ [m]) m.post ∧ Shown ms m := by
  obtain ⟨before,aligned,stored⟩ := fresh
  have facing : Facing m.pre m.input m.post := by
    rw [move]
    exact acts_invariant (facing_act before) (event_acts m.pre m.input) (facing_start before aligned)
  have fed : ∀ sid, m.post.router.snapshot sid <:+ m.pre.router.snapshot sid ++ appended m.pre m.input sid := by
    intro sid
    by_cases silent : appended m.pre m.input sid = []
    · have kept := facing.stored sid
      rw [silent,List.append_nil,or_self] at kept
      rwa [silent,List.append_nil]
    · have stream : ∃ client packet, Sends m.pre m.input client packet ∧ packet.command = Cmd.VT100_STREAM.value ∧
          packet.session_id = sid ∧ m.pre.sessions.Live sid := by
        unfold appended at silent
        split at silent
        · rename_i client packet clock input
          split at silent
          · rename_i given
            exact ⟨client,packet,⟨given.1,clock,input⟩,given.2⟩
          · exact absurd rfl silent
        · exact absurd rfl silent
      obtain ⟨client,packet,sends,type,rfl,live⟩ := stream
      rw [appended_sends sends live type,move,stream_router sends type live]
      exact snapshot_append
  obtain ⟨windows,aligned',_,news,log,shows,granted⟩ := facing
  have news_effects : effects m = news := by
    rw [effects,log,List.drop_left]
  refine ⟨⟨windows,aligned',?_⟩,?_⟩
  · intro sid
    rw [received_snoc,news_effects]
    split
    · rename_i restart
      rw [List.suffix_nil]
      rcases restart with grant | ended
      · exact (granted sid (List.any_eq_true.mp grant)).1
      · refine snapshot_absent ?_
        intro has
        exact ended ((windows.routed sid).mpr has)
    · exact (fed sid).trans (List.suffix_append_self_iff.mpr (stored sid))
  · intro focused packet member stream
    rw [news_effects] at member
    obtain ⟨focus,pieces⟩ := shows _ member stream
    refine ⟨focus,pieces.imp_left ?_⟩
    rintro ⟨own,kept,piece⟩
    exact ⟨own,kept.trans (stored packet.session_id),piece⟩

theorem fresh_start (config : DaemonConfig) : Fresh [] (.start config) := by
  refine ⟨windows_start config,?_,fun sid => List.nil_suffix⟩
  intro sid focused
  cases focused

theorem run_fresh {config : DaemonConfig} {ms : List HostMove} {daemon : Daemon} (run : HostRun config ms daemon) : Fresh ms daemon := by
  induction run with
  | refl => exact fresh_start config
  | next before move ih => exact (fresh_step move ih).1

/-- In every run, the board is focused on a live session or on none, and each packet for the screen that was ever queued
    is of the session in focus at that moment, with bytes of a screen-clear and of this session. -/
theorem board_shown {config : DaemonConfig} {ms : List HostMove} {daemon : Daemon} (run : HostRun config ms daemon) :
    (∀ sid, daemon.focused_sid = some sid → daemon.sessions.Live sid) ∧ Throughout Shown ms := by
  have fresh := run_fresh run
  refine ⟨fun sid focused => fresh.windows.selects sid (fresh.aligned sid focused),?_⟩
  rintro before m after rfl
  obtain ⟨left,move,_⟩ := path_split run
  exact (fresh_step move (run_fresh left)).2

/-- The board opens the screen of a second session that has received nothing. -/
def second_focused : List Event :=
  [.connect,.connect,.asks 0,.asks 1,.write true,.write true,.allots 1,.allots 2,.focuses 2]

theorem board_shown_second : (∀ sid, (finish host_step (.start .real) second_focused).focused_sid = some sid →
    (finish host_step (.start .real) second_focused).sessions.Live sid) ∧
      Throughout Shown (moves host_step (.start .real) second_focused) := board_shown (host_events .real second_focused)

/-- Each packet for the screen carries only bytes that its session received. -/
def Own (before : List HostMove) (m : HostMove) : Prop :=
  ∀ focused packet, .queued focused packet ∈ effects m → packet.command = Cmd.VT100_STREAM.value →
    focused = some packet.session_id ∧
      packet.payload <:+: received before packet.session_id ++ appended m.pre m.input packet.session_id

/-- The screen is cleared before it is replayed, with bytes that no session received. -/
theorem screen_cleared : ¬ ∀ config ms daemon, HostRun config ms daemon → Throughout Own ms := by
  intro claimed
  have own := claimed _ _ _ (host_events .real second_focused) _ _ [] (moves_append host_step (.start .real) (second_focused.take 8) _)
    (some 2) (make_vt100_chunk 2 SCREEN_CLEAR) (by decide) rfl
  exact absurd own.2 (by decide)

end VibeBridge.Python
