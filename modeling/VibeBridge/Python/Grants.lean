import VibeBridge.Python.Owners
import VibeBridge.Python.PluginClient

/-!
What the clients are told about the sessions. A sid is granted again and again;
the log tells to whom (`grantees`), and what each client was sent (`sent_to`).
Unless a session is given to the sender of a packet, its owner is the one that
it was granted to, and a client that has taken all that it was sent and holds a
sid owns it (`Faithful`).
-/
namespace VibeBridge.Python
open Transitions

/-- The client that the sid is granted to. -/
def grantee (sid : Nat) : Effect → Option Client
  | .sent client packet => if packet.command = Cmd.SESSION_RESPONSE.value ∧ packet.session_id = sid then some client else none
  | _ => none

/-- The clients that the sid was granted to, the last one at the end. -/
def grantees (log : List Effect) (sid : Nat) : List Client := log.filterMap (grantee sid)

/-- What the effect sends to the client. -/
def sends_to (client : Client) : Effect → Option Packet
  | .sent other packet => if other = client then some packet else none
  | _ => none

/-- What the client was sent, in order. -/
def sent_to (log : List Effect) (client : Client) : List Packet := log.filterMap (sends_to client)

/-- The owner of a sid is the client that it was granted to last, and whoever holds a sid after all that it was sent is its owner. -/
structure Faithful (start : Client → PluginClient) (daemon : Daemon) : Prop where
  granted : ∀ sid client, daemon.owners.get sid = some client → (grantees daemon.log sid).getLast? = some client
  held : ∀ client plugin sid, (start client).take_all (sent_to daemon.log client) = some plugin → plugin.sid = some sid →
    daemon.owners.get sid = some client

/-- Any packets for the board, and none for the clients. -/
def Unsent : Allowed := ⟨fun _ => True,fun _ _ => False⟩

theorem unsent_shown (daemon : Daemon) (call : ScreenCall) : Traffic Unsent daemon (daemon.screen_sink call) :=
  traffic_screen daemon (fun _ _ _ _ _ _ => trivial)

/-- Nothing is sent but that a request failed. -/
def Muted : Effect → Prop
  | .sent _ packet => packet = make_session_invalid SESSION_BROADCAST .INVALID
  | _ => True

/-- No grant is sent. -/
def Grantless : Effect → Prop
  | .sent _ packet => packet.command ≠ Cmd.SESSION_RESPONSE.value
  | _ => True

theorem muted_grantless {e : Effect} (muted : Muted e) : Grantless e := by
  cases e with
  | sent client packet =>
    have same : packet = make_session_invalid SESSION_BROADCAST .INVALID := muted
    rw [same]
    exact invalid_no_response _ _
  | queued _ _ => trivial
  | written _ => trivial
  | screen _ => trivial

theorem grantless_grantees {news : List Effect} (grantless : ∀ e ∈ news, Grantless e) (sid : Nat) : grantees news sid = [] := by
  refine List.filterMap_eq_nil_iff.mpr ?_
  intro e member
  cases e with
  | sent client packet => exact if_neg (fun both => grantless _ member both.1)
  | queued _ _ => rfl
  | written _ => rfl
  | screen _ => rfl

theorem grantees_append (log news : List Effect) (sid : Nat) : grantees (log ++ news) sid = grantees log sid ++ grantees news sid :=
  List.filterMap_append

theorem sent_to_append (log news : List Effect) (client : Client) :
    sent_to (log ++ news) client = sent_to log client ++ sent_to news client := List.filterMap_append

/-- Without a grant, a client holds at most what it held. -/
theorem grantless_held {news : List Effect} (grantless : ∀ e ∈ news, Grantless e) {plugin plugin' : PluginClient} {client : Client}
    {sid : Nat} (took : plugin.take_all (sent_to news client) = some plugin') (held : plugin'.sid = some sid) :
    plugin.sid = some sid := by
  have others : ∀ packet ∈ sent_to news client, packet.command ≠ Cmd.SESSION_RESPONSE.value := by
    intro packet member
    obtain ⟨e,there,sends⟩ := List.mem_filterMap.mp member
    cases e with
    | sent other sent =>
      simp only [sends_to] at sends
      split at sends
      · cases sends
        exact grantless _ there
      · cases sends
    | queued _ _ => cases sends
    | written _ => cases sends
    | screen _ => cases sends
  generalize sent_to news client = packets at took others
  induction packets generalizing plugin with
  | nil =>
    cases took
    exact held
  | cons packet rest ih =>
    obtain ⟨mid,first,later⟩ := take_all_append.mp (show plugin.take_all ([packet] ++ rest) = some plugin' from took)
    have before := ih later (fun p member => others p (List.mem_cons_of_mem packet member))
    exact take_keeps (others packet List.mem_cons_self) (take_all_one.mp first) before

section
variable {start : Client → PluginClient} {a b : Daemon}

/-- Without grants and without a change of the owners. -/
theorem faithful_grantless (faithful : Faithful start a) (owners : ∀ sid, b.owners.get sid = a.owners.get sid) (adds : Adds Grantless a b) :
    Faithful start b := by
  obtain ⟨news,log,grantless⟩ := adds
  constructor
  · intro sid client owner
    rw [owners] at owner
    rw [log,grantees_append,grantless_grantees grantless,List.append_nil]
    exact faithful.granted sid client owner
  · intro client plugin sid took held
    rw [log,sent_to_append] at took
    obtain ⟨mid,before,after⟩ := take_all_append.mp took
    rw [owners]
    exact faithful.held client mid sid before (grantless_held grantless after held)

theorem faithful_traffic {allowed : Allowed} (faithful : Faithful start a) (traffic : Traffic allowed a b)
    (sends : ∀ client packet, allowed.sends client packet → packet.command ≠ Cmd.SESSION_RESPONSE.value) : Faithful start b := by
  obtain ⟨tables,⟨news,log,all⟩,_⟩ := traffic
  refine faithful_grantless faithful (fun sid => by rw [tables]) ⟨news,log,?_⟩
  intro e member
  have logs := all e member
  cases e with
  | sent client packet =>
    rcases logs with sent | rfl
    · exact sends client packet sent
    · exact invalid_no_response _ _
  | queued _ _ => trivial
  | written _ => trivial
  | screen _ => trivial

/-- What is shown is for the board; no client is sent anything but that its request failed. -/
theorem shown_muted (daemon : Daemon) (call : ScreenCall) : Adds Muted daemon (daemon.screen_sink call) := by
  obtain ⟨_,⟨news,log,all⟩,_⟩ := unsent_shown daemon call
  refine ⟨news,log,?_⟩
  intro e member
  have logs := all e member
  cases e with
  | sent client packet => exact logs.resolve_left id
  | queued _ _ => trivial
  | written _ => trivial
  | screen _ => trivial

/-- The owner of a session that ends is told so, and nobody else. -/
theorem invalidate_log (daemon : Daemon) (sid : Nat) (status : Status) : ∃ news,
    (daemon.on_session_invalidate sid status).log = daemon.log ++ news ++ notice (daemon.owners.get sid) sid status ∧
      ∀ e ∈ news, Muted e := by
  obtain ⟨news,log,muted⟩ := shown_muted { daemon with router := (daemon.router.unregister sid).1 } (daemon.router.unregister sid).2
  obtain ⟨_,_,_,_,unrouted⟩ := unroute_tables daemon sid
  refine ⟨news,?_,muted⟩
  rw [on_session_invalidate_eq,Daemon.disown]
  change (daemon.unroute sid).log ++ notice ((daemon.unroute sid).owners.get sid) sid status = _
  have owners : (daemon.unroute sid).owners = daemon.owners := by rw [unrouted]
  rw [owners]
  exact congrArg (· ++ _) log

/-- A client that owned the session and was told holds it no more; the others hold other ones. -/
theorem faithful_invalidate (faithful : Faithful start a) (sid : Nat) (status : Status) :
    Faithful start (a.on_session_invalidate sid status) := by
  obtain ⟨news,log,muted⟩ := invalidate_log a sid status
  have shut := shut_one a sid status
  have grantless : ∀ e ∈ news ++ notice (a.owners.get sid) sid status, Grantless e := by
    intro e member
    rcases List.mem_append.mp member with early | late
    · exact muted_grantless (muted e early)
    · obtain ⟨owner,_,rfl⟩ := List.mem_map.mp late
      exact invalid_no_response _ _
  rw [List.append_assoc] at log
  constructor
  · intro sid' client owner
    rw [shut.owners] at owner
    split at owner
    · cases owner
    · rw [log,grantees_append,grantless_grantees grantless,List.append_nil]
      exact faithful.granted sid' client owner
  · intro client plugin sid' took held
    rw [log,sent_to_append] at took
    obtain ⟨mid,before,after⟩ := take_all_append.mp took
    have owner := faithful.held client mid sid' before (grantless_held grantless after held)
    rw [shut.owners,if_neg]
    · exact owner
    · rw [List.mem_singleton]
      rintro rfl
      -- the client owned this session, so the last that it was sent is that it ended
      have told : sent_to (notice (a.owners.get sid') sid' status) client = [make_session_invalid sid' status] := by
        simp [owner,notice,sent_to,sends_to]
      rw [sent_to_append,told] at after
      obtain ⟨_,_,last⟩ := take_all_append.mp after
      have type : (make_session_invalid sid' status).command = Cmd.SESSION_INVALID.value := rfl
      exact take_invalid type (invalid_status_byte status) (take_all_one.mp last) held

theorem faithful_close (faithful : Faithful start a) (manager : SessionManager) (told : List (Nat × Status)) :
    Faithful start (a.close manager told) := by
  have adopted : Faithful start { a with sessions := manager } := ⟨faithful.granted,faithful.held⟩
  exact close_kept (P := Faithful start) (fun _ sid status before => faithful_invalidate before sid status) told adopted

/-- Nobody is told that a session ends that nobody owns. -/
theorem unowned_muted {told : List (Nat × Status)} (unowned : ∀ t ∈ told, a.owners.get t.1 = none) :
    Adds Muted a (a.on_session_invalidates told) := by
  induction told generalizing a with
  | nil => exact adds_refl a
  | cons t rest ih =>
    obtain ⟨news,log,muted⟩ := invalidate_log a t.1 t.2
    rw [unowned t List.mem_cons_self] at log
    have first : Adds Muted a (a.on_session_invalidate t.1 t.2) := ⟨news,log.trans (List.append_nil _),muted⟩
    refine adds_trans first (ih ?_)
    intro t' member
    rw [(shut_one a t.1 t.2).owners]
    split
    · rfl
    · exact unowned t' (List.mem_cons_of_mem t member)

theorem retire_muted (sids : List Nat) (status : Status) (unowned : ∀ sid ∈ sids, a.owners.get sid = none) :
    Adds Muted a (a.retire sids status) := by
  induction sids generalizing a with
  | nil => exact adds_refl a
  | cons first rest ih =>
    have closed : Adds Muted a (a.invalidate first status) := by
      refine unowned_muted (a := { a with sessions := (a.sessions.invalidate first status).manager }) ?_
      intro t member
      simp only [invalidate_told] at member
      split at member
      · rw [List.mem_singleton.mp member]
        exact unowned first List.mem_cons_self
      · cases member
    refine adds_trans closed (ih ?_)
    intro sid member
    have shut : Shut _ (a.invalidate first status) _ := shut_close a _ _
    rw [shut.owners]
    split
    · rfl
    · exact unowned sid (List.mem_cons_of_mem first member)

/-- A session is granted to a client, which gives up the ones that it owned before if it is told of no other than the new one. -/
theorem faithful_opened {manager : SessionManager} {told : List (Nat × Status)} {gone retired : List Nat} {sid : Nat}
    {client : Client} {packet : Packet} (windows : Windows a) (opening : Opening a manager told gone retired sid client packet)
    (faithful : Faithful start a) :
    Faithful start ((((a.close manager told).open_window gone sid client).retire retired .RECLAIMED).send client packet) := by
  have closed := faithful_close faithful manager told
  have shut := shut_close a manager told
  have owners := opening_owners windows opening
  have opened := (retiring_open windows opening).owned
  obtain ⟨news,log,muted⟩ : Adds Muted _ (((a.close manager told).open_window gone sid client).retire retired .RECLAIMED) := by
    refine retire_muted retired .RECLAIMED ?_
    intro x member
    exact Dict.get_none.mpr (fun owned => ((opened x).mp owned).2 member)
  generalize ((a.close manager told).open_window gone sid client).retire retired .RECLAIMED = b at owners log
  change b.log = (a.close manager told).log ++ news at log
  -- the others keep what they own
  have others : ∀ sid', sid' ≠ sid → sid' ∉ retired → b.owners.get sid' = (a.close manager told).owners.get sid' := by
    intro sid' other kept
    rw [owners,shut.owners,if_neg other]
    simp only [kept,or_false]
  have unowned : (a.close manager told).owners.get sid = none := by
    rw [shut.owners]
    split
    · rfl
    · rename_i kept
      refine Dict.get_none.mpr (fun owned => kept ?_)
      exact opening.opens.fresh ((windows.owned sid).mpr owned)
  have logged : (b.send client packet).log = (a.close manager told).log ++ news ++ [.sent client packet] := by
    rw [← log]
    rfl
  have quiet : ∀ e ∈ news, Grantless e := fun e member => muted_grantless (muted e member)
  constructor
  · intro sid' owner owned
    rw [logged,grantees_append,grantees_append,grantless_grantees quiet,List.append_nil]
    by_cases own : sid' = sid
    · have granted : grantees [.sent client packet] sid' = [client] := by
        simp [grantees,grantee,opening.reply.1,opening.reply.2,own]
      have owner' : b.owners.get sid' = some client := by
        rw [owners,if_pos own]
      cases owner'.symm.trans owned
      rw [granted]
      exact List.getLast?_concat
    · have granted : grantees [.sent client packet] sid' = [] := by
        simp [grantees,grantee,opening.reply.2,Ne.symm own]
      rw [granted,List.append_nil]
      have kept : sid' ∉ retired := by
        intro retires
        have lost := owners sid'
        rw [if_neg own,if_pos (.inr retires)] at lost
        cases lost.symm.trans owned
      exact closed.granted sid' owner ((others sid' own kept).symm.trans owned)
  · intro owner plugin sid' took held
    change b.owners.get sid' = some owner
    rw [logged,sent_to_append,sent_to_append] at took
    obtain ⟨mid,before,after⟩ := take_all_append.mp took
    by_cases asked : owner = client
    · have told : sent_to [.sent client packet] owner = [packet] := by
        simp [sent_to,sends_to,asked]
      rw [told] at after
      have now := take_response opening.reply.1 (take_all_one.mp after)
      rw [opening.reply.2] at now
      cases now.symm.trans held
      rw [owners,if_pos rfl,asked]
    · have told : sent_to [.sent client packet] owner = [] := by
        simp [sent_to,sends_to,Ne.symm asked]
      rw [told] at after
      cases after
      obtain ⟨first,before,after⟩ := take_all_append.mp before
      have owned := closed.held owner first sid' before (grantless_held quiet after held)
      rw [others]
      · exact owned
      · rintro rfl
        cases unowned.symm.trans owned
      · intro retires
        cases (opening.retires sid' retires).2.symm.trans owned
        exact asked rfl

/-- Whoever is heard under a live sid owns it already. -/
def Bound (pre : Daemon) (event : Event) : Prop := ∀ client packet, Sends pre event client packet → pre.Checks packet →
  pre.sessions.Live packet.session_id → pre.owners.get packet.session_id = some client

theorem faithful_act {pre : Daemon} {event : Event} (bound : Bound pre event) (act : Act pre event a b) (windows : Windows a)
    (faithful : Faithful start a) : Faithful start b := by
  have shown : ∀ (daemon : Daemon) call, Faithful start daemon → Faithful start (daemon.screen_sink call) :=
    fun daemon call faithful => faithful_traffic faithful (unsent_shown daemon call) (fun _ _ => False.elim)
  have same : ∀ {c : Daemon}, c.owners = a.owners → c.log = a.log → Faithful start c := by
    intro c owners log
    exact faithful_grantless faithful (fun sid => by rw [owners]) ⟨[],log.trans (List.append_nil _).symm,by simp⟩
  cases act with
  | traffic traffic => exact faithful_traffic faithful traffic (fun _ _ => id)
  | @asked client packet _ _ =>
    have asked : Traffic Unsent a (a.forward_packet_to_board packet).1 := traffic_forward a trivial
    exact faithful_traffic faithful asked (fun _ _ => False.elim)
  | closed _ => exact faithful_close faithful _ _
  | opened opening _ => exact faithful_opened windows opening faithful
  | @rebound client packet sends checks live first =>
    subst first
    refine faithful_grantless faithful ?_ ⟨[],(List.append_nil _).symm,by simp⟩
    intro sid
    change (a.owners.set packet.session_id client).get sid = _
    rw [Dict.get_set]
    by_cases own : sid = packet.session_id
    · rw [if_pos own,own,bound client packet sends checks live]
    · rw [if_neg own]
  | touched sid now => exact same rfl rfl
  | @fed client packet _ _ _ _ => exact shown _ _ (same rfl rfl)
  | focused _ _ => exact shown _ _ (same rfl rfl)
  | unfocused => exact shown _ _ (same rfl rfl)
  | pended _ _ => exact same rfl rfl
  | joined _ => exact same rfl rfl
  | left _ => exact same rfl rfl
  | wrote _ queue writing written =>
    refine faithful_grantless faithful (fun _ => rfl) ⟨written.map .written,rfl,?_⟩
    intro e member
    obtain ⟨packet,_,rfl⟩ := List.mem_map.mp member
    trivial

/-- An event that takes no session from its owner. -/
theorem faithful_event {pre : Daemon} {event : Event} (bound : Bound pre event) (windows : Windows pre)
    (faithful : Faithful start pre) : Faithful start (pre.handle event) := by
  have kept : ∀ c d, Act pre event c d → Windows c ∧ Faithful start c → Windows d ∧ Faithful start d :=
    fun c d act both => ⟨windows_act c d act both.1,faithful_act bound act both.1 both.2⟩
  exact (acts_invariant kept (event_acts pre event) ⟨windows,faithful⟩).2

theorem faithful_start (config : DaemonConfig) (fresh : ∀ client, (start client).sid = none) : Faithful start (.start config) := by
  constructor
  · intro sid client owned
    cases owned
  · intro client plugin sid took held
    cases took
    cases (fresh client).symm.trans held

end
end VibeBridge.Python
