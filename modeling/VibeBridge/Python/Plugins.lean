import VibeBridge.Python.Focus
import VibeBridge.Python.Grants

/-!
The daemon and its plugin clients. Each connection delivers its packets in their
order, in both directions, and a client that is connected sends packets under
the sids that it was granted. The grants of a sid are numbered; a packet carries
the number of the grant that its sender used the sid under, which nothing in the
system depends on. A sid is granted again while packets of its former client are
on their way, and the daemon then takes the session for their sender's. As long
as no such packet is handled, a client that has read all that it was sent owns
what it holds, and bytes for a session that has ended are refused (`holders_own`).
-/
namespace VibeBridge.Python
open Transitions

/-! ## The system -/

/-- What a client is sent by the effects after those that were `seen`, each packet with the number of
    grants of its sid before it. -/
def inbox_from (client : Client) (seen : List Effect) : List Effect → List (Packet × Nat)
  | [] => []
  | e :: rest => (sends_to client e).toList.map (fun packet => (packet,(grantees seen packet.session_id).length)) ++
      inbox_from client (seen ++ [e]) rest

def inbox (client : Client) (log : List Effect) : List (Packet × Nat) := inbox_from client [] log

/-- A plugin client at its end of the connection. -/
structure Peer where
  plugin : PluginClient
  /-- How many of the packets that it was sent it has taken. -/
  taken : Nat
  /-- The grants that it has taken: the sid and the number of the grant. -/
  held : List (Nat × Nat)
  /-- The packets on their way to the daemon. -/
  outgoing : List (Packet × Nat)
  deriving DecidableEq

structure Net where
  daemon : Daemon
  peers : Client → Peer

/-- The names of the plugins, and whether they ask again for a session that ended. -/
abbrev Plugins := Client → List UInt8 × Bool

def Plugins.client (plugins : Plugins) (client : Client) : PluginClient := .new (plugins client).1 (plugins client).2

def Net.start (config : DaemonConfig) (plugins : Plugins) : Net := ⟨.start config,fun client => ⟨plugins.client client,0,[],[]⟩⟩

inductive NetEvent
  /-- Anything that happens to the daemon but a packet of a client. -/
  | host (event : Event)
  | send (client : Client) (packet : Packet) (grant : Nat)
  | deliver (client : Client) (clock : Clock)
  | take (client : Client)

def Net.put (net : Net) (client : Client) (peer : Peer) : Net := { net with peers := Function.update net.peers client peer }

/-- The client takes a packet that it was sent, unless its reader has ended. -/
def Peer.take (peer : Peer) (packet : Packet) (grant : Nat) : Peer :=
  match peer.plugin.take packet with
  | none => peer
  | some plugin =>
    { plugin
      taken := peer.taken + 1
      held := if packet.command = Cmd.SESSION_RESPONSE.value then (packet.session_id,grant) :: peer.held else peer.held
      outgoing := peer.outgoing ++ (peer.plugin.dispatch packet).2.map (fun packet => (packet,0)) }

/-- A client sends and takes packets while it is connected. -/
def Net.handle (net : Net) : NetEvent → Net
  | .host (.client_packet _ _ _) => net
  | .host event => { net with daemon := net.daemon.handle event }
  | .send client packet grant =>
    let peer := net.peers client
    if client ∈ net.daemon.clients ∧ (packet.session_id = SESSION_BROADCAST ∨ (packet.session_id,grant) ∈ peer.held) then
      net.put client { peer with outgoing := peer.outgoing ++ [(packet,grant)] }
    else net
  | .deliver client clock =>
    let peer := net.peers client
    match peer.outgoing with
    | [] => net
    | (packet,_) :: rest =>
      { net with daemon := net.daemon.handle (.client_packet client packet clock) }.put client { peer with outgoing := rest }
  | .take client =>
    let peer := net.peers client
    match (inbox client net.daemon.log)[peer.taken]? with
    | none => net
    | some (packet,grant) => if client ∈ net.daemon.clients then net.put client (peer.take packet grant) else net

abbrev NetMove := Move Net NetEvent Unit

/-- The moves of the daemon and its clients. -/
def network : System Net NetEvent Unit := fun m => m.post = m.pre.handle m.input

def NetRun (config : DaemonConfig) (plugins : Plugins) (ms : List NetMove) (net : Net) : Prop :=
  Path network (.start config plugins) ms net

def net_step (net : Net) (event : NetEvent) : Net × Unit := (net.handle event,())

theorem net_events (config : DaemonConfig) (plugins : Plugins) (events : List NetEvent) :
    NetRun config plugins (moves net_step (.start config plugins) events) (finish net_step (.start config plugins) events) := by
  refine moves_path _ events ?_
  intro m member
  exact (congrArg Prod.fst (moves_step member)).symm

/-- No packet is on its way between the daemon and a client. -/
def Settled (net : Net) : Prop := ∀ client ∈ net.daemon.clients,
  (net.peers client).outgoing = [] ∧ (net.peers client).taken = (inbox client net.daemon.log).length

instance (net : Net) : Decidable (Settled net) := inferInstanceAs (Decidable (∀ _ ∈ _, _))

/-- A client that holds a sid owns it. -/
def Owned (net : Net) : Prop := ∀ client ∈ net.daemon.clients, ∀ sid, (net.peers client).plugin.sid = some sid →
  net.daemon.owners.get sid = some client

/-- In this move the daemon hears a packet that the client sent under a grant. -/
def Handles (m : NetMove) (client : Client) (packet : Packet) (grant : Nat) : Prop := ∃ clock rest,
  m.input = .deliver client clock ∧ (m.pre.peers client).outgoing = (packet,grant) :: rest ∧ m.pre.daemon.Hears client packet

/-- The session that the sid was granted for has not ended. -/
def Current (daemon : Daemon) (sid grant : Nat) : Prop := daemon.sessions.Live sid ∧ (grantees daemon.log sid).length = grant + 1

instance (daemon : Daemon) (sid grant : Nat) : Decidable (Current daemon sid grant) := inferInstanceAs (Decidable (_ ∧ _))

/-- Bytes for a session that has ended enter no buffer, and are answered with SESSION_INVALID. -/
def Rejects (m : NetMove) : Prop := ∀ client packet grant, Handles m client packet grant → packet.command = Cmd.VT100_STREAM.value →
  ¬ Current m.pre.daemon packet.session_id grant → m.post.daemon.router = m.pre.daemon.router ∧
    m.post.daemon.log = m.pre.daemon.log ++ [.sent client (make_session_invalid packet.session_id .INVALID)]

/-- Under a live sid that was granted again since, bytes are handled, or another packet that makes its sender the owner. -/
def Recycled (m : NetMove) : Prop := ∃ client packet grant, Handles m client packet grant ∧ m.pre.daemon.Checks packet ∧
  m.pre.daemon.sessions.Live packet.session_id ∧ (grantees m.pre.daemon.log packet.session_id).length ≠ grant + 1 ∧
    (packet.command = Cmd.VT100_STREAM.value ∨ m.pre.daemon.owners.get packet.session_id ≠ some client)

/-! ## What the clients know -/

theorem inbox_from_append (client : Client) (log news seen : List Effect) :
    inbox_from client seen (log ++ news) = inbox_from client seen log ++ inbox_from client (seen ++ log) news := by
  induction log generalizing seen with
  | nil => simp [inbox_from]
  | cons e rest ih => simp [inbox_from,ih]

theorem inbox_append (client : Client) (log news : List Effect) :
    inbox client (log ++ news) = inbox client log ++ inbox_from client log news := inbox_from_append client log news []

/-- The packets of the inbox are those that the client was sent. -/
theorem inbox_sent (client : Client) (log : List Effect) : (inbox client log).map Prod.fst = sent_to log client := by
  have all : ∀ seen, (inbox_from client seen log).map Prod.fst = sent_to log client := by
    induction log with
    | nil => exact fun _ => rfl
    | cons e rest ih =>
      intro seen
      rw [inbox_from,List.map_append,ih]
      cases sends : sends_to client e <;> simp [sent_to,sends]
  exact all []

theorem inbox_from_granted {client : Client} {seen log : List Effect} {packet : Packet} {grant : Nat}
    (member : (packet,grant) ∈ inbox_from client seen log) (type : packet.command = Cmd.SESSION_RESPONSE.value) :
    (grantees (seen ++ log) packet.session_id)[grant]? = some client := by
  induction log generalizing seen with
  | nil => cases member
  | cons e rest ih =>
    rcases List.mem_append.mp member with here | later
    · cases sends : sends_to client e with
      | none =>
        rw [sends] at here
        cases here
      | some first =>
        rw [sends] at here
        cases List.mem_singleton.mp here
        cases e with
        | sent other sent =>
          simp only [sends_to] at sends
          split at sends
          · rename_i same
            cases sends
            rw [grantees_append,List.getElem?_append_right (Nat.le_refl _),Nat.sub_self]
            simp [grantees,grantee,type,same]
          · cases sends
        | queued _ _ => cases sends
        | written _ => cases sends
        | screen _ => cases sends
    · have there := ih later
      rwa [List.append_assoc] at there

/-- A grant in the inbox has the number that the log gives it. -/
theorem inbox_granted {client : Client} {log : List Effect} {packet : Packet} {grant : Nat}
    (member : (packet,grant) ∈ inbox client log) (type : packet.command = Cmd.SESSION_RESPONSE.value) :
    (grantees log packet.session_id)[grant]? = some client := inbox_from_granted member type

/-- A grant keeps its number. -/
theorem granted_later {log : List Effect} {sid grant : Nat} {client : Client} (granted : (grantees log sid)[grant]? = some client)
    (news : List Effect) : (grantees (log ++ news) sid)[grant]? = some client := by
  obtain ⟨inside,_⟩ := List.getElem?_eq_some_iff.mp granted
  rw [grantees_append,List.getElem?_append_left inside]
  exact granted

/-- What a client did is what it was sent, and it used only what it was granted. -/
structure Abides (log : List Effect) (client : Client) (start : PluginClient) (peer : Peer) : Prop where
  behind : peer.taken ≤ (inbox client log).length
  read : start.take_all (((inbox client log).take peer.taken).map Prod.fst) = some peer.plugin
  held : ∀ sid grant, (sid,grant) ∈ peer.held → (grantees log sid)[grant]? = some client
  tagged : ∀ packet grant, (packet,grant) ∈ peer.outgoing → packet.session_id ≠ SESSION_BROADCAST →
    (grantees log packet.session_id)[grant]? = some client

section
variable {log : List Effect} {client : Client} {start : PluginClient} {peer : Peer}

theorem abides_later (abides : Abides log client start peer) (news : List Effect) : Abides (log ++ news) client start peer := by
  obtain ⟨behind,read,held,tagged⟩ := abides
  refine ⟨?_,?_,?_,?_⟩
  · rw [inbox_append,List.length_append]
    omega
  · rw [inbox_append,List.take_append_of_le_length behind]
    exact read
  · exact fun sid grant member => granted_later (held sid grant member) news
  · exact fun packet grant member session => granted_later (tagged packet grant member session) news

theorem abides_outgoing (abides : Abides log client start peer) (outgoing : List (Packet × Nat))
    (tagged : ∀ packet grant, (packet,grant) ∈ outgoing → packet.session_id ≠ SESSION_BROADCAST →
      (grantees log packet.session_id)[grant]? = some client) : Abides log client start { peer with outgoing := outgoing } :=
  ⟨abides.behind,abides.read,abides.held,tagged⟩

/-- What a client sends by itself when it is told that its session ended is a request. -/
theorem dispatch_requests {plugin : PluginClient} {packet sent : Packet} (member : sent ∈ (plugin.dispatch packet).2) :
    sent.session_id = SESSION_BROADCAST := by
  unfold PluginClient.dispatch at member
  split at member
  · cases member
  · split at member
    · split at member
      · cases member
      · split at member
        · cases member
        · split at member
          · rw [List.mem_singleton.mp member]
            rfl
          · cases member
    · cases member

theorem abides_take {packet : Packet} {grant : Nat} (abides : Abides log client start peer)
    (next : (inbox client log)[peer.taken]? = some (packet,grant)) : Abides log client start (peer.take packet grant) := by
  obtain ⟨behind,read,held,tagged⟩ := abides
  unfold Peer.take
  split
  · exact ⟨behind,read,held,tagged⟩
  · rename_i plugin took
    obtain ⟨inside,there⟩ := List.getElem?_eq_some_iff.mp next
    refine ⟨inside,?_,?_,?_⟩
    · rw [List.take_add_one,next,Option.toList_some,List.map_append]
      exact take_all_append.mpr ⟨peer.plugin,read,take_all_one.mpr took⟩
    · intro sid number member
      split at member
      · rename_i type
        rcases List.mem_cons.mp member with new | old
        · cases new
          exact inbox_granted (List.mem_of_getElem? next) type
        · exact held sid number old
      · exact held sid number member
    · intro sent number member session
      rcases List.mem_append.mp member with old | new
      · exact tagged sent number old session
      · obtain ⟨asked,there,same⟩ := List.mem_map.mp new
        cases same
        exact absurd (dispatch_requests there) session

end
/-! ## Steps -/

structure Sound (config : DaemonConfig) (plugins : Plugins) (net : Net) : Prop where
  reached : Reached config net.daemon
  faithful : Faithful plugins.client net.daemon
  abides : ∀ client, Abides net.daemon.log client (plugins.client client) (net.peers client)

section
variable {config : DaemonConfig} {plugins : Plugins} {net : Net}

theorem reached_next {daemon : Daemon} (reached : Reached config daemon) (event : Event) : Reached config (daemon.handle event) := by
  obtain ⟨ms,run⟩ := reached
  exact ⟨_,.next (m := ⟨daemon,event,daemon.handle event,()⟩) run rfl⟩

/-- The log only grows. -/
theorem reached_logs {daemon : Daemon} (reached : Reached config daemon) (event : Event) :
    ∃ news, (daemon.handle event).log = daemon.log ++ news := by
  obtain ⟨ms,run⟩ := reached
  have fresh := run_fresh run
  obtain ⟨_,_,_,news,log,_⟩ := acts_invariant (facing_act fresh.windows) (event_acts daemon event) (facing_start fresh.windows fresh.aligned)
  exact ⟨news,log⟩

theorem sound_put {client : Client} {peer : Peer} (sound : Sound config plugins net)
    (abides : Abides net.daemon.log client (plugins.client client) peer) : Sound config plugins (net.put client peer) := by
  refine ⟨sound.reached,sound.faithful,?_⟩
  intro other
  by_cases same : other = client
  · subst same
    simpa [Net.put] using abides
  · simpa [Net.put,same] using sound.abides other

theorem sound_daemon {event : Event} (sound : Sound config plugins net) (bound : Bound net.daemon event) :
    Sound config plugins { net with daemon := net.daemon.handle event } := by
  obtain ⟨news,log⟩ := reached_logs sound.reached event
  refine ⟨reached_next sound.reached event,faithful_event bound (windows_agree sound.reached) sound.faithful,?_⟩
  intro client
  change Abides (net.daemon.handle event).log client _ _
  rw [log]
  exact abides_later (sound.abides client) news

/-- Whoever is heard under a live sid was granted it last, unless the sid was granted again since. -/
theorem current_bound {m : NetMove} {client : Client} {packet : Packet} {grant : Nat} {clock : Clock} {rest : List (Packet × Nat)}
    (sound : Sound config plugins m.pre) (input : m.input = .deliver client clock)
    (next : (m.pre.peers client).outgoing = (packet,grant) :: rest) (tight : ¬ Recycled m) :
    Bound m.pre.daemon (.client_packet client packet clock) := by
  rintro _ _ ⟨heard,_,same⟩ checks live
  cases same
  by_contra stranger
  have handles : Handles m client packet grant := ⟨clock,rest,input,next,heard⟩
  have last : (grantees m.pre.daemon.log packet.session_id).length = grant + 1 := by
    by_contra again
    exact tight ⟨client,packet,grant,handles,checks,live,again,.inr stranger⟩
  have session : packet.session_id ≠ SESSION_BROADCAST := by
    have positive := (reached_numbered sound.reached).positive _ live
    unfold SESSION_BROADCAST
    omega
  have granted := (sound.abides client).tagged packet grant (by simp [next]) session
  obtain ⟨owner,owned⟩ := Dict.mem_keys.mp (((windows_agree sound.reached).owned _).mp live)
  have owner_granted := sound.faithful.granted _ owner owned
  rw [List.getLast?_eq_getElem?,last,Nat.add_sub_cancel,granted] at owner_granted
  cases owner_granted
  exact stranger owned

theorem sound_step {m : NetMove} (move : network m) (sound : Sound config plugins m.pre) (tight : ¬ Recycled m) :
    Sound config plugins m.post := by
  rw [move]
  cases input : m.input with
  | host event =>
    have others : (∀ client packet clock, event ≠ .client_packet client packet clock) →
        Sound config plugins { m.pre with daemon := m.pre.daemon.handle event } := by
      intro other
      refine sound_daemon sound ?_
      rintro client packet ⟨_,clock,same⟩
      exact absurd same (other client packet clock)
    cases event with
    | client_packet _ _ _ => exact sound
    | connect => exact others (by simp)
    | disconnect _ => exact others (by simp)
    | board_packet _ _ => exact others (by simp)
    | reap _ => exact others (by simp)
    | heartbeat => exact others (by simp)
    | write _ => exact others (by simp)
    | device_lost => exact others (by simp)
  | send client packet grant =>
    simp only [Net.handle]
    split
    · rename_i allowed
      refine sound_put sound (abides_outgoing (sound.abides client) _ ?_)
      intro sent number member session
      rcases List.mem_append.mp member with old | new
      · exact (sound.abides client).tagged sent number old session
      · cases List.mem_singleton.mp new
        rcases allowed.2 with none | held
        · exact absurd none session
        · exact (sound.abides client).held _ _ held
    · exact sound
  | deliver client clock =>
    simp only [Net.handle]
    split
    · exact sound
    · rename_i packet grant rest next
      have heard := sound_daemon sound (current_bound sound input next tight)
      refine sound_put heard (abides_outgoing (heard.abides client) rest ?_)
      intro sent number member
      exact (heard.abides client).tagged sent number (by simp [next,member])
  | take client =>
    simp only [Net.handle]
    split
    · exact sound
    · rename_i packet grant next
      split
      · exact sound_put sound (abides_take (sound.abides client) next)
      · exact sound

theorem sound_start : Sound config plugins (.start config plugins) := by
  refine ⟨⟨[],.refl⟩,faithful_start config (fun _ => rfl),?_⟩
  intro client
  exact ⟨Nat.le_refl _,rfl,fun _ _ held => (by cases held),fun _ _ sent => (by cases sent)⟩

/-- A client that has taken all that it was sent owns what it holds. -/
theorem sound_owned (sound : Sound config plugins net) (settled : Settled net) : Owned net := by
  intro client connected sid holds
  have abides := sound.abides client
  have all := abides.read
  rw [(settled client connected).2,List.take_length,inbox_sent] at all
  exact sound.faithful.held client _ sid all holds

/-- The daemon refuses bytes for a sid that is not live. -/
theorem stream_refused {daemon : Daemon} {client : Client} {packet : Packet} (clock : Clock) (heard : daemon.Hears client packet)
    (type : packet.command = Cmd.VT100_STREAM.value) (ended : ¬ daemon.sessions.Live packet.session_id) :
    daemon.handle (.client_packet client packet clock) = daemon.send client (make_session_invalid packet.session_id .INVALID) := by
  have refused : daemon.handle_vt100 packet client clock = daemon.send client (make_session_invalid packet.session_id .INVALID) := by
    simp only [Daemon.handle_vt100,Daemon.validate_session,get_live.mpr ended]
  simp only [Daemon.handle,if_pos heard,Daemon.handle_packet,of_value_iff.mpr type]
  split
  · exact refused
  · exact refused

theorem tight_rejects {m : NetMove} (move : network m) (tight : ¬ Recycled m) : Rejects m := by
  intro client packet grant handles type ended
  obtain ⟨clock,rest,input,next,heard⟩ := handles
  have dead : ¬ m.pre.daemon.sessions.Live packet.session_id := by
    intro live
    have checks : m.pre.daemon.Checks packet := by
      rw [Daemon.Checks,of_value_iff.mpr type]
      trivial
    have again : (grantees m.pre.daemon.log packet.session_id).length ≠ grant + 1 := fun last => ended ⟨live,last⟩
    exact tight ⟨client,packet,grant,⟨clock,rest,input,next,heard⟩,checks,live,again,.inl type⟩
  have post : m.post.daemon = m.pre.daemon.handle (.client_packet client packet clock) := by
    rw [move,input]
    simp only [Net.handle,next]
    rfl
  rw [post,stream_refused clock heard type dead]
  exact ⟨rfl,rfl⟩

end

/-! ## Runs -/

/-- In a run in which no packet is handled under a sid that was granted again since, whoever holds a sid when no packet is on
    its way owns it, and bytes for a session that has ended are always refused. -/
theorem holders_own {config : DaemonConfig} {plugins : Plugins} {ms : List NetMove} {net : Net}
    (run : NetRun config plugins ms net) (tight : ∀ m ∈ ms, ¬ Recycled m) : (Settled net → Owned net) ∧ ∀ m ∈ ms, Rejects m := by
  have sound : Sound config plugins net :=
    path_invariant (fun _ move before => sound_step move.1 before move.2) (path_restrict run tight) sound_start
  refine ⟨sound_owned sound,?_⟩
  intro m member
  obtain ⟨before,after,rfl⟩ := List.append_of_mem member
  exact tight_rejects (path_split run).2.1 (tight m member)

/-! ### A sid that is granted again -/

/-- A daemon with room for one session, in mock mode. -/
def DaemonConfig.single : DaemonConfig := { max_sessions := 1, hidraw := false, in_range := by decide }

def unnamed : Plugins := fun _ => ([],false)

/-- The client asks for a session and gets one. -/
def acquires (client : Client) (now : Int) : List NetEvent :=
  [.send client (make_request_session []) 0,.deliver client ⟨now,now⟩,.take client]

/-- The second client takes the session of the first one, while bytes of the first one are on their way. -/
def overtaken : List NetEvent :=
  [.host .connect,.host .connect] ++ acquires 0 0 ++ [.send 0 (make_vt100_chunk 1 [104,105]) 0] ++ acquires 1 1

/-- Then these arrive. -/
def overtaking : List NetEvent := overtaken ++ [.deliver 0 ⟨2,2⟩,.take 0]

theorem stale_bytes : (¬ ∀ config plugins ms net, NetRun config plugins ms net → Settled net → Owned net) ∧
    ¬ ∀ config plugins ms net, NetRun config plugins ms net → ∀ m ∈ ms, Rejects m := by
  constructor
  · intro claimed
    have owned := claimed _ _ _ _ (net_events .single unnamed overtaking) (by decide) 1 (by decide) 1 (by decide)
    exact absurd owned (by decide)
  · intro claimed
    have whole := moves_append net_step (.start .single unnamed) overtaken [.deliver 0 ⟨2,2⟩,.take 0]
    have rejects := claimed _ _ _ _ (net_events .single unnamed overtaking) ⟨finish net_step (.start .single unnamed) overtaken,
      .deliver 0 ⟨2,2⟩,_,()⟩ (by rw [overtaking,whole]; exact List.mem_append_right _ List.mem_cons_self)
    have kept := (rejects 0 (make_vt100_chunk 1 [104,105]) 0 ⟨⟨2,2⟩,[],rfl,by decide,by decide⟩ rfl (by decide)).1
    have fed := congrArg (fun router : Vt100Router => router.snapshot 1) kept
    exact absurd fed (by decide)

/-- What is delivered now was sent under the last grant of its sid, if that is live. -/
def Timely (m : NetMove) : Prop :=
  match m.input with
  | .deliver client _ => ∀ sent ∈ (m.pre.peers client).outgoing.head?, m.pre.daemon.sessions.Live sent.1.session_id →
    (grantees m.pre.daemon.log sent.1.session_id).length = sent.2 + 1
  | _ => True

instance (m : NetMove) : Decidable (Timely m) :=
  match input : m.input with
  | .deliver client _ => decidable_of_iff (∀ sent ∈ (m.pre.peers client).outgoing.head?, m.pre.daemon.sessions.Live sent.1.session_id →
    (grantees m.pre.daemon.log sent.1.session_id).length = sent.2 + 1) (by rw [Timely,input])
  | .host _ => .isTrue (by rw [Timely,input]; trivial)
  | .send _ _ _ => .isTrue (by rw [Timely,input]; trivial)
  | .take _ => .isTrue (by rw [Timely,input]; trivial)

theorem timely_tight {m : NetMove} (timely : Timely m) : ¬ Recycled m := by
  rintro ⟨client,packet,grant,⟨clock,rest,input,next,_⟩,_,live,again,_⟩
  rw [Timely,input] at timely
  exact again (timely (packet,grant) (by simp [next]) live)

/-- The bytes of the first client arrive before the second one takes its session. -/
def in_time : List NetEvent := [.host .connect,.host .connect] ++ acquires 0 0 ++
  [.send 0 (make_vt100_chunk 1 [104,105]) 0,.deliver 0 ⟨1,1⟩] ++ acquires 1 2 ++ [.take 0]

theorem holders_own_in_time : Owned (finish net_step (.start .single unnamed) in_time) ∧
    ∀ m ∈ moves net_step (.start .single unnamed) in_time, Rejects m := by
  have timely : ∀ m ∈ moves net_step (.start .single unnamed) in_time, Timely m := by decide
  have settled : Settled (finish net_step (.start .single unnamed) in_time) := by decide
  obtain ⟨own,rejects⟩ := holders_own (net_events .single unnamed in_time) (fun m member => timely_tight (timely m member))
  exact ⟨own settled,rejects⟩

end VibeBridge.Python
