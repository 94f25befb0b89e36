import VibeBridge.Python.SessionPool
import VibeBridge.Python.Threads

/-!
The answers to the session requests, one event at a time. An entry of the pending
requests leaves the list with one answer to its client, so the answers to a client
and its pending requests together are the requests that it made (`Fair`); a request
that is refused is answered without one.
-/
namespace VibeBridge.Python

/-! ## Answers -/

/-- A SESSION_RESPONSE to the client, or a SESSION_INVALID of no session. -/
def answers (client : Client) : Effect → Bool
  | .sent other packet => other == client && (packet.command == Cmd.SESSION_RESPONSE.value ||
      packet.command == Cmd.SESSION_INVALID.value && packet.session_id == SESSION_BROADCAST)
  | _ => false

/-- A SESSION_INVALID to the client. -/
def rejections (client : Client) : Effect → Bool
  | .sent other packet => other == client && packet.command == Cmd.SESSION_INVALID.value
  | _ => false

/-- How many requests of the client are pending. -/
def waits (client : Client) (daemon : Daemon) : Nat := daemon.pending_sessions.countP (fun pending => pending.1 == client)

/-- Nobody owns the sid of nobody, and the sids of the sessions are in their range. -/
structure Steady (daemon : Daemon) : Prop where
  unowned : daemon.owners.get SESSION_BROADCAST = none
  bounded : daemon.sessions.Bounded

/-- No request has become pending, and with the device all of them have gone. -/
structure Drained (a b : Daemon) : Prop where
  fewer : b.pending_sessions.Sublist a.pending_sessions
  gone : b.hid = false → a.hid = false ∨ b.pending_sessions = []

/-- The client got an answer for each of its pending requests that went, and `extra` answers more. -/
def Fair (client : Client) (extra : Nat) (a b : Daemon) : Prop :=
  Steady a → Steady b ∧ Drained a b ∧
    ∃ news, b.log = a.log ++ news ∧ news.countP (answers client) + waits client b = waits client a + extra

section
variable {client : Client} {a b c : Daemon}

theorem drained_same (hid : b.hid = a.hid) (pending : b.pending_sessions = a.pending_sessions) : Drained a b := by
  refine ⟨by rw [pending],?_⟩
  intro gone
  rw [hid] at gone
  exact .inl gone

theorem drained_trans (first : Drained a b) (second : Drained b c) : Drained a c := by
  refine ⟨second.fewer.trans first.fewer,?_⟩
  intro gone
  rcases second.gone gone with gone | none
  · rcases first.gone gone with gone | none
    · exact .inl gone
    · have fewer := second.fewer
      rw [none] at fewer
      exact .inr (List.sublist_nil.mp fewer)
  · exact .inr none

/-- The tables of the sessions and the windows have no part in it. -/
theorem fair_same (log : b.log = a.log) (pending : b.pending_sessions = a.pending_sessions) (hid : b.hid = a.hid)
    (kept : Steady a → Steady b) : Fair client 0 a b := by
  intro steady
  refine ⟨kept steady,drained_same hid pending,[],by rw [log,List.append_nil],?_⟩
  rw [waits,pending,List.countP_nil,Nat.zero_add]
  rfl

theorem fair_refl (daemon : Daemon) : Fair client 0 daemon daemon := fair_same rfl rfl rfl id

theorem fair_add {extra extra' : Nat} (first : Fair client extra a b) (second : Fair client extra' b c) :
    Fair client (extra + extra') a c := by
  intro steady
  obtain ⟨mid,drained,news,log,count⟩ := first steady
  obtain ⟨last,drained',news',log',count'⟩ := second mid
  refine ⟨last,drained_trans drained drained',news ++ news',by rw [log',log,List.append_assoc],?_⟩
  rw [List.countP_append]
  omega

theorem fair_trans {extra : Nat} (first : Fair client 0 a b) (second : Fair client extra b c) : Fair client extra a c := by
  have both := fair_add first second
  rwa [Nat.zero_add] at both

/-- A packet that is no answer is sent. -/
theorem fair_send (daemon : Daemon) {other : Client} {packet : Packet}
    (quiet : packet.command ≠ Cmd.SESSION_RESPONSE.value ∧
      (packet.command = Cmd.SESSION_INVALID.value → packet.session_id ≠ SESSION_BROADCAST)) :
    Fair client 0 daemon (daemon.send other packet) := by
  intro steady
  refine ⟨⟨steady.unowned,steady.bounded⟩,drained_same rfl rfl,[.sent other packet],rfl,?_⟩
  have none : answers client (.sent other packet) = false := by
    simp only [answers,Bool.and_eq_false_iff,Bool.or_eq_false_iff,beq_eq_false_iff_ne]
    refine .inr ⟨quiet.1,?_⟩
    by_cases invalid : packet.command = Cmd.SESSION_INVALID.value
    · exact .inr (quiet.2 invalid)
    · exact .inl invalid
  simp [none,waits,Daemon.send]

/-- An answer is sent. -/
theorem fair_answer (daemon : Daemon) (other : Client) {packet : Packet}
    (answer : packet.command = Cmd.SESSION_RESPONSE.value ∨
      (packet.command = Cmd.SESSION_INVALID.value ∧ packet.session_id = SESSION_BROADCAST)) :
    Fair client (if other = client then 1 else 0) daemon (daemon.send other packet) := by
  intro steady
  refine ⟨⟨steady.unowned,steady.bounded⟩,drained_same rfl rfl,[.sent other packet],rfl,?_⟩
  have counted : answers client (.sent other packet) = (other == client) := by
    simp only [answers]
    rcases answer with type | ⟨type,nobody⟩
    · simp [type]
    · simp [type,nobody]
  by_cases same : other = client
  · subst same
    simp [counted,waits,Daemon.send,Nat.add_comm]
  · simp [counted,same,waits,Daemon.send]

/-- One of the pending requests is taken from the list, and answered. -/
theorem fair_popped {other : Client} {hint : List UInt8} {waiting : List (Client × List UInt8)}
    (pending : a.pending_sessions = (other,hint) :: waiting)
    (rest : Fair client (if other = client then 1 else 0) { a with pending_sessions := waiting } b) : Fair client 0 a b := by
  intro steady
  obtain ⟨last,drained,news,log,count⟩ := rest ⟨steady.unowned,steady.bounded⟩
  have shorter : Drained a { a with pending_sessions := waiting } :=
    ⟨by rw [pending]; exact List.sublist_cons_self _ waiting,.inl⟩
  refine ⟨last,drained_trans shorter drained,news,log,?_⟩
  rw [count,waits,waits,pending,List.countP_cons]
  by_cases same : other = client <;> simp [same]

/-! ## The device -/

theorem invalid_answer (status : Status) : (make_session_invalid SESSION_BROADCAST status).command = Cmd.SESSION_RESPONSE.value ∨
    ((make_session_invalid SESSION_BROADCAST status).command = Cmd.SESSION_INVALID.value ∧
      (make_session_invalid SESSION_BROADCAST status).session_id = SESSION_BROADCAST) := .inr ⟨rfl,rfl⟩

/-- Every pending request gets its answer, and is pending no more. -/
theorem fair_fail (status : Status) (daemon : Daemon) : Fair client 0 daemon (daemon.fail_pending_sessions status) ∧
    (daemon.fail_pending_sessions status).pending_sessions = [] := by
  have all : ∀ (pending : List (Client × List UInt8)) (a : Daemon), Fair client (pending.countP (fun p => p.1 == client)) a
      (pending.foldl (fun daemon pending => daemon.send pending.1 (make_session_invalid SESSION_BROADCAST status)) a) := by
    intro pending
    induction pending with
    | nil => exact fair_refl
    | cons first rest ih =>
      intro a
      have one : Fair client (if first.1 = client then 1 else 0) a _ := fair_answer a first.1 (invalid_answer status)
      have more := fair_add one (ih _)
      rw [List.countP_cons,Nat.add_comm]
      simpa using more
  have none : ∀ (pending : List (Client × List UInt8)) (a : Daemon), (pending.foldl
      (fun daemon pending => daemon.send pending.1 (make_session_invalid SESSION_BROADCAST status)) a).pending_sessions =
        a.pending_sessions := by
    intro pending
    induction pending with
    | nil => exact fun _ => rfl
    | cons first rest ih => exact fun a => ih _
  have empty : (daemon.fail_pending_sessions status).pending_sessions = [] := none _ _
  refine ⟨?_,empty⟩
  intro steady
  obtain ⟨last,_,news,log,count⟩ := all daemon.pending_sessions { daemon with pending_sessions := [] }
    ⟨steady.unowned,steady.bounded⟩
  refine ⟨last,⟨by rw [empty]; exact List.nil_sublist _,fun _ => .inr empty⟩,news,log,?_⟩
  rw [Daemon.fail_pending_sessions,count]
  simp [waits]

theorem fair_unavailable (daemon : Daemon) : Fair client 0 daemon daemon.mark_hidraw_unavailable := by
  have closed : ∀ queue : List (Option Packet), Fair client 0 daemon
      (({ daemon with hid := false, hid_tx_queue := queue } : Daemon).fail_pending_sessions .INVALID) := by
    intro queue steady
    obtain ⟨failed,empty⟩ : Fair client 0 _ _ ∧ _ := fair_fail .INVALID { daemon with hid := false, hid_tx_queue := queue }
    obtain ⟨last,drained,news⟩ := failed ⟨steady.unowned,steady.bounded⟩
    exact ⟨last,⟨drained.fewer,fun _ => .inr empty⟩,news⟩
  rw [Daemon.mark_hidraw_unavailable,Daemon.put_nowait]
  split
  · exact closed daemon.hid_tx_queue
  · exact closed (daemon.hid_tx_queue ++ [Option.none])

theorem fair_log (daemon : Daemon) {e : Effect} (quiet : answers client e = false) (queue : List (Option Packet)) :
    Fair client 0 daemon { daemon with hid_tx_queue := queue, log := daemon.log ++ [e] } := by
  intro steady
  refine ⟨⟨steady.unowned,steady.bounded⟩,drained_same rfl rfl,[e],rfl,?_⟩
  simp [quiet,waits]

theorem fair_forward (daemon : Daemon) (packet : Packet) : Fair client 0 daemon (daemon.forward_packet_to_board packet).1 := by
  cases hid : daemon.hid with
  | false =>
    rw [show daemon.forward_packet_to_board packet = (daemon,false) by simp [Daemon.forward_packet_to_board,hid]]
    exact fair_refl daemon
  | true =>
    by_cases full : HID_TX_QUEUE_LIMIT ≤ daemon.hid_tx_queue.length
    · rw [forward_full packet hid full]
      exact fair_unavailable daemon
    · rw [forward_room packet hid (Nat.lt_of_not_ge full)]
      exact fair_log daemon rfl _

theorem fair_forward_all (packets : List Packet) (daemon : Daemon) : Fair client 0 daemon (daemon.forward_all packets) := by
  induction packets generalizing daemon with
  | nil => exact fair_refl daemon
  | cons packet rest ih =>
    have first : Fair client 0 daemon _ := fair_forward daemon packet
    rw [Daemon.forward_all]
    split
    · rename_i next forwarded
      rw [forwarded] at first
      exact fair_trans first (ih next)
    · rename_i next forwarded
      rw [forwarded] at first
      exact first

theorem fair_screen (daemon : Daemon) (call : ScreenCall) : Fair client 0 daemon (daemon.screen_sink call) := by
  unfold Daemon.screen_sink
  split
  · exact fair_refl daemon
  · split
    · unfold Daemon.on_hid_screen_write
      split
      · exact fair_refl daemon
      · split
        · exact fair_refl daemon
        · exact fair_forward_all _ daemon
    · exact fair_log daemon rfl _

/-! ## Sessions that end -/

theorem notice_quiet {owner : Option Client} {sid : Nat} {status : Status}
    (unowned : sid = SESSION_BROADCAST → owner = none) : ∀ e ∈ notice owner sid status, answers client e = false := by
  intro e member
  obtain ⟨other,owns,rfl⟩ := List.mem_map.mp member
  have named : sid ≠ SESSION_BROADCAST := by
    rintro rfl
    rw [unowned rfl] at owns
    cases owns
  have type : Cmd.SESSION_INVALID.value ≠ Cmd.SESSION_RESPONSE.value := by decide
  simp [answers,make_session_invalid,type,named]

/-- The owner of a session that ends is told so, which is no answer: no session has the sid of nobody. -/
theorem fair_invalidated (daemon : Daemon) (sid : Nat) (status : Status) :
    Fair client 0 daemon (daemon.on_session_invalidate sid status) := by
  have unregistered : Fair client 0 daemon { daemon with router := (daemon.router.unregister sid).1 } :=
    fair_same rfl rfl rfl (fun steady => ⟨steady.unowned,steady.bounded⟩)
  have unrouted : Fair client 0 daemon (daemon.unroute sid) := fair_trans unregistered (fair_screen _ _)
  rw [on_session_invalidate_eq]
  refine fair_trans unrouted ?_
  generalize daemon.unroute sid = mid
  intro steady
  refine ⟨⟨?_,steady.bounded⟩,drained_same rfl rfl,notice (mid.owners.get sid) sid status,rfl,?_⟩
  · rw [Daemon.disown,Dict.get_pop,steady.unowned]
    exact ite_self _
  · have quiet : (notice (mid.owners.get sid) sid status).countP (answers client) = 0 := by
      refine List.countP_eq_zero.mpr ?_
      intro e member
      rw [notice_quiet (by rintro rfl; exact steady.unowned) e member]
      decide
    rw [quiet,Nat.zero_add]
    rfl

theorem fair_close (daemon : Daemon) {manager : SessionManager} (bounded : daemon.sessions.Bounded → manager.Bounded)
    (told : List (Nat × Status)) : Fair client 0 daemon (daemon.close manager told) := by
  have start : Fair client 0 daemon { daemon with sessions := manager } :=
    fair_same rfl rfl rfl (fun steady => ⟨steady.unowned,bounded steady.bounded⟩)
  exact close_kept (fun mid sid status before => fair_trans before (fair_invalidated mid sid status)) told start

theorem fair_invalidate (daemon : Daemon) (sid : Nat) (status : Status) : Fair client 0 daemon (daemon.invalidate sid status) :=
  fair_close daemon (fun bounded => (bounded_after bounded (.invalidate sid status)).2) _

theorem fair_retire (sids : List Nat) (status : Status) (daemon : Daemon) : Fair client 0 daemon (daemon.retire sids status) :=
  retire_kept (fun mid sid status before => fair_trans before (fair_invalidate mid sid status)) sids status (fair_refl daemon)

/-- A window is opened for a client under another sid than that of nobody. -/
theorem fair_open (daemon : Daemon) (gone : List Nat) {sid : Nat} (named : 0 < sid) (other : Client) :
    Fair client 0 daemon (daemon.open_window gone sid other) := by
  refine fair_same rfl rfl rfl (fun steady => ⟨?_,steady.bounded⟩)
  rw [Daemon.open_window,Dict.get_set,if_neg (by unfold SESSION_BROADCAST; omega),Dict.get_pop_all,steady.unowned]
  exact ite_self _

theorem fair_opened {manager : SessionManager} {told : List (Nat × Status)} {gone retired : List Nat} {sid : Nat}
    {other : Client} {packet : Packet} (bounded : a.sessions.Bounded → manager.Bounded)
    (opening : Opening a manager told gone retired sid other packet) :
    Fair client (if other = client then 1 else 0) a
      ((((a.close manager told).open_window gone sid other).retire retired .RECLAIMED).send other packet) := by
  have closed : Fair client 0 a (a.close manager told) := fair_close a bounded told
  have windows := fair_trans closed (fair_open _ gone opening.opens.positive other)
  exact fair_trans (fair_trans windows (fair_retire retired .RECLAIMED _)) (fair_answer _ other (.inl opening.reply.1))

/-! ## Packets of the clients -/

/-- A packet that needs a session and names none is refused with a SESSION_INVALID that answers no request. -/
def Packet.Nameless (packet : Packet) : Prop := packet.session_id = SESSION_BROADCAST ∧
  (packet.command = Cmd.VT100_STREAM.value ∨ packet.command = Cmd.STATUS_UPDATE.value)

instance (packet : Packet) : Decidable packet.Nameless := inferInstanceAs (Decidable (_ ∧ (_ ∨ _)))

variable {other : Client} {packet : Packet} {clock : Clock}

theorem fair_validate (named : packet.session_id ≠ SESSION_BROADCAST) :
    Fair client 0 a (a.validate_session packet other).1 := by
  unfold Daemon.validate_session
  split
  · refine fair_send a ⟨?_,fun _ => named⟩
    change Cmd.SESSION_INVALID.value ≠ Cmd.SESSION_RESPONSE.value
    decide
  · split
    · refine fair_same rfl rfl rfl (fun steady => ⟨?_,steady.bounded⟩)
      rw [Dict.get_set,if_neg (Ne.symm named)]
      exact steady.unowned
    · exact fair_refl a

theorem fair_touch (daemon : Daemon) (sid : Nat) (now : Int) : Fair client 0 daemon (daemon.touch sid now) :=
  fair_same rfl rfl rfl (fun steady => ⟨steady.unowned,(bounded_after steady.bounded (.touch sid now)).2⟩)

theorem fair_routed (daemon : Daemon) (router : Vt100Router) (focused : Option Nat) :
    Fair client 0 daemon { daemon with router := router, focused_sid := focused } :=
  fair_same rfl rfl rfl (fun steady => ⟨steady.unowned,steady.bounded⟩)

theorem fair_vt100 (named : packet.session_id ≠ SESSION_BROADCAST) : Fair client 0 a (a.handle_vt100 packet other clock) := by
  have valid : Fair client 0 a (a.validate_session packet other).1 := fair_validate named
  unfold Daemon.handle_vt100
  split
  · rename_i refused
    rw [refused] at valid
    exact valid
  · rename_i accepted
    rw [accepted] at valid
    have touched := fair_trans valid (fair_touch _ packet.session_id clock.now)
    exact fair_trans (fair_trans touched (fair_routed _ _ _)) (fair_screen _ _)

theorem fair_status (named : packet.session_id ≠ SESSION_BROADCAST) :
    Fair client 0 a (a.handle_status_update packet other clock) := by
  have valid : Fair client 0 a (a.validate_session packet other).1 := fair_validate named
  unfold Daemon.handle_status_update
  split
  · rename_i refused
    rw [refused] at valid
    exact valid
  · rename_i accepted
    rw [accepted] at valid
    split
    · exact valid
    · exact fair_trans valid (fair_touch _ packet.session_id clock.now)

/-- Without a device a request is answered at once; the pool always has a sid for it. -/
theorem fair_request : Fair client (if other = client then 1 else 0) a (a.handle_request_session packet other clock) := by
  intro steady
  obtain ⟨sid,evicted,granted⟩ := (request_granted steady.bounded clock.reaped clock.now).1
  rcases request_opens a.sessions clock.reaped clock.now with ⟨sid,evicted,result,subset,opens⟩ | ⟨result,_⟩
  · have opening : Opening a _ _ evicted [] sid other (make_session_response sid .CREATED) :=
      ⟨opens,by simp,fun x member => .inl (subset member),by simp,rfl,rfl⟩
    have opened : Fair client _ a _ :=
      fair_opened (fun bounded => (bounded_after bounded (.request_session clock.reaped clock.now)).2) opening
    unfold Daemon.handle_request_session
    simp only [result]
    rw [if_neg (by decide)]
    exact opened steady
  · rw [granted.created] at result
    cases result

theorem fair_real {cmd : Cmd} (type : packet.command = cmd.value) (request : cmd ≠ .REQUEST_SESSION)
    (named : ¬ packet.Nameless) : Fair client 0 a (a.handle_plugin_packet_real packet other cmd clock) := by
  have known : cmd = .VT100_STREAM ∨ cmd = .STATUS_UPDATE → packet.session_id ≠ SESSION_BROADCAST := by
    intro needs nobody
    refine named ⟨nobody,?_⟩
    rcases needs with rfl | rfl
    · exact .inl type
    · exact .inr type
  unfold Daemon.handle_plugin_packet_real
  split
  · exact absurd rfl request
  · exact fair_vt100 (known (.inl rfl))
  · have updated : Fair client 0 a (a.handle_status_update packet other clock) := fair_status (known (.inr rfl))
    simp only
    split
    · exact fair_trans updated (fair_forward _ packet)
    · exact updated
  · exact fair_refl a
  · exact fair_refl a
  · split
    · rename_i sid
      have valid : Fair client 0 a (a.validate_session packet other).1 := fair_validate sid
      split
      · rename_i refused
        rw [refused] at valid
        exact valid
      · rename_i accepted
        rw [accepted] at valid
        exact fair_trans valid (fair_forward _ packet)
    · exact fair_forward a packet

/-- Any packet of a client but a request for the board, and but one that names no session and needs one. -/
theorem fair_packet (board : a.hid = true → ¬ packet.Requests) (named : ¬ packet.Nameless) :
    Fair client (if other = client ∧ packet.Requests then 1 else 0) a (a.handle_packet packet other clock) := by
  rw [Daemon.handle_packet]
  cases known : Cmd.of_value packet.command with
  | none =>
    have none : ¬ packet.Requests := by
      intro requests
      rw [of_value_iff.mpr requests] at known
      cases known
    rw [if_neg (fun bad => none bad.2)]
    refine fair_send a ⟨?_,?_⟩
    · change Cmd.ERROR.value ≠ Cmd.SESSION_RESPONSE.value
      decide
    · intro bad
      exact absurd (show Cmd.ERROR.value = Cmd.SESSION_INVALID.value from bad) (by decide)
  | some cmd =>
    have type := of_value_iff.mp known
    have requests : packet.Requests ↔ cmd = .REQUEST_SESSION := by
      constructor
      · intro requests
        exact Option.some.inj (known.symm.trans (of_value_iff.mpr requests))
      · rintro rfl
        exact type
    have needs : cmd = .VT100_STREAM ∨ cmd = .STATUS_UPDATE → packet.session_id ≠ SESSION_BROADCAST := by
      intro needs nobody
      refine named ⟨nobody,?_⟩
      rcases needs with rfl | rfl
      · exact .inl type
      · exact .inr type
    by_cases hid : a.hid = true
    · have request : cmd ≠ .REQUEST_SESSION := fun request => board hid (requests.mpr request)
      simp only [if_pos hid]
      rw [if_neg (fun bad => board hid bad.2)]
      exact fair_real type request named
    · simp only [if_neg hid]
      by_cases request : packet.Requests
      · cases requests.mp request
        simp only [request,and_true]
        exact fair_request
      · rw [if_neg (fun bad => request bad.2)]
        split
        · exact absurd (requests.mpr rfl) request
        · exact fair_vt100 (needs (.inl rfl))
        · exact fair_status (needs (.inr rfl))
        · exact fair_refl a

/-! ## Packets of the board -/

/-- A SESSION_INVALID of no session that no pending request waits for is passed to all clients. -/
def Daemon.Unclaimed (daemon : Daemon) (packet : Packet) : Prop :=
  packet.command = Cmd.SESSION_INVALID.value ∧ packet.session_id = SESSION_BROADCAST ∧ daemon.pending_sessions = []

instance (daemon : Daemon) (packet : Packet) : Decidable (daemon.Unclaimed packet) := inferInstanceAs (Decidable (_ ∧ _ ∧ _))

/-- A SESSION_RESPONSE that grants no sid of the host refuses the request that it answers. -/
def Daemon.Refuses (daemon : Daemon) (packet : Packet) : Prop :=
  packet.command = Cmd.SESSION_RESPONSE.value ∧ ¬ (packet.Grants ∧ daemon.sessions.Usable packet.session_id)

instance (daemon : Daemon) (packet : Packet) : Decidable (daemon.Refuses packet) := inferInstanceAs (Decidable (_ ∧ ¬ _))

theorem fair_response (type : packet.command = Cmd.SESSION_RESPONSE.value) (sink : a.hid_sink = true)
    (grants : packet.Grants ∧ a.sessions.Usable packet.session_id) :
    Fair client 0 a (a.handle_hid_session_response packet clock) := by
  match pending : a.pending_sessions with
  | [] =>
    simp only [Daemon.handle_hid_session_response,pending]
    exact fair_refl a
  | (other,hint) :: waiting =>
    have granted : BoardGrants a (.board_packet packet clock) other packet.session_id :=
      ⟨packet,clock,hint,waiting,rfl,sink,type,rfl,grants.2,grants.1.2.2,pending⟩
    obtain ⟨packet',clock',hint',waiting',told,retired,input,pending',opening,handled⟩ := grant_opens granted
    cases input
    rw [handled]
    exact fair_popped pending' (fair_opened
      (fun bounded => (bounded_after bounded (.adopt_session packet.session_id clock.reaped clock.now)).2) opening)

/-- A refusal goes to the client of the oldest pending request. -/
theorem response_refuses (refuses : a.Refuses packet) : ∃ waiting news, a.handle_hid_session_response packet clock =
      { a with pending_sessions := waiting, log := a.log ++ news } ∧ waiting.Sublist a.pending_sessions ∧
    ∀ client, news.countP (rejections client) + waiting.countP (fun pending => pending.1 == client) = waits client a := by
  match pending : a.pending_sessions with
  | [] =>
    refine ⟨[],[],?_,List.nil_sublist _,fun client => by simp [waits,pending]⟩
    simp only [Daemon.handle_hid_session_response,pending,List.append_nil]
    rw [← pending]
  | (other,hint) :: waiting =>
    have counted : ∀ (sid : Nat) (status : Status) (client : Client),
        [Effect.sent other (make_session_invalid sid status)].countP (rejections client) +
          waiting.countP (fun pending => pending.1 == client) = waits client a := by
      intro sid status client
      have type : (make_session_invalid sid status).command = Cmd.SESSION_INVALID.value := rfl
      rw [waits,pending,List.countP_singleton,List.countP_cons]
      simp [rejections,type,Nat.add_comm]
    simp only [Daemon.handle_hid_session_response,pending]
    split
    · rename_i granted
      have outside : ¬ a.sessions.Usable packet.session_id :=
        fun usable => refuses.2 ⟨⟨refuses.1,granted.2,granted.1⟩,usable⟩
      simp only [adopt_outside outside]
      rw [if_neg (by rintro ⟨bad | bad,_⟩ <;> cases bad)]
      exact ⟨waiting,_,rfl,List.sublist_cons_self _ waiting,counted _ _⟩
    · exact ⟨waiting,_,rfl,List.sublist_cons_self _ waiting,counted _ _⟩

theorem fair_invalid (type : packet.command = Cmd.SESSION_INVALID.value) (claimed : ¬ a.Unclaimed packet) :
    Fair client 0 a (a.handle_hid_session_invalid packet) := by
  unfold Daemon.handle_hid_session_invalid
  simp only
  split
  · rename_i nobody
    split
    · rename_i other hint waiting pending
      exact fair_popped pending (fair_answer _ other (.inr ⟨type,nobody⟩))
    · rename_i pending
      exact absurd ⟨type,nobody,pending⟩ claimed
  · exact fair_invalidate a _ _

theorem fair_focus : Fair client 0 a (a.handle_hid_session_focus packet clock) := by
  have chosen : ∀ (daemon : Daemon) (sid : Option Nat), Fair client 0 daemon (daemon.focus sid) :=
    fun daemon sid => fair_trans (fair_routed daemon (daemon.router.set_active sid).1 sid) (fair_screen _ _)
  unfold Daemon.handle_hid_session_focus
  simp only
  split
  · exact chosen a none
  · split
    · exact fair_refl a
    · exact fair_trans (fair_touch a packet.session_id clock.now) (chosen _ (some packet.session_id))

theorem fair_route (type : packet.command ≠ Cmd.SESSION_RESPONSE.value ∧ packet.command ≠ Cmd.SESSION_INVALID.value) :
    Fair client 0 a (a.route_to_owner packet) := by
  unfold Daemon.route_to_owner
  split
  · exact fair_send a ⟨type.1,fun bad => absurd bad type.2⟩
  · exact fair_refl a

theorem fair_broadcast (type : packet.command ≠ Cmd.SESSION_RESPONSE.value ∧ packet.command ≠ Cmd.SESSION_INVALID.value)
    (daemon : Daemon) : Fair client 0 daemon (daemon.broadcast packet) := by
  have all : ∀ (others : List Client) (daemon : Daemon),
      Fair client 0 daemon (others.foldl (fun daemon client => daemon.send client packet) daemon) := by
    intro others
    induction others with
    | nil => exact fair_refl
    | cons other rest ih => exact fun daemon => fair_trans (fair_send daemon ⟨type.1,fun bad => absurd bad type.2⟩) (ih _)
  exact all daemon.clients daemon

theorem fair_board (sink : a.hid_sink = true) (claimed : ¬ a.Unclaimed packet) (grants : ¬ a.Refuses packet) :
    Fair client 0 a (a.handle_hid_packet packet clock) := by
  have input : ∀ cmd : Cmd, packet.command = cmd.value → cmd ≠ .SESSION_RESPONSE → cmd ≠ .SESSION_INVALID →
      packet.command ≠ Cmd.SESSION_RESPONSE.value ∧ packet.command ≠ Cmd.SESSION_INVALID.value := by
    intro cmd type response invalid
    rw [type]
    cases cmd <;> first | exact absurd rfl response | exact absurd rfl invalid | decide
  have routed : ∀ cmd : Cmd, packet.command = cmd.value → cmd ≠ .SESSION_RESPONSE → cmd ≠ .SESSION_INVALID →
      Fair client 0 a (a.route_board_input_to_session packet) := by
    intro cmd type response invalid
    unfold Daemon.route_board_input_to_session
    split
    · exact fair_refl a
    · exact fair_route (input cmd type response invalid)
  unfold Daemon.handle_hid_packet
  split
  · exact fair_refl a
  · rename_i known
    have type := of_value_iff.mp known
    exact fair_response type sink (not_not.mp (fun refused => grants ⟨type,refused⟩))
  · rename_i known
    exact fair_invalid (of_value_iff.mp known) claimed
  · exact fair_focus
  · rename_i known
    unfold Daemon.handle_hid_key_event
    split
    · exact routed _ (of_value_iff.mp known) (by decide) (by decide)
    · exact fair_refl a
  · rename_i known
    unfold Daemon.handle_hid_encoder_event
    split
    · exact routed _ (of_value_iff.mp known) (by decide) (by decide)
    · exact fair_refl a
  · rename_i cmd response invalid focus key encoder known
    have type := input cmd (of_value_iff.mp known) response invalid
    unfold Daemon.route_board_packet
    split
    · exact fair_broadcast type a
    · exact fair_route type

/-! ## Events -/

/-- What is sent in answer to something else than a request. -/
def Daemon.Aside (daemon : Daemon) : Event → Prop
  | .client_packet _ packet _ => packet.Nameless
  | .board_packet packet _ => daemon.Unclaimed packet
  | _ => False

instance (daemon : Daemon) : (event : Event) → Decidable (daemon.Aside event)
  | .client_packet _ packet _ => inferInstanceAs (Decidable packet.Nameless)
  | .board_packet packet _ => inferInstanceAs (Decidable (daemon.Unclaimed packet))
  | .connect | .disconnect _ | .reap _ | .heartbeat | .write _ | .device_lost => inferInstanceAs (Decidable False)

/-- The board refuses a request. -/
def Daemon.Refusal (daemon : Daemon) : Event → Prop
  | .board_packet packet _ => daemon.Refuses packet
  | _ => False

instance (daemon : Daemon) : (event : Event) → Decidable (daemon.Refusal event)
  | .board_packet packet _ => inferInstanceAs (Decidable (daemon.Refuses packet))
  | .connect | .client_packet _ _ _ | .disconnect _ | .reap _ | .heartbeat | .write _ | .device_lost => inferInstanceAs (Decidable False)

/-- The event is a request of the client. -/
def Daemon.Asks (daemon : Daemon) (client : Client) : Event → Prop
  | .client_packet other packet _ => other = client ∧ daemon.Hears other packet ∧ packet.Requests
  | _ => False

instance (daemon : Daemon) (client : Client) : (event : Event) → Decidable (daemon.Asks client event)
  | .client_packet other packet _ => inferInstanceAs (Decidable (other = client ∧ daemon.Hears other packet ∧ packet.Requests))
  | .connect | .board_packet _ _ | .disconnect _ | .reap _ | .heartbeat | .write _ | .device_lost => inferInstanceAs (Decidable False)

theorem fair_write (writes : Bool) : Fair client 0 a (a.write_next writes) := by
  have queued : ∀ (queue : List (Option Packet)) (writing : Bool),
      Fair client 0 a { a with hid_tx_queue := queue, writing := writing } :=
    fun _ _ => fair_same rfl rfl rfl (fun steady => ⟨steady.unowned,steady.bounded⟩)
  unfold Daemon.write_next
  split
  · exact fair_refl a
  · exact queued _ _
  · rename_i packet rest queue
    simp only
    split
    · exact queued rest a.writing
    · split
      · exact queued rest a.writing
      · split
        · exact fair_log a rfl rest
        · have stopped : ∀ daemon : Daemon, Fair client 0 daemon { daemon with writing := false } :=
            fun _ => fair_same rfl rfl rfl (fun steady => ⟨steady.unowned,steady.bounded⟩)
          exact fair_trans (fair_trans (queued rest a.writing) (fair_unavailable _)) (stopped _)

theorem fair_disconnect (other : Client) : Fair client 0 a (a.disconnect other) := by
  have left : Fair client 0 a { a with clients := a.clients.filter (fun client => client ≠ other) } :=
    fair_same rfl rfl rfl (fun steady => ⟨steady.unowned,steady.bounded⟩)
  exact fair_trans left (fair_retire _ .EXPIRED _)

/-- Every event but those in which something else is answered, a request is begun or the board refuses one. -/
theorem fair_event {event : Event} (aside : ¬ a.Aside event) (grants : ¬ a.Refusal event)
    (board : ¬ ∃ other packet, a.Accepts event other packet) :
    Fair client (if a.Asks client event then 1 else 0) a (a.handle event) := by
  cases event with
  | connect =>
    rw [if_neg (id : ¬ a.Asks client .connect)]
    exact fair_same rfl rfl rfl (fun steady => ⟨steady.unowned,steady.bounded⟩)
  | disconnect other =>
    rw [if_neg (id : ¬ a.Asks client (.disconnect other))]
    simp only [Daemon.handle]
    split
    · exact fair_disconnect other
    · exact fair_refl a
  | client_packet other packet clock =>
    simp only [Daemon.handle,Daemon.Asks]
    by_cases heard : a.Hears other packet
    · simp only [heard,true_and,if_true]
      refine fair_packet ?_ aside
      intro hid requests
      exact board ⟨other,packet,⟨heard,clock,rfl⟩,hid,requests⟩
    · simp only [heard,false_and,and_false,if_false]
      exact fair_refl a
  | board_packet packet clock =>
    rw [if_neg (id : ¬ a.Asks client (.board_packet packet clock))]
    simp only [Daemon.handle]
    split
    · rename_i sink
      exact fair_board sink aside grants
    · exact fair_refl a
  | reap now =>
    rw [if_neg (id : ¬ a.Asks client (.reap now))]
    exact fair_close a (fun bounded => (bounded_after bounded (.reap_expired now)).2) _
  | heartbeat =>
    rw [if_neg (id : ¬ a.Asks client .heartbeat)]
    simp only [Daemon.handle,Daemon.heartbeat]
    split
    · exact fair_refl a
    · exact fair_forward_all _ a
  | write writes =>
    rw [if_neg (id : ¬ a.Asks client (.write writes))]
    simp only [Daemon.handle]
    split
    · exact fair_write writes
    · exact fair_refl a
  | device_lost =>
    rw [if_neg (id : ¬ a.Asks client .device_lost)]
    simp only [Daemon.handle]
    split
    · exact fair_unavailable a
    · exact fair_refl a

/-- Where something else is answered, no request is. -/
theorem aside_kept {event : Event} (steady : Steady a) (aside : a.Aside event) :
    ∃ news, a.handle event = { a with log := a.log ++ news } := by
  cases event with
  | client_packet other packet clock =>
    obtain ⟨nobody,needs⟩ := aside
    have dead : a.sessions.get packet.session_id = none := by
      rw [get_live,nobody]
      intro live
      exact absurd (steady.bounded.live _ live).1 (Nat.lt_irrefl 0)
    simp only [Daemon.handle]
    split
    · have handled : ∀ cmd : Cmd, packet.command = cmd.value → cmd = .VT100_STREAM ∨ cmd = .STATUS_UPDATE →
          a.handle_packet packet other clock = a.send other (make_session_invalid packet.session_id .INVALID) := by
        intro cmd type which
        have invalid : a.validate_session packet other = (a.send other (make_session_invalid packet.session_id .INVALID),false) := by
          simp only [Daemon.validate_session,dead]
        have still : (a.send other (make_session_invalid packet.session_id .INVALID)).sessions.get packet.session_id = none := dead
        rw [Daemon.handle_packet,of_value_iff.mpr type]
        rcases which with rfl | rfl
        · simp only [Daemon.handle_plugin_packet_real,Daemon.handle_vt100,invalid,ite_self]
        · simp only [Daemon.handle_plugin_packet_real,Daemon.handle_status_update,invalid,still,ite_self]
      rcases needs with type | type
      · exact ⟨_,handled .VT100_STREAM type (.inl rfl)⟩
      · exact ⟨_,handled .STATUS_UPDATE type (.inr rfl)⟩
    · exact ⟨[],by simp⟩
  | board_packet packet clock =>
    obtain ⟨type,nobody,pending⟩ := aside
    have all : ∀ (others : List Client) (daemon : Daemon), ∃ news,
        others.foldl (fun daemon client => daemon.send client packet) daemon = { daemon with log := daemon.log ++ news } := by
      intro others
      induction others with
      | nil => exact fun daemon => ⟨[],by simp⟩
      | cons other rest ih =>
        intro daemon
        obtain ⟨news,sent⟩ := ih (daemon.send other packet)
        exact ⟨.sent other packet :: news,by rw [List.foldl_cons,sent]; simp [Daemon.send]⟩
    simp only [Daemon.handle]
    split
    · simp only [Daemon.handle_hid_packet,of_value_iff.mpr type,Daemon.handle_hid_session_invalid,if_pos nobody,pending]
      obtain ⟨news,sent⟩ := all a.clients a
      exact ⟨news,by rw [← pending]; exact sent⟩
    · exact ⟨[],by simp⟩
  | connect => exact aside.elim
  | disconnect _ => exact aside.elim
  | reap _ => exact aside.elim
  | heartbeat => exact aside.elim
  | write _ => exact aside.elim
  | device_lost => exact aside.elim

/-- What the board refuses is answered. -/
theorem refusal_answers {event : Event} (refusal : a.Refusal event) : ∃ waiting news,
    a.handle event = { a with pending_sessions := waiting, log := a.log ++ news } ∧ waiting.Sublist a.pending_sessions ∧
    ∀ client, news.countP (rejections client) + waiting.countP (fun pending => pending.1 == client) = waits client a := by
  cases event with
  | board_packet packet clock =>
    simp only [Daemon.handle]
    split
    · simp only [Daemon.handle_hid_packet,of_value_iff.mpr refusal.1]
      exact response_refuses refusal
    · refine ⟨a.pending_sessions,[],by simp,List.Sublist.refl _,fun client => ?_⟩
      rw [List.countP_nil,Nat.zero_add,waits]
  | _ => exact refusal.elim

end

end VibeBridge.Python
