import VibeBridge.Python.Answers

/-!
How often a session request is answered in a run. There is one way to answer
twice: the thread of a client puts its request on the list, the loss of the device
fails all that are on the list, and then the thread cannot forward the packet and
fails its request once more. It does all of this itself when it finds the queue of
the writer full (`answered_once_iff`).
-/
namespace VibeBridge.Python
open Transitions

/-! ## Runs -/

/-- What the daemon did outside its tables in this move. -/
def sent (m : ThreadMove) : List Effect := m.post.daemon.log.drop m.pre.daemon.log.length

/-- The requests that the client made in this move. -/
def requests (client : Client) (m : ThreadMove) : Nat :=
  match m.input with
  | .event event => if ¬ m.pre.Busy event ∧ m.pre.daemon.Asks client event then 1 else 0
  | _ => 0

/-- The answers to its requests that the client was sent in this move. -/
def replies (client : Client) (m : ThreadMove) : Nat :=
  match m.input with
  | .event event =>
    if m.pre.daemon.Aside event then 0
    else if m.pre.daemon.Refusal event then (sent m).countP (rejections client)
    else (sent m).countP (answers client)
  | _ => (sent m).countP (answers client)

def total (count : ThreadMove → Nat) (ms : List ThreadMove) : Nat := (ms.map count).sum

/-- After the move no client has more answers than it made requests. The answers say nothing about which request they
    are for, so one request was answered twice when there are more. -/
def AnsweredOnce (before : List ThreadMove) (m : ThreadMove) : Prop :=
  ∀ client, total (replies client) (before ++ [m]) ≤ total (requests client) (before ++ [m])

/-- A thread cannot forward the request of its client, and the request is not pending any more. It is not when the
    thread finds the queue full and gives up the device itself, and when another thread has given it up. -/
def Overtaken (m : ThreadMove) : Prop :=
  ∃ client packet, m.input = .forwards client ∧ m.pre.handling.get client = some (packet,true) ∧
    (if m.pre.daemon.hid then HID_TX_QUEUE_LIMIT ≤ m.pre.daemon.hid_tx_queue.length
      else (client,plugin_hint packet.payload) ∉ m.pre.daemon.pending_sessions)

/-- The thread of the client has begun with a request, which is not pending yet. -/
def begun (client : Client) (t : Threads) : Nat :=
  match t.handling.get client with
  | some (_,false) => 1
  | _ => 0

/-- The requests that threads have on the list of those that are pending. -/
def Threads.Holds (t : Threads) (client : Client) (hint : List UInt8) : Prop :=
  ∃ packet, t.handling.get client = some (packet,true) ∧ plugin_hint packet.payload = hint

/-- Without the device only requests of these threads are pending, each once. -/
structure Threads.Left (t : Threads) : Prop where
  held : ∀ client hint, (client,hint) ∈ t.daemon.pending_sessions → t.Holds client hint
  once : t.daemon.pending_sessions.Nodup

/-- Each request is answered, pending or just begun. -/
structure Balanced (ms : List ThreadMove) (t : Threads) : Prop where
  steady : Steady t.daemon
  even : ∀ client, total (replies client) ms + waits client t.daemon + begun client t = total (requests client) ms
  left : t.daemon.hid = false → t.Left

theorem total_snoc (count : ThreadMove → Nat) (ms : List ThreadMove) (m : ThreadMove) :
    total count (ms ++ [m]) = total count ms + count m := by
  simp [total]

theorem balanced_start (config : DaemonConfig) : Balanced [] (.start config) := by
  refine ⟨⟨rfl,?_,Nat.one_pos,config.in_range.1⟩,fun client => rfl,fun _ => ⟨?_,List.nodup_nil⟩⟩
  · intro sid live
    cases live
  · intro client hint member
    cases member

section
variable {ms : List ThreadMove} {m : ThreadMove}

/-- What the log gained is what was sent. -/
theorem sent_log {news : List Effect} (log : m.post.daemon.log = m.pre.daemon.log ++ news) : sent m = news := by
  rw [sent,log,List.drop_left]

/-- A move of which it is known what it does to the answers, the pending requests and those that have begun. -/
theorem even_next (balanced : Balanced ms m.pre)
    (even : ∀ client, replies client m + waits client m.post.daemon + begun client m.post =
      waits client m.pre.daemon + begun client m.pre + requests client m) (client : Client) :
    total (replies client) (ms ++ [m]) + waits client m.post.daemon + begun client m.post = total (requests client) (ms ++ [m]) := by
  have before := balanced.even client
  have now := even client
  rw [total_snoc,total_snoc]
  omega

theorem left_drained {t : Threads} {daemon : Daemon} (left : t.daemon.hid = false → t.Left) (drained : Drained t.daemon daemon)
    (gone : daemon.hid = false) : Threads.Left { t with daemon := daemon } := by
  rcases drained.gone gone with before | none
  · have held := (left before).held
    exact ⟨fun client hint member => held client hint (drained.fewer.subset member),(left before).once.sublist drained.fewer⟩
  · refine ⟨?_,?_⟩
    · intro client hint member
      rw [none] at member
      cases member
    · rw [none]
      exact List.nodup_nil

/-- The request of a thread that has begun is on the list, and nowhere else. -/
theorem balanced_pends {client : Client} {packet : Packet} (balanced : Balanced ms m.pre) (input : m.input = .pends client)
    (handles : m.pre.handling.get client = some (packet,false))
    (post : m.post = ⟨m.pre.daemon.pend_request packet client,m.pre.handling.set client (packet,true)⟩) :
    Balanced (ms ++ [m]) m.post := by
  have steady := balanced.steady
  refine ⟨?_,?_,?_⟩
  · rw [post]
    exact ⟨steady.unowned,steady.bounded⟩
  · refine even_next balanced ?_
    intro other
    have quiet : sent m = [] := sent_log (by rw [post]; exact (List.append_nil _).symm)
    have same : ∀ t : Threads, begun other t = match t.handling.get other with | some (_,false) => 1 | _ => 0 := fun _ => rfl
    simp only [replies,requests,input,quiet,List.countP_nil,post,waits,Daemon.pend_request,List.countP_append,
      List.countP_singleton,same,Dict.get_set]
    by_cases here : other = client
    · subst here
      simp [handles]
    · simp [here,Ne.symm here]
  · rw [post]
    intro gone
    obtain ⟨held,once⟩ := balanced.left gone
    have fresh : (client,plugin_hint packet.payload) ∉ m.pre.daemon.pending_sessions := by
      intro member
      obtain ⟨other,holds,_⟩ := held _ _ member
      rw [handles] at holds
      cases holds
    refine ⟨?_,?_⟩
    · intro other hint member
      rcases List.mem_append.mp member with old | new
      · obtain ⟨packet',holds,same⟩ := held other hint old
        refine ⟨packet',?_,same⟩
        rw [Dict.get_set,if_neg ?_]
        · exact holds
        · rintro rfl
          rw [handles] at holds
          cases holds
      · cases List.mem_singleton.mp new
        exact ⟨packet,by rw [Dict.get_set,if_pos rfl],rfl⟩
    · exact List.Nodup.append once (List.nodup_singleton _) (by simpa using fresh)

/-- A request for the board is begun. -/
theorem balanced_begins {event : Event} {client : Client} {packet : Packet} (balanced : Balanced ms m.pre)
    (input : m.input = .event event) (free : ¬ m.pre.Busy event) (accepts : m.pre.daemon.Accepts event client packet)
    (post : m.post = m.pre.begin event) : Balanced (ms ++ [m]) m.post := by
  rw [begin_accepted accepts] at post
  obtain ⟨⟨heard,clock,rfl⟩,hid,asks⟩ := accepts
  have idle : m.pre.handling.get client = none := by
    rw [Dict.get_none]
    exact fun busy => free ⟨client,rfl,busy⟩
  refine ⟨?_,?_,?_⟩
  · rw [post]
    exact balanced.steady
  · refine even_next balanced ?_
    intro other
    have quiet : sent m = [] := sent_log (by rw [post]; exact (List.append_nil _).symm)
    have none : replies other m = 0 := by simp [replies,input,quiet]
    have begins : ∀ t : Threads, begun other t = match t.handling.get other with | some (_,false) => 1 | _ => 0 := fun _ => rfl
    simp only [none,requests,input,post,begins,Dict.get_set,Daemon.Asks,heard,asks,and_true]
    by_cases here : other = client
    · subst here
      simp [idle,free]
    · simp [here,Ne.symm here]
  · rw [post]
    intro gone
    rw [hid] at gone
    cases gone

/-- A move that is an event of the daemon, and what it does there. -/
theorem balanced_handled {event : Event} (balanced : Balanced ms m.pre)
    (post : m.post = { m.pre with daemon := m.pre.daemon.handle event }) (steady : Steady (m.pre.daemon.handle event))
    (drained : Drained m.pre.daemon (m.pre.daemon.handle event))
    (even : ∀ client, replies client m + waits client (m.pre.daemon.handle event) = waits client m.pre.daemon + requests client m) :
    Balanced (ms ++ [m]) m.post := by
  refine ⟨?_,?_,?_⟩
  · rw [post]
    exact steady
  · refine even_next balanced ?_
    intro client
    have same : begun client m.post = begun client m.pre := by
      rw [post]
      rfl
    have now := even client
    rw [same,post]
    change replies client m + waits client (m.pre.daemon.handle event) + _ = _
    omega
  · rw [post]
    exact left_drained balanced.left drained

/-- Any event that its thread is free to handle. -/
theorem balanced_event {event : Event} (balanced : Balanced ms m.pre) (input : m.input = .event event)
    (free : ¬ m.pre.Busy event) (post : m.post = m.pre.begin event) : Balanced (ms ++ [m]) m.post := by
  have steady := balanced.steady
  by_cases accepted : ∃ client packet, m.pre.daemon.Accepts event client packet
  · obtain ⟨client,packet,accepts⟩ := accepted
    exact balanced_begins balanced input free accepts post
  · rw [begin_other accepted] at post
    have asked : ∀ client, requests client m = if m.pre.daemon.Asks client event then 1 else 0 := by
      intro client
      simp only [requests,input,free,not_false_eq_true,true_and]
    have log : m.post.daemon.log = (m.pre.daemon.handle event).log := by rw [post]
    by_cases aside : m.pre.daemon.Aside event
    · obtain ⟨news,handled⟩ := aside_kept steady aside
      refine balanced_handled balanced post (by rw [handled]; exact ⟨steady.unowned,steady.bounded⟩)
        (by rw [handled]; exact drained_same rfl rfl) ?_
      intro client
      have unasked : ¬ m.pre.daemon.Asks client event := by
        cases event with
        | client_packet other packet clock =>
          rintro ⟨_,_,requests⟩
          rcases aside.2 with type | type
          · exact absurd (type.symm.trans requests) (by decide)
          · exact absurd (type.symm.trans requests) (by decide)
        | board_packet packet clock => exact id
        | _ => exact aside.elim
      have none : replies client m = 0 := by simp only [replies,input,if_pos aside]
      rw [none,asked,if_neg unasked,handled,Nat.zero_add]
      rfl
    · by_cases refusal : m.pre.daemon.Refusal event
      · obtain ⟨waiting,news,handled,fewer,counts⟩ := refusal_answers refusal
        refine balanced_handled balanced post (by rw [handled]; exact ⟨steady.unowned,steady.bounded⟩)
          (by rw [handled]; exact ⟨fewer,.inl⟩) ?_
        intro client
        have unasked : ¬ m.pre.daemon.Asks client event := by
          cases event with
          | board_packet packet clock => exact id
          | _ => exact refusal.elim
        have news_sent : sent m = news := sent_log (by rw [log,handled])
        have answered : replies client m = news.countP (rejections client) := by
          simp only [replies,input,if_neg aside,if_pos refusal,news_sent]
        rw [answered,asked,if_neg unasked,handled]
        exact counts client
      · have fair : ∀ client, Fair client (if m.pre.daemon.Asks client event then 1 else 0) m.pre.daemon
            (m.pre.daemon.handle event) := fun client => fair_event aside refusal accepted
        obtain ⟨kept,drained,_⟩ := fair 0 steady
        refine balanced_handled balanced post kept drained ?_
        intro client
        obtain ⟨_,_,news,grown,count⟩ := fair client steady
        have news_sent : sent m = news := sent_log (by rw [log,grown])
        have answered : replies client m = news.countP (answers client) := by
          simp only [replies,input,if_neg aside,if_neg refusal,news_sent]
        rw [answered,asked]
        exact count

/-! ### The end of a request -/

variable {client : Client} {packet : Packet}

/-- What the thread of a client owes, apart from the request that it has on the list. -/
theorem begun_done (handles : m.pre.handling.get client = some (packet,true))
    (post : m.post = ⟨m.pre.daemon.finish_request packet client,m.pre.handling.pop client⟩) (other : Client) :
    begun other m.post = begun other m.pre := by
  rw [begun,begun,post,Dict.get_pop]
  by_cases here : other = client
  · subst here
    simp [handles]
  · simp [here]

theorem finish_gone {daemon : Daemon} (gone : daemon.hid = false) : daemon.finish_request packet client =
    (daemon.drop_pending_session client (plugin_hint packet.payload)).send client
      (make_session_invalid SESSION_BROADCAST .INVALID) := by
  rw [Daemon.finish_request,show daemon.forward_packet_to_board packet = (daemon,false) by
    simp [Daemon.forward_packet_to_board,gone]]

theorem failure_counts (other : Client) : [Effect.sent client (make_session_invalid SESSION_BROADCAST .INVALID)].countP
    (answers other) = if client = other then 1 else 0 := by
  have counted : answers other (.sent client (make_session_invalid SESSION_BROADCAST .INVALID)) = (client == other) := by
    simp [answers,make_session_invalid]
  rw [List.countP_singleton,counted]
  by_cases same : client = other <;> simp [same]

/-- No request is made when one is forwarded, and all that is sent to a client counts. -/
theorem forwards_counts (input : m.input = .forwards client) (other : Client) :
    requests other m = 0 ∧ replies other m = (sent m).countP (answers other) := by
  constructor
  · simp only [requests,input]
  · simp only [replies,input]

/-- With the device and room in its queue, the thread forwards the packet. -/
theorem balanced_queued (balanced : Balanced ms m.pre) (input : m.input = .forwards client)
    (handles : m.pre.handling.get client = some (packet,true))
    (post : m.post = ⟨m.pre.daemon.finish_request packet client,m.pre.handling.pop client⟩) (hid : m.pre.daemon.hid = true)
    (room : m.pre.daemon.hid_tx_queue.length < HID_TX_QUEUE_LIMIT) : Balanced (ms ++ [m]) m.post := by
  have steady := balanced.steady
  have finished : m.post.daemon = { m.pre.daemon with
      hid_tx_queue := m.pre.daemon.hid_tx_queue ++ [some packet]
      log := m.pre.daemon.log ++ [.queued m.pre.daemon.focused_sid packet] } := by
    rw [post,Daemon.finish_request,forward_room packet hid room]
  have news : sent m = [.queued m.pre.daemon.focused_sid packet] := sent_log (by rw [finished])
  refine ⟨?_,?_,?_⟩
  · rw [finished]
    exact ⟨steady.unowned,steady.bounded⟩
  · refine even_next balanced ?_
    intro other
    obtain ⟨none,counts⟩ := forwards_counts input other
    have quiet : replies other m = 0 := by
      rw [counts,news]
      rfl
    rw [none,quiet,begun_done handles post,finished]
    simp [waits]
  · intro gone
    rw [finished] at gone
    exact absurd (hid.symm.trans gone) (by decide)

/-- Without the device, the thread takes its request from the list and fails it. -/
theorem balanced_failed (balanced : Balanced ms m.pre) (input : m.input = .forwards client)
    (handles : m.pre.handling.get client = some (packet,true))
    (post : m.post = ⟨m.pre.daemon.finish_request packet client,m.pre.handling.pop client⟩) (gone : m.pre.daemon.hid = false)
    (member : (client,plugin_hint packet.payload) ∈ m.pre.daemon.pending_sessions) : Balanced (ms ++ [m]) m.post := by
  have steady := balanced.steady
  have left := balanced.left gone
  have finished : m.post.daemon = { m.pre.daemon with
      pending_sessions := m.pre.daemon.pending_sessions.erase (client,plugin_hint packet.payload)
      log := m.pre.daemon.log ++ [.sent client (make_session_invalid SESSION_BROADCAST .INVALID)] } := by
    rw [post,finish_gone gone]
    rfl
  have news : sent m = [.sent client (make_session_invalid SESSION_BROADCAST .INVALID)] := sent_log (by rw [finished])
  refine ⟨?_,?_,?_⟩
  · rw [finished]
    exact ⟨steady.unowned,steady.bounded⟩
  · refine even_next balanced ?_
    intro other
    obtain ⟨none,counts⟩ := forwards_counts input other
    rw [none,counts,news,failure_counts,begun_done handles post,finished,waits,waits,
      (List.perm_cons_erase member).countP_eq,List.countP_cons]
    by_cases here : client = other
    · simp [here]
      omega
    · simp [here]
  · intro _
    refine ⟨?_,?_⟩
    · intro other hint there
      rw [finished] at there
      obtain ⟨packet',holds,same⟩ := left.held other hint (List.mem_of_mem_erase there)
      refine ⟨packet',?_,same⟩
      rw [post,Dict.get_pop,if_neg ?_]
      · exact holds
      · rintro rfl
        cases handles.symm.trans holds
        rw [← same] at there
        exact left.once.not_mem_erase there
    · rw [finished]
      exact left.once.erase _

/-- A thread that is not overtaken ends its request in one of the two ways. -/
theorem balanced_forwards (balanced : Balanced ms m.pre) (input : m.input = .forwards client)
    (handles : m.pre.handling.get client = some (packet,true))
    (post : m.post = ⟨m.pre.daemon.finish_request packet client,m.pre.handling.pop client⟩) (smooth : ¬ Overtaken m) :
    Balanced (ms ++ [m]) m.post := by
  cases hid : m.pre.daemon.hid with
  | true =>
    refine balanced_queued balanced input handles post hid (Nat.lt_of_not_ge (fun full => smooth ⟨client,packet,input,handles,?_⟩))
    rw [if_pos hid]
    exact full
  | false =>
    refine balanced_failed balanced input handles post hid ?_
    by_contra absent
    refine smooth ⟨client,packet,input,handles,?_⟩
    simp only [hid]
    exact absent

/-- A request that was overtaken is answered once more than it was made. -/
theorem overtaken_twice (balanced : Balanced ms m.pre) (move : threads m) (overtaken : Overtaken m) :
    ∃ client, total (requests client) (ms ++ [m]) < total (replies client) (ms ++ [m]) := by
  obtain ⟨client,packet,input,handles,late⟩ := overtaken
  have post : m.post = ⟨m.pre.daemon.finish_request packet client,m.pre.handling.pop client⟩ := by
    rw [move,input,Threads.take,handles]
  have waiting : begun client m.pre = 0 := by rw [begun,handles]
  have before := balanced.even client
  obtain ⟨asked,counts⟩ := forwards_counts input client
  have answered : waits client m.pre.daemon + 1 = replies client m := by
    by_cases hid : m.pre.daemon.hid = true
    · rw [if_pos hid] at late
      -- the thread fails all pending requests, its own among them, and then its own again
      have fair : Fair client 0 m.pre.daemon m.pre.daemon.mark_hidraw_unavailable := fair_unavailable m.pre.daemon
      obtain ⟨_,drained,news,grown,count⟩ := fair balanced.steady
      have none : m.pre.daemon.mark_hidraw_unavailable.pending_sessions = [] :=
        (drained.gone (unavailable_gone _)).resolve_left (by rw [hid]; decide)
      have log : m.post.daemon.log =
          m.pre.daemon.log ++ (news ++ [.sent client (make_session_invalid SESSION_BROADCAST .INVALID)]) := by
        rw [post,Daemon.finish_request,forward_full packet hid late,← List.append_assoc,← grown]
        rfl
      rw [counts,sent_log log,List.countP_append,failure_counts,if_pos rfl]
      rw [waits,waits,none] at count
      simp only [List.countP_nil,Nat.add_zero] at count
      rw [count,waits]
    · rw [Bool.not_eq_true] at hid
      simp only [hid] at late
      have log : m.post.daemon.log = m.pre.daemon.log ++ [.sent client (make_session_invalid SESSION_BROADCAST .INVALID)] := by
        rw [post,finish_gone hid]
        rfl
      have none : waits client m.pre.daemon = 0 := by
        refine List.countP_eq_zero.mpr ?_
        rintro ⟨other,hint⟩ member same
        cases beq_iff_eq.mp same
        obtain ⟨packet',holds,hinted⟩ := (balanced.left hid).held _ _ member
        cases handles.symm.trans holds
        rw [← hinted] at member
        exact late member
      rw [counts,sent_log log,failure_counts,if_pos rfl,none]
  refine ⟨client,?_⟩
  rw [total_snoc,total_snoc]
  omega

theorem balanced_move (balanced : Balanced ms m.pre) (move : threads m) (smooth : ¬ Overtaken m) : Balanced (ms ++ [m]) m.post := by
  have still : m.post = m.pre → (∀ client, requests client m = 0) → Balanced (ms ++ [m]) m.post := by
    intro same none
    refine ⟨by rw [same]; exact balanced.steady,?_,by rw [same]; exact balanced.left⟩
    refine even_next balanced ?_
    intro client
    have quiet : sent m = [] := sent_log (by rw [same,List.append_nil])
    have unanswered : replies client m = 0 := by
      unfold replies
      rw [quiet]
      split
      · split
        · rfl
        · split <;> rfl
      · rfl
    rw [same,none,unanswered]
    omega
  cases input : m.input with
  | event event =>
    rw [threads,input,Threads.take] at move
    by_cases busy : m.pre.Busy event
    · rw [if_pos busy] at move
      exact still move (fun client => by simp only [requests,input,busy,not_true_eq_false,false_and,if_false])
    · rw [if_neg busy] at move
      exact balanced_event balanced input busy move
  | pends client =>
    have none : ∀ client, requests client m = 0 := fun client => by simp only [requests,input]
    rw [threads,input,Threads.take] at move
    split at move
    · rename_i packet handles
      exact balanced_pends balanced input handles move
    · exact still move none
  | forwards client =>
    have none : ∀ client, requests client m = 0 := fun client => by simp only [requests,input]
    rw [threads,input,Threads.take] at move
    split at move
    · rename_i packet handles
      exact balanced_forwards balanced input handles move smooth
    · exact still move none

theorem balanced_run {config : DaemonConfig} {t : Threads} (run : ThreadRun config ms t) (smooth : ∀ m ∈ ms, ¬ Overtaken m) :
    Balanced ms t := by
  induction run with
  | refl => exact balanced_start config
  | @next ms m before move ih =>
    exact balanced_move (ih (fun m' member => smooth m' (List.mem_append_left _ member))) move (smooth m (by simp))

/-- In every run, every request is answered at most once exactly if no thread is overtaken with its request. -/
theorem answered_once_iff {config : DaemonConfig} {t : Threads} (run : ThreadRun config ms t) :
    Throughout AnsweredOnce ms ↔ ∀ m ∈ ms, ¬ Overtaken m := by
  rw [← throughout_mem]
  refine throughout_iff ?_ ?_ run (balanced_start config)
  · intro before m move balanced
    constructor
    · intro once overtaken
      obtain ⟨client,twice⟩ := overtaken_twice balanced move overtaken
      exact Nat.not_lt_of_ge (once client) twice
    · intro smooth client
      have even := (balanced_move balanced move smooth).even client
      omega
  · intro before m move balanced smooth
    exact balanced_move balanced move smooth

end

theorem smooth_of_input {m : ThreadMove} (other : ∀ client, m.input ≠ .forwards client) : ¬ Overtaken m := by
  rintro ⟨client,_,input,_⟩
  exact other client input

instance (m : ThreadMove) : Decidable (Overtaken m) :=
  match input : m.input with
  | .event _ => .isFalse (by rintro ⟨_,_,other,_⟩; rw [input] at other; cases other)
  | .pends _ => .isFalse (by rintro ⟨_,_,other,_⟩; rw [input] at other; cases other)
  | .forwards client =>
    match handles : m.pre.handling.get client with
    | none => .isFalse (by rintro ⟨_,_,same,other,_⟩; rw [input] at same; cases same; rw [handles] at other; cases other)
    | some (_,false) => .isFalse (by rintro ⟨_,_,same,other,_⟩; rw [input] at same; cases same; rw [handles] at other; cases other)
    | some (packet,true) => decidable_of_iff (if m.pre.daemon.hid then HID_TX_QUEUE_LIMIT ≤ m.pre.daemon.hid_tx_queue.length
        else (client,plugin_hint packet.payload) ∉ m.pre.daemon.pending_sessions) (by
      constructor
      · exact fun late => ⟨client,packet,input,handles,late⟩
      · rintro ⟨other,packet',same,holds,late⟩
        rw [input] at same
        cases same
        cases handles.symm.trans holds
        exact late)

/-- Two requests: the board answers one, and the device is lost with the other. -/
def lost_asked : List Turn := [.event .connect,.event .connect,.event (.asks 0),.pends 0,.forwards 0,.event (.asks 1),.pends 1,
  .forwards 1,.event (.write true),.event (.allots 1),.event .device_lost]

theorem answered_once_lost : Throughout AnsweredOnce (moves thread_step (.start .real) lost_asked) :=
  (answered_once_iff (thread_turns .real lost_asked)).mpr (by decide)

/-- Heartbeats of one session that the writer does not write fill its queue. -/
theorem heartbeats_queued {sid : Nat} (k : Nat) (t : Threads) (hid : t.daemon.hid = true)
    (live : t.daemon.sessions.sessions.keys = [sid]) (room : t.daemon.hid_tx_queue.length + k ≤ HID_TX_QUEUE_LIMIT) :
    ∃ queue log, finish thread_step t (List.replicate k (.event .heartbeat)) =
        { t with daemon := { t.daemon with hid_tx_queue := queue, log := log } } ∧
      queue.length = t.daemon.hid_tx_queue.length + k := by
  induction k generalizing t with
  | zero => exact ⟨_,_,rfl,rfl⟩
  | succ k ih =>
    have idle : ¬ t.Busy .heartbeat := by
      rintro ⟨_,other,_⟩
      cases other
    have sids : t.daemon.sessions.all_sids = [sid] := by
      rw [SessionManager.all_sids,live]
      exact List.mergeSort_singleton _
    let beat : Daemon := { t.daemon with
      hid_tx_queue := t.daemon.hid_tx_queue ++ [some (make_session_heartbeat sid)]
      log := t.daemon.log ++ [.queued t.daemon.focused_sid (make_session_heartbeat sid)] }
    have handled : t.daemon.handle .heartbeat = beat := by
      rw [Daemon.handle,Daemon.heartbeat,if_neg (by simp [hid]),sids]
      simp only [List.map_cons,List.map_nil,Daemon.forward_all,forward_room (make_session_heartbeat sid) hid (by omega)]
      rfl
    have turn : (thread_step t (.event .heartbeat)).1 = { t with daemon := beat } := by
      simp only [thread_step,Threads.take,if_neg idle,Threads.begin,handled]
    have longer : beat.hid_tx_queue.length = t.daemon.hid_tx_queue.length + 1 := List.length_append
    rw [List.replicate_succ,finish,turn]
    obtain ⟨queue,log,beats,length⟩ := ih { t with daemon := beat } hid live (by simp only [longer]; omega)
    refine ⟨queue,log,beats,?_⟩
    rw [length]
    simp only [longer]
    omega

/-- A request that finds the queue full is overtaken by its own thread. -/
theorem full_overtaken {t : Threads} {client : Client} {packet : Packet} {event : Event}
    (accepts : t.daemon.Accepts event client packet) (free : client ∉ t.handling.keys)
    (full : HID_TX_QUEUE_LIMIT ≤ t.daemon.hid_tx_queue.length) :
    Overtaken ⟨(t.take (.event event)).take (.pends client),.forwards client,
      ((t.take (.event event)).take (.pends client)).take (.forwards client),()⟩ := by
  have idle : ¬ t.Busy event := by
    obtain ⟨⟨_,clock,rfl⟩,_⟩ := accepts
    rintro ⟨other,same,busy⟩
    cases same
    exact free busy
  have pended : (t.take (.event event)).take (.pends client) =
      ⟨t.daemon.pend_request packet client,(t.handling.set client (packet,false)).set client (packet,true)⟩ := by
    rw [Threads.take,if_neg idle,begin_accepted accepts]
    simp only [Threads.take,Dict.get_set,if_true]
  refine ⟨client,packet,rfl,?_,?_⟩
  · rw [pended,Dict.get_set,if_pos rfl]
  · rw [pended,if_pos (show (t.daemon.pend_request packet client).hid = true from accepts.2.1)]
    exact full

/-- A client gets a session. -/
def granted : List Turn := [.event .connect,.event (.asks 0),.pends 0,.forwards 0,.event (.write true),.event (.allots 1)]

def granted_threads : Threads := finish thread_step (.start .real) granted

theorem granted_ready : granted_threads.daemon.hid = true ∧ granted_threads.daemon.sessions.sessions.keys = [1] ∧
    granted_threads.daemon.hid_tx_queue = [] ∧ granted_threads.handling.keys = [] ∧
    granted_threads.daemon.Hears 0 (make_request_session []) := by decide

theorem granted_smooth : ∀ m ∈ moves thread_step (.start .real) granted, ¬ Overtaken m := by decide

/-- It asks for another one when the queue of the writer is full of heartbeats. -/
theorem full_queue_twice : ¬ ∀ config ms t, ThreadRun config ms t → Throughout AnsweredOnce ms := by
  intro once
  have path : ∀ (t : Threads) (turns : List Turn), Path threads t (moves thread_step t turns) (finish thread_step t turns) :=
    fun t turns => moves_path t turns (fun m member => (congrArg Prod.fst (moves_step member)).symm)
  obtain ⟨hid,live,queue,free,heard⟩ := granted_ready
  obtain ⟨full,log,filled,length⟩ := heartbeats_queued HID_TX_QUEUE_LIMIT granted_threads hid live (by rw [queue]; exact Nat.le_refl _)
  have beats := path granted_threads (List.replicate HID_TX_QUEUE_LIMIT (.event .heartbeat))
  rw [filled] at beats
  generalize same : ({ granted_threads with daemon := { granted_threads.daemon with hid_tx_queue := full, log := log } } : Threads) =
    t at beats
  have accepts : t.daemon.Accepts (.asks 0) 0 (make_request_session []) := by
    rw [← same]
    exact ⟨⟨heard,⟨0,0⟩,rfl⟩,hid,rfl⟩
  let m : ThreadMove := ⟨(t.take (.event (.asks 0))).take (.pends 0),.forwards 0,
    ((t.take (.event (.asks 0))).take (.pends 0)).take (.forwards 0),()⟩
  have overtaken : Overtaken m := by
    refine full_overtaken accepts ?_ ?_
    · rw [← same,free]
      exact List.not_mem_nil
    · rw [← same,length,queue]
      exact Nat.le_refl _
  have run : Path threads (.start .real) _ m.pre :=
    path_append (path_append (path (.start .real) granted) beats) (path t [.event (.asks 0),.pends 0])
  have balanced : Balanced (moves thread_step (.start .real) granted
      ++ moves thread_step granted_threads (List.replicate HID_TX_QUEUE_LIMIT (.event .heartbeat))
      ++ moves thread_step t [.event (.asks 0),.pends 0]) m.pre := by
    refine balanced_run run ?_
    intro m' member
    rcases List.mem_append.mp member with before | asked
    · rcases List.mem_append.mp before with first | beat
      · exact granted_smooth m' first
      · refine smooth_of_input (fun client forwards => ?_)
        have input := moves_input beat
        rw [forwards] at input
        cases List.eq_of_mem_replicate input
    · refine smooth_of_input (fun client forwards => ?_)
      have input := moves_input asked
      rw [forwards] at input
      simp at input
  obtain ⟨client,twice⟩ := overtaken_twice balanced rfl overtaken
  have fine := throughout_snoc.mp (once _ _ _ (run.next rfl))
  exact Nat.not_lt_of_ge (fine.2 client) twice

end VibeBridge.Python
