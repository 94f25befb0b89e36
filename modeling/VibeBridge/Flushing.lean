import VibeBridge.Outbox

/-!
Flushing the outbox. A flush sends the messages in order, each split into
frames, and stops at the first call that fails; the message that failed stays in
the outbox whole. So no frame is lost, but when the call failed inside a message
the next flush sends its first frames again (`delivered_in_order`).
-/
namespace VibeBridge.Flushing
open Transitions
open VibeBridge.Core VibeBridge.Protocol VibeBridge.Agent VibeBridge.Daemon VibeBridge.Bridge VibeBridge.Outbox

/-- The message that `hid.send` gets for a frame. -/
def as_message (frame : HidFrame) : HidMessage := ⟨frame.cmd,frame.sid,frame.payload⟩

/-- A message as the frames that carry it. -/
def frames_of (msg : HidMessage) : List HidMessage := (split_host_to_board msg.cmd msg.sid msg.payload).map as_message

/-- The messages of an outbox as the frames that carry them, in order. -/
def all_frames (outbox : List HidMessage) : List HidMessage := outbox.flatMap frames_of

theorem frames_length (msg : HidMessage) :
    (frames_of msg).length = (split_host_to_board msg.cmd msg.sid msg.payload).length := List.length_map _

/-! ## One flush -/

/-- The calls from `first` on, `n` of them, all succeed. -/
def Succeeds (send : Sends) (first n : Nat) : Prop := ∀ i < n, send (first + i) = .ok ()

/-- The calls all succeed, or there is a first one that fails. -/
theorem first_failure (send : Sends) (first n : Nat) : Succeeds send first n ∨
    ∃ i < n, Succeeds send first i ∧ ∃ err, send (first + i) = .error err := by
  induction n with
  | zero => left; intro i less; cases less
  | succ n ih =>
    rcases ih with all | ⟨i,less,before,fails⟩
    · cases last : send (first + n) with
      | error err => exact .inr ⟨n,Nat.lt_succ_self n,all,err,last⟩
      | ok done =>
        left
        intro i less
        rcases Nat.lt_succ_iff_lt_or_eq.mp less with earlier | rfl
        · exact all i earlier
        · exact last
    · exact .inr ⟨i,Nat.lt_succ_of_lt less,before,fails⟩

theorem succeeds_split {send : Sends} {first n k : Nat} (all : Succeeds send first (n + k)) :
    Succeeds send first n ∧ Succeeds send (first + n) k := by
  constructor
  · intro i less
    exact all i (by omega)
  · intro i less
    rw [Nat.add_assoc]
    exact all (n + i) (by omega)

/-- A message is sent whole when no call fails. -/
theorem send_frames_all {send : Sends} {call : Nat} {frames : List HidFrame} (all : Succeeds send call frames.length) :
    send_frames send call frames = (frames.map as_message,none) := by
  induction frames generalizing call with
  | nil => rfl
  | cons frame rest ih =>
    have now : send call = .ok () := all 0 (by simp)
    have later : Succeeds send (call + 1) rest.length := by
      rw [List.length_cons,Nat.add_comm] at all
      exact (succeeds_split all).2
    simp only [send_frames,now,ih later]
    rfl

/-- A message is sent up to the first call that fails. -/
theorem send_frames_stops {send : Sends} {call i : Nat} {frames : List HidFrame} (inside : i < frames.length)
    (before : Succeeds send call i) {err : TransportError} (fails : send (call + i) = .error err) :
    send_frames send call frames = ((frames.take i).map as_message,some err) := by
  induction frames generalizing call i with
  | nil => cases inside
  | cons frame rest ih =>
    cases i with
    | zero => simp only [send_frames,show send call = .error err from fails]; rfl
    | succ i =>
      have now : send call = .ok () := before 0 (by simp)
      have later : Succeeds send (call + 1) i := by
        rw [Nat.add_comm] at before
        exact (succeeds_split before).2
      have stops := ih (Nat.lt_of_succ_lt_succ inside) later (by rw [Nat.add_assoc,Nat.add_comm 1 i]; exact fails)
      simp only [send_frames,now,stops]
      rfl

/-- An outbox is sent empty when no call fails. -/
theorem flush_all {send : Sends} {call : Nat} {outbox : List HidMessage}
    (all : Succeeds send call (all_frames outbox).length) :
    flush_messages send call outbox = ([],all_frames outbox,.ok ()) := by
  induction outbox generalizing call with
  | nil => rfl
  | cons msg rest ih =>
    rw [all_frames,List.flatMap_cons,List.length_append] at all
    obtain ⟨here,later⟩ := succeeds_split all
    rw [frames_length] at here later
    simp only [flush_messages,send_frames_all here]
    rw [ih later]
    rfl

/-- A flush stops at the message whose frame is the first that fails, and keeps this message whole. -/
theorem flush_stops (back : List HidMessage) {send : Sends} {call i : Nat} {front : List HidMessage} {msg : HidMessage}
    (inside : i < (frames_of msg).length) (before : Succeeds send call ((all_frames front).length + i))
    {err : TransportError} (fails : send (call + ((all_frames front).length + i)) = .error err) :
    ∃ text, flush_messages send call (front ++ msg :: back) =
      (msg :: back,all_frames front ++ (frames_of msg).take i,.error text) := by
  induction front generalizing call with
  | nil =>
    rw [frames_length] at inside
    simp only [all_frames,List.flatMap_nil,List.length_nil,Nat.zero_add] at before fails
    have stops := send_frames_stops inside before fails
    simp only [List.nil_append,flush_messages,stops]
    refine ⟨_,Prod.ext rfl (Prod.ext ?_ rfl)⟩
    simp [all_frames,frames_of,List.map_take]
  | cons sent rest ih =>
    have count : (all_frames (sent :: rest)).length + i = (frames_of sent).length + ((all_frames rest).length + i) := by
      rw [all_frames,List.flatMap_cons,List.length_append,Nat.add_assoc]
      rfl
    rw [count] at before fails
    obtain ⟨here,later⟩ := succeeds_split before
    rw [← Nat.add_assoc call] at fails
    obtain ⟨text,stops⟩ := ih later fails
    rw [frames_length] at here stops
    simp only [List.cons_append,flush_messages,send_frames_all here,stops]
    exact ⟨text,by simp [all_frames,frames_of]⟩

/-- A frame of an outbox belongs to one of its messages. -/
theorem frame_within {outbox : List HidMessage} {n : Nat} (less : n < (all_frames outbox).length) :
    ∃ front msg back i, outbox = front ++ msg :: back ∧ i < (frames_of msg).length ∧
      n = (all_frames front).length + i := by
  induction outbox generalizing n with
  | nil => cases less
  | cons msg rest ih =>
    by_cases here : n < (frames_of msg).length
    · exact ⟨[],msg,rest,n,rfl,here,by simp [all_frames]⟩
    · rw [all_frames,List.flatMap_cons,List.length_append] at less
      obtain ⟨front,msg',back,i,rfl,inside,same⟩ := ih (show n - (frames_of msg).length < (all_frames rest).length by
        rw [all_frames]; omega)
      refine ⟨msg :: front,msg',back,i,rfl,inside,?_⟩
      rw [all_frames,List.flatMap_cons,List.length_append,← all_frames]
      omega

/-! ## Moves -/

/-- The frames that a move hands to the transport. -/
def delivered (m : BridgeMove) : List HidMessage :=
  match m.output with
  | .flushed frames _ => frames
  | _ => []

/-- The first call of a flush that fails is for a frame of a message other than its first frame. -/
def FailsInside (m : BridgeMove) : Prop :=
  ∃ send, m.input = .flush true send ∧ ∃ front msg back i err, m.pre.board_outbox = front ++ msg :: back ∧
    0 < i ∧ i < (frames_of msg).length ∧ Succeeds send 0 ((all_frames front).length + i) ∧
    send ((all_frames front).length + i) = .error err

theorem all_frames_append (outbox outbox' : List HidMessage) :
    all_frames (outbox ++ outbox') = all_frames outbox ++ all_frames outbox' := List.flatMap_append

/-- The first call that fails is determined. -/
theorem failure_unique {send : Sends} {n n' : Nat} {err err' : TransportError} (before : Succeeds send 0 n)
    (fails : send n = .error err) (before' : Succeeds send 0 n') (fails' : send n' = .error err') : n = n' := by
  have not_later : ∀ {k k' : Nat} {err : TransportError}, Succeeds send 0 k' → send k = .error err → ¬ k < k' := by
    intro k k' err all failed less
    have fine := all k less
    rw [Nat.zero_add,failed] at fine
    cases fine
  have := not_later before' fails
  have := not_later before fails'
  omega

/-- The message and the frame at which a flush stops are determined. -/
theorem stop_unique {send : Sends} {front front' back back' : List HidMessage} {msg msg' : HidMessage} {i i' : Nat}
    {err err' : TransportError} (same : front ++ msg :: back = front' ++ msg' :: back')
    (inside : i < (frames_of msg).length) (before : Succeeds send 0 ((all_frames front).length + i))
    (fails : send ((all_frames front).length + i) = .error err) (inside' : i' < (frames_of msg').length)
    (before' : Succeeds send 0 ((all_frames front').length + i'))
    (fails' : send ((all_frames front').length + i') = .error err') : i = i' := by
  obtain ⟨text,stops⟩ := flush_stops back inside before (by rw [Nat.zero_add]; exact fails)
  obtain ⟨text',stops'⟩ := flush_stops back' inside' before' (by rw [Nat.zero_add]; exact fails')
  rw [same,stops'] at stops
  have kept := congrArg Prod.fst stops
  simp only at kept
  rw [kept] at same
  have fronts := List.append_cancel_right same
  have calls := failure_unique before fails before' fails'
  rw [fronts] at calls
  omega

/-- A flush sends some messages whole. Beside them it sends frames of the next
    one when it fails inside this message, and no others. -/
theorem flush_flow {m : BridgeMove} (move : bridge m) {is_connected : Bool} {send : Sends}
    (input : m.input = .flush is_connected send) :
    ∃ sent again, m.pre.board_outbox = sent ++ m.post.board_outbox ∧
      delivered m = all_frames sent ++ again ∧ (FailsInside m ↔ again ≠ []) ∧
      (again = [] ∨ ∃ msg back i, m.post.board_outbox = msg :: back ∧ i < (frames_of msg).length ∧
        again = (frames_of msg).take i) := by
  obtain ⟨daemon,same,result⟩ := move
  have outbox := (rehashed_outbox same).1
  rw [input] at result
  simp only [handle,Prod.mk.injEq] at result
  obtain ⟨post,output⟩ := result
  simp only [delivered,← output]
  rw [← post]
  unfold flush_board_outbox at *
  cases is_connected with
  | false =>
    refine ⟨[],[],by simp [outbox],rfl,?_,.inl rfl⟩
    constructor
    · rintro ⟨_,told,_⟩
      rw [input] at told
      cases told
    · intro nothing
      exact absurd rfl nothing
  | true =>
    simp only [Bool.not_true,Bool.false_eq_true,↓reduceIte,outbox]
    rcases first_failure send 0 (all_frames m.pre.board_outbox).length with all | ⟨n,less,before,err,fails⟩
    · rw [flush_all all]
      refine ⟨m.pre.board_outbox,[],by simp,by simp,?_,.inl rfl⟩
      constructor
      · rintro ⟨send',told,front,msg,back,i,err,whole,_,inside,_,fails⟩
        rw [input] at told
        cases told
        have fine := all ((all_frames front).length + i) (by
          rw [whole,all_frames_append,List.length_append,all_frames,all_frames,List.flatMap_cons,List.length_append]
          omega)
        rw [Nat.zero_add,fails] at fine
        cases fine
      · intro nothing
        exact absurd rfl nothing
    · obtain ⟨front,msg,back,i,whole,inside,rfl⟩ := frame_within less
      rw [Nat.zero_add] at fails
      obtain ⟨text,stops⟩ := flush_stops back inside before (by rw [Nat.zero_add]; exact fails)
      rw [whole,stops]
      refine ⟨front,(frames_of msg).take i,rfl,rfl,?_,.inr ⟨msg,back,i,rfl,inside,rfl⟩⟩
      constructor
      · rintro ⟨send',told,front',msg',back',i',err',whole',positive,inside',before',fails'⟩ nothing
        rw [input] at told
        cases told
        have equal := stop_unique (whole.symm.trans whole') inside before fails inside' before' fails'
        rcases List.take_eq_nil_iff.mp nothing with zero | empty
        · omega
        · rw [empty] at inside; cases inside
      · intro some_sent
        refine ⟨send,input,front,msg,back,i,err,whole,?_,inside,before,fails⟩
        exact Nat.pos_of_ne_zero (fun zero => some_sent (by rw [zero]; rfl))

/-- What a move takes from the outbox it sends whole and in order. Beside this
    it sends some frames of a message that stays when it fails inside a message,
    and no others. -/
theorem move_flow {m : BridgeMove} (move : bridge m) (undrained : m.input ≠ .drain) :
    ∃ sent again, m.pre.board_outbox ++ enqueued m = sent ++ m.post.board_outbox ∧
      delivered m = all_frames sent ++ again ∧ (FailsInside m ↔ again ≠ []) := by
  by_cases flushes : ∃ is_connected send, m.input = .flush is_connected send
  · obtain ⟨is_connected,send,input⟩ := flushes
    obtain ⟨sent,again,outbox,frames,inside,_⟩ := flush_flow move input
    have none : enqueued m = [] := by
      rw [enqueued,outbox,List.drop_eq_nil_iff,List.length_append]
      omega
    exact ⟨sent,again,by rw [none,List.append_nil]; exact outbox,frames,inside⟩
  · have keeps : Keeps m.input := ⟨undrained,fun is_connected send input => flushes ⟨is_connected,send,input⟩⟩
    refine ⟨[],[],(move_appends move keeps).symm,?_,?_⟩
    · obtain ⟨daemon,_,result⟩ := move
      have output : (handle daemon m.input).2 = m.output := congrArg Prod.snd result
      unfold delivered
      rw [← output]
      cases told : m.input with
      | flush is_connected send => exact absurd told (keeps.2 is_connected send)
      | _ => rfl
    · constructor
      · rintro ⟨send,input,_⟩
        exact absurd input (keeps.2 true send)
      · intro nothing
        exact absurd rfl nothing

/-! ## Requests for a session -/

theorem frames_cmd {msg frame : HidMessage} (member : frame ∈ frames_of msg) : frame.cmd = msg.cmd := by
  obtain ⟨split,among,rfl⟩ := List.mem_map.mp member
  unfold split_host_to_board at among
  split at among
  · rw [List.mem_singleton.mp among]; rfl
  · obtain ⟨chunk,_,rfl⟩ := List.mem_map.mp among; rfl

/-- A REQUEST_SESSION is one frame. -/
theorem request_frames (agent : RegisteredAgent) :
    frames_of (request_session_message agent) = [request_session_message agent] := by
  have short : (request_session_message agent).payload.length ≤ HID_MAX_PAYLOAD := by
    simp only [request_session_message,List.length_take]
    exact Nat.le_trans (Nat.min_le_left _ _) (by decide)
  rw [frames_of,split_short _ _ _ short]
  rfl

theorem frames_unasked {msg : HidMessage} (other : asks_session msg = false) {frames : List HidMessage}
    (among : ∀ frame ∈ frames, frame ∈ frames_of msg) : frames.countP asks_session = 0 := by
  rw [List.countP_eq_zero]
  intro frame member
  rw [asks_session,frames_cmd (among frame member)]
  simpa [asks_session] using other

/-- The requests among the frames of messages are those among the messages. -/
theorem all_frames_requests {outbox : List HidMessage}
    (short : ∀ msg ∈ outbox, asks_session msg = true → frames_of msg = [msg]) :
    (all_frames outbox).countP asks_session = (outbox.filter asks_session).length := by
  induction outbox with
  | nil => rfl
  | cons msg rest ih =>
    rw [all_frames,List.flatMap_cons,List.countP_append,← all_frames,ih (fun msg later => short msg (by simp [later]))]
    cases asks : asks_session msg with
    | true => simp [short msg (by simp) asks,asks,Nat.add_comm]
    | false => simp [frames_unasked asks (fun _ member => member),asks]

/-- A flush delivers the requests of the messages that it takes from the outbox, and no others. -/
theorem flush_requests {m : BridgeMove} (move : bridge m) {is_connected : Bool} {send : Sends}
    (input : m.input = .flush is_connected send)
    (short : ∀ msg ∈ m.pre.board_outbox, asks_session msg = true → frames_of msg = [msg]) :
    ∃ sent, m.pre.board_outbox = sent ++ m.post.board_outbox ∧
      (delivered m).countP asks_session = (sent.filter asks_session).length := by
  obtain ⟨sent,again,outbox,frames,_,rest⟩ := flush_flow move input
  refine ⟨sent,outbox,?_⟩
  have none : again.countP asks_session = 0 := by
    rcases rest with rfl | ⟨msg,back,i,post,inside,rfl⟩
    · rfl
    · cases asks : asks_session msg with
      | true =>
        have single := short msg (by rw [outbox,post]; simp) asks
        rw [single] at inside ⊢
        have zero : i = 0 := by simpa using inside
        simp [zero]
      | false => exact frames_unasked asks (fun _ member => List.mem_of_mem_take member)
  rw [frames,List.countP_append,none,all_frames_requests (fun msg member => short msg (by rw [outbox]; simp [member]))]
  rfl

/-! ## Runs -/

/-- The messages that were in the outbox at the start or came into it since. -/
def queued_messages (start : BridgeDaemon) (ms : List BridgeMove) : List HidMessage :=
  start.board_outbox ++ ms.flatMap enqueued

/-- When no flush fails inside a message, the frames delivered and those to come
    are the frames of all messages, once each and in order. -/
theorem delivered_whole {start final : BridgeDaemon} {ms : List BridgeMove} (path : Path bridge start ms final)
    (undrained : ∀ m ∈ ms, m.input ≠ .drain) (safe : ∀ m ∈ ms, ¬ FailsInside m) :
    ms.flatMap delivered ++ all_frames final.board_outbox = all_frames (queued_messages start ms) := by
  induction path with
  | refl => simp [queued_messages]
  | @next ks m before move ih =>
    have whole := ih (fun m member => undrained m (by simp [member])) (fun m member => safe m (by simp [member]))
    obtain ⟨sent,again,outbox,frames,inside⟩ := move_flow move (undrained m (by simp))
    have nothing : again = [] := not_not.mp (fun some_sent => safe m (by simp) (inside.mpr some_sent))
    have taken := congrArg all_frames outbox
    rw [all_frames_append,all_frames_append] at taken
    calc (ks ++ [m]).flatMap delivered ++ all_frames m.post.board_outbox
        = ks.flatMap delivered ++ (all_frames sent ++ all_frames m.post.board_outbox) := by
          simp [frames,nothing]
      _ = (ks.flatMap delivered ++ all_frames m.pre.board_outbox) ++ all_frames (enqueued m) := by
          rw [← taken,List.append_assoc]
      _ = all_frames (queued_messages start (ks ++ [m])) := by
          rw [whole,← all_frames_append]
          simp [queued_messages]

/-- No frame is lost, and some frames are delivered again when a flush fails inside a message. -/
theorem delivered_surplus {start final : BridgeDaemon} {ms : List BridgeMove} (path : Path bridge start ms final)
    (undrained : ∀ m ∈ ms, m.input ≠ .drain) :
    (all_frames (queued_messages start ms)).length ≤
      (ms.flatMap delivered).length + (all_frames final.board_outbox).length ∧
    ((∃ m ∈ ms, FailsInside m) → (all_frames (queued_messages start ms)).length <
      (ms.flatMap delivered).length + (all_frames final.board_outbox).length) := by
  induction path with
  | refl => simp [queued_messages]
  | @next ks m before move ih =>
    obtain ⟨least,more⟩ := ih (fun m member => undrained m (by simp [member]))
    obtain ⟨sent,again,outbox,frames,inside⟩ := move_flow move (undrained m (by simp))
    have taken := congrArg (fun msgs => (all_frames msgs).length) outbox
    simp only [all_frames_append,List.length_append] at taken
    have count : ((ks ++ [m]).flatMap delivered).length =
        (ks.flatMap delivered).length + (all_frames sent).length + again.length := by
      simp [frames,Nat.add_assoc]
    have total : (all_frames (queued_messages start (ks ++ [m]))).length =
        (all_frames (queued_messages start ks)).length + (all_frames (enqueued m)).length := by
      rw [← List.length_append,← all_frames_append]
      simp [queued_messages]
    rw [count,total]
    refine ⟨by omega,?_⟩
    rintro ⟨m',member,fails⟩
    rcases List.mem_append.mp member with earlier | last
    · have := more ⟨m',earlier,fails⟩
      omega
    · rw [List.mem_singleton.mp last] at fails
      have := List.length_pos_iff.mpr (inside.mp fails)
      omega

/-- The frames delivered are a prefix of the frames of the messages that were
    queued, as long as every flush that fails does so at the first frame of a
    message. Once the outbox is empty they are no prefix after any other failure. -/
theorem delivered_in_order {start final : BridgeDaemon} {ms : List BridgeMove} (path : Path bridge start ms final)
    (undrained : ∀ m ∈ ms, m.input ≠ .drain) :
    ((∀ m ∈ ms, ¬ FailsInside m) → ms.flatMap delivered <+: all_frames (queued_messages start ms)) ∧
    (final.board_outbox = [] →
      (ms.flatMap delivered <+: all_frames (queued_messages start ms) ↔ ∀ m ∈ ms, ¬ FailsInside m)) := by
  have enough : (∀ m ∈ ms, ¬ FailsInside m) → ms.flatMap delivered <+: all_frames (queued_messages start ms) := by
    intro safe
    rw [← delivered_whole path undrained safe]
    exact List.prefix_append _ _
  refine ⟨enough,fun empty => ⟨?_,enough⟩⟩
  intro front m member fails
  have more := (delivered_surplus path undrained).2 ⟨m,member,fails⟩
  have most := front.length_le
  rw [empty] at more
  simp only [all_frames,List.flatMap_nil,List.length_nil,Nat.add_zero] at more most
  omega

/-- A daemon with one message of two frames to send. -/
def two_frames : BridgeDaemon :=
  { BridgeDaemon.new with board_outbox := [⟨.Vt100Stream,7,List.replicate HID_MAX_PAYLOAD 0 ++ [1]⟩] }

/-- The call fails, and in a second flush everything is sent. -/
def failed_call (n : Nat) : List Event :=
  [.flush true (fun call => if call = n then .error .Timeout else .ok ()),.flush true (fun _ => .ok ())]

theorem failed_call_path (n : Nat) :
    Path bridge two_frames (moves handle two_frames (failed_call n)) (finish handle two_frames (failed_call n)) :=
  moves_path two_frames _ (fun m member => ⟨m.pre,rehashed_refl m.pre,moves_step member⟩)

theorem failed_call_undrained (n : Nat) : ∀ m ∈ moves handle two_frames (failed_call n), m.input ≠ .drain := by
  intro m member drained
  simp only [failed_call,moves,List.mem_cons,List.not_mem_nil,or_false] at member
  rcases member with rfl | rfl
  · cases drained
  · cases drained

/-- When the second frame fails, the first one is delivered twice. -/
theorem failed_frame_repeats : ¬ ∀ start final ms, Path bridge start ms final → (∀ m ∈ ms, m.input ≠ .drain) →
    ms.flatMap delivered <+: all_frames (queued_messages start ms) := by
  intro claimed
  have front := claimed two_frames _ _ (failed_call_path 1) (failed_call_undrained 1)
  revert front
  decide

/-- When the first frame fails, nothing is delivered twice. -/
theorem delivered_in_order_first :
    (moves handle two_frames (failed_call 0)).flatMap delivered <+:
      all_frames (queued_messages two_frames (moves handle two_frames (failed_call 0))) := by
  refine (delivered_in_order (failed_call_path 0) (failed_call_undrained 0)).1 ?_
  rintro m member ⟨send,input,front,msg,back,i,err,_,positive,_,before,fails⟩
  simp only [failed_call,moves,List.mem_cons,List.not_mem_nil,or_false] at member
  rcases member with rfl | rfl
  · cases input
    cases before 0 (by omega)
  · cases input
    cases fails

end VibeBridge.Flushing
