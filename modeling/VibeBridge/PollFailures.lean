import VibeBridge.Poller

/-!
What a poll loses that fails in the middle. The sessions before the failing one
have been read: their cursors stand at the ends of their files and they count as
seen, but what was found is dropped with the error. No later poll finds it again,
so nothing is lost only where nothing was found.
-/
namespace VibeBridge.PollFailures
open VibeBridge.Text VibeBridge.Core VibeBridge.Json VibeBridge.Transcripts VibeBridge.Poller

section
variable (parse : String → Option Value)

/-- The lines of a session that a poll would read now. -/
def unread (files : String → Snapshot) (poller : AgentSourcePoller) (session : AgentSession) : List String :=
  match (read_appended_lines session.transcript_path (files session.transcript_path) poller.cursors).1 with
  | .ok (some appended) => lines appended
  | _ => []

/-- The unread lines of a session hold no activity and no turn. -/
def Silent (files : String → Snapshot) (poller : AgentSourcePoller) (session : AgentSession) : Prop :=
  ∀ line ∈ unread files poller session,
    line_to_activity parse session.kind session.agent_id session.transcript_path line = none ∧
      line_to_discovered_turn parse session.kind session.agent_id line = none

/-- The sessions have nothing to tell: each has been seen, and its unread lines
    hold nothing, unless a session before it has the same file. -/
def Quiet (files : String → Snapshot) (poller : AgentSourcePoller) (sessions : List AgentSession) : Prop :=
  ∀ before session after, sessions = before ++ session :: after →
    (session.kind, session.agent_id) ∈ poller.seen_sessions ∧
      (session.transcript_path ∉ before.map (·.transcript_path) → Silent parse files poller session)

/-- A file has not become shorter. -/
def Grows (old new : Snapshot) : Prop :=
  ∀ size, old.metadata = .ok size → ∃ larger, new.metadata = .ok larger ∧ size ≤ larger

/-- Whatever polls follow, as long as the files of these sessions only grow: once
    a poll of them all succeeds, all that was consumed has been emitted. -/
def Recovers (files : String → Snapshot) (sessions : List AgentSession) (lost : AgentSourcePoller)
    (consumed : Collected) : Prop :=
  ∀ (history : List Poll) (last : Poll) (snapshot : AgentPollSnapshot),
    (∀ poll ∈ history ++ [last], ∀ session ∈ sessions,
      Grows (files session.transcript_path) (poll.files session.transcript_path)) →
    sessions ⊆ last.sessions →
    (poll_all parse (history ++ [last]) lost).getLast? = some (.ok snapshot) →
      consumed.activities ⊆ (emitted (poll_all parse (history ++ [last]) lost)).activities ∧
        consumed.turns ⊆ (emitted (poll_all parse (history ++ [last]) lost)).turns

variable {parse} {files : String → Snapshot} {poller after : AgentSourcePoller} {session : AgentSession}

/-- A session whose file has been read to its end. -/
def Settled (files : String → Snapshot) (poller : AgentSourcePoller) (session : AgentSession) : Prop :=
  (session.kind, session.agent_id) ∈ poller.seen_sessions ∧
    (files session.transcript_path).metadata = .ok (poller.cursors session.transcript_path)

variable (parse) in
/-- A settled session has nothing to tell, and asking it changes nothing. -/
theorem settled_silent (settled : Settled files poller session) :
    poll_session parse files session poller = (.ok ⟨[], []⟩, poller) := by
  obtain ⟨seen,size⟩ := settled
  have nothing : read_appended_lines session.transcript_path (files session.transcript_path) poller.cursors =
      (.ok none, poller.cursors) := by
    rw [read_appended_lines,size]
    simp
  rw [poll_session,nothing]
  simp [first_sight,with_seen,seen]

/-- Reading settles a session. -/
theorem read_settles {found : Collected} (read : poll_session parse files session poller = (.ok found, after)) :
    Settled files after session := by
  obtain ⟨appended,size,_,known,_,rfl⟩ := poll_session_ok read
  exact ⟨seen_now session poller,by simpa [set_cursor] using known⟩

/-- Reading a session leaves the others settled. -/
theorem read_keeps_settled {found : Collected} (read : poll_session parse files session poller = (.ok found, after))
    {other : AgentSession} (settled : Settled files poller other) : Settled files after other := by
  obtain ⟨appended,size,_,known,_,rfl⟩ := poll_session_ok read
  obtain ⟨seen,whole⟩ := settled
  refine ⟨still_seen session seen,?_⟩
  by_cases same : other.transcript_path = session.transcript_path
  · simpa [set_cursor,same] using known
  · simpa [set_cursor,same] using whole

theorem error_keeps_settled {err : String} (failed : poll_session parse files session poller = (.error err, after))
    {other : AgentSession} (settled : Settled files poller other) : Settled files after other := by
  obtain rfl := poll_session_error failed
  exact ⟨still_seen session settled.1,settled.2⟩

/-- The sessions that the loop has passed are settled. -/
theorem passed_settled {sessions : List AgentSession} {found : Collected}
    (passes : Passes parse files sessions poller found after) :
    (∀ other, Settled files poller other → Settled files after other) ∧
      ∀ session ∈ sessions, Settled files after session := by
  induction passes with
  | nil => exact ⟨fun other settled => settled,by simp⟩
  | cons first _ ih =>
    refine ⟨fun other settled => ih.1 other (read_keeps_settled first settled),?_⟩
    intro session mem
    rcases List.mem_cons.mp mem with rfl | mem
    · exact ih.1 _ (read_settles first)
    · exact ih.2 session mem

/-- Settled sessions are passed in silence. -/
theorem settled_pass {sessions : List AgentSession} (settled : ∀ session ∈ sessions, Settled files poller session) :
    Passes parse files sessions poller ⟨[], []⟩ poller := by
  induction sessions with
  | nil => exact .nil
  | cons session sessions ih =>
    have silent := settled_silent parse (settled session (by simp))
    exact .cons silent (ih (fun other mem => settled other (by simp [mem])))

/-! ## Nothing to tell -/

theorem first_sight_empty : first_sight session poller = ⟨[], []⟩ ↔
    (session.kind, session.agent_id) ∈ poller.seen_sessions := by
  rw [first_sight]
  by_cases seen : (session.kind, session.agent_id) ∈ poller.seen_sessions
  · simp [seen]
  · simp [seen]

theorem append_eq_empty {first second : Collected} :
    first.append second = ⟨[], []⟩ ↔ first = ⟨[], []⟩ ∧ second = ⟨[], []⟩ := by
  obtain ⟨activities,turns⟩ := first
  obtain ⟨more_activities,more_turns⟩ := second
  simp only [Collected.append,Collected.mk.injEq,List.append_eq_nil_iff]
  constructor
  · rintro ⟨⟨one,two⟩,three,four⟩
    exact ⟨⟨one,three⟩,two,four⟩
  · rintro ⟨⟨one,three⟩,two,four⟩
    exact ⟨⟨one,two⟩,three,four⟩

theorem read_nothing {found : Collected} (read : poll_session parse files session poller = (.ok found, after)) :
    found = ⟨[], []⟩ ↔ (session.kind, session.agent_id) ∈ poller.seen_sessions ∧ Silent parse files poller session := by
  obtain ⟨appended,size,lines,known,rfl,rfl⟩ := poll_session_ok read
  rw [append_eq_empty,first_sight_empty,Silent,unread,lines]
  refine and_congr_right (fun _ => ?_)
  cases appended with
  | none => simp
  | some text =>
    simp only [Option.elim_some,read_lines,Collected.mk.injEq,List.filterMap_eq_nil_iff]
    exact ⟨fun both line mem => ⟨both.1 line mem,both.2 line mem⟩,
      fun all => ⟨fun line mem => (all line mem).1,fun line mem => (all line mem).2⟩⟩

/-- A session whose file has been read has no unread lines. -/
theorem unread_settled {other : AgentSession} (settled : Settled files poller other)
    (same : session.transcript_path = other.transcript_path) : unread files poller session = [] := by
  have size := settled.2
  rw [← same] at size
  have nothing : read_appended_lines session.transcript_path (files session.transcript_path) poller.cursors =
      (.ok none, poller.cursors) := by
    rw [read_appended_lines,size]
    simp
  rw [unread,nothing]

/-- What is read of a file depends on its own cursor only. -/
theorem read_own_cursor {path : String} {file : Snapshot} {cursors other : String → Nat}
    (same : cursors path = other path) :
    (read_appended_lines path file cursors).1 = (read_appended_lines path file other).1 := by
  rw [read_appended_lines,read_appended_lines,same]
  cases file.metadata with
  | error err => rfl
  | ok len =>
    by_cases shorter : len < other path
    · simp only [if_pos shorter]
    · by_cases whole : len = other path
      · simp only [if_neg shorter,if_pos whole]
      · simp only [if_neg shorter,if_neg whole]
        cases file.read_from path (other path) <;> rfl

/-- Reading one file leaves the unread lines of the others. -/
theorem unread_other {found : Collected} (read : poll_session parse files session poller = (.ok found, after))
    {other : AgentSession} (apart : other.transcript_path ≠ session.transcript_path) :
    unread files after other = unread files poller other := by
  obtain ⟨appended,size,_,known,_,rfl⟩ := poll_session_ok read
  have same : set_cursor poller.cursors session.transcript_path size other.transcript_path =
      poller.cursors other.transcript_path := by rw [set_cursor,if_neg apart]
  rw [unread,unread,read_own_cursor same]

theorem quiet_cons {sessions : List AgentSession} {found : Collected}
    (read : poll_session parse files session poller = (.ok found, after))
    (seen : (session.kind, session.agent_id) ∈ poller.seen_sessions) (silent : Silent parse files poller session) :
    Quiet parse files after sessions ↔ Quiet parse files poller (session :: sessions) := by
  have settled := read_settles read
  obtain ⟨appended,size,_,known,_,rfl⟩ := poll_session_ok read
  have same_seen : with_seen session poller = poller.seen_sessions := if_pos (List.contains_iff_mem.mpr seen)
  constructor
  · intro quiet before other rest split
    cases before with
    | nil =>
      obtain ⟨rfl,rfl⟩ := List.cons.inj split
      exact ⟨seen,fun _ => silent⟩
    | cons first before =>
      obtain ⟨rfl,tail⟩ := List.cons.inj split
      obtain ⟨known_other,rest_silent⟩ := quiet before other rest tail
      rw [same_seen] at known_other
      refine ⟨known_other,fun fresh => ?_⟩
      rw [List.map_cons,List.mem_cons,not_or] at fresh
      have lines := rest_silent fresh.2
      rwa [Silent,unread_other read fresh.1] at lines
  · intro quiet before other rest split
    obtain ⟨known_other,rest_silent⟩ := quiet (session :: before) other rest (by rw [split]; rfl)
    refine ⟨still_seen session known_other,fun fresh => ?_⟩
    by_cases shared : other.transcript_path = session.transcript_path
    · rw [Silent,unread_settled settled shared]
      simp
    · have lines := rest_silent (by simp [shared,fresh])
      rwa [Silent,unread_other read shared]

/-- The loop finds nothing exactly in sessions that have nothing to tell. -/
theorem passed_nothing {sessions : List AgentSession} {found : Collected}
    (passes : Passes parse files sessions poller found after) :
    found = ⟨[], []⟩ ↔ Quiet parse files poller sessions := by
  induction passes with
  | nil =>
    refine iff_of_true rfl ?_
    intro before session rest split
    simp at split
  | cons first _ ih =>
    rw [append_eq_empty,read_nothing first,ih]
    constructor
    · rintro ⟨⟨seen,silent⟩,quiet⟩
      exact (quiet_cons first seen silent).mp quiet
    · intro quiet
      obtain ⟨seen,silent⟩ := quiet [] _ _ rfl
      have lines := silent (by simp)
      exact ⟨⟨seen,lines⟩,(quiet_cons first seen lines).mpr quiet⟩

/-! ## Recovery -/

theorem loop_stops {sessions : List AgentSession} {collected : Collected} {err : String} {lost : AgentSourcePoller}
    (failed : poll_loop parse files sessions collected poller = (.error err, lost)) :
    ∃ before failing rest consumed reached, sessions = before ++ failing :: rest ∧
      Passes parse files before poller consumed reached ∧
      poll_session parse files failing reached = (.error err, lost) := by
  induction sessions generalizing poller collected with
  | nil => cases failed
  | cons session sessions ih =>
    rw [poll_loop] at failed
    cases first : poll_session parse files session poller with
    | mk result next =>
      rw [first] at failed
      cases result with
      | error other =>
        cases failed
        exact ⟨[],session,sessions,_,poller,rfl,.nil,first⟩
      | ok found =>
        obtain ⟨before,failing,rest,consumed,reached,rfl,passes,stopped⟩ := ih failed
        exact ⟨session :: before,failing,rest,_,reached,rfl,.cons first passes,stopped⟩

theorem poll_passes {sessions : List AgentSession} {snapshot : AgentPollSnapshot}
    (done : poll_with_sessions parse files sessions poller = (.ok snapshot, after)) :
    snapshot.sessions = sessions ∧
      Passes parse files sessions poller ⟨snapshot.activities, snapshot.turns⟩ after := by
  rw [poll_with_sessions] at done
  cases run : poll_loop parse files sessions ⟨[], []⟩ poller with
  | mk result next =>
    rw [run] at done
    cases result with
    | error err => cases done
    | ok total =>
      cases done
      obtain ⟨found,passes,same⟩ := loop_passes run
      rw [empty_append] at same
      subst same
      exact ⟨rfl,passes⟩

/-- A poll that fails has passed over the sessions before the one that fails. -/
theorem failed_poll_splits {sessions : List AgentSession} {err : String} {lost : AgentSourcePoller}
    (failed : poll_with_sessions parse files sessions poller = (.error err, lost)) :
    ∃ before failing rest consumed reached, sessions = before ++ failing :: rest ∧
      Passes parse files before poller consumed reached ∧
      poll_session parse files failing reached = (.error err, lost) := by
  rw [poll_with_sessions] at failed
  cases run : poll_loop parse files sessions ⟨[], []⟩ poller with
  | mk result next =>
    rw [run] at failed
    cases result with
    | error other =>
      cases failed
      exact loop_stops run
    | ok total => cases failed

variable (parse) in
/-- A poll of settled sessions alone emits nothing. -/
theorem settled_poll {sessions : List AgentSession} (settled : ∀ session ∈ sessions, Settled files poller session) :
    poll_all parse [⟨sessions, files⟩] poller = [.ok ⟨sessions, [], []⟩] := by
  rw [poll_all,poll_all,poll_of_passes (settled_pass settled)]

/-- Consumed findings are never emitted again, so only nothing recovers. -/
theorem recovers_nothing {before : List AgentSession} {failing : AgentSession} {consumed : Collected}
    {reached lost : AgentSourcePoller} {err : String} (passes : Passes parse files before poller consumed reached)
    (stopped : poll_session parse files failing reached = (.error err, lost)) :
    Recovers parse files before lost consumed ↔ consumed = ⟨[], []⟩ := by
  constructor
  · intro recovers
    have settled : ∀ session ∈ before, Settled files lost session := fun session mem =>
      error_keeps_settled stopped ((passed_settled passes).2 session mem)
    have silent := settled_poll parse settled
    -- the next poll finds the files as they are and emits nothing
    have again := recovers [] ⟨before,files⟩ ⟨before,[],[]⟩ (fun poll mem session _ size known => by
        obtain rfl := List.mem_singleton.mp mem
        exact ⟨size,known,Nat.le_refl _⟩)
      (fun session mem => mem) (by rw [List.nil_append,silent]; rfl)
    rw [List.nil_append,silent] at again
    exact congrArg₂ Collected.mk (List.eq_nil_of_subset_nil again.1) (List.eq_nil_of_subset_nil again.2)
  · rintro rfl history last snapshot _ _ _
    exact ⟨List.nil_subset _,List.nil_subset _⟩

/-- What a failed poll has consumed is emitted later on exactly when it has
    consumed nothing: the sessions before the failing one were seen already and
    their unread lines hold no activity and no turn. -/
theorem failed_poll_recovers {before : List AgentSession} {failing : AgentSession} {consumed : Collected}
    {reached lost : AgentSourcePoller} {err : String}
    (passed : poll_with_sessions parse files before poller =
      (.ok ⟨before, consumed.activities, consumed.turns⟩, reached))
    (stopped : poll_session parse files failing reached = (.error err, lost)) (rest : List AgentSession) :
    poll_with_sessions parse files (before ++ failing :: rest) poller = (.error err, lost) ∧
      (Recovers parse files before lost consumed ↔ Quiet parse files poller before) := by
  have passes : Passes parse files before poller consumed reached := (poll_passes passed).2
  exact ⟨poll_of_stop passes stopped rest,(recovers_nothing passes stopped).trans (passed_nothing passes)⟩

end

/-! ## A lost turn -/

def second_session : AgentSession := ⟨"b", .Claude, "b", "/", "/b.jsonl", .Running, none⟩

/-- The first transcript holds one turn, the second is gone. -/
def one_gone (path : String) : Snapshot :=
  if path = "/a.jsonl" then .of (as_bytes (user_line.push '\n'))
  else ⟨.error "No such file or directory (os error 2)", .ok (), .ok (), .ok []⟩

def first_found : Collected :=
  ⟨[seen_activity first_session, ⟨"a", .Claude, .UserInput, .Running, "/a.jsonl"⟩], [⟨.Claude, "a", .User, "hi"⟩]⟩

def first_reached : AgentSourcePoller :=
  ⟨set_cursor (fun _ => 0) "/a.jsonl" (as_bytes (user_line.push '\n')).length, [(.Claude, "a")]⟩

theorem user_line_read (path : String) : read_appended_lines path (.of (as_bytes (user_line.push '\n'))) (fun _ => 0) =
    (.ok (some (user_line.push '\n')), set_cursor (fun _ => 0) path (as_bytes (user_line.push '\n')).length) := by
  have some_bytes : (as_bytes (user_line.push '\n')).length ≠ 0 := by decide
  have text : read_to_string (as_bytes (user_line.push '\n')) = .ok (user_line.push '\n') := by
    rw [read_to_string,from_utf8_as_bytes]
  have read : (Snapshot.of (as_bytes (user_line.push '\n'))).read_from path 0 = .ok (user_line.push '\n') := by
    simp only [Snapshot.read_from,Snapshot.of,List.drop_zero,Except.mapError,bind,Except.bind,text]
  rw [read_appended_lines]
  simp only [Snapshot.of,if_neg (Nat.not_lt_zero _),if_neg some_bytes] at read ⊢
  rw [read]

theorem first_read :
    poll_session parse_user_line one_gone first_session .new = (.ok first_found, first_reached) := by
  have lines : read_lines parse_user_line first_session (user_line.push '\n') =
      ⟨[⟨"a", .Claude, .UserInput, .Running, "/a.jsonl"⟩], [⟨.Claude, "a", .User, "hi"⟩]⟩ := by decide
  rw [poll_session_eq parse_user_line one_gone first_session .new (user_line_read "/a.jsonl")]
  simp only [Except.map,Option.elim_some,lines]
  rfl

theorem first_passed : Passes parse_user_line one_gone [first_session] .new first_found first_reached :=
  .cons first_read .nil

theorem second_stopped : poll_session parse_user_line one_gone second_session first_reached =
    (.error "stat /b.jsonl: No such file or directory (os error 2)",
      ⟨first_reached.cursors, [(.Claude, "b"), (.Claude, "a")]⟩) := rfl

theorem failed_poll_recovers_gone :
    poll_with_sessions parse_user_line one_gone ([first_session] ++ second_session :: []) .new =
        (.error "stat /b.jsonl: No such file or directory (os error 2)",
          ⟨first_reached.cursors, [(.Claude, "b"), (.Claude, "a")]⟩) ∧
      (Recovers parse_user_line one_gone [first_session] ⟨first_reached.cursors, [(.Claude, "b"), (.Claude, "a")]⟩
        first_found ↔ Quiet parse_user_line one_gone .new [first_session]) :=
  failed_poll_recovers (poll_of_passes first_passed) second_stopped []

/-- The turn of the first session is lost with the failure of the second. -/
theorem failed_poll_loses : ∃ (parse : String → Option Value) (files : String → Snapshot) (first second : AgentSession)
    (consumed : Collected) (reached lost : AgentSourcePoller) (err : String),
    poll_with_sessions parse files [first] .new = (.ok ⟨[first], consumed.activities, consumed.turns⟩, reached) ∧
      poll_with_sessions parse files [first, second] .new = (.error err, lost) ∧ consumed.turns ≠ [] ∧
      ¬ Recovers parse files [first] lost consumed := by
  refine ⟨parse_user_line,one_gone,first_session,second_session,first_found,first_reached,_,_,
    poll_of_passes first_passed,poll_of_stop first_passed second_stopped [],by decide,?_⟩
  rw [recovers_nothing first_passed second_stopped]
  decide

end VibeBridge.PollFailures
