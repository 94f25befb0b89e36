import VibeBridge.Lines
import VibeBridge.Transcripts

/-!
The poller of the transcripts (`AgentSourcePoller`): a cursor for each file, the
sessions that have been seen, and one pass over the discovered sessions that reads
what has been appended to their files. What the file system holds at a poll is an
argument, and so is `parse`, which stands for `serde_json::from_str`.
-/
namespace VibeBridge.Poller
open VibeBridge.Text VibeBridge.Core VibeBridge.Json VibeBridge.Transcripts

/-! ## Lines -/

/-- The end of a line goes, with a carriage return before it. -/
def strip_line_end (line : List Char) : List Char :=
  if line.getLast? = some '\n' then
    if line.dropLast.getLast? = some '\r' then line.dropLast.dropLast else line.dropLast
  else line

/-- `str::lines`. -/
def lines (text : String) : List String :=
  (Lines.split (fun c _ => c = '\n') text.toList).map (fun line => String.ofList (strip_line_end line))

/-! ## Files -/

/-- What the calls on a file give while a poll looks at it: its length, the
    outcome of opening and seeking, and its bytes. -/
structure Snapshot where
  metadata : Except String Nat
  opened : Except String Unit
  seek : Except String Unit
  content : Except String (List UInt8)

/-- A file that can be read. -/
def Snapshot.of (content : List UInt8) : Snapshot := ⟨.ok content.length, .ok (), .ok (), .ok content⟩

/-- `read_to_string` of what is left of a file. -/
def read_to_string (bytes : List UInt8) : Except String String :=
  match from_utf8 bytes with
  | some text => .ok text
  | none => .error "stream did not contain valid UTF-8"

/-- Opening a file and reading it from an offset. -/
def Snapshot.read_from (file : Snapshot) (path : String) (offset : Nat) : Except String String := do
  file.opened.mapError (fun err => s!"open {path}: {err}")
  file.seek.mapError (fun err => s!"seek {path}: {err}")
  let bytes ← file.content.mapError (fun err => s!"read {path}: {err}")
  (read_to_string (bytes.drop offset)).mapError (fun err => s!"read {path}: {err}")

/-! ## The poller -/

structure AgentSourcePoller where
  /-- The bytes of each file that have been read; 0 for a file without an entry. -/
  cursors : String → Nat
  seen_sessions : List (AgentKind × String)

/-- `AgentSourcePoller::new`. -/
def AgentSourcePoller.new : AgentSourcePoller := ⟨fun _ => 0, []⟩

def set_cursor (cursors : String → Nat) (path : String) (offset : Nat) : String → Nat :=
  fun other => if other = path then offset else cursors other

def read_appended_lines (path : String) (file : Snapshot) (cursors : String → Nat) :
    Except String (Option String) × (String → Nat) :=
  match file.metadata with
  | .error err => (.error s!"stat {path}: {err}", cursors)
  | .ok len =>
    if len < cursors path then (.ok none, set_cursor cursors path len)
    else if len = cursors path then (.ok none, cursors)
    else
      match file.read_from path (cursors path) with
      | .error err => (.error err, cursors)
      | .ok appended => (.ok (some appended), set_cursor cursors path len)

/-- A file that could be read is read to the length that its metadata tell. -/
theorem read_ok {path : String} {file : Snapshot} {cursors after : String → Nat} {appended : Option String}
    (read : read_appended_lines path file cursors = (.ok appended, after)) :
    ∃ size, file.metadata = .ok size ∧ after = set_cursor cursors path size := by
  rw [read_appended_lines] at read
  cases size : file.metadata with
  | error err =>
    rw [size] at read
    cases read
  | ok len =>
    refine ⟨len,rfl,?_⟩
    simp only [size] at read
    by_cases shorter : len < cursors path
    · rw [if_pos shorter] at read
      cases read
      rfl
    · by_cases same : len = cursors path
      · rw [if_neg shorter,if_pos same] at read
        cases read
        funext other
        by_cases here : other = path
        · rw [set_cursor,if_pos here,same,here]
        · rw [set_cursor,if_neg here]
      · rw [if_neg shorter,if_neg same] at read
        cases text : file.read_from path (cursors path) with
        | error err =>
          rw [text] at read
          cases read
        | ok content =>
          rw [text] at read
          cases read
          rfl

/-- A file that could not be read is left where it was. -/
theorem read_error {path err : String} {file : Snapshot} {cursors after : String → Nat}
    (read : read_appended_lines path file cursors = (.error err, after)) : after = cursors := by
  rw [read_appended_lines] at read
  cases size : file.metadata with
  | error err =>
    rw [size] at read
    cases read
    rfl
  | ok len =>
    simp only [size] at read
    by_cases shorter : len < cursors path
    · rw [if_pos shorter] at read
      cases read
    · by_cases same : len = cursors path
      · rw [if_neg shorter,if_pos same] at read
        cases read
      · rw [if_neg shorter,if_neg same] at read
        cases text : file.read_from path (cursors path) with
        | error err =>
          rw [text] at read
          cases read
          rfl
        | ok content =>
          rw [text] at read
          cases read

/-- The activity that tells that a session has appeared. -/
def seen_activity (session : AgentSession) : AgentActivity :=
  ⟨session.agent_id, session.kind, .Seen, session.status, session.transcript_path⟩

/-- Activities and turns that a poll has collected. -/
structure Collected where
  activities : List AgentActivity
  turns : List DiscoveredTurn
  deriving DecidableEq

def Collected.append (first second : Collected) : Collected :=
  ⟨first.activities ++ second.activities, first.turns ++ second.turns⟩

/-- The sessions that have been seen once this one is. -/
def with_seen (session : AgentSession) (poller : AgentSourcePoller) : List (AgentKind × String) :=
  if poller.seen_sessions.contains (session.kind, session.agent_id) then poller.seen_sessions
  else (session.kind, session.agent_id) :: poller.seen_sessions

/-- What the first sight of a session adds. -/
def first_sight (session : AgentSession) (poller : AgentSourcePoller) : Collected :=
  ⟨if poller.seen_sessions.contains (session.kind, session.agent_id) then [] else [seen_activity session], []⟩

section
variable (parse : String → Option Value)

/-- What the appended lines of a session tell. -/
def read_lines (session : AgentSession) (appended : String) : Collected :=
  ⟨(lines appended).filterMap (line_to_activity parse session.kind session.agent_id session.transcript_path),
    (lines appended).filterMap (line_to_discovered_turn parse session.kind session.agent_id)⟩

/-- One turn of the loop over the sessions. -/
def poll_session (files : String → Snapshot) (session : AgentSession) (poller : AgentSourcePoller) :
    Except String Collected × AgentSourcePoller :=
  match read_appended_lines session.transcript_path (files session.transcript_path) poller.cursors with
  | (.error err, cursors) => (.error err, ⟨cursors, with_seen session poller⟩)
  | (.ok none, cursors) => (.ok (first_sight session poller), ⟨cursors, with_seen session poller⟩)
  | (.ok (some appended), cursors) =>
    (.ok ((first_sight session poller).append (read_lines parse session appended)),
      ⟨cursors, with_seen session poller⟩)

/-- What a session yields is its first sight and the lines appended to its file. -/
theorem poll_session_eq (files : String → Snapshot) (session : AgentSession) (poller : AgentSourcePoller)
    {result : Except String (Option String)} {cursors : String → Nat}
    (read : read_appended_lines session.transcript_path (files session.transcript_path) poller.cursors =
      (result, cursors)) :
    poll_session parse files session poller =
      (result.map (fun appended =>
        (first_sight session poller).append (appended.elim ⟨[], []⟩ (read_lines parse session))),
        ⟨cursors, with_seen session poller⟩) := by
  rw [poll_session,read]
  cases result with
  | error err => rfl
  | ok appended =>
    cases appended with
    | none => simp [Except.map,Collected.append]
    | some text => rfl

/-- The loop over the sessions; an error ends it and drops what has been collected. -/
def poll_loop (files : String → Snapshot) :
    List AgentSession → Collected → AgentSourcePoller → Except String Collected × AgentSourcePoller
  | [], collected, poller => (.ok collected, poller)
  | session :: sessions, collected, poller =>
    match poll_session parse files session poller with
    | (.error err, poller) => (.error err, poller)
    | (.ok found, poller) => poll_loop files sessions (collected.append found) poller

def poll_with_sessions (files : String → Snapshot) (sessions : List AgentSession) (poller : AgentSourcePoller) :
    Except String AgentPollSnapshot × AgentSourcePoller :=
  match poll_loop parse files sessions ⟨[], []⟩ poller with
  | (.error err, poller) => (.error err, poller)
  | (.ok collected, poller) => (.ok ⟨sessions, collected.activities, collected.turns⟩, poller)

/-! ## Runs of polls -/

/-- One poll: the sessions it looks at and what it finds at their paths. -/
structure Poll where
  sessions : List AgentSession
  files : String → Snapshot

/-- The results of successive polls. -/
def poll_all : List Poll → AgentSourcePoller → List (Except String AgentPollSnapshot)
  | [], _ => []
  | poll :: polls, poller =>
    (poll_with_sessions parse poll.files poll.sessions poller).1 ::
      poll_all polls (poll_with_sessions parse poll.files poll.sessions poller).2

/-- What the successful polls have emitted. -/
def emitted (results : List (Except String AgentPollSnapshot)) : Collected :=
  ⟨(results.filterMap Except.toOption).flatMap (·.activities), (results.filterMap Except.toOption).flatMap (·.turns)⟩

end

/-! ## The loop -/

@[simp] theorem append_empty (collected : Collected) : collected.append ⟨[], []⟩ = collected := by
  simp [Collected.append]

@[simp] theorem empty_append (collected : Collected) : Collected.append ⟨[], []⟩ collected = collected := rfl

theorem append_assoc (first second third : Collected) :
    (first.append second).append third = first.append (second.append third) := by
  simp [Collected.append]

theorem seen_now (session : AgentSession) (poller : AgentSourcePoller) :
    (session.kind, session.agent_id) ∈ with_seen session poller := by
  rw [with_seen]
  by_cases seen : poller.seen_sessions.contains (session.kind, session.agent_id)
  · rw [if_pos seen]
    exact List.contains_iff_mem.mp seen
  · rw [if_neg seen]
    exact List.mem_cons_self

theorem still_seen (session : AgentSession) {poller : AgentSourcePoller} {key : AgentKind × String}
    (seen : key ∈ poller.seen_sessions) : key ∈ with_seen session poller := by
  rw [with_seen]
  by_cases known : poller.seen_sessions.contains (session.kind, session.agent_id)
  · rwa [if_pos known]
  · rw [if_neg known]
    exact List.mem_cons_of_mem _ seen

/-- A session that yields something has read its file to the length that its metadata tell. -/
theorem poll_session_ok {parse : String → Option Value} {files : String → Snapshot} {session : AgentSession}
    {poller after : AgentSourcePoller} {found : Collected}
    (read : poll_session parse files session poller = (.ok found, after)) :
    ∃ appended size, (read_appended_lines session.transcript_path (files session.transcript_path) poller.cursors).1 =
        .ok appended ∧ (files session.transcript_path).metadata = .ok size ∧
      found = (first_sight session poller).append (appended.elim ⟨[], []⟩ (read_lines parse session)) ∧
      after = ⟨set_cursor poller.cursors session.transcript_path size, with_seen session poller⟩ := by
  cases lines : read_appended_lines session.transcript_path (files session.transcript_path) poller.cursors with
  | mk result cursors =>
    rw [poll_session_eq parse files session poller lines] at read
    cases result with
    | error err => cases read
    | ok appended =>
      cases read
      obtain ⟨size,known,rfl⟩ := read_ok lines
      exact ⟨appended,size,rfl,known,rfl,rfl⟩

/-- A session that cannot be read counts as seen all the same. -/
theorem poll_session_error {parse : String → Option Value} {files : String → Snapshot} {session : AgentSession}
    {poller after : AgentSourcePoller} {err : String}
    (read : poll_session parse files session poller = (.error err, after)) :
    after = ⟨poller.cursors, with_seen session poller⟩ := by
  cases lines : read_appended_lines session.transcript_path (files session.transcript_path) poller.cursors with
  | mk result cursors =>
    rw [poll_session_eq parse files session poller lines] at read
    cases result with
    | error err =>
      cases read
      rw [read_error lines]
    | ok appended => cases read

/-- The loop passes over these sessions without an error and finds this. -/
inductive Passes (parse : String → Option Value) (files : String → Snapshot) :
    List AgentSession → AgentSourcePoller → Collected → AgentSourcePoller → Prop
  | nil {poller : AgentSourcePoller} : Passes parse files [] poller ⟨[], []⟩ poller
  | cons {session : AgentSession} {sessions : List AgentSession} {poller next after : AgentSourcePoller}
      {found more : Collected} (first : poll_session parse files session poller = (.ok found, next))
      (rest : Passes parse files sessions next more after) :
      Passes parse files (session :: sessions) poller (found.append more) after

section
variable {parse : String → Option Value} {files : String → Snapshot} {sessions : List AgentSession}
  {poller after : AgentSourcePoller} {found : Collected}

theorem passes_loop (passes : Passes parse files sessions poller found after) (rest : List AgentSession)
    (collected : Collected) :
    poll_loop parse files (sessions ++ rest) collected poller =
      poll_loop parse files rest (collected.append found) after := by
  induction passes generalizing collected with
  | nil => rw [append_empty]; rfl
  | cons first _ ih =>
    rw [List.cons_append,poll_loop,first]
    exact (ih _).trans (by rw [append_assoc])

theorem passes_append {rest : List AgentSession} {next : AgentSourcePoller} {more : Collected}
    (first : Passes parse files sessions poller found next) (second : Passes parse files rest next more after) :
    Passes parse files (sessions ++ rest) poller (found.append more) after := by
  induction first with
  | nil => exact second
  | cons head _ ih =>
    rw [append_assoc]
    exact .cons head (ih second)

/-- A loop that ends well has passed over its sessions. -/
theorem loop_passes {collected total : Collected}
    (done : poll_loop parse files sessions collected poller = (.ok total, after)) :
    ∃ found, Passes parse files sessions poller found after ∧ total = collected.append found := by
  induction sessions generalizing poller collected with
  | nil =>
    cases done
    exact ⟨⟨[],[]⟩,.nil,(append_empty _).symm⟩
  | cons session sessions ih =>
    rw [poll_loop] at done
    cases first : poll_session parse files session poller with
    | mk result next =>
      cases result with
      | error err =>
        rw [first] at done
        cases done
      | ok found =>
        rw [first] at done
        obtain ⟨more,passes,same⟩ := ih done
        exact ⟨found.append more,.cons first passes,by rw [same,append_assoc]⟩

theorem poll_of_passes (passes : Passes parse files sessions poller found after) :
    poll_with_sessions parse files sessions poller = (.ok ⟨sessions, found.activities, found.turns⟩, after) := by
  have run := passes_loop passes [] ⟨[],[]⟩
  rw [List.append_nil,poll_loop,empty_append] at run
  rw [poll_with_sessions,run]

/-- The loop stops at the first session that cannot be read. -/
theorem poll_of_stop {failing : AgentSession} {err : String} {lost : AgentSourcePoller}
    (passes : Passes parse files sessions poller found after)
    (stopped : poll_session parse files failing after = (.error err, lost)) (rest : List AgentSession) :
    poll_with_sessions parse files (sessions ++ failing :: rest) poller = (.error err, lost) := by
  have run := passes_loop passes (failing :: rest) ⟨[],[]⟩
  rw [poll_loop,stopped] at run
  rw [poll_with_sessions,run]

end

end VibeBridge.Poller
