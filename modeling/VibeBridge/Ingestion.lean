import VibeBridge.Poller

/-!
How a growing transcript is read. A poll takes what has been appended since the
last one for lines of its own, so that the places where the polls cut the file
decide what is found: a line is read as it stands exactly when the pieces that
the cuts make of it yield the same turns.
-/
namespace VibeBridge.Ingestion
open VibeBridge.Text VibeBridge.Core VibeBridge.Json VibeBridge.Transcripts VibeBridge.Poller

/-! ## The setting -/

/-- The file at a path is a text at every poll and only grows. -/
def GrowingText (polls : List Poll) (path : String) : Prop :=
  (∀ poll ∈ polls, ∃ text, poll.files path = .of (as_bytes text)) ∧
    polls.Pairwise (fun earlier later => ∃ text more, earlier.files path = .of (as_bytes text) ∧
      later.files path = .of (as_bytes (text ++ more)))

/-- A session of its own: another agent, and another transcript that can be read. -/
def Apart (kind : AgentKind) (agent_id path : String) (polls : List Poll) (other : AgentSession) : Prop :=
  other.transcript_path ≠ path ∧ (other.kind, other.agent_id) ≠ (kind, agent_id) ∧
    GrowingText polls other.transcript_path

/-- Every poll asks for the session once; `others` holds of the sessions that it asks for beside it. -/
def Asked (kind : AgentKind) (agent_id path : String) (others : AgentSession → Prop) (poll : Poll) : Prop :=
  ∃ before session after, poll.sessions = before ++ session :: after ∧ session.kind = kind ∧
    session.agent_id = agent_id ∧ session.transcript_path = path ∧ ∀ other ∈ before ++ after, others other

/-- The turns of one agent among these. -/
def mine (kind : AgentKind) (agent_id : String) (turns : List DiscoveredTurn) : List DiscoveredTurn :=
  turns.filter (fun turn => turn.kind = kind ∧ turn.agent_id = agent_id)

/-- The turns of one agent among those that polls have emitted. -/
def turns_of (kind : AgentKind) (agent_id : String) (results : List (Except String AgentPollSnapshot)) :
    List DiscoveredTurn :=
  mine kind agent_id (emitted results).turns

/-- The texts that polls read which find these contents one after the other, when
    `prev` has been read before: contents that end inside a character are not read. -/
def appended_texts : String → List (List UInt8) → List (List Char)
  | _, [] => []
  | prev, content :: contents =>
    match from_utf8 content with
    | some text => text.toList.drop prev.length :: appended_texts text contents
    | none => appended_texts prev contents

section
variable (parse : String → Option Value) (kind : AgentKind) (agent_id : String)

/-- The turn of a line, or of a piece that is taken for one. -/
def line_turn (line : List Char) : List DiscoveredTurn :=
  (line_to_discovered_turn parse kind agent_id (String.ofList (strip_line_end line))).toList

/-- The pieces of a line yield what the line yields. -/
def ReadWhole (pieces : List (List Char)) : Prop :=
  pieces.flatMap (line_turn parse kind agent_id) = line_turn parse kind agent_id pieces.flatten

end

/-! ## Cursors -/

section
variable {parse : String → Option Value} {files : String → Snapshot} {poller next after : AgentSourcePoller}

/-- A file whose cursor stands inside its text. -/
def Readable (files : String → Snapshot) (poller : AgentSourcePoller) (path : String) : Prop :=
  ∃ text more, files path = .of (as_bytes (text ++ more)) ∧ poller.cursors path = (as_bytes text).length

/-- A cursor stays or goes to the end of a text. -/
def Moves (files : String → Snapshot) (poller after : AgentSourcePoller) (path : String) : Prop :=
  after.cursors path = poller.cursors path ∨
    ∃ text, files path = .of (as_bytes text) ∧ after.cursors path = (as_bytes text).length

theorem moves_trans {path : String} (first : Moves files poller next path) (second : Moves files next after path) :
    Moves files poller after path := by
  rcases second with stays | ⟨text,file,ends⟩
  · rcases first with stays' | ⟨text,file,ends⟩
    · exact .inl (stays.trans stays')
    · exact .inr ⟨text,file,stays.trans ends⟩
  · exact .inr ⟨text,file,ends⟩

theorem content_of {content other : List UInt8} (same : Snapshot.of content = .of other) : content = other := by
  have contents := congrArg Snapshot.content same
  exact Except.ok.inj contents

theorem as_bytes_injective {s t : String} (same : as_bytes s = as_bytes t) : s = t := by
  have decoded := congrArg from_utf8 same
  rw [from_utf8_as_bytes,from_utf8_as_bytes] at decoded
  exact Option.some.inj decoded

theorem moves_readable {path : String} (readable : Readable files poller path) (moves : Moves files poller after path) :
    Readable files after path := by
  rcases moves with stays | ⟨text,file,ends⟩
  · obtain ⟨text,more,file,cursor⟩ := readable
    exact ⟨text,more,file,stays.trans cursor⟩
  · exact ⟨text,"",by rw [String.append_empty,file],ends⟩

/-- What is left behind the cursor is read as far as it is a text. -/
theorem read_behind {path : String} {cursors : String → Nat} {text : String} (rest : List UInt8)
    (cursor : cursors path = (as_bytes text).length) :
    (rest = [] → read_appended_lines path (.of (as_bytes text ++ rest)) cursors = (.ok none, cursors)) ∧
      (∀ more, rest = as_bytes more → rest ≠ [] →
        read_appended_lines path (.of (as_bytes text ++ rest)) cursors =
          (.ok (some more), set_cursor cursors path (as_bytes text ++ rest).length)) ∧
      (from_utf8 rest = none → ∃ err, read_appended_lines path (.of (as_bytes text ++ rest)) cursors =
        (.error err, cursors)) := by
  have behind : (as_bytes text ++ rest).drop (cursors path) = rest := by rw [cursor,List.drop_left]
  have content : (Snapshot.of (as_bytes text ++ rest)).read_from path (cursors path) =
      (read_to_string rest).mapError (fun err => s!"read {path}: {err}") := by
    rw [← behind]
    simp only [Snapshot.read_from,Snapshot.of,Except.mapError,bind,Except.bind,behind]
  have longer : ¬ (as_bytes text ++ rest).length < cursors path := by
    rw [cursor,List.length_append]
    omega
  have same : (as_bytes text ++ rest).length = cursors path ↔ rest = [] := by
    rw [cursor,List.length_append,← List.length_eq_zero_iff]
    omega
  refine ⟨?_,?_,?_⟩
  · intro empty
    simp only [read_appended_lines,Snapshot.of,if_neg longer,if_pos (same.mpr empty)]
  · rintro more rfl some_left
    have read : read_to_string (as_bytes more) = .ok more := by rw [read_to_string,from_utf8_as_bytes]
    rw [read] at content
    rw [read_appended_lines,content]
    simp only [Snapshot.of,if_neg longer,if_neg (fun whole => some_left (same.mp whole)),Except.mapError]
  · intro cut
    have some_left : rest ≠ [] := by
      rintro rfl
      have empty : from_utf8 [] = some "" := from_utf8_eq_some.mpr rfl
      rw [empty] at cut
      cases cut
    have read : read_to_string rest = .error "stream did not contain valid UTF-8" := by rw [read_to_string,cut]
    rw [read] at content
    refine ⟨(fun err : String => s!"read {path}: {err}") "stream did not contain valid UTF-8",?_⟩
    rw [read_appended_lines,content]
    simp only [Snapshot.of,if_neg longer,if_neg (fun whole => some_left (same.mp whole)),Except.mapError]

/-- A readable file is read to its end. -/
theorem read_readable {path : String} (readable : Readable files poller path) :
    ∃ appended size, read_appended_lines path (files path) poller.cursors =
        (.ok appended, set_cursor poller.cursors path size) ∧
      ∃ text, files path = .of (as_bytes text) ∧ size = (as_bytes text).length := by
  obtain ⟨text,more,file,cursor⟩ := readable
  have bytes := as_bytes_append text more
  obtain ⟨none_left,some_left,_⟩ := read_behind (as_bytes more) cursor
  rw [← bytes,← file] at none_left some_left
  by_cases left : as_bytes more = []
  · refine ⟨none,(as_bytes (text ++ more)).length,?_,_,file,rfl⟩
    have whole : set_cursor poller.cursors path (as_bytes (text ++ more)).length = poller.cursors := by
      funext other
      by_cases here : other = path
      · rw [set_cursor,if_pos here,here,cursor,bytes,left,List.append_nil]
      · rw [set_cursor,if_neg here]
    rw [none_left left,whole]
  · exact ⟨some more,_,some_left more rfl left,_,file,rfl⟩

/-! ## One poll -/

variable {kind : AgentKind} {agent_id path : String}

theorem mine_append (first second : List DiscoveredTurn) :
    mine kind agent_id (first ++ second) = mine kind agent_id first ++ mine kind agent_id second :=
  List.filter_append _ _

variable (parse kind agent_id) in
/-- The turns that are read for a session, seen by an agent. -/
theorem mine_lines (poller : AgentSourcePoller) (session : AgentSession) (appended : Option String) :
    mine kind agent_id
        (((first_sight session poller).append (appended.elim ⟨[], []⟩ (read_lines parse session))).turns) =
      if session.kind = kind ∧ session.agent_id = agent_id then
        (appended.elim [] lines).flatMap (fun line => (line_to_discovered_turn parse kind agent_id line).toList)
      else [] := by
  cases appended with
  | none => simp [first_sight,Collected.append,mine]
  | some text =>
    have turns : ((first_sight session poller).append (read_lines parse session text)).turns =
        (lines text).filterMap (line_to_discovered_turn parse session.kind session.agent_id) := by
      simp [first_sight,Collected.append,read_lines]
    rw [Option.elim_some,turns,mine]
    by_cases same : session.kind = kind ∧ session.agent_id = agent_id
    · obtain ⟨rfl,rfl⟩ := same
      rw [if_pos ⟨rfl,rfl⟩,List.filter_eq_self.mpr ?_,Option.elim_some,List.filterMap_eq_flatMap_toList]
      intro turn mem
      obtain ⟨line,_,found⟩ := List.mem_filterMap.mp mem
      exact decide_eq_true (turn_of_agent parse found)
    · rw [if_neg same,List.filter_eq_nil_iff]
      intro turn mem mine
      obtain ⟨line,_,found⟩ := List.mem_filterMap.mp mem
      obtain ⟨kind_same,id_same⟩ := turn_of_agent parse found
      obtain ⟨one,two⟩ := of_decide_eq_true mine
      exact same ⟨kind_same.symm.trans one,id_same.symm.trans two⟩

variable (parse) in
/-- Sessions of other agents are passed: none of their turns is this agent's, and this cursor stays. -/
theorem others_pass (sessions : List AgentSession) (poller : AgentSourcePoller)
    (apart : ∀ other ∈ sessions, other.transcript_path ≠ path ∧ (other.kind, other.agent_id) ≠ (kind, agent_id) ∧
      Readable files poller other.transcript_path) :
    ∃ found after, Passes parse files sessions poller found after ∧ mine kind agent_id found.turns = [] ∧
      after.cursors path = poller.cursors path ∧ ∀ other, other ≠ path → Moves files poller after other := by
  induction sessions generalizing poller with
  | nil => exact ⟨_,_,.nil,rfl,rfl,fun other _ => .inl rfl⟩
  | cons session sessions ih =>
    obtain ⟨elsewhere,stranger,readable⟩ := apart session (by simp)
    obtain ⟨appended,size,read,text,file,ends⟩ := read_readable readable
    have first := poll_session_eq parse files session poller read
    have moves : ∀ other, Moves files poller
        ⟨set_cursor poller.cursors session.transcript_path size, with_seen session poller⟩ other := by
      intro other
      by_cases here : other = session.transcript_path
      · exact .inr ⟨text,by rw [here,file],by simp [set_cursor,here,ends]⟩
      · exact .inl (by simp [set_cursor,here])
    obtain ⟨found,after,passes,nothing,cursor,more⟩ := ih
        ⟨set_cursor poller.cursors session.transcript_path size, with_seen session poller⟩ (by
      intro other mem
      obtain ⟨elsewhere',stranger',readable'⟩ := apart other (by simp [mem])
      exact ⟨elsewhere',stranger',moves_readable readable' (moves _)⟩)
    refine ⟨_,after,.cons first passes,?_,?_,?_⟩
    · have apart_turns := mine_lines parse kind agent_id poller session appended
      rw [if_neg (fun same => stranger (Prod.ext same.1 same.2))] at apart_turns
      simp only [Collected.append,mine_append,nothing,List.append_nil] at apart_turns ⊢
      exact apart_turns
    · rw [cursor]
      simp [set_cursor,Ne.symm elsewhere]
    · intro other away
      exact moves_trans (moves other) (more other away)

/-- The lines of a text yield what its split yields. -/
theorem lines_turns (text : String) :
    (lines text).flatMap (fun line => (line_to_discovered_turn parse kind agent_id line).toList) =
      (Lines.split (fun c _ => c = '\n') text.toList).flatMap (line_turn parse kind agent_id) := by
  rw [lines,List.flatMap_map]
  rfl

/-- What does not decode after a text does not decode by itself. -/
theorem undecoded_rest {prev : String} {rest : List UInt8} (cut : from_utf8 (as_bytes prev ++ rest) = none) :
    from_utf8 rest = none := by
  cases decoded : from_utf8 rest with
  | none => rfl
  | some more =>
    rw [from_utf8_eq_some.mp decoded,← as_bytes_append,from_utf8_as_bytes] at cut
    cases cut

/-- A text behind the cursor is read whole; with nothing there the file is not read at all, which yields as little. -/
theorem read_whole {cursors : String → Nat} {prev : String} (more : String) (here : cursors path = (as_bytes prev).length) :
    ∃ appended left, read_appended_lines path (.of (as_bytes prev ++ as_bytes more)) cursors = (.ok appended, left) ∧
      left path = (as_bytes prev ++ as_bytes more).length ∧ (∀ other, other ≠ path → left other = cursors other) ∧
      appended.elim [] lines = lines more := by
  obtain ⟨none_left,some_left,-⟩ := read_behind (as_bytes more) here
  by_cases nothing : as_bytes more = []
  · have empty : more = "" := as_bytes_injective (nothing.trans (show [] = as_bytes "" from rfl))
    subst empty
    exact ⟨none,cursors,none_left nothing,by rw [nothing,List.append_nil,here],fun _ _ => rfl,rfl⟩
  · exact ⟨some more,_,some_left more rfl nothing,by simp [set_cursor],fun other away => by simp [set_cursor,away],rfl⟩

variable (parse) in
/-- What a poll makes of the session: it reads what is behind the cursor, or
    fails and leaves it where that ends inside a character. -/
theorem poll_reads {poll : Poll} {prev : String} {rest : List UInt8}
    (asked : Asked kind agent_id path (fun other => other.transcript_path ≠ path ∧
      (other.kind, other.agent_id) ≠ (kind, agent_id) ∧ Readable poll.files poller other.transcript_path) poll)
    (file : poll.files path = .of (as_bytes prev ++ rest)) (cursor : poller.cursors path = (as_bytes prev).length) :
    ∃ result after, poll_with_sessions parse poll.files poll.sessions poller = (result, after) ∧
      (∀ other, other ≠ path → Moves poll.files poller after other) ∧
      (∀ more, rest = as_bytes more →
        turns_of kind agent_id [result] = (Lines.split (fun c _ => c = '\n') more.toList).flatMap (line_turn parse kind agent_id) ∧
          after.cursors path = (as_bytes prev ++ rest).length) ∧
      (from_utf8 rest = none → turns_of kind agent_id [result] = [] ∧ after.cursors path = poller.cursors path) := by
  obtain ⟨before,session,others,sessions,rfl,rfl,rfl,apart⟩ := asked
  obtain ⟨found,reached,passes,nothing,stays,moves⟩ := others_pass parse before poller
    (fun other mem => apart other (List.mem_append_left _ mem))
  have here : reached.cursors session.transcript_path = (as_bytes prev).length := stays.trans cursor
  rw [sessions]
  cases text : from_utf8 rest with
  | none =>
    obtain ⟨err,read⟩ := (read_behind rest here).2.2 text
    rw [← file] at read
    have stopped := poll_session_eq parse poll.files session reached read
    refine ⟨_,_,poll_of_stop passes stopped others,moves,?_,?_⟩
    · rintro more rfl
      rw [from_utf8_as_bytes] at text
      cases text
    · exact fun _ => ⟨rfl,stays⟩
  | some more =>
    obtain rfl := from_utf8_eq_some.mp text
    obtain ⟨appended,cursors,read,ends,elsewhere,yields⟩ := read_whole more here
    rw [← file] at read
    have own := poll_session_eq parse poll.files session reached read
    have kept : ∀ other, other ≠ session.transcript_path →
        Moves poll.files reached ⟨cursors, with_seen session reached⟩ other :=
      fun other away => .inl (elsewhere other away)
    obtain ⟨others_found,after,others_passes,others_nothing,others_stay,others_move⟩ := others_pass
      parse others ⟨cursors, with_seen session reached⟩ (fun other mem => by
        obtain ⟨away,stranger,readable⟩ := apart other (List.mem_append_right _ mem)
        exact ⟨away,stranger,moves_readable readable (moves_trans (moves _ away) (kept _ away))⟩)
    have all := passes_append passes (.cons own others_passes)
    refine ⟨_,after,poll_of_passes all,?_,?_,?_⟩
    · intro other away
      exact moves_trans (moves other away) (moves_trans (kept other away) (others_move other away))
    · intro same_more same
      obtain rfl := as_bytes_injective same
      refine ⟨?_,others_stay.trans ends⟩
      have own_turns := mine_lines parse session.kind session.agent_id reached session appended
      rw [if_pos ⟨rfl,rfl⟩,yields,lines_turns] at own_turns
      have single : ∀ snapshot : AgentPollSnapshot, (emitted [.ok snapshot]).turns = snapshot.turns := by
        intro snapshot
        simp [emitted,Except.toOption]
      rw [turns_of,single]
      simp only [Collected.append] at own_turns ⊢
      rw [mine_append,mine_append,nothing,others_nothing,own_turns,List.nil_append,List.append_nil]
    · intro cut
      cases cut

/-! ## All polls -/

theorem turns_of_cons (result : Except String AgentPollSnapshot) (results : List (Except String AgentPollSnapshot)) :
    turns_of kind agent_id (result :: results) = turns_of kind agent_id [result] ++ turns_of kind agent_id results := by
  rw [turns_of,turns_of,turns_of,← mine_append]
  cases result with
  | error err => rfl
  | ok snapshot => simp [emitted,Except.toOption]

theorem growing_tail {poll : Poll} {polls : List Poll} {other : String} (grows : GrowingText (poll :: polls) other) :
    GrowingText polls other :=
  ⟨fun later mem => grows.1 later (by simp [mem]),(List.pairwise_cons.mp grows.2).2⟩

/-- A file that is readable now is readable at the polls to come. -/
theorem readable_later {poll later : Poll} {polls : List Poll} {other : String}
    (grows : GrowingText (poll :: polls) other) (mem : later ∈ polls) (moves : Moves poll.files poller after other)
    (readable : Readable later.files poller other) : Readable later.files after other := by
  rcases moves with stays | ⟨text,file,ends⟩
  · obtain ⟨text,more,file,cursor⟩ := readable
    exact ⟨text,more,file,stays.trans cursor⟩
  · obtain ⟨text',more,file',longer⟩ := (List.pairwise_cons.mp grows.2).1 later mem
    rw [file] at file'
    obtain rfl := as_bytes_injective (content_of file')
    exact ⟨text,more,longer,ends⟩

/-- The polls emit what they read, chunk by chunk. -/
theorem turns_emitted {T : String → Prop} {polls : List Poll} {contents : List (List UInt8)} {prev : String}
    (found : polls.map (fun poll => poll.files path) = contents.map Snapshot.of)
    (onward : ∀ content ∈ contents, as_bytes prev <+: content) (grows : contents.Pairwise (· <+: ·))
    (asked : ∀ poll ∈ polls, Asked kind agent_id path (fun other => other.transcript_path ≠ path ∧
      (other.kind, other.agent_id) ≠ (kind, agent_id) ∧ T other.transcript_path) poll)
    (texts : ∀ other, T other → GrowingText polls other)
    (readable : ∀ other, T other → ∀ poll ∈ polls, Readable poll.files poller other)
    (apart : ∀ other, T other → other ≠ path)
    (cursor : poller.cursors path = (as_bytes prev).length) :
    turns_of kind agent_id (poll_all parse polls poller) =
      Lines.read (fun c _ => c = '\n') (line_turn parse kind agent_id) (appended_texts prev contents) := by
  induction polls generalizing contents prev poller with
  | nil =>
    cases contents with
    | nil => rfl
    | cons content contents => simp at found
  | cons poll polls ih =>
    cases contents with
    | nil => simp at found
    | cons content contents =>
      rw [List.map_cons,List.map_cons,List.cons.injEq] at found
      obtain ⟨file,found⟩ := found
      obtain ⟨rest,split⟩ := onward content (by simp)
      subst split
      rw [List.pairwise_cons] at grows
      have here : Asked kind agent_id path (fun other => other.transcript_path ≠ path ∧
          (other.kind, other.agent_id) ≠ (kind, agent_id) ∧ Readable poll.files poller other.transcript_path) poll := by
        obtain ⟨before,session,after,sessions,one,two,three,others⟩ := asked poll (by simp)
        refine ⟨before,session,after,sessions,one,two,three,?_⟩
        intro other mem
        obtain ⟨away,stranger,text⟩ := others other mem
        exact ⟨away,stranger,readable _ text poll (by simp)⟩
      obtain ⟨result,after,run,moves,whole,cut⟩ := poll_reads parse here file cursor
      have readable_after : ∀ other, T other → ∀ later ∈ polls, Readable later.files after other :=
        fun other text later mem => readable_later (texts other text) mem (moves other (apart other text))
          (readable other text later (by simp [mem]))
      have tail : ∀ read : String, (∀ later ∈ contents, as_bytes read <+: later) →
          after.cursors path = (as_bytes read).length → turns_of kind agent_id (poll_all parse polls after) =
            Lines.read (fun c _ => c = '\n') (line_turn parse kind agent_id) (appended_texts read contents) :=
        fun read onward cursor => ih found onward grows.2 (fun later mem => asked later (by simp [mem]))
          (fun other text => growing_tail (texts other text)) readable_after cursor
      rw [poll_all,run,turns_of_cons,appended_texts]
      cases text : from_utf8 (as_bytes prev ++ rest) with
      | some text =>
        have bytes := from_utf8_eq_some.mp text
        obtain ⟨more,rfl,rfl⟩ := prefix_of_bytes bytes.symm
        obtain ⟨turns,ends⟩ := whole more rfl
        have behind : (prev ++ more).toList.drop prev.length = more.toList := by
          rw [String.toList_append,← String.length_toList,List.drop_left]
        rw [turns,tail (prev ++ more) (fun later mem => bytes ▸ grows.1 later mem) (by rw [ends,bytes])]
        simp only [behind,Lines.read,List.flatMap_cons]
      | none =>
        obtain ⟨turns,stays⟩ := cut (undecoded_rest text)
        rw [turns,List.nil_append]
        exact tail prev (fun later mem => onward later (by simp [mem])) (stays.trans cursor)

/-- The texts that are read make up the transcript. -/
theorem appended_flatten {contents : List (List UInt8)} {prev final : String}
    (onward : ∀ content ∈ contents, as_bytes prev <+: content) (grows : contents.Pairwise (· <+: ·))
    (last : contents.getLast?.getD (as_bytes prev) = as_bytes final) :
    (appended_texts prev contents).flatten = final.toList.drop prev.length := by
  induction contents generalizing prev with
  | nil =>
    obtain rfl := as_bytes_injective last
    rw [← String.length_toList,List.drop_length]
    rfl
  | cons content contents ih =>
    rw [List.pairwise_cons] at grows
    rw [List.getLast?_cons,Option.getD_some] at last
    rw [appended_texts]
    cases text : from_utf8 content with
    | some text =>
      obtain rfl := from_utf8_eq_some.mp text
      obtain ⟨rest,split⟩ := onward _ List.mem_cons_self
      obtain ⟨more,rfl,rfl⟩ := prefix_of_bytes split.symm
      have further : as_bytes (prev ++ more) <+: as_bytes final := by
        rw [← last]
        cases ends : contents.getLast? with
        | none => exact List.prefix_rfl
        | some later => exact grows.1 later (List.mem_of_getLast? ends)
      obtain ⟨bytes,longer⟩ := further
      obtain ⟨remaining,rfl,_⟩ := prefix_of_bytes longer.symm
      simp only [List.flatten_cons,ih grows.1 grows.2 last]
      simp only [String.toList_append,← String.length_toList,List.append_assoc,List.drop_left]
      rw [← List.append_assoc,List.drop_left]
    | none =>
      refine ih (fun later mem => onward later (by simp [mem])) grows.2 ?_
      cases ends : contents.getLast? with
      | none =>
        rw [ends] at last
        rw [show content = as_bytes final from last,from_utf8_as_bytes] at text
        cases text
      | some later =>
        rw [ends] at last
        exact last

/-! ## Exactly once -/

/-- The lines of a transcript, each in the pieces that the polls read it in. -/
def read_pieces (contents : List (List UInt8)) : List (List (List Char)) :=
  Lines.in_pieces (fun c _ => c = '\n') (appended_texts "" contents)

/-- The turns that polls emit for a session are those of the lines of its
    transcript, each once and in order, if every other session that is polled has
    a transcript of its own that can be read and every line yields what the pieces
    yield that the polls read it in; and of one line left, this one decides. -/
theorem transcript_read_once {polls : List Poll} {contents : List (List UInt8)} {final : String}
    (found : polls.map (fun poll => poll.files path) = contents.map Snapshot.of)
    (grows : contents.Pairwise (· <+: ·)) (last : contents.getLast? = some (as_bytes final))
    (asked : ∀ poll ∈ polls, Asked kind agent_id path (Apart kind agent_id path polls) poll) :
    ((∀ pieces ∈ read_pieces contents, ReadWhole parse kind agent_id pieces) →
        turns_of kind agent_id (poll_all parse polls .new) =
          (lines final).filterMap (line_to_discovered_turn parse kind agent_id)) ∧
      ∀ before pieces after, read_pieces contents = before ++ pieces :: after →
        (∀ other ∈ before, ReadWhole parse kind agent_id other) →
        (∀ other ∈ after, ReadWhole parse kind agent_id other) →
        (turns_of kind agent_id (poll_all parse polls .new) =
            (lines final).filterMap (line_to_discovered_turn parse kind agent_id) ↔
          ReadWhole parse kind agent_id pieces) := by
  have nothing_read : ∀ content ∈ contents, as_bytes "" <+: content := fun content _ => List.nil_prefix
  have chunks : turns_of kind agent_id (poll_all parse polls .new) =
      Lines.read (fun c _ => c = '\n') (line_turn parse kind agent_id) (appended_texts "" contents) := by
    refine turns_emitted (T := fun other => other ≠ path ∧ GrowingText polls other) found nothing_read grows ?_
      (fun other text => text.2) ?_ (fun other text => text.1) rfl
    · intro poll mem
      obtain ⟨before,session,after,sessions,one,two,three,others⟩ := asked poll mem
      refine ⟨before,session,after,sessions,one,two,three,?_⟩
      intro other mem
      obtain ⟨away,stranger,text⟩ := others other mem
      exact ⟨away,stranger,away,text⟩
    · intro other text poll mem
      obtain ⟨whole,file⟩ := text.2.1 poll mem
      exact ⟨"",whole,by rw [String.empty_append,file],rfl⟩
  have whole : (lines final).filterMap (line_to_discovered_turn parse kind agent_id) =
      (Lines.split (fun c _ => c = '\n') (appended_texts "" contents).flatten).flatMap (line_turn parse kind agent_id) := by
    rw [appended_flatten nothing_read grows (by rw [last]; rfl),
      List.filterMap_eq_flatMap_toList,lines_turns]
    rfl
  rw [chunks,whole]
  exact ⟨fun all => Lines.read_of_agree all,fun before pieces after split earlier later =>
    Lines.read_iff_agree split earlier later⟩

end

/-! ## A line cut in two -/

/-- Polls of one session that find these texts in its transcript. -/
def polls_of (texts : List String) : List Poll :=
  texts.map (fun text => ⟨[first_session], fun _ => .of (as_bytes text)⟩)

theorem polls_asked (texts : List String) : ∀ poll ∈ polls_of texts,
    Asked .Claude "a" "/a.jsonl" (Apart .Claude "a" "/a.jsonl" (polls_of texts)) poll := by
  intro poll mem
  obtain ⟨text,_,rfl⟩ := List.mem_map.mp mem
  exact ⟨[],first_session,[],rfl,rfl,rfl,rfl,by simp⟩

theorem polls_found (texts : List String) :
    (polls_of texts).map (fun poll => poll.files "/a.jsonl") = (texts.map as_bytes).map Snapshot.of := by
  simp [polls_of]

/-- The line arrives before its end: the end alone is read as an empty line. -/
def ended_later : List String := [user_line, user_line.push '\n']

theorem transcript_read_once_ended :
    ((∀ pieces ∈ read_pieces (ended_later.map as_bytes), ReadWhole parse_user_line .Claude "a" pieces) →
        turns_of .Claude "a" (poll_all parse_user_line (polls_of ended_later) .new) =
          (lines (user_line.push '\n')).filterMap (line_to_discovered_turn parse_user_line .Claude "a")) ∧
      ∀ before pieces after, read_pieces (ended_later.map as_bytes) = before ++ pieces :: after →
        (∀ other ∈ before, ReadWhole parse_user_line .Claude "a" other) →
        (∀ other ∈ after, ReadWhole parse_user_line .Claude "a" other) →
        (turns_of .Claude "a" (poll_all parse_user_line (polls_of ended_later) .new) =
            (lines (user_line.push '\n')).filterMap (line_to_discovered_turn parse_user_line .Claude "a") ↔
          ReadWhole parse_user_line .Claude "a" pieces) :=
  transcript_read_once (polls_found ended_later) (by decide) rfl (polls_asked ended_later)

/-- The line arrives in two halves. -/
def cut_in_two : List String := ["\x7b\"type\":\"user\",", user_line.push '\n']

/-- A line that is read in two halves is lost. -/
theorem cut_line_lost : ∃ (parse : String → Option Value) (polls : List Poll) (contents : List (List UInt8)) (final : String),
    polls.map (fun poll => poll.files "/a.jsonl") = contents.map Snapshot.of ∧ contents.Pairwise (· <+: ·) ∧
      contents.getLast? = some (as_bytes final) ∧ (∀ poll ∈ polls, poll.sessions = [first_session]) ∧
      turns_of .Claude "a" (poll_all parse polls .new) ≠
        (lines final).filterMap (line_to_discovered_turn parse .Claude "a") := by
  refine ⟨parse_user_line,polls_of cut_in_two,cut_in_two.map as_bytes,user_line.push '\n',
    polls_found cut_in_two,by decide,rfl,?_,?_⟩
  · intro poll mem
    obtain ⟨text,_,rfl⟩ := List.mem_map.mp mem
    rfl
  · decide

end VibeBridge.Ingestion
