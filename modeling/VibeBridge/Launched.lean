import VibeBridge.Hexadecimal
import VibeBridge.Recordings
import VibeBridge.Registrations

/-!
A launched command and the daemon (`run_launch`). One thread reads the output of the
child, hands it to the terminal of the user and streams it to the daemon until a
write fails; the main thread registers the command before and aborts it after. What
the daemon has in the buffer of the command is a stretch of the output, from where
it last knew the command up to what is still on its way (`launched_output`).
-/
namespace VibeBridge.Launched
open Transitions
open VibeBridge.Text VibeBridge.Core VibeBridge.Agent VibeBridge.Envelope VibeBridge.Daemon VibeBridge.Bridge VibeBridge.Events
open VibeBridge.Views VibeBridge.Registrations VibeBridge.Records VibeBridge.Recordings

/-! ## The command -/

/-- What `run_launch` has worked out before it registers the command. -/
structure Launch where
  /-- `std::process::id()` -/
  pid : UInt32
  kind : String
  base_name : String
  cwd : String

def Launch.agent_id (launch : Launch) : String := s!"launch-{launch.pid}"

def Launch.name (launch : Launch) : String :=
  if launch.kind = "terminal" then s!"{launch.base_name} #{launch.pid}" else launch.base_name

def register_json (launch : Launch) : RegistrationEnvelope where
  message_type := "agent.register"
  agent := some {
    agent_id := launch.agent_id
    kind := launch.kind
    name := launch.name
    cwd := launch.cwd
    from_launch := true }

/-- The envelope of one chunk of output. -/
def stream_json (launch : Launch) (chunk : List UInt8) : RegistrationEnvelope where
  message_type := "terminal.stream"
  stream := some { agent_id := launch.agent_id, kind := launch.kind, data_hex := hex_encode chunk }

def abort_json (launch : Launch) : RegistrationEnvelope where
  message_type := "session.abort"
  abort := some { agent_id := launch.agent_id, kind := launch.kind }

/-! ## The connection -/

/-- A line as the daemon reads it. -/
abbrev Line := Except String RegistrationEnvelope

/-- How much of a line `send_json_line` has written when it returns. -/
inductive Written
  | whole
  /-- All but the line feed. -/
  | unended
  | part
  | nothing
  deriving DecidableEq

/-- The lines on their way to the daemon, and what has been written of a further one, as it reads if nothing follows. -/
structure Connection where
  lines : List Line
  fragment : Option Line

/-- `send_json_line`, and whether it succeeds. What follows a fragment runs into it, and two JSON
    objects on one line, or one in another's place, are none: the line is read with this error. -/
def Connection.send_json_line (connection : Connection) (msg : RegistrationEnvelope) (error : String) :
    Written → Connection × Bool
  | .whole =>
    match connection.fragment with
    | none => ({ connection with lines := connection.lines ++ [.ok msg] }, true)
    | some _ => (⟨connection.lines ++ [.error error], none⟩, true)
  | .unended => ({ connection with fragment := some (if connection.fragment.isNone then .ok msg else .error error) }, false)
  | .part => ({ connection with fragment := some (.error error) }, false)
  | .nothing => (connection, false)

/-! ## The process -/

/-- Where the main thread is: it waits for the child, or for the thread that reads the output; a result is
    the exit code, or none where `run_launch` has failed. At the end the connection is closed. -/
inductive Main
  | registering
  | waiting
  | joining (exit_code : UInt32)
  | returned (result : Option UInt32)
  | ended
  deriving DecidableEq

def Main.running : Main → Bool
  | .returned _ | .ended => false
  | _ => true

structure Launcher where
  main : Main
  /-- `stdout_thread` runs. -/
  pumping : Bool
  daemon_stream_enabled : Bool
  /-- What was handed to the terminal of the user. -/
  stdout : List UInt8

def Launcher.start : Launcher := ⟨.registering,false,true,[]⟩

/-- Output may still be sent. Where waiting for the child fails, `run_launch` returns and `stdout_thread` goes on. -/
def Launcher.streams (self : Launcher) : Bool := self.main.running || self.pumping

/-- The length of `buf`. -/
def OUTPUT_BUFFER_BYTES : Nat := 4096

inductive Step
  | registers (written : Written) (error : String)
  /-- One turn of `stdout_thread`: what `read_output` returns. -/
  | reads (read : Except String (List UInt8)) (written : Written) (error : String)
  /-- The child has exited, or waiting for it fails. -/
  | waits (code : Except String UInt32)
  | aborts (written : Written) (error : String)
  /-- The threads have let go of the connection, or the process has ended before. -/
  | closes

/-- A turn of `stdout_thread` that has read some bytes. -/
def Launcher.pump (launch : Launch) (self : Launcher) (connection : Connection) (chunk : List UInt8) (written : Written)
    (error : String) : Launcher × Connection :=
  let self := { self with stdout := self.stdout ++ chunk }
  if self.daemon_stream_enabled then
    let sent := connection.send_json_line (stream_json launch chunk) error written
    ({ self with daemon_stream_enabled := sent.2 }, sent.1)
  else (self, connection)

/-- A step of the process; nothing where it cannot take it now. -/
def Launcher.step (launch : Launch) (self : Launcher) (connection : Connection) : Step → Option (Launcher × Connection)
  | .registers written error =>
    if self.main ≠ .registering then none
    else
      let sent := connection.send_json_line (register_json launch) error written
      some ({ self with main := if sent.2 then .waiting else .returned none, pumping := sent.2 }, sent.1)
  | .reads read written error =>
    if !self.pumping then none
    else
      match read with
      | .error _ => some ({ self with pumping := false }, connection)
      | .ok [] => some ({ self with pumping := false }, connection)
      | .ok (b :: bs) =>
        if (b :: bs).length > OUTPUT_BUFFER_BYTES then none
        else some (self.pump launch connection (b :: bs) written error)
  | .waits code =>
    if self.main ≠ .waiting then none
    else
      match code with
      | .ok code => some ({ self with main := .joining code }, connection)
      | .error _ => some ({ self with main := .returned none }, connection)
  | .aborts written error =>
    match self.main with
    | .joining code =>
      if self.pumping then none
      else some ({ self with main := .returned (some code) }, (connection.send_json_line (abort_json launch) error written).1)
    | _ => none
  | .closes => some ({ self with main := .ended, pumping := false }, ⟨connection.lines ++ connection.fragment.toList, none⟩)

/-- What a step can do. -/
inductive Stepped (launch : Launch) (launcher : Launcher) (connection : Connection) : Step → Launcher → Connection → Prop
  | registers {written : Written} {error : String} (here : launcher.main = .registering) :
      Stepped launch launcher connection (.registers written error)
        { launcher with
          main := if (connection.send_json_line (register_json launch) error written).2 then .waiting else .returned none
          pumping := (connection.send_json_line (register_json launch) error written).2 }
        (connection.send_json_line (register_json launch) error written).1
  | drained {read : Except String (List UInt8)} {written : Written} {error : String} (pumping : launcher.pumping = true) :
      Stepped launch launcher connection (.reads read written error) { launcher with pumping := false } connection
  | pumps {chunk : List UInt8} {written : Written} {error : String} (pumping : launcher.pumping = true) :
      Stepped launch launcher connection (.reads (.ok chunk) written error)
        (launcher.pump launch connection chunk written error).1 (launcher.pump launch connection chunk written error).2
  | waited {code : UInt32} (here : launcher.main = .waiting) :
      Stepped launch launcher connection (.waits (.ok code)) { launcher with main := .joining code } connection
  | failed {err : String} (here : launcher.main = .waiting) :
      Stepped launch launcher connection (.waits (.error err)) { launcher with main := .returned none } connection
  | aborts {written : Written} {error : String} {code : UInt32} (here : launcher.main = .joining code)
      (drained : launcher.pumping = false) : Stepped launch launcher connection (.aborts written error) { launcher with main := .returned (some code) }
        (connection.send_json_line (abort_json launch) error written).1
  | closes : Stepped launch launcher connection .closes { launcher with main := .ended, pumping := false }
      ⟨connection.lines ++ connection.fragment.toList,none⟩

theorem step_cases {launch : Launch} {launcher after : Launcher} {connection rest : Connection} {step : Step}
    (stepped : launcher.step launch connection step = some (after,rest)) :
    Stepped launch launcher connection step after rest := by
  cases step with
  | registers written error =>
    simp only [Launcher.step] at stepped
    split at stepped
    · cases stepped
    · rename_i here
      cases stepped
      exact .registers (not_not.mp here)
  | reads read written error =>
    simp only [Launcher.step] at stepped
    split at stepped
    · cases stepped
    · rename_i goes
      simp only [Bool.not_eq_true',Bool.not_eq_false] at goes
      split at stepped
      · cases stepped
        exact .drained goes
      · cases stepped
        exact .drained goes
      · split at stepped
        · cases stepped
        · rename_i b bs _
          have pumped : Stepped launch launcher connection (.reads (.ok (b :: bs)) written error) _ _ := .pumps goes
          rw [Option.some.inj stepped] at pumped
          exact pumped
  | waits code =>
    simp only [Launcher.step] at stepped
    split at stepped
    · cases stepped
    · rename_i here
      split at stepped
      · cases stepped
        exact .waited (not_not.mp here)
      · cases stepped
        exact .failed (not_not.mp here)
  | aborts written error =>
    simp only [Launcher.step] at stepped
    split at stepped
    · rename_i here
      split at stepped
      · cases stepped
      · rename_i drained
        cases stepped
        exact .aborts here (Bool.eq_false_iff.mpr drained)
    · cases stepped
  | closes =>
    cases stepped
    exact .closes

/-! ## The system -/

structure Scene where
  daemon : BridgeDaemon
  launcher : Launcher
  connection : Connection
  /-- The daemon reads the connection. -/
  reading : Bool

def Scene.start : Scene := ⟨BridgeDaemon.new,.start,⟨[],none⟩,true⟩

inductive Act
  | launcher (step : Step)
  /-- The daemon handles the next line. -/
  | takes (polled : Except String AgentPollSnapshot)
  /-- The daemon stops reading the connection. -/
  | stops
  /-- Any other call of the daemon. -/
  | other (event : Event)

/-- Nobody else streams for the command, or attaches it to a terminal. Its hooks may register and abort it. -/
structure Apart (event : Event) (key : AgentKey) : Prop where
  streams : ∀ bytes, ¬ Streams event key bytes
  attaches : ∀ fresh, Registers event fresh → fresh.key = key → fresh.attached_terminal = none

/-- A move shows the call of the daemon in it, if there is one. -/
abbrev SceneMove := Move Scene Act (Option (Event × Reply))

inductive Plays (launch : Launch) (key : AgentKey) : System Scene Act (Option (Event × Reply))
  | launcher {scene : Scene} {step : Step} {launcher : Launcher} {connection : Connection}
      (stepped : scene.launcher.step launch scene.connection step = some (launcher,connection)) :
      Plays launch key ⟨scene,.launcher step,{ scene with launcher := launcher, connection := connection },none⟩
  | takes {scene : Scene} {line : Line} {rest : List Line} {polled : Except String AgentPollSnapshot} {daemon : BridgeDaemon}
      {reply : Reply} (reading : scene.reading = true) (next : scene.connection.lines = line :: rest)
      (handled : bridge ⟨scene.daemon,.json_line line polled,daemon,reply⟩) :
      Plays launch key ⟨scene,.takes polled,{ scene with
        daemon := daemon
        connection := { scene.connection with lines := rest } },some (.json_line line polled,reply)⟩
  | stops {scene : Scene} : Plays launch key ⟨scene,.stops,{ scene with reading := false },none⟩
  | other {scene : Scene} {event : Event} {daemon : BridgeDaemon} {reply : Reply}
      (handled : bridge ⟨scene.daemon,event,daemon,reply⟩) (apart : Apart event key) :
      Plays launch key ⟨scene,.other event,{ scene with daemon := daemon },some (event,reply)⟩

/-- The daemon's part of a move. -/
def bridged (m : SceneMove) : Option BridgeMove :=
  m.output.map (fun call => ⟨m.pre.daemon,call.1,m.post.daemon,call.2⟩)

/-- The calls of the daemon. -/
def calls (ms : List SceneMove) : List BridgeMove := ms.filterMap bridged

variable {launch : Launch} {key : AgentKey}

theorem calls_snoc (ms : List SceneMove) (m : SceneMove) : calls (ms ++ [m]) = calls ms ++ (bridged m).toList := by
  rw [calls,List.filterMap_append,calls]
  cases call : bridged m <;> simp [call]

theorem calls_run {ms : List SceneMove} {scene : Scene} (path : Path (Plays launch key) .start ms scene) :
    Run (calls ms) scene.daemon := by
  induction path with
  | refl => exact .refl
  | @next ms m before move ih =>
    rw [calls_snoc]
    cases move with
    | launcher => simpa [bridged] using ih
    | takes reading next handled => exact .next ih handled
    | stops => simpa [bridged] using ih
    | other handled => exact .next ih handled

/-! ## What the lines say -/

/-- The lines that the process writes. -/
inductive Own (launch : Launch) : Line → Prop
  | register : Own launch (.ok (register_json launch))
  | stream (chunk : List UInt8) : Own launch (.ok (stream_json launch chunk))
  | abort : Own launch (.ok (abort_json launch))
  | torn (error : String) : Own launch (.error error)

/-- The bytes that a line streams. -/
def line_bytes (line : Line) : List UInt8 := ((streamed_line line).map Prod.snd).getD []

def lines_bytes (lines : List Line) : List UInt8 := lines.flatMap line_bytes

theorem lines_bytes_append (lines more : List Line) : lines_bytes (lines ++ more) = lines_bytes lines ++ lines_bytes more :=
  List.flatMap_append

theorem launch_id (launch : Launch) : (trim launch.agent_id).isEmpty = false := by
  have first : launch.agent_id.toList = "launch-".toList ++ (toString launch.pid).toList := String.toList_append
  have solid : 'l' ∈ (Words.trim is_whitespace launch.agent_id.toList).filter (fun c => !is_whitespace c) := by
    rw [Words.filter_trim (by simp),first]
    simp [is_whitespace]
  have among := List.mem_of_mem_filter solid
  cases trimmed : Words.trim is_whitespace launch.agent_id.toList with
  | nil => rw [trimmed] at among; cases among
  | cons c cs => simp [trim,trimmed]

section
variable {kind : AgentKind} (known : parse_kind launch.kind = .ok kind)
include known

theorem register_read : ∃ fresh, (register_json launch).read_agent = .ok fresh ∧ fresh.key = (kind,launch.agent_id) ∧
    fresh.attached_terminal = none := by
  simp only [parse_kind] at known
  split at known
  · cases known
  · rename_i labelled
    obtain rfl := Except.ok.inj known
    simp [register_json,RegistrationEnvelope.read_agent,required,bind,Except.bind,pure,Except.pure,
      RegistrationAgentPayload.into_registered_agent,RegistrationAgentPayload.attached_terminal,checked_identity,
      labelled,launch_id,RegisteredAgent.key]

theorem stream_read (chunk : List UInt8) : (stream_json launch chunk).read_stream = .ok ((kind,launch.agent_id),chunk) := by
  simp [stream_json,RegistrationEnvelope.read_stream,required,parse_key,known,hex_decode_encode,bind,Except.bind,pure,Except.pure]

/-- No line of the process attaches the command to a terminal. -/
theorem own_unattached {line : Line} (own : Own launch line) {polled : Except String AgentPollSnapshot} {fresh : RegisteredAgent}
    (told : Registers (.json_line line polled) fresh) : fresh.attached_terminal = none := by
  obtain ⟨request,⟨_,input,type⟩,reading⟩ := told
  cases input
  cases own with
  | register =>
    obtain ⟨fresh',reading',_,unattached⟩ := register_read known
    rw [reading] at reading'
    cases reading'
    exact unattached
  | stream chunk => exact absurd type (show "terminal.stream" ≠ "agent.register" by decide)
  | abort => exact absurd type (show "session.abort" ≠ "agent.register" by decide)

theorem stream_bytes (chunk : List UInt8) : line_bytes (.ok (stream_json launch chunk)) = chunk := by
  have type : (stream_json launch chunk).message_type = "terminal.stream" := rfl
  rw [line_bytes,streamed_line,if_pos type,stream_read known]
  rfl

/-- A line of the process brings its bytes to the command, where the daemon knows it. -/
theorem own_brought {line : Line} (own : Own launch line) (polled : Except String AgentPollSnapshot) {daemon : BridgeDaemon}
    {agent : RegisteredAgent} (found : daemon.registered.lookup (kind,launch.agent_id) = some agent)
    (unattached : agent.attached_terminal = none) :
    brought daemon (.json_line line polled) (kind,launch.agent_id) agent = line_bytes line := by
  cases own with
  | register => rfl
  | stream chunk =>
    have type : (stream_json launch chunk).message_type = "terminal.stream" := rfl
    have told : streamed_line (.ok (stream_json launch chunk)) = some ((kind,launch.agent_id),chunk) := by
      rw [streamed_line,if_pos type,stream_read known]
      rfl
    simp [brought,streamed,line_bytes,told,found,copies,unattached]
  | abort => rfl
  | torn error => rfl

end

theorem register_bytes : line_bytes (.ok (register_json launch)) = [] := rfl

theorem abort_bytes : line_bytes (.ok (abort_json launch)) = [] := rfl

/-! ## What the other calls do to the command -/

theorem streamed_told {event : Event} {source : AgentKey} {bytes : List UInt8} (told : streamed event = some (source,bytes)) :
    Streams event source bytes := by
  cases event with
  | json_line line polled =>
    cases line with
    | error err => cases told
    | ok request =>
      simp only [streamed,streamed_line] at told
      split at told
      · rename_i type
        refine ⟨request,⟨polled,rfl,type⟩,?_⟩
        cases reading : request.read_stream with
        | error err => rw [reading] at told; cases told
        | ok stream => rw [reading] at told; cases told; rfl
      · cases told
  | _ => cases told

theorem apart_brought {event : Event} (apart : Apart event key) (daemon : BridgeDaemon) {agent : RegisteredAgent}
    (unattached : agent.attached_terminal = none) : brought daemon event key agent = [] := by
  cases told : streamed event with
  | none => rw [brought,told]
  | some stream =>
    obtain ⟨source,bytes⟩ := stream
    have other : key ≠ source := by
      rintro rfl
      exact apart.streams bytes (streamed_told told)
    simp [brought,told,copies,other,unattached]

/-- A registration leaves the record that it makes of the one before. -/
theorem registered_move {b : BridgeMove} (move : bridge b) {fresh : RegisteredAgent} (told : Registers b.input fresh) :
    b.post.registered.lookup fresh.key = some (registered_agent b.pre fresh) := by
  obtain ⟨daemon,same,result⟩ := move
  obtain ⟨request,⟨polled,input,type⟩,reading⟩ := told
  rw [input] at result
  simp only [handle,handle_json_line,type,Prod.mk.injEq] at result
  rw [← result.1,register_lookup reading,if_pos rfl,registered_rehashed same]

theorem unattached_move {b : BridgeMove} (move : bridge b)
    (attaches : ∀ fresh, Registers b.input fresh → fresh.key = key → fresh.attached_terminal = none)
    (before : ∀ agent, b.pre.registered.lookup key = some agent → agent.attached_terminal = none) :
    ∀ new, b.post.registered.lookup key = some new → new.attached_terminal = none := by
  intro new found
  by_cases registers : ∃ fresh, Registers b.input fresh ∧ fresh.key = key
  · obtain ⟨fresh,told,rfl⟩ := registers
    have alone := attaches fresh told rfl
    rw [registered_move move told] at found
    cases found
    rw [registered_agent]
    cases there : b.pre.registered.lookup fresh.key with
    | none => exact alone
    | some existing => simp [carry_over,alone,before existing there]
  · have other : ∀ fresh, Registers b.input fresh → fresh.key ≠ key := fun fresh told own => registers ⟨fresh,told,own⟩
    rcases continues_move move found with ⟨_,comes⟩ | ⟨agent,there,goes_on⟩
    · exact comes.attached other
    · rw [goes_on.attached other]
      exact before agent there

/-! ## What the process sends -/

/-- What becomes of a message that is sent. -/
inductive Sent (connection : Connection) (msg : RegistrationEnvelope) : Connection × Bool → Prop
  | whole (clean : connection.fragment = none) :
      Sent connection msg ({ connection with lines := connection.lines ++ [.ok msg] },true)
  | joined (error : String) (broken : connection.fragment ≠ none) :
      Sent connection msg (⟨connection.lines ++ [.error error],none⟩,true)
  | unended (clean : connection.fragment = none) : Sent connection msg ({ connection with fragment := some (.ok msg) },false)
  | torn (error : String) : Sent connection msg ({ connection with fragment := some (.error error) },false)
  | nothing : Sent connection msg (connection,false)

theorem send_sent (connection : Connection) (msg : RegistrationEnvelope) (error : String) (written : Written) :
    Sent connection msg (connection.send_json_line msg error written) := by
  cases written with
  | whole =>
    cases left : connection.fragment with
    | none => simp only [Connection.send_json_line,left]; exact left ▸ .whole left
    | some line => simp only [Connection.send_json_line,left]; exact .joined error (by simp [left])
  | unended =>
    cases left : connection.fragment with
    | none => simp only [Connection.send_json_line,left]; exact .unended left
    | some line => simp only [Connection.send_json_line,left]; exact .torn error
  | part => exact .torn error
  | nothing => exact .nothing

/-- What the process has sent of the output of the child: nothing is left out while it streams, and a
    fragment may still bring the next chunk. -/
structure Sends (launch : Launch) (launcher : Launcher) (connection : Connection) (sent : List UInt8) : Prop where
  own : ∀ line ∈ connection.lines ++ connection.fragment.toList, Own launch line
  left : sent ++ lines_bytes connection.fragment.toList <+: launcher.stdout
  streaming : launcher.streams = true → launcher.daemon_stream_enabled = true →
    sent = launcher.stdout ∧ connection.fragment = none
  early : launcher.main = .registering → launcher = .start

theorem sends_start (launch : Launch) : Sends launch .start ⟨[],none⟩ [] :=
  ⟨by simp,List.nil_prefix,fun _ _ => ⟨rfl,rfl⟩,fun _ => rfl⟩

/-- A message that is sent says nothing or what the process writes, and it leaves such a fragment. -/
theorem sent_own {connection : Connection} {msg : RegistrationEnvelope} {r : Connection × Bool} (sent : Sent connection msg r)
    (msg_own : Own launch (.ok msg)) (own : ∀ line ∈ connection.lines ++ connection.fragment.toList, Own launch line) :
    ∀ line ∈ r.1.lines ++ r.1.fragment.toList, Own launch line := by
  have front : ∀ line ∈ connection.lines, Own launch line := fun line member => own line (List.mem_append_left _ member)
  have back : ∀ line ∈ connection.fragment.toList, Own launch line := fun line member => own line (List.mem_append_right _ member)
  intro line member
  rcases List.mem_append.mp member with member | member
  · cases sent with
    | whole clean =>
      rcases List.mem_append.mp member with old | new
      · exact front line old
      · rw [List.mem_singleton.mp new]; exact msg_own
    | joined error broken =>
      rcases List.mem_append.mp member with old | new
      · exact front line old
      · rw [List.mem_singleton.mp new]; exact .torn error
    | _ => exact front line member
  · cases sent with
    | whole clean => exact back line member
    | joined error broken => cases member
    | unended clean => rw [List.mem_singleton.mp member]; exact msg_own
    | torn error => rw [List.mem_singleton.mp member]; exact .torn error
    | nothing => exact back line member

/-- A message without output adds nothing to what was sent. -/
theorem sent_silent {connection : Connection} {msg : RegistrationEnvelope} {r : Connection × Bool} (sent : Sent connection msg r)
    (silent : line_bytes (.ok msg) = []) {before stdout : List UInt8}
    (left : before ++ lines_bytes connection.fragment.toList <+: stdout) :
    ∃ news, r.1.lines = connection.lines ++ news ∧ lines_bytes news = [] ∧
      before ++ lines_bytes r.1.fragment.toList <+: stdout := by
  have alone : before <+: stdout := (List.prefix_append _ _).trans left
  have torn : ∀ error, line_bytes (.error error) = [] := fun error => rfl
  cases sent with
  | whole clean => exact ⟨[.ok msg],rfl,by simp [lines_bytes,silent],left⟩
  | joined error broken => exact ⟨[.error error],rfl,by simp [lines_bytes,torn],by simpa [lines_bytes] using alone⟩
  | unended clean => exact ⟨[],by simp,rfl,by simpa [lines_bytes,silent] using alone⟩
  | torn error => exact ⟨[],by simp,rfl,by simpa [lines_bytes,torn] using alone⟩
  | nothing => exact ⟨[],by simp,rfl,left⟩

section
variable {kind : AgentKind} (known : parse_kind launch.kind = .ok kind)
include known

omit known in
/-- The thread that reads the output is started after the registration. -/
theorem pumping_late {launcher : Launcher} {connection : Connection} {sent : List UInt8}
    (sends : Sends launch launcher connection sent) (pumping : launcher.pumping = true) : launcher.main ≠ .registering := by
  intro early
  rw [sends.early early] at pumping
  cases pumping

/-- A turn of the thread that reads the output sends what it reads, as long as it can. -/
theorem pump_sends {launcher : Launcher} {connection : Connection} {sent : List UInt8}
    (sends : Sends launch launcher connection sent) (pumping : launcher.pumping = true) (chunk : List UInt8) (written : Written) (error : String) :
    ∃ news, (launcher.pump launch connection chunk written error).2.lines = connection.lines ++ news ∧
      Sends launch (launcher.pump launch connection chunk written error).1
        (launcher.pump launch connection chunk written error).2 (sent ++ lines_bytes news) := by
  have late := pumping_late sends pumping
  cases enabled : launcher.daemon_stream_enabled with
  | false =>
    refine ⟨[],by simp [Launcher.pump,enabled],?_⟩
    simp only [Launcher.pump,enabled,Bool.false_eq_true,if_false]
    refine ⟨sends.own,?_,fun _ on => ?_,fun early => absurd early late⟩
    · rw [show sent ++ lines_bytes [] = sent by simp [lines_bytes]]
      exact sends.left.trans (List.prefix_append _ _)
    · cases on
  | true =>
    obtain ⟨all,clean⟩ := sends.streaming (by rw [Launcher.streams,pumping,Bool.or_true]) enabled
    have outcome := send_sent connection (stream_json launch chunk) error written
    have own := sent_own outcome (.stream chunk) sends.own
    simp only [Launcher.pump,enabled,if_true]
    generalize connection.send_json_line (stream_json launch chunk) error written = r at outcome own ⊢
    cases outcome with
    | whole clean' =>
      have bytes : sent ++ lines_bytes [.ok (stream_json launch chunk)] = launcher.stdout ++ chunk := by
        simp [lines_bytes,stream_bytes known,all]
      refine ⟨[.ok (stream_json launch chunk)],rfl,own,?_,fun _ _ => ⟨bytes,clean⟩,fun early => absurd early late⟩
      rw [bytes,clean]
      simp [lines_bytes]
    | joined error broken => exact absurd clean broken
    | unended clean' =>
      refine ⟨[],by simp,own,?_,fun _ on => (by cases on),fun early => absurd early late⟩
      simp [lines_bytes,stream_bytes known,all]
    | torn error =>
      refine ⟨[],by simp,own,?_,fun _ on => (by cases on),fun early => absurd early late⟩
      have torn : line_bytes (.error error) = [] := rfl
      simp [lines_bytes,torn,all]
    | nothing =>
      refine ⟨[],by simp,own,?_,fun _ on => (by cases on),fun early => absurd early late⟩
      simp [lines_bytes,all,clean]

omit known in
/-- A step that neither reads nor writes leaves what was sent. -/
theorem sends_idle {launcher after : Launcher} {connection : Connection} {sent : List UInt8}
    (sends : Sends launch launcher connection sent) (stdout : after.stdout = launcher.stdout)
    (enabled : after.daemon_stream_enabled = launcher.daemon_stream_enabled)
    (streams : after.streams = true → launcher.streams = true) (late : after.main ≠ .registering) :
    ∃ news, connection.lines = connection.lines ++ news ∧ Sends launch after connection (sent ++ lines_bytes news) := by
  refine ⟨[],by simp,?_⟩
  rw [show sent ++ lines_bytes [] = sent by simp [lines_bytes]]
  refine ⟨sends.own,by rw [stdout]; exact sends.left,fun goes on => ?_,fun early => absurd early late⟩
  rw [stdout]
  exact sends.streaming (streams goes) (enabled ▸ on)

omit known in
/-- The registration is sent whole, or the process ends. -/
theorem registers_sends {launcher : Launcher} {connection : Connection} {sent : List UInt8}
    (sends : Sends launch launcher connection sent) (here : launcher.main = .registering) {r : Connection × Bool}
    (outcome : Sent connection (register_json launch) r) :
    ∃ news, r.1.lines = connection.lines ++ news ∧
      Sends launch { launcher with main := if r.2 then .waiting else .returned none, pumping := r.2 } r.1
        (sent ++ lines_bytes news) := by
  obtain rfl := sends.early here
  obtain ⟨all,clean⟩ := sends.streaming rfl rfl
  obtain ⟨news,lines,silent,left⟩ := sent_silent outcome register_bytes sends.left
  refine ⟨news,lines,sent_own outcome .register sends.own,?_,?_,?_⟩
  · rw [silent,List.append_nil]; exact left
  · intro running _
    rw [silent,List.append_nil]
    cases outcome with
    | whole clean' => exact ⟨all,clean⟩
    | joined error broken => exact absurd clean broken
    | _ => cases running
  · intro early
    simp only at early
    split at early <;> cases early

theorem step_sends {launcher after : Launcher} {connection rest : Connection} {step : Step} {sent : List UInt8}
    (sends : Sends launch launcher connection sent) (stepped : launcher.step launch connection step = some (after,rest)) :
    ∃ news, rest.lines = connection.lines ++ news ∧ Sends launch after rest (sent ++ lines_bytes news) := by
  cases step_cases stepped with
  | registers here => exact registers_sends sends here (send_sent _ _ _ _)
  | drained pumping =>
    have late : launcher.main ≠ .registering := pumping_late sends pumping
    exact sends_idle sends rfl rfl (fun _ => by rw [Launcher.streams,pumping,Bool.or_true]) late
  | @pumps chunk written error pumping => exact pump_sends known sends pumping chunk written error
  | waited here => exact sends_idle sends rfl rfl (fun _ => by rw [Launcher.streams,here]; rfl) (fun early => by cases early)
  | failed here => exact sends_idle sends rfl rfl (fun _ => by rw [Launcher.streams,here]; rfl) (fun early => by cases early)
  | @aborts written error code here drained =>
    have outcome := send_sent connection (abort_json launch) error written
    obtain ⟨news,lines,silent,left⟩ := sent_silent outcome abort_bytes sends.left
    refine ⟨news,lines,sent_own outcome .abort sends.own,?_,fun streams => ?_,fun early => by cases early⟩
    · rw [silent,List.append_nil]; exact left
    · rw [Launcher.streams,drained] at streams
      cases streams
  | closes =>
    refine ⟨connection.fragment.toList,rfl,?_,?_,fun streams => (by cases streams),fun early => by cases early⟩
    · simpa using sends.own
    · simpa [lines_bytes] using sends.left

end

/-! ## Before the registration is read -/

/-- The registration is not sent yet, or is the next line, or was not sent and nothing else is. -/
inductive Before (launch : Launch) (launcher : Launcher) (connection : Connection) (sent : List UInt8) : Prop
  | early (main : launcher.main = .registering) (none : connection.lines = [])
  | next (rest : List Line) (first : connection.lines = .ok (register_json launch) :: rest)
  | failed (ended : launcher.streams = false) (nothing : sent = [])
      (silent : lines_bytes (connection.lines ++ connection.fragment.toList) = [])

theorem before_step {launcher after : Launcher} {connection rest : Connection} {step : Step} {sent : List UInt8} {news : List Line}
    (before : Before launch launcher connection sent) (sends : Sends launch launcher connection sent)
    (stepped : launcher.step launch connection step = some (after,rest)) (lines : rest.lines = connection.lines ++ news) :
    Before launch after rest (sent ++ lines_bytes news) := by
  cases before with
  | early main none =>
    obtain rfl := sends.early main
    obtain ⟨all,clean⟩ := sends.streaming rfl rfl
    rw [none,List.nil_append] at lines
    cases step_cases stepped with
    | @registers written error here =>
      have outcome := send_sent connection (register_json launch) error written
      generalize connection.send_json_line (register_json launch) error written = r at outcome lines ⊢
      have fails : r.1.lines = [] → r.2 = false → lines_bytes r.1.fragment.toList = [] →
          Before launch ⟨if r.2 then .waiting else .returned Option.none,r.2,true,[]⟩ r.1 (sent ++ lines_bytes news) := by
        intro empty failed silent
        rw [failed]
        refine .failed rfl ?_ (by rw [empty,List.nil_append]; exact silent)
        rw [all,show news = [] from lines.symm.trans empty]
        rfl
      cases outcome with
      | whole clean' => exact .next [] (by simp [none])
      | joined error broken => exact absurd clean broken
      | unended clean' => exact fails none rfl rfl
      | torn error => exact fails none rfl rfl
      | nothing => exact fails none rfl (by rw [clean]; rfl)
    | drained pumping => cases pumping
    | pumps pumping => cases pumping
    | waited here => cases here
    | failed here => cases here
    | aborts here => cases here
    | closes =>
      have nothing : news = [] := by simpa [none,clean] using lines.symm
      exact .failed rfl (by rw [all,nothing]; rfl) (by simp [none,clean,lines_bytes])
  | next others first => exact .next (others ++ news) (by rw [lines,first]; rfl)
  | failed ended nothing silent =>
    have stopped {main : Main} (here : launcher.main = main) : main.running = false := by
      rw [← here]
      exact (Bool.or_eq_false_iff.mp ended).1
    have drained : launcher.pumping = false := (Bool.or_eq_false_iff.mp ended).2
    cases step_cases stepped with
    | closes =>
      have fragment : news = connection.fragment.toList := (List.append_cancel_left lines).symm
      rw [lines_bytes_append,List.append_eq_nil_iff] at silent
      refine .failed rfl (by rw [nothing,fragment,silent.2]; rfl) ?_
      simp only [Option.toList_none,List.append_nil]
      rw [lines_bytes_append,silent.1,silent.2]
      rfl
    | registers here => cases stopped here
    | drained pumping => rw [drained] at pumping; cases pumping
    | pumps pumping => rw [drained] at pumping; cases pumping
    | waited here => cases stopped here
    | failed here => cases stopped here
    | aborts here => cases stopped here

/-! ## What the daemon has recorded -/

/-- The record and the lines on their way are all that was sent. A hook that has registered the command early
    changes nothing of this, and until the registration is read nothing is recorded. -/
structure Whole (launch : Launch) (key : AgentKey) (recorded : List UInt8) (scene : Scene) (sent : List UInt8) : Prop where
  known : Hooked scene.daemon key → recorded ++ lines_bytes scene.connection.lines = sent
  unknown : ¬ Hooked scene.daemon key → (∀ agent, scene.daemon.registered.lookup key = some agent → recorded = []) ∧
    lines_bytes scene.connection.lines = sent ∧ Before launch scene.launcher scene.connection sent

/-- Where the daemon knows the command, what it has recorded and the lines on their way are an end of what was
    sent; and all of it where nobody has aborted the command. -/
structure Follows (launch : Launch) (key : AgentKey) (ms : List SceneMove) (scene : Scene) (sent : List UInt8) : Prop where
  sends : Sends launch scene.launcher scene.connection sent
  unattached : ∀ agent, scene.daemon.registered.lookup key = some agent → agent.attached_terminal = none
  pending : lines_bytes scene.connection.lines <:+ sent
  held : ∀ agent, scene.daemon.registered.lookup key = some agent →
    recorded key (calls ms) ++ lines_bytes scene.connection.lines <:+ sent
  whole : (∀ b ∈ calls ms, ¬ Aborts b.input key) → Whole launch key (recorded key (calls ms)) scene sent

theorem recorded_away {bs : List BridgeMove} {b : BridgeMove} (away : b.pre.registered.lookup key = none) :
    recorded key (bs ++ [b]) = [] := by rw [recorded_snoc,away]

theorem recorded_there {bs : List BridgeMove} {b : BridgeMove} {agent : RegisteredAgent}
    (found : b.pre.registered.lookup key = some agent) :
    recorded key (bs ++ [b]) = recorded key bs ++ brought b.pre b.input key agent := by rw [recorded_snoc,found]

/-- After a call of the daemon that brings these bytes to the command, the rest is still an end of what was sent. -/
theorem recorded_call {bs : List BridgeMove} {b : BridgeMove} {bytes rest sent : List UInt8}
    (brings : ∀ agent, b.pre.registered.lookup key = some agent → brought b.pre b.input key agent = bytes)
    (pending : bytes ++ rest <:+ sent)
    (before : ∀ agent, b.pre.registered.lookup key = some agent → recorded key bs ++ (bytes ++ rest) <:+ sent) :
    recorded key (bs ++ [b]) ++ rest <:+ sent := by
  cases there : b.pre.registered.lookup key with
  | none =>
    rw [recorded_away there]
    exact (List.suffix_append bytes rest).trans pending
  | some agent =>
    rw [recorded_there there,brings agent there,List.append_assoc]
    exact before agent there

section
variable {kind : AgentKind} (known : parse_kind launch.kind = .ok kind)
include known

theorem follows_launcher {ms : List SceneMove} {scene : Scene} {sent : List UInt8} {step : Step} {launcher : Launcher}
    {connection : Connection} {m : SceneMove} (follows : Follows launch key ms scene sent) (same : calls (ms ++ [m]) = calls ms)
    (stepped : scene.launcher.step launch scene.connection step = some (launcher,connection)) :
    ∃ sent', Follows launch key (ms ++ [m]) { scene with launcher := launcher, connection := connection } sent' := by
  obtain ⟨news,lines,sends⟩ := step_sends known follows.sends stepped
  have pending : lines_bytes connection.lines = lines_bytes scene.connection.lines ++ lines_bytes news := by
    rw [lines,lines_bytes_append]
  refine ⟨sent ++ lines_bytes news,sends,follows.unattached,?_,?_,?_⟩
  · rw [pending]
    exact List.suffix_append_self_iff.mpr follows.pending
  · intro agent found
    rw [same,pending,← List.append_assoc]
    exact List.suffix_append_self_iff.mpr (follows.held agent found)
  · intro unaborted
    rw [same] at unaborted ⊢
    have whole := follows.whole unaborted
    constructor
    · intro hooked
      rw [pending,← List.append_assoc,whole.known hooked]
    · intro unhooked
      obtain ⟨nothing,all,before⟩ := whole.unknown unhooked
      exact ⟨nothing,by rw [pending,all],before_step before follows.sends stepped lines⟩

omit known in
/-- A call of the daemon that brings the bytes of the lines that it takes leaves the rest on its way. -/
theorem follows_call {ms : List SceneMove} {scene : Scene} {sent bytes : List UInt8} {rest : List Line} {m : SceneMove}
    {b : BridgeMove} (follows : Follows launch key ms scene sent) (called : calls (ms ++ [m]) = calls ms ++ [b])
    (move : bridge b) (pre : b.pre = scene.daemon) (kept : ∀ line ∈ rest, line ∈ scene.connection.lines)
    (parts : lines_bytes scene.connection.lines = bytes ++ lines_bytes rest)
    (brings : ∀ agent, b.pre.registered.lookup key = some agent → brought b.pre b.input key agent = bytes)
    (attaches : ∀ fresh, Registers b.input fresh → fresh.key = key → fresh.attached_terminal = none)
    (early : Before launch scene.launcher scene.connection sent → bytes = [] ∧
      (Hooked b.post key ∨ Before launch scene.launcher { scene.connection with lines := rest } sent)) :
    Follows launch key (ms ++ [m]) { scene with
      daemon := b.post
      connection := { scene.connection with lines := rest } } sent := by
  obtain ⟨sends,unattached,pending,held,whole⟩ := follows
  rw [← pre] at unattached held
  rw [parts] at pending held
  refine ⟨⟨?_,sends.left,sends.streaming,sends.early⟩,unattached_move move attaches unattached,
    (List.suffix_append bytes _).trans pending,fun agent found => ?_,fun unaborted => ?_⟩
  · intro line member
    refine sends.own line ?_
    rcases List.mem_append.mp member with among | left
    · exact List.mem_append_left _ (kept line among)
    · exact List.mem_append_right _ left
  · rw [called]
    exact recorded_call brings pending held
  · rw [called] at unaborted ⊢
    have stays : ¬ Aborts b.input key := unaborted b (by simp)
    have whole := whole (fun b' member => unaborted b' (List.mem_append_left _ member))
    obtain ⟨known,unknown⟩ := whole
    rw [← pre] at known unknown
    rw [parts] at known unknown
    constructor
    · intro _
      by_cases hooked : Hooked b.pre key
      · obtain ⟨agent,found,_⟩ := id hooked
        rw [recorded_there found,brings agent found,List.append_assoc]
        exact known hooked
      · obtain ⟨nothing,all,before⟩ := unknown hooked
        rw [(early before).1,List.nil_append] at all
        cases there : b.pre.registered.lookup key with
        | none => rw [recorded_away there]; exact all
        | some agent =>
          rw [recorded_there there,brings agent there,(early before).1,nothing agent there]
          exact all
    · intro unhooked
      have before_unhooked : ¬ Hooked b.pre key := fun hooked => unhooked (hooked_move move hooked stays)
      obtain ⟨nothing,all,before⟩ := unknown before_unhooked
      obtain ⟨quiet,hooked | still⟩ := early before
      · exact absurd hooked unhooked
      · rw [quiet,List.nil_append] at all
        refine ⟨fun agent found => ?_,all,still⟩
        cases there : b.pre.registered.lookup key with
        | none => exact recorded_away there
        | some agent => rw [recorded_there there,brings agent there,quiet,nothing agent there]; rfl

theorem follows_move {ms : List SceneMove} {sent : List UInt8} {m : SceneMove} (plays : Plays launch (kind,launch.agent_id) m)
    (follows : Follows launch (kind,launch.agent_id) ms m.pre sent) :
    ∃ sent', Follows launch (kind,launch.agent_id) (ms ++ [m]) m.post sent' := by
  cases plays with
  | @launcher scene step launcher connection stepped =>
    exact follows_launcher known follows (by rw [calls_snoc]; simp [bridged]) stepped
  | @takes scene line rest polled daemon reply reading next handled =>
    have own : Own launch line := follows.sends.own line (by simp [next])
    have parts : lines_bytes scene.connection.lines = line_bytes line ++ lines_bytes rest := by
      rw [next]
      rfl
    refine ⟨sent,follows_call follows (calls_snoc _ _) handled rfl (fun other among => by rw [next]; exact .tail _ among) parts
      (fun agent found => own_brought known own polled found (follows.unattached agent found))
      (fun fresh told _ => own_unattached known own told) ?_⟩
    intro before
    cases before with
    | early main none => rw [next] at none; cases none
    | next others first =>
      rw [next] at first
      cases first
      obtain ⟨fresh,reading,own_key,_⟩ := register_read known
      refine ⟨rfl,.inl ?_⟩
      rw [← own_key]
      exact registers_hooked handled ⟨_,⟨polled,rfl,rfl⟩,reading⟩
    | failed ended nothing silent =>
      rw [next,List.cons_append] at silent
      obtain ⟨quiet,silent⟩ := List.append_eq_nil_iff.mp (show line_bytes line ++ lines_bytes _ = [] from silent)
      exact ⟨quiet,.inr (.failed ended nothing silent)⟩
  | @stops scene =>
    have same : calls (ms ++ [⟨scene,.stops,{ scene with reading := false },none⟩]) = calls ms := by
      rw [calls_snoc]
      simp [bridged]
    refine ⟨sent,follows.sends,follows.unattached,follows.pending,?_,?_⟩
    · rw [same]; exact follows.held
    · rw [same]
      intro unaborted
      exact ⟨(follows.whole unaborted).known,(follows.whole unaborted).unknown⟩
  | @other scene event daemon reply handled apart =>
    have parts : lines_bytes scene.connection.lines = [] ++ lines_bytes scene.connection.lines := rfl
    exact ⟨sent,follows_call follows (calls_snoc _ _) handled rfl (fun line among => among) parts
      (fun agent found => apart_brought apart scene.daemon (follows.unattached agent found)) apart.attaches
      (fun before => ⟨rfl,.inr before⟩)⟩

/-- The connection is open and empty, and no write has failed. -/
structure CaughtUp (scene : Scene) : Prop where
  running : scene.launcher.streams = true
  streaming : scene.launcher.daemon_stream_enabled = true
  empty : scene.connection.lines = []

/-- Whatever fails and whoever else registers or aborts the command (if no one streams for it or attaches it to a
    terminal), the terminal buffer that the daemon has of it is the end of a stretch of the output of the child. The
    stretch begins with the output where nobody has aborted the command, and it goes up to the last byte that was read
    where the connection is empty and has not failed. -/
theorem launched_output {ms : List SceneMove} {scene : Scene} (path : Path (Plays launch (kind,launch.agent_id)) .start ms scene)
    {agent : RegisteredAgent} (found : scene.daemon.registered.lookup (kind,launch.agent_id) = some agent) :
    ∃ before stretch after, before ++ stretch ++ after = scene.launcher.stdout ∧
      agent.terminal_snapshot = stretch.rtake VT100_BUFFER_BYTES ∧
      ((∀ b ∈ calls ms, ¬ Aborts b.input (kind,launch.agent_id)) → before = []) ∧ (CaughtUp scene → after = []) := by
  have keeps := keeps_run (calls_run path) found
  obtain ⟨sent,follows⟩ : ∃ sent, Follows launch (kind,launch.agent_id) ms scene sent := by
    clear keeps found
    induction path with
    | refl =>
      refine ⟨[],sends_start launch,fun agent found => (by cases found),List.suffix_refl _,fun agent found => (by cases found),
        fun _ => ⟨?_,fun _ => ⟨fun _ _ => rfl,rfl,.early rfl rfl⟩⟩⟩
      rintro ⟨agent,found,_⟩
      cases found
    | next before move ih =>
      obtain ⟨sent,follows⟩ := ih
      exact follows_move known move follows
  obtain ⟨rest,whole⟩ := (List.prefix_append _ _).trans follows.sends.left
  have ends : CaughtUp scene → lines_bytes scene.connection.lines ++ rest = [] := by
    intro caught
    have all := (follows.sends.streaming caught.running caught.streaming).1
    rw [← whole] at all
    rw [caught.empty,List.self_eq_append_right.mp all]
    rfl
  have stretches : ∀ before, before ++ (recorded (kind,launch.agent_id) (calls ms) ++ lines_bytes scene.connection.lines) = sent →
      before ++ recorded (kind,launch.agent_id) (calls ms) ++ (lines_bytes scene.connection.lines ++ rest) = scene.launcher.stdout := by
    intro before parts
    rw [← whole,← parts]
    simp
  by_cases unaborted : ∀ b ∈ calls ms, ¬ Aborts b.input (kind,launch.agent_id)
  · have from_start : recorded (kind,launch.agent_id) (calls ms) ++ lines_bytes scene.connection.lines = sent := by
      have whole := follows.whole unaborted
      by_cases hooked : Hooked scene.daemon (kind,launch.agent_id)
      · exact whole.known hooked
      · obtain ⟨nothing,all,_⟩ := whole.unknown hooked
        rw [nothing agent found]
        exact all
    exact ⟨[],_,_,stretches [] from_start,keeps.last,fun _ => rfl,ends⟩
  · obtain ⟨before,parts⟩ := follows.held agent found
    exact ⟨before,_,_,stretches before parts,keeps.last,fun all => absurd all unaborted,ends⟩

end

/-- A shell that writes a greeting. -/
def greeting : Launch := ⟨7,"terminal","sh","/"⟩

def greeting_lines : List Event :=
  [.json_line (.ok (register_json greeting)) (.error ""),.json_line (.ok (stream_json greeting [0x68,0x69])) (.error "")]

/-- The scene while the shell runs: what the process has written, the daemon has read. -/
def greeting_scene (daemon : BridgeDaemon) (stdout : List UInt8) (lines : List Line) : Scene :=
  ⟨daemon,⟨.waiting,true,true,stdout⟩,⟨lines,none⟩,true⟩

def greeting_moves : List SceneMove :=
  let registered := (handle BridgeDaemon.new (.json_line (.ok (register_json greeting)) (.error "")))
  let streamed := (handle registered.1 (.json_line (.ok (stream_json greeting [0x68,0x69])) (.error "")))
  [⟨.start,.launcher (.registers .whole ""),greeting_scene BridgeDaemon.new [] [.ok (register_json greeting)],none⟩,
    ⟨greeting_scene BridgeDaemon.new [] [.ok (register_json greeting)],.takes (.error ""),greeting_scene registered.1 [] [],
      some (.json_line (.ok (register_json greeting)) (.error ""),registered.2)⟩,
    ⟨greeting_scene registered.1 [] [],.launcher (.reads (.ok [0x68,0x69]) .whole ""),
      greeting_scene registered.1 [0x68,0x69] [.ok (stream_json greeting [0x68,0x69])],none⟩,
    ⟨greeting_scene registered.1 [0x68,0x69] [.ok (stream_json greeting [0x68,0x69])],.takes (.error ""),
      greeting_scene streamed.1 [0x68,0x69] [],some (.json_line (.ok (stream_json greeting [0x68,0x69])) (.error ""),streamed.2)⟩]

theorem greeting_path : Path (Plays greeting (.Terminal,greeting.agent_id)) .start greeting_moves
    (greeting_scene (finish handle BridgeDaemon.new greeting_lines) [0x68,0x69] []) := by
  refine path_cons (Plays.launcher rfl) (path_cons (Plays.takes rfl rfl ?_)
    (path_cons (Plays.launcher rfl) (path_one (Plays.takes rfl rfl ?_))))
  · exact bridge_move_of _ _
  · exact bridge_move_of _ _

theorem launched_output_greeting : ∃ agent,
    (finish handle BridgeDaemon.new greeting_lines).registered.lookup (.Terminal,greeting.agent_id) = some agent ∧
      agent.terminal_snapshot = [0x68,0x69] := by
  have there : ((finish handle BridgeDaemon.new greeting_lines).registered.lookup (.Terminal,greeting.agent_id)).isSome := by
    decide
  obtain ⟨agent,found⟩ := Option.isSome_iff_exists.mp there
  obtain ⟨before,stretch,after,whole,last,first,caught⟩ := launched_output (show parse_kind greeting.kind = .ok .Terminal from rfl) greeting_path found
  have unaborted : ∀ b ∈ calls greeting_moves, ¬ Aborts b.input (.Terminal,greeting.agent_id) := by
    intro b among aborts
    obtain ⟨request,⟨polled,input,type⟩,_⟩ := aborts
    rcases List.mem_cons.mp among with rfl | among
    · cases input
      exact absurd type (show "agent.register" ≠ "session.abort" by decide)
    · rw [List.mem_singleton.mp among] at input
      cases input
      exact absurd type (show "terminal.stream" ≠ "session.abort" by decide)
  rw [first unaborted,caught ⟨rfl,rfl,rfl⟩,List.append_nil,List.nil_append] at whole
  rw [whole] at last
  exact ⟨agent,found,last⟩

end VibeBridge.Launched
