import Mathlib.Data.List.Forall2
import VibeBridge.Options
import VibeBridge.Quoting
import VibeBridge.Uninstall

/-!
What is launched. `terminal-shim`, `start` and `agent-shim` read their arguments and
write others for `launch`, which reads them again; the terminal shim is itself
started with a command line that was written into a profile. What comes out of the
last of these parsers is what was put into the first line (`profile_launches`).
-/
namespace VibeBridge.Launching
open VibeBridge.Text VibeBridge.TerminalProfiles VibeBridge.Base64 VibeBridge.Json Options

def DEFAULT_LCD_COLS : Int16 := 78

def DEFAULT_LCD_ROWS : Int16 := 15

/-! ## Numbers -/

/-- The loop of `i16::from_str` and `u16::from_str`, up to the largest number. -/
def from_digits (largest : Nat) (overflow : String) : Nat → List Char → Except String Nat
  | n, [] => .ok n
  | n, c :: rest =>
    if !c.isDigit then .error "invalid digit found in string"
    else if largest < 10 * n + (c.toNat - '0'.toNat) then .error overflow
    else from_digits largest overflow (10 * n + (c.toNat - '0'.toNat)) rest

def TOO_LARGE : String := "number too large to fit in target type"

/-- `i16::from_str`. -/
def parse_i16 (src : String) : Except String Int16 :=
  match src.toList with
  | [] => .error "cannot parse integer from empty string"
  | c :: digits =>
    if (c = '+' ∨ c = '-') ∧ digits = [] then .error "invalid digit found in string"
    else if c = '-' then
      (from_digits 32768 "number too small to fit in target type" 0 digits).map (fun n => Int16.ofInt (-(n : Int)))
    else (from_digits 32767 TOO_LARGE 0 (if c = '+' then digits else c :: digits)).map (fun n => Int16.ofInt n)

/-- `u16::from_str`. -/
def parse_u16 (src : String) : Except String UInt16 :=
  match src.toList with
  | [] => .error "cannot parse integer from empty string"
  | c :: digits =>
    if (c = '+' ∨ c = '-') ∧ digits = [] then .error "invalid digit found in string"
    else (from_digits 65535 TOO_LARGE 0 (if c = '+' then digits else c :: digits)).map UInt16.ofNat

def to_string (n : Int16) : String := toString n.toInt

theorem from_digits_value {largest : Nat} {overflow : String} {digits : List Char} (all : ∀ c ∈ digits, c.isDigit = true) (n : Nat)
    (fits : Nat.ofDigitChars 10 digits n ≤ largest) :
    from_digits largest overflow n digits = .ok (Nat.ofDigitChars 10 digits n) := by
  induction digits generalizing n with
  | nil => rfl
  | cons c digits ih =>
    obtain ⟨digit,later⟩ := List.forall_mem_cons.mp all
    rw [Nat.ofDigitChars_cons] at fits ⊢
    have grows : 10 * n + (c.toNat - '0'.toNat) ≤ Nat.ofDigitChars 10 digits (10 * n + (c.toNat - '0'.toNat)) := by
      rw [Nat.ofDigitChars_eq_ofDigitChars_zero]
      exact (Nat.le_mul_of_pos_left _ (Nat.pow_pos (by decide))).trans (Nat.le_add_right _ _)
    rw [from_digits,digit,Bool.not_true,if_neg Bool.false_ne_true,if_neg (by omega)]
    exact ih later _ fits

theorem from_digits_repr {largest n : Nat} (fits : n ≤ largest) (overflow : String) :
    from_digits largest overflow 0 (Nat.toDigits 10 n) = .ok n := by
  have value : Nat.ofDigitChars 10 (Nat.toDigits 10 n) 0 = n := Nat.ofDigitChars_ten_toDigits
  rw [from_digits_value (fun c member => Nat.isDigit_of_mem_toDigits (by decide) (by decide) member) 0 (by rwa [value]),value]

/-- A number is read as it was written. -/
theorem parse_to_string (n : Int16) : parse_i16 (to_string n) = .ok n := by
  have back := Int16.ofInt_toInt n
  rw [parse_i16,to_string]
  cases value : n.toInt with
  | ofNat m =>
    have fits : m ≤ 32767 := by
      have high := n.toInt_lt
      rw [value,Int.ofNat_eq_natCast] at high
      omega
    rw [value] at back
    have written : (toString (Int.ofNat m)).toList = Nat.toDigits 10 m := Nat.toList_repr
    obtain ⟨c,digits,split⟩ := List.exists_cons_of_ne_nil (Nat.toDigits_ne_nil (n := m) (b := 10))
    have digit : c.isDigit = true := Nat.isDigit_of_mem_toDigits (by decide) (by decide) (split ▸ List.mem_cons_self)
    have no_sign : c ≠ '+' ∧ c ≠ '-' := by
      constructor <;> rintro rfl <;> cases digit
    rw [written,split]
    dsimp only
    rw [if_neg (by simp [no_sign]),if_neg no_sign.2,if_neg no_sign.1,← split,from_digits_repr fits]
    exact congrArg Except.ok back
  | negSucc m =>
    have fits : m + 1 ≤ 32768 := by
      have low := n.le_toInt
      rw [value] at low
      omega
    rw [value] at back
    have written : (toString (Int.negSucc m)).toList = '-' :: Nat.toDigits 10 (m + 1) := by
      change ("-" ++ (m + 1).repr).toList = _
      rw [String.toList_append,Nat.toList_repr]
      rfl
    rw [written]
    dsimp only
    rw [if_neg (by simp [Nat.toDigits_ne_nil]),if_pos rfl,from_digits_repr fits]
    exact congrArg Except.ok back

/-! ## Options -/

section
variable {σ : Type}

/-- An option whose argument is kept as it is. -/
def text (missing : String) (set : String → σ) : Option (Effect σ String String) := some (.takes missing (fun value => .ok (set value)))

/-- An option whose argument is a number. -/
def number (flag : String) (set : Int16 → σ) : Option (Effect σ String String) :=
  some (.takes s!"{flag} needs N" (fun value =>
    match parse_i16 value with
    | .ok n => .ok (set n)
    | .error err => .error s!"{flag} invalid: {err}"))

/-- The options of a command, and the first argument that is none, or what follows `--`. -/
def parser (command : String) (option : σ → String → Option (Effect σ String String)) : Parser σ String String where
  separator := "--"
  option
  refused other := if starts_with other "--" then some s!"unknown {command} flag: {other}" else none

end

structure LaunchOpts where
  daemon_addr : Option String := none
  kind : Option String := none
  name : Option String := none
  cols : Int16 := DEFAULT_LCD_COLS
  rows : Int16 := DEFAULT_LCD_ROWS
  follow_console_size : Bool := false
  command : List String := []

def launch_option (opts : LaunchOpts) : String → Option (Effect LaunchOpts String String)
  | "--daemon" => text "--daemon needs ADDR" (fun addr => { opts with daemon_addr := some addr })
  | "--kind" => text "--kind needs KIND" (fun kind => { opts with kind := some kind })
  | "--name" => text "--name needs NAME" (fun name => { opts with name := some name })
  | "--cols" => number "--cols" (fun n => { opts with cols := n })
  | "--rows" => number "--rows" (fun n => { opts with rows := n })
  | "--follow-console-size" => some (.sets { opts with follow_console_size := true })
  | _ => none

def MISSING_COMMAND : String := "missing COMMAND to launch (use `-- claude` or `-- codex`)"

def parse_launch_args (raw : List String) : Except String LaunchOpts := do
  let (opts,command) ← parse (parser "launch" launch_option) {} raw
  if command.isEmpty then .error MISSING_COMMAND else .ok { opts with command }

structure StartOpts where
  daemon_addr : Option String := none
  device : String := "auto"
  kind : Option String := none
  name : Option String := none
  cols : Int16 := DEFAULT_LCD_COLS
  rows : Int16 := DEFAULT_LCD_ROWS
  follow_console_size : Bool := false
  command : List String := []

def start_option (opts : StartOpts) : String → Option (Effect StartOpts String String)
  | "--daemon" => text "--daemon needs ADDR" (fun addr => { opts with daemon_addr := some addr })
  | "--port" => some (.takes "--port needs N" (fun value =>
      match parse_u16 value with
      | .ok port => .ok { opts with daemon_addr := some s!"127.0.0.1:{port}" }
      | .error err => .error s!"--port invalid: {err}"))
  | "--device" => text "--device needs auto|PATH" (fun device => { opts with device })
  | "--kind" => text "--kind needs KIND" (fun kind => { opts with kind := some kind })
  | "--name" => text "--name needs NAME" (fun name => { opts with name := some name })
  | "--cols" => number "--cols" (fun n => { opts with cols := n })
  | "--rows" => number "--rows" (fun n => { opts with rows := n })
  | "--follow-console-size" => some (.sets { opts with follow_console_size := true })
  | _ => none

def parse_start_args (raw : List String) : Except String StartOpts := do
  let (opts,command) ← parse (parser "start" start_option) {} raw
  if command.isEmpty then .error MISSING_COMMAND else .ok { opts with command }

structure TerminalShimOpts where
  daemon_addr : Option String := none
  name : Option String := none
  cols : Int16 := DEFAULT_LCD_COLS
  rows : Int16 := DEFAULT_LCD_ROWS
  follow_console_size : Bool := false
  cmdline : Option String := none
  cmdline_b64 : Option String := none
  command : List String := []

def terminal_shim_option (opts : TerminalShimOpts) : String → Option (Effect TerminalShimOpts String String)
  | "--daemon" => text "--daemon needs ADDR" (fun addr => { opts with daemon_addr := some addr })
  | "--name" => text "--name needs NAME" (fun name => { opts with name := some name })
  | "--cols" => number "--cols" (fun n => { opts with cols := n })
  | "--rows" => number "--rows" (fun n => { opts with rows := n })
  | "--follow-console-size" => some (.sets { opts with follow_console_size := true })
  | "--cmdline" => text "--cmdline needs COMMANDLINE" (fun cmdline => { opts with cmdline := some cmdline })
  | "--cmdline-b64" => text "--cmdline-b64 needs B64" (fun encoded => { opts with cmdline_b64 := some encoded })
  | _ => none

def parse_terminal_shim_args (raw : List String) : Except String TerminalShimOpts := do
  let (opts,command) ← parse (parser "terminal-shim" terminal_shim_option) {} raw
  return { opts with command }

/-! ## Commands -/

/-- What the commands ask of their surroundings. -/
structure Surroundings where
  ensure_daemon_listening : String → Except String Unit
  resolve_win_hid_device : Except String (Option String)
  /-- `ReopenWinHidTransport::open`. -/
  open_device : String → Except String Unit
  /-- A connection to the daemon of `start` is accepted, in its ten seconds. -/
  binds : String → Bool
  /-- `VIBE_BRIDGE_DAEMON`. -/
  daemon : Option String
  /-- What is said of bytes that are no text. -/
  utf8_error : List UInt8 → String
  resolve_agent_command : String → List String → Except String (List String)

def DEFAULT_ADDR : String := "127.0.0.1:8765"

def shell_command (cmdline : String) : List String := ["cmd.exe","/D","/S","/C",cmdline]

variable (surroundings : Surroundings)

def terminal_shim_command (opts : TerminalShimOpts) : Except String (List String) :=
  match opts.cmdline_b64 with
  | some encoded =>
    match base64_decode_bytes encoded with
    | .error err => .error err
    | .ok bytes =>
      match from_utf8 bytes with
      | none => .error s!"--cmdline-b64 decoded invalid utf-8: {surroundings.utf8_error bytes}"
      | some cmdline => .ok (shell_command cmdline)
  | none =>
    match opts.cmdline with
    | some cmdline => .ok (shell_command cmdline)
    | none => .ok (if opts.command.isEmpty then ["powershell.exe"] else opts.command)

/-- An option of `launch`, where it is given. -/
def given (flag : String) (value : Option String) : List String :=
  match value with
  | some value => [flag,value]
  | none => []

/-- The arguments that are written for `launch`. -/
def launch_args (addr : String) (kind name : Option String) (size : Option (Int16 × Int16)) (follow_console_size : Bool)
    (command : List String) : List String :=
  given "--daemon" (some addr) ++ (given "--kind" kind ++ (given "--name" name ++
    (given "--cols" (size.map (fun size => to_string size.1)) ++ (given "--rows" (size.map (fun size => to_string size.2)) ++
      (if follow_console_size then ["--follow-console-size"] else []))))) ++ "--" :: command

def terminal_shim_launch_args (opts : TerminalShimOpts) (addr : String) (command : List String) : List String :=
  launch_args addr (some "terminal") (some (opts.name.getD "Vibe Terminal")) (some (opts.cols,opts.rows))
    opts.follow_console_size command

def start_launch_args (opts : StartOpts) (addr : String) : List String :=
  launch_args addr opts.kind opts.name (some (opts.cols,opts.rows)) opts.follow_console_size opts.command

def agent_launch_args (kind addr : String) (command : List String) : List String :=
  launch_args addr (some kind) (some kind) none false command

/-- What becomes of a command: it is launched, or it is run without a capture, for a reason. -/
inductive Started
  | launched (opts : LaunchOpts)
  | passed (command : List String) (reason : String)

def run_terminal_shim (raw : List String) : Except String Started := do
  let opts ← parse_terminal_shim_args raw
  let addr := opts.daemon_addr.getD DEFAULT_ADDR
  let command ← terminal_shim_command surroundings opts
  match surroundings.ensure_daemon_listening addr with
  | .error err => return .passed command err
  | .ok _ =>
    match parse_launch_args (terminal_shim_launch_args opts addr command) with
    | .error err => return .passed command err
    | .ok launch => return .launched launch

/-- The device that `start` opens. -/
def start_device (device : String) : Except String Unit := do
  let device_path ← if device = "auto" then
      match surroundings.resolve_win_hid_device with
      | .error err => .error err
      | .ok none => .error "no Vibe HID 359f:2120 device found"
      | .ok (some device_path) => .ok device_path
    else .ok device
  surroundings.open_device device_path

/-- `start` opens the device and waits for its own daemon before it launches. -/
def run_start (raw : List String) : Except String LaunchOpts := do
  let opts ← parse_start_args raw
  let addr := opts.daemon_addr.getD DEFAULT_ADDR
  start_device surroundings opts.device
  if !surroundings.binds addr then .error s!"timeout waiting for daemon to bind {addr} (HID daemon thread crashed?)"
  parse_launch_args (start_launch_args opts addr)

/-- `run_agent_shim`, outside of a captured terminal. -/
def run_agent_shim (raw : List String) : Except String LaunchOpts :=
  match raw with
  | [] => .error "usage: agent-shim codex|claude [ARGS...]"
  | kind :: agent_args => do
    if kind ≠ "codex" ∧ kind ≠ "claude" then .error s!"unsupported agent kind: {kind}"
    let addr := surroundings.daemon.getD DEFAULT_ADDR
    surroundings.ensure_daemon_listening addr
    let command ← surroundings.resolve_agent_command kind agent_args
    parse_launch_args (agent_launch_args kind addr command)

/-! ### What is handed over -/

/-- What `launch` makes of the arguments that are written for it. -/
def handed (addr : String) (kind name : Option String) (size : Option (Int16 × Int16)) (follow_console_size : Bool)
    (command : List String) : LaunchOpts where
  daemon_addr := some addr
  kind
  name
  cols := (size.map Prod.fst).getD DEFAULT_LCD_COLS
  rows := (size.map Prod.snd).getD DEFAULT_LCD_ROWS
  follow_console_size
  command

section
variable {σ : Type} {option : σ → String → Option (Effect σ String String)} {opts next : σ} {command flag : String}

theorem reads_given {missing : String} {set : String → σ} (apart : flag ≠ "--") (taken : option opts flag = text missing set)
    (value : Option String) :
    Reads (parser command option) opts (given flag value) ((value.map set).getD opts) := by
  cases value with
  | none => exact Reads.nil opts
  | some value => exact Reads.takes apart taken rfl

theorem reads_number {set : Int16 → σ} (apart : flag ≠ "--") (taken : option opts flag = number flag set) (n : Option Int16) :
    Reads (parser command option) opts (given flag (n.map to_string)) ((n.map set).getD opts) := by
  cases n with
  | none => exact Reads.nil opts
  | some n =>
    refine Reads.takes apart taken ?_
    rw [parse_to_string]
    rfl

end

/-- `launch` reads what was written for it, whatever the command is. -/
theorem parse_handed (addr : String) (kind name : Option String) (size : Option (Int16 × Int16)) (follow_console_size : Bool)
    (command : List String) : parse_launch_args (launch_args addr kind name size follow_console_size command) =
      if command.isEmpty then .error MISSING_COMMAND
      else .ok (handed addr kind name size follow_console_size command) := by
  have reads : Reads (parser "launch" launch_option) {}
      (given "--daemon" (some addr) ++ (given "--kind" kind ++ (given "--name" name ++
        (given "--cols" (size.map (fun size => to_string size.1)) ++
          (given "--rows" (size.map (fun size => to_string size.2)) ++
            (if follow_console_size then ["--follow-console-size"] else []))))))
      (handed addr kind name size follow_console_size []) := by
    have cols : size.map (fun size => to_string size.1) = (size.map Prod.fst).map to_string := by cases size <;> rfl
    have rows : size.map (fun size => to_string size.2) = (size.map Prod.snd).map to_string := by cases size <;> rfl
    rw [cols,rows]
    refine (reads_given (by decide) rfl _).append ((reads_given (by decide) rfl _).append ((reads_given (by decide) rfl _).append
      ((reads_number (by decide) rfl _).append ((reads_number (by decide) rfl _).append ?_))))
    cases follow_console_size with
    | true =>
      refine Reads.sets (by decide) ?_
      cases kind <;> cases name <;> cases size <;> rfl
    | false =>
      cases kind <;> cases name <;> cases size <;> exact Reads.nil _
  rw [parse_launch_args,launch_args]
  have whole := reads.rest command
  change parse _ _ (_ ++ "--" :: command) = _ at whole
  rw [whole]
  cases command <;> rfl

variable {surroundings : Surroundings}

theorem shim_command_some {opts : TerminalShimOpts} {command : List String}
    (found : terminal_shim_command surroundings opts = .ok command) : command ≠ [] := by
  rintro rfl
  rw [terminal_shim_command] at found
  split at found
  · split at found
    · cases found
    · split at found <;> cases found
  · split at found
    · cases found
    · have same := Except.ok.inj found
      split at same
      · cases same
      · rename_i some_there
        exact some_there (List.isEmpty_iff.mpr same)

theorem start_command_some {raw : List String} {opts : StartOpts} (accepted : parse_start_args raw = .ok opts) :
    opts.command ≠ [] := by
  rw [parse_start_args] at accepted
  cases read : parse (parser "start" start_option) {} raw with
  | error err =>
    rw [read] at accepted
    cases accepted
  | ok found =>
    rw [read] at accepted
    change (if found.2.isEmpty then Except.error MISSING_COMMAND else .ok { found.1 with command := found.2 }) = .ok opts at accepted
    split at accepted
    · cases accepted
    · rename_i some_there
      cases accepted
      simpa using some_there

theorem run_terminal_shim_eq (surroundings : Surroundings) (raw : List String) : run_terminal_shim surroundings raw = do
    let opts ← parse_terminal_shim_args raw
    let command ← terminal_shim_command surroundings opts
    match surroundings.ensure_daemon_listening (opts.daemon_addr.getD DEFAULT_ADDR) with
    | .error err => return .passed command err
    | .ok _ => return (.launched
        { daemon_addr := some (opts.daemon_addr.getD DEFAULT_ADDR), kind := some "terminal",
          name := some (opts.name.getD "Vibe Terminal"), cols := opts.cols, rows := opts.rows,
          follow_console_size := opts.follow_console_size, command }) := by
  rw [run_terminal_shim]
  cases parse_terminal_shim_args raw with
  | error err => rfl
  | ok opts =>
    change (terminal_shim_command surroundings opts >>= _) = terminal_shim_command surroundings opts >>= _
    cases found : terminal_shim_command surroundings opts with
    | error err => rfl
    | ok command =>
      have written : parse_launch_args (terminal_shim_launch_args opts (opts.daemon_addr.getD DEFAULT_ADDR) command) =
          .ok (handed (opts.daemon_addr.getD DEFAULT_ADDR) (some "terminal") (some (opts.name.getD "Vibe Terminal"))
            (some (opts.cols,opts.rows)) opts.follow_console_size command) := by
        rw [terminal_shim_launch_args,parse_handed,if_neg (by simpa using shim_command_some found)]
      change (match surroundings.ensure_daemon_listening (opts.daemon_addr.getD DEFAULT_ADDR) with
        | .error err => _
        | .ok _ => _) = _
      rw [written]
      rfl

theorem run_start_eq (surroundings : Surroundings) (raw : List String) : run_start surroundings raw = do
    let opts ← parse_start_args raw
    start_device surroundings opts.device
    if !surroundings.binds (opts.daemon_addr.getD DEFAULT_ADDR) then
      .error s!"timeout waiting for daemon to bind {opts.daemon_addr.getD DEFAULT_ADDR} (HID daemon thread crashed?)"
    return {
      daemon_addr := some (opts.daemon_addr.getD DEFAULT_ADDR), kind := opts.kind, name := opts.name, cols := opts.cols,
      rows := opts.rows, follow_console_size := opts.follow_console_size, command := opts.command } := by
  rw [run_start]
  cases accepted : parse_start_args raw with
  | error err => rfl
  | ok opts =>
    have read : parse_launch_args (start_launch_args opts (opts.daemon_addr.getD DEFAULT_ADDR)) =
        .ok (handed (opts.daemon_addr.getD DEFAULT_ADDR) opts.kind opts.name (some (opts.cols,opts.rows)) opts.follow_console_size
          opts.command) := by
      rw [start_launch_args,parse_handed,if_neg (by simpa using start_command_some accepted)]
    cases opened : start_device surroundings opts.device with
    | error err =>
      simp only [bind,Except.bind,opened]
    | ok _ =>
      cases bound : surroundings.binds (opts.daemon_addr.getD DEFAULT_ADDR) with
      | false =>
        simp only [bind,Except.bind,opened,bound]
        rfl
      | true =>
        simp only [bind,Except.bind,opened,bound]
        exact read

/-- What the three of them have read is what `launch` reads again, with the address filled in. -/
theorem handed_over (surroundings : Surroundings) (raw : List String) :
    (run_terminal_shim surroundings raw = do
      let opts ← parse_terminal_shim_args raw
      let command ← terminal_shim_command surroundings opts
      match surroundings.ensure_daemon_listening (opts.daemon_addr.getD DEFAULT_ADDR) with
      | .error err => return .passed command err
      | .ok _ => return (.launched
          { daemon_addr := some (opts.daemon_addr.getD DEFAULT_ADDR), kind := some "terminal",
            name := some (opts.name.getD "Vibe Terminal"), cols := opts.cols, rows := opts.rows,
            follow_console_size := opts.follow_console_size, command })) ∧
    (run_start surroundings raw = do
      let opts ← parse_start_args raw
      start_device surroundings opts.device
      if !surroundings.binds (opts.daemon_addr.getD DEFAULT_ADDR) then
        .error s!"timeout waiting for daemon to bind {opts.daemon_addr.getD DEFAULT_ADDR} (HID daemon thread crashed?)"
      return {
        daemon_addr := some (opts.daemon_addr.getD DEFAULT_ADDR), kind := opts.kind, name := opts.name, cols := opts.cols,
        rows := opts.rows, follow_console_size := opts.follow_console_size, command := opts.command }) ∧
    run_agent_shim surroundings raw = match raw with
      | [] => .error "usage: agent-shim codex|claude [ARGS...]"
      | kind :: agent_args => do
        if kind ≠ "codex" ∧ kind ≠ "claude" then .error s!"unsupported agent kind: {kind}"
        surroundings.ensure_daemon_listening (surroundings.daemon.getD DEFAULT_ADDR)
        let command ← surroundings.resolve_agent_command kind agent_args
        if command.isEmpty then .error MISSING_COMMAND
        else return { daemon_addr := some (surroundings.daemon.getD DEFAULT_ADDR), kind := some kind, name := some kind, command } := by
  refine ⟨run_terminal_shim_eq surroundings raw,run_start_eq surroundings raw,?_⟩
  cases raw with
  | nil => rfl
  | cons kind agent_args =>
    rw [run_agent_shim]
    dsimp only
    simp only [agent_launch_args,parse_handed]
    rfl

/-! ## Command lines -/

def is_blank (c : Char) : Bool := c == ' ' || c == '\t'

/-- `std::env::args` of a process: its command line ends at its first NUL. -/
def argv (exe_name command_line : String) : List String :=
  let line := command_line.toList.takeWhile (· ≠ '\x00')
  if line.isEmpty then [exe_name]
  else String.ofList (Quoting.program '"' is_blank false line).1 ::
    (Quoting.remaining '"' '\\' is_blank (Quoting.program '"' is_blank false line).2).map String.ofList

/-- The terminal shim, where `main` calls it. -/
def main (surroundings : Surroundings) (argv : List String) : Option (Except String Started) :=
  match argv with
  | _ :: command :: rest =>
    if command = "terminal-shim" ∨ command = "capture-shell" ∨ command = "vibe-terminal" then
      some (run_terminal_shim surroundings rest)
    else none
  | _ => none

/-! ### What is read from a line -/

theorem quote_body_eq (cs : List Char) (n : Nat) : quote_body cs n = Quoting.body '"' '\\' cs n := by
  induction cs generalizing n with
  | nil => rfl
  | cons c cs ih => rw [quote_body,Quoting.body,ih,ih]

theorem mem_quote_body {c : Char} {cs : List Char} {n : Nat} (member : c ∈ quote_body cs n) : c = '\\' ∨ c = '"' ∨ c ∈ cs := by
  induction cs generalizing n with
  | nil => exact .inl (List.eq_of_mem_replicate member)
  | cons d cs ih =>
    rw [quote_body] at member
    have later {n : Nat} (there : c ∈ quote_body cs n) : c = '\\' ∨ c = '"' ∨ c ∈ d :: cs :=
      (ih there).imp_right (.imp_right (List.mem_cons_of_mem d))
    split at member
    · exact later member
    · split at member <;> rcases List.mem_append.mp member with slash | after
      · exact .inl (List.eq_of_mem_replicate slash)
      · rcases List.mem_cons.mp after with same | there
        · exact .inr (.inl same)
        · exact later there
      · exact .inl (List.eq_of_mem_replicate slash)
      · rcases List.mem_cons.mp after with same | there
        · exact .inr (.inr (List.mem_cons.mpr (.inl same)))
        · exact later there

theorem mem_quoted {c : Char} {value : String} (member : c ∈ (quote_windows_arg value).toList) :
    c = '\\' ∨ c = '"' ∨ c ∈ value.toList := by
  rw [quote_windows_arg] at member
  split at member
  · exact .inr (.inr member)
  · rw [String.toList_ofList,List.mem_cons,List.mem_append,List.mem_singleton] at member
    rcases member with same | within | same
    · exact .inr (.inl same)
    · exact mem_quote_body within
    · exact .inr (.inl same)

/-- The piece of a line is read as the argument. -/
def Written (piece arg : String) : Prop := Quoting.Reads '"' '\\' is_blank piece.toList arg.toList

theorem apart : '\\' ≠ '"' := by decide

theorem blank_whitespace {c : Char} (solid : is_whitespace c = false) : is_blank c = false := by
  rw [is_blank,Bool.or_eq_false_iff,beq_eq_false_iff_ne,beq_eq_false_iff_ne]
  constructor <;> rintro rfl <;> exact absurd solid (by decide)

/-- A word without blanks, quotes and backslashes. -/
def Plain (word : List Char) : Prop := word ≠ [] ∧ ∀ c ∈ word, c ≠ '\\' ∧ c ≠ '"' ∧ is_whitespace c = false

theorem written_plain {word : String} (plain : Plain word.toList) : Written word word :=
  Quoting.arguments_plain plain.1 (fun c member =>
    ⟨(plain.2 c member).1,(plain.2 c member).2.1,blank_whitespace (plain.2 c member).2.2⟩)

/-- How `quote_windows_arg` writes a value: as it is, or between quotes. -/
theorem quote_cases (value : String) : (quote_windows_arg value = value ∧ Plain value.toList) ∨
    (quote_windows_arg value).toList = Quoting.enclosed '"' '\\' value.toList := by
  rw [quote_windows_arg]
  split
  · rename_i plain
    left
    simp only [Bool.and_eq_true,Bool.not_eq_true',List.any_eq_false] at plain
    refine ⟨rfl,?_,?_⟩
    · intro empty
      simp [String.toList_eq_nil_iff.mp empty] at plain
    · intro c member
      have other := plain.2 c member
      simp only [Bool.or_eq_true,not_or,Bool.not_eq_true,beq_eq_false_iff_ne,ne_eq] at other
      exact ⟨other.2,other.1.2,other.1.1⟩
  · exact .inr (by rw [String.toList_ofList,quote_body_eq,Quoting.enclosed])

/-- A quoted value is read as it was given, whatever it is. -/
theorem written_quoted (value : String) : Written (quote_windows_arg value) value := by
  rcases quote_cases value with ⟨same,plain⟩ | enclosed
  · rw [same]
    exact written_plain plain
  · rw [Written,enclosed]
    exact Quoting.arguments_enclosed apart value.toList

theorem coded_slash {c : Char} (coded : Coded c) : c ≠ '\\' := by
  have digits : ∀ n < 64, digit n ≠ '\\' := by decide +kernel
  rcases coded with ⟨n,rfl⟩ | rfl
  · rw [digit_mod]
    exact digits _ (Nat.mod_lt n (by decide))
  · decide

theorem written_encoded {bytes : List UInt8} (some_there : bytes ≠ []) :
    Written (base64_encode_bytes bytes) (base64_encode_bytes bytes) := by
  refine written_plain ⟨?_,?_⟩
  · intro empty
    exact some_there (encoded_empty (String.toList_eq_nil_iff.mp empty))
  · intro c member
    rw [base64_encode_bytes,String.toList_ofList] at member
    have coded := encode_coded bytes c member
    obtain ⟨_,solid,unquoted,_⟩ := coded_plain coded
    exact ⟨coded_slash coded,unquoted,solid⟩

theorem remaining_line {pieces args : List String} (written : List.Forall₂ Written pieces args) {rest : List Char}
    (ended : CommandLines.Ended '"' '\\' is_blank rest) :
    (Quoting.remaining '"' '\\' is_blank ((" ".intercalate pieces).toList ++ rest)).map String.ofList =
      args ++ (Quoting.remaining '"' '\\' is_blank rest).map String.ofList := by
  have reads : List.Forall₂ (Quoting.Reads '"' '\\' is_blank) (pieces.map String.toList) (args.map String.toList) :=
    List.forall₂_map_left_iff.mpr (List.forall₂_map_right_iff.mpr written)
  have texts : String.ofList ∘ String.toList = id := funext (fun s => String.ofList_toList)
  have blank : " ".toList = [' '] := rfl
  rw [String.toList_intercalate,blank,Quoting.remaining_pieces (by decide) (by decide) rfl reads ended,List.map_append,
    List.map_map,texts,List.map_id]

/-- The text can be the path of a file: it has no quote, no NUL and no backslash at its end. -/
def Executable (exe : String) : Prop := '"' ∉ exe.toList ∧ '\x00' ∉ exe.toList ∧ exe.toList.getLast? ≠ some '\\'

/-- The command line of a program. -/
theorem argv_line {exe line : String} (path : Executable exe) (free : '\x00' ∉ line.toList) (exe_name : String) :
    argv exe_name (quote_windows_arg exe ++ " " ++ line) =
      exe :: (Quoting.remaining '"' '\\' is_blank line.toList).map String.ofList := by
  obtain ⟨unquoted,no_nul,last⟩ := path
  have whole : (quote_windows_arg exe ++ " " ++ line).toList.takeWhile (· ≠ '\x00') =
      (quote_windows_arg exe).toList ++ ' ' :: line.toList := by
    rw [String.toList_append,String.toList_append,List.append_assoc]
    refine List.takeWhile_eq_self_iff.mpr ?_
    intro c member
    rw [decide_eq_true_eq]
    rintro rfl
    rcases List.mem_append.mp member with name | later
    · rcases mem_quoted name with slash | open_quote | within
      · cases slash
      · cases open_quote
      · exact no_nul within
    · exact (List.mem_cons.mp later).elim (by decide) free
  have named : Quoting.program '"' is_blank false ((quote_windows_arg exe).toList ++ ' ' :: line.toList) =
      (exe.toList,line.toList) := by
    rcases quote_cases exe with ⟨same,plain⟩ | enclosed
    · rw [same,Quoting.program_plain (fun c member => ⟨(plain.2 c member).2.1,blank_whitespace (plain.2 c member).2.2⟩),
        Quoting.program_blank (by decide) rfl]
      simp
    · obtain ⟨rest,name⟩ := Quoting.program_enclosed (show ' ' ≠ '"' by decide) (show is_blank ' ' = true from rfl) apart unquoted
        line.toList
      rw [enclosed]
      exact Prod.ext (name last) rest
  rw [argv,whole,if_neg (by simp),named,String.ofList_toList]

/-! ### The terminal shim -/

/-- What the line of a wrapped profile has before the command line that it stands for. -/
def shim_words (addr name : String) : List String :=
  ["terminal-shim","--daemon",quote_windows_arg addr,"--name",quote_windows_arg name,"--follow-console-size",MARK]

theorem build_line (exe addr name original : String) : build_terminal_profile_commandline exe addr name original =
    quote_windows_arg exe ++ " " ++ (" ".intercalate (shim_words addr name) ++ " " ++ base64_encode_bytes (as_bytes original)) := by
  have first : " terminal-shim --daemon " = " " ++ "terminal-shim" ++ " " ++ "--daemon" ++ " " := by decide
  have second : " --name " = " " ++ "--name" ++ " " := by decide
  have third : " --follow-console-size --cmdline-b64 " = " " ++ "--follow-console-size" ++ " " ++ MARK ++ " " := by decide
  rw [build_terminal_profile_commandline,first,second,third,shim_words]
  simp only [String.intercalate_cons_cons,String.intercalate_singleton,String.append_assoc]

theorem written_word {word : String} (plain : word ≠ "" ∧ word.toList.all (fun c => c != '\\' && c != '"' && !is_whitespace c)) :
    Written word word := by
  refine written_plain ⟨fun empty => plain.1 (String.toList_eq_nil_iff.mp empty),?_⟩
  intro c member
  simpa [and_assoc] using List.all_eq_true.mp plain.2 c member

theorem written_shim (addr name : String) : List.Forall₂ Written (shim_words addr name)
    ["terminal-shim","--daemon",addr,"--name",name,"--follow-console-size",MARK] := by
  refine .cons (written_word (by decide)) (.cons (written_word (by decide)) (.cons (written_quoted addr) (.cons
    (written_word (by decide)) (.cons (written_quoted name) (.cons (written_word (by decide)) (.cons (written_word (by decide)) .nil))))))

theorem encoded_free (bytes : List UInt8) : '\x00' ∉ (base64_encode_bytes bytes).toList := by
  intro member
  rw [base64_encode_bytes,String.toList_ofList] at member
  have digits : ∀ n < 64, digit n ≠ '\x00' := by decide +kernel
  rcases encode_coded _ _ member with ⟨n,same⟩ | same
  · rw [digit_mod] at same
    exact digits _ (Nat.mod_lt n (by decide)) same.symm
  · cases same

theorem quoted_free {value : String} (free : '\x00' ∉ value.toList) : '\x00' ∉ (quote_windows_arg value).toList := by
  intro member
  rcases mem_quoted member with slash | open_quote | within
  · cases slash
  · cases open_quote
  · exact free within

/-- The line of the shim has no NUL, so all of it reaches the shim. -/
theorem shim_free {addr name : String} (addr_free : '\x00' ∉ addr.toList) (name_free : '\x00' ∉ name.toList) (bytes : List UInt8) :
    '\x00' ∉ (" ".intercalate (shim_words addr name) ++ " " ++ base64_encode_bytes bytes).toList := by
  have words : ∀ word ∈ shim_words addr name, '\x00' ∉ word.toList := by
    simp only [shim_words,List.forall_mem_cons]
    exact ⟨by decide,by decide,quoted_free addr_free,by decide,quoted_free name_free,by decide,by decide,
      fun _ none => absurd none List.not_mem_nil⟩
  rw [String.toList_append,String.toList_append,List.mem_append,List.mem_append,not_or,not_or]
  refine ⟨⟨?_,by decide⟩,encoded_free bytes⟩
  intro member
  rw [String.toList_intercalate] at member
  rcases Words.mem_intercalate member with blank | ⟨piece,there,inside⟩
  · exact absurd blank (by decide)
  · obtain ⟨word,given,rfl⟩ := List.mem_map.mp there
    exact words word given inside

/-- The arguments of the shim, as it is started: where the command line is empty, the last one is missing. -/
theorem argv_shim {exe addr name : String} (path : Executable exe) (addr_free : '\x00' ∉ addr.toList) (name_free : '\x00' ∉ name.toList)
    (exe_name original : String) : argv exe_name (build_terminal_profile_commandline exe addr name original) =
      exe :: "terminal-shim" :: (["--daemon",addr,"--name",name,"--follow-console-size",MARK] ++
        if original = "" then [] else [base64_encode_bytes (as_bytes original)]) := by
  rw [build_line,argv_line path (shim_free addr_free name_free _)]
  by_cases empty : original = ""
  · have nothing : base64_encode_bytes (as_bytes original) = "" := by
      rw [empty,as_bytes_empty.mpr rfl]
      rfl
    have ended : CommandLines.Ended '"' '\\' is_blank " ".toList := by
      rintro c more same
      cases same
      decide
    rw [nothing,String.append_empty,String.toList_append,remaining_line (written_shim addr name) ended,if_pos empty]
    rfl
  · have last : List.Forall₂ Written [base64_encode_bytes (as_bytes original)] [base64_encode_bytes (as_bytes original)] :=
      .cons (written_encoded (fun nothing => empty (as_bytes_empty.mp nothing))) .nil
    have joined : " ".intercalate (shim_words addr name) ++ " " ++ base64_encode_bytes (as_bytes original) =
        " ".intercalate (shim_words addr name ++ [base64_encode_bytes (as_bytes original)]) := by
      rw [String.intercalate_append_of_ne_nil (by simp [shim_words]) (by simp),String.intercalate_singleton]
    have line := remaining_line (List.rel_append (written_shim addr name) last) CommandLines.ended_nil
    rw [List.append_nil] at line
    rw [joined,line,if_neg empty]
    rfl

/-- What the shim starts for a command line. -/
def started (surroundings : Surroundings) (addr name original : String) : Started :=
  match surroundings.ensure_daemon_listening addr with
  | .error err => .passed (shell_command original) err
  | .ok _ => .launched
    { daemon_addr := some addr, kind := some "terminal", name := some name, follow_console_size := true,
      command := shell_command original }

theorem shim_options (addr name : String) : Reads (parser "terminal-shim" terminal_shim_option) {}
    ["--daemon",addr,"--name",name,"--follow-console-size"]
    { daemon_addr := some addr, name := some name, follow_console_size := true } := by
  have daemon : Reads (parser "terminal-shim" terminal_shim_option) {} (given "--daemon" (some addr)) _ :=
    reads_given (by decide) rfl (some addr)
  have named : Reads (parser "terminal-shim" terminal_shim_option) { daemon_addr := some addr } (given "--name" (some name)) _ :=
    reads_given (by decide) rfl (some name)
  exact daemon.append (named.append (Reads.sets (by decide) rfl))

theorem parse_shim (addr name original : String) : parse_terminal_shim_args
    (["--daemon",addr,"--name",name,"--follow-console-size",MARK] ++
      if original = "" then [] else [base64_encode_bytes (as_bytes original)]) =
    if original = "" then .error "--cmdline-b64 needs B64"
    else .ok { daemon_addr := some addr, name := some name, follow_console_size := true,
               cmdline_b64 := some (base64_encode_bytes (as_bytes original)) } := by
  by_cases empty : original = ""
  · have lacks : parse (parser "terminal-shim" terminal_shim_option) {}
        (["--daemon",addr,"--name",name,"--follow-console-size"] ++ [MARK]) = .error "--cmdline-b64 needs B64" :=
      (shim_options addr name).lacks (by decide) rfl
    rw [if_pos empty,if_pos empty,List.append_nil,parse_terminal_shim_args]
    exact congrArg (· >>= _) lacks
  · have mark : Reads (parser "terminal-shim" terminal_shim_option)
        { daemon_addr := some addr, name := some name, follow_console_size := true }
        (given MARK (some (base64_encode_bytes (as_bytes original)))) _ := reads_given (by decide) rfl _
    rw [if_neg empty,if_neg empty,parse_terminal_shim_args]
    exact congrArg (· >>= _) ((shim_options addr name).append mark).end

/-- The shim reads back what its line was built from, and fails where that is empty. -/
theorem main_shim (surroundings : Surroundings) {exe addr name : String} (path : Executable exe) (addr_free : '\x00' ∉ addr.toList)
    (name_free : '\x00' ∉ name.toList) (exe_name original : String) :
    main surroundings (argv exe_name (build_terminal_profile_commandline exe addr name original)) =
      some (if original = "" then .error "--cmdline-b64 needs B64" else .ok (started surroundings addr name original)) := by
  rw [argv_shim path addr_free name_free,main,if_pos (.inl rfl),run_terminal_shim_eq,parse_shim]
  by_cases empty : original = ""
  · rw [if_pos empty,if_pos empty]
    rfl
  · have decoded : terminal_shim_command surroundings
        { daemon_addr := some addr, name := some name, follow_console_size := true,
          cmdline_b64 := some (base64_encode_bytes (as_bytes original)) } = .ok (shell_command original) := by
      rw [terminal_shim_command]
      dsimp only
      rw [decode_encode]
      dsimp only
      rw [from_utf8_as_bytes]
    rw [if_neg empty,if_neg empty]
    change some (terminal_shim_command surroundings _ >>= _) = _
    rw [decoded,started]
    change some (match surroundings.ensure_daemon_listening addr with
      | .error err => _
      | .ok _ => _) = _
    cases surroundings.ensure_daemon_listening addr <;> rfl

/-- A wrapped profile starts the command line that it had, under its name, or without a capture where there is no daemon. -/
theorem profile_launches (surroundings : Surroundings) {profile : Value} {commandline : String} (call : Install)
    (object : profile.is_object = true) (visible : is_hidden profile = false)
    (said : terminal_profile_original_commandline profile = some commandline) (path : Executable call.exe)
    (addr_free : '\x00' ∉ call.addr.toList) (name_free : '\x00' ∉ (profile_name profile).toList) (exe_name : String) :
    ∃ line, (installed profile call).text_at "commandline" = some line ∧
      main surroundings (argv exe_name line) = some (if stands_for commandline = "" then .error "--cmdline-b64 needs B64"
        else .ok (started surroundings call.addr ("Terminal: " ++ profile_name profile) (stands_for commandline))) := by
  refine ⟨shim profile call (stands_for commandline),?_,?_⟩
  · rw [installed_supported object visible call said,text_at_insert object]
  · have free : '\x00' ∉ ("Terminal: " ++ profile_name profile).toList := by
      rw [String.toList_append,List.mem_append,not_or]
      exact ⟨by decide,name_free⟩
    exact main_shim surroundings path addr_free free exe_name (stands_for commandline)

/-- Surroundings where a daemon listens. -/
def listening : Surroundings where
  ensure_daemon_listening _ := .ok ()
  resolve_win_hid_device := .ok (some "vibe")
  open_device _ := .ok ()
  binds _ := true
  daemon := none
  utf8_error _ := "invalid utf-8"
  resolve_agent_command kind agent_args := .ok (kind :: agent_args)

theorem profile_launches_cmd : ∃ line,
    (installed (.object [("commandline",.string "cmd.exe"),("name",.string "cmd")]) ⟨"C:\\vibe\\vb.exe","127.0.0.1:8765"⟩).text_at
      "commandline" = some line ∧ main listening (argv "vb" line) = some (if stands_for "cmd.exe" = "" then
        .error "--cmdline-b64 needs B64" else .ok (started listening "127.0.0.1:8765" "Terminal: cmd" (stands_for "cmd.exe"))) :=
  profile_launches listening ⟨"C:\\vibe\\vb.exe","127.0.0.1:8765"⟩ rfl (by decide +kernel) (by decide +kernel) ⟨by decide,by decide,by decide⟩
    (by decide) (by decide +kernel) "vb"

end VibeBridge.Launching
