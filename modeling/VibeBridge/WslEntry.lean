import VibeBridge.Launching
import VibeBridge.Lines
import VibeBridge.ShellWords
import VibeBridge.TerminalShim
import VibeBridge.Utf16

/-!
How a distribution of WSL is entered. A shell of a distribution that is launched in a
terminal is started through an entry script, once (`wrapped_once`). The distributions
that `wsl.exe` lists get shortcuts, and each of them enters its distribution, unless a
later one has taken its file (`shortcuts_open`). The values that go into scripts are
quoted for their shells.
-/
namespace VibeBridge.WslEntry
open VibeBridge.Text VibeBridge.TerminalProfiles VibeBridge.TerminalShim VibeBridge.Launching VibeBridge.Base64

/-! ## Quoting -/

def SINGLE : Char := '\x27'

/-- `value.replace("'", "'\"'\"'")`, between single quotes. -/
def sh_quote (value : String) : String := String.ofList (ShellWords.quoted SINGLE '"' value.toList)

/-- `value.replace("'", "''")`, between single quotes. -/
def ps_quote (value : String) : String := String.ofList (SINGLE :: (ShellWords.doubled SINGLE value.toList ++ [SINGLE]))

/-- The characters that PowerShell takes for a single quote. -/
def is_single_quote (c : Char) : Bool := c == SINGLE || (0x2018 ≤ c.toNat && c.toNat ≤ 0x201B)

/-- A string that PowerShell reads between single quotes, and what comes after it. -/
def read_ps_string (text : List Char) : Option (List Char × List Char) :=
  match text with
  | c :: rest => if is_single_quote c then ShellWords.verbatim is_single_quote rest else none
  | [] => none

/-- PowerShell reads a value back exactly if it has no typographic quotes. -/
theorem ps_quote_read_iff (value : String) {rest : List Char} (ended : ∀ c more, rest = c :: more → is_single_quote c = false) :
    read_ps_string ((ps_quote value).toList ++ rest) = some (value.toList,rest) ↔
      ∀ c ∈ value.toList, ¬ (0x2018 ≤ c.toNat ∧ c.toNat ≤ 0x201B) := by
  have only (c : Char) : (is_single_quote c = true → c = SINGLE) ↔ ¬ (0x2018 ≤ c.toNat ∧ c.toNat ≤ 0x201B) := by
    rw [is_single_quote,Bool.or_eq_true,beq_iff_eq,Bool.and_eq_true,decide_eq_true_eq,decide_eq_true_eq]
    constructor
    · intro single typographic
      obtain rfl := single (.inr typographic)
      exact absurd typographic (by decide)
    · rintro other (single | typographic)
      · exact single
      · exact absurd typographic other
  have open_quote : is_single_quote SINGLE = true := rfl
  rw [ps_quote,String.toList_ofList,List.cons_append,List.append_assoc,List.singleton_append,read_ps_string,open_quote,if_pos rfl,
    ShellWords.verbatim_doubled_iff open_quote ended]
  exact forall₂_congr (fun c _ => only c)

/-- A value with a quote of its own, in the middle of a script. -/
theorem ps_quote_read_iff_its : read_ps_string ((ps_quote "it's").toList ++ "; $x".toList) = some ("it's".toList,"; $x".toList) ↔
    ∀ c ∈ "it's".toList, ¬ (0x2018 ≤ c.toNat ∧ c.toNat ≤ 0x201B) :=
  ps_quote_read_iff "it's" (by rintro c more same; cases same; decide)

def is_typographic (c : Char) : Bool := 0x2018 ≤ c.toNat && c.toNat ≤ 0x201B

/-- The text has no typographic quotes, which PowerShell takes for quotes. -/
def Straight (value : String) : Prop := ∀ c ∈ value.toList, is_typographic c = false

theorem straight_of_all {value : String} (all : value.toList.all (fun c => !is_typographic c) = true) : Straight value := by
  intro c member
  simpa using List.all_eq_true.mp all c member

theorem straight_append {first second : String} (left : Straight first) (right : Straight second) : Straight (first ++ second) := by
  intro c member
  rw [String.toList_append] at member
  exact (List.mem_append.mp member).elim (left c) (right c)

/-! ## The entry script -/

/-- The script after its first lines. -/
def ENTRY : List String :=
  ["SHIM_DIR=\"$\x7bTMPDIR:-/tmp\x7d/vibe-bridge-shims-$\x7bVB_PARENT\x7d-$$\"",
   "mkdir -p \"$SHIM_DIR\"",
   "",
   "make_shim() \x7b",
   "  name=\"$1\"",
   "  cat > \"$SHIM_DIR/$name\" <<'WRAP'",
   "#!/usr/bin/env bash",
   "# vibe-bridge WSL transient agent shim",
   "set -u",
   "cmd=\"$(basename \"$0\")\"",
   "shim_dir=\"$\x7bVIBE_BRIDGE_WSL_SHIM_DIR:-\x7d\"",
   "agent_id=\"launch-wsl-$\x7bcmd\x7d-$$\"",
   "parent=\"$\x7bVIBE_BRIDGE_TERMINAL_AGENT_ID:-\x7d\"",
   "daemon=\"$\x7bVIBE_BRIDGE_DAEMON:-127.0.0.1:8765\x7d\"",
   "host=\"$\x7bdaemon%:*\x7d\"",
   "port=\"$\x7bdaemon##*:\x7d\"",
   "shell_integration=\"$HOME/.local/share/vibe-bridge/shell-integration/bin/$cmd\"",
   "",
   "if [ -x \"$shell_integration\" ] && [ \"$shell_integration\" != \"$0\" ]; then",
   "  exec \"$shell_integration\" \"$@\"",
   "fi",
   "",
   "is_vibe_wrapper() \x7b",
   "  [ -f \"$1\" ] && grep -q 'vibe-bridge WSL .*agent shim\\|vibe-bridge WSL agent wrapper' \"$1\" 2>/dev/null",
   "\x7d",
   "",
   "find_real() \x7b",
   "  local old_ifs=\"$IFS\"",
   "  local dir candidate",
   "  IFS=:",
   "  for dir in $PATH; do",
   "    [ -n \"$dir\" ] || dir=.",
   "    [ -n \"$shim_dir\" ] && [ \"$dir\" = \"$shim_dir\" ] && continue",
   "    candidate=\"$dir/$cmd\"",
   "    if [ -x \"$candidate\" ] && ! is_vibe_wrapper \"$candidate\"; then",
   "      printf '%s\\n' \"$candidate\"",
   "      IFS=\"$old_ifs\"",
   "      return 0",
   "    fi",
   "  done",
   "  IFS=\"$old_ifs\"",
   "  return 1",
   "\x7d",
   "",
   "send_daemon() \x7b",
   "  local json=\"$1\"",
   "  if \x7b exec 9<>\"/dev/tcp/$host/$port\"; \x7d 2>/dev/null; then",
   "    printf '%s\\n' \"$json\" >&9 || true",
   "    IFS= read -r _ <&9 || true",
   "    exec 9>&- 9<&- || true",
   "  fi",
   "\x7d",
   "",
   "register_agent() \x7b",
   "  [ -n \"$parent\" ] || return 0",
   "  send_daemon \"$(printf '\x7b\"type\":\"agent.register\",\"agent\":\x7b\"agentId\":\"%s\",\"kind\":\"%s\",\"name\":\"%s\",\"cwd\":\"\",\"fromLaunch\":true,\"parentKind\":\"terminal\",\"parentAgentId\":\"%s\"\x7d\x7d' \"$agent_id\" \"$cmd\" \"$cmd\" \"$parent\")\"",
   "\x7d",
   "",
   "abort_agent() \x7b",
   "  send_daemon \"$(printf '\x7b\"type\":\"session.abort\",\"abort\":\x7b\"agentId\":\"%s\",\"kind\":\"%s\"\x7d\x7d' \"$agent_id\" \"$cmd\")\"",
   "\x7d",
   "",
   "real=\"$(find_real || true)\"",
   "if [ -z \"$real\" ]; then",
   "  echo \"vibe-bridge: real $cmd not found in WSL transient PATH\" >&2",
   "  exit 127",
   "fi",
   "register_agent",
   "\"$real\" \"$@\"",
   "rc=$?",
   "abort_agent",
   "exit \"$rc\"",
   "WRAP",
   "  chmod +x \"$SHIM_DIR/$name\"",
   "\x7d",
   "",
   "make_shim codex",
   "make_shim claude",
   "",
   "cat > \"$SHIM_DIR/bashrc\" <<'BASHRC'",
   "# vibe-bridge WSL transient bashrc",
   "if [ -f \"$HOME/.bashrc\" ]; then",
   "  . \"$HOME/.bashrc\"",
   "fi",
   "if [ -n \"$\x7bVIBE_BRIDGE_WSL_SHIM_DIR:-\x7d\" ]; then",
   "  old_ifs=\"$IFS\"",
   "  new_path=\"\"",
   "  IFS=:",
   "  for dir in $PATH; do",
   "    [ \"$dir\" = \"$VIBE_BRIDGE_WSL_SHIM_DIR\" ] && continue",
   "    if [ -z \"$new_path\" ]; then",
   "      new_path=\"$dir\"",
   "    else",
   "      new_path=\"$new_path:$dir\"",
   "    fi",
   "  done",
   "  IFS=\"$old_ifs\"",
   "  export PATH=\"$VIBE_BRIDGE_WSL_SHIM_DIR:$new_path\"",
   "fi",
   "BASHRC",
   "",
   "export VIBE_BRIDGE_DAEMON=\"$VB_ADDR\"",
   "export VIBE_BRIDGE_TERMINAL_AGENT_ID=\"$VB_PARENT\"",
   "export VIBE_BRIDGE_CAPTURED_TERMINAL=1",
   "export VIBE_BRIDGE_WSL_SHIM_DIR=\"$SHIM_DIR\"",
   "export PATH=\"$SHIM_DIR:$PATH\"",
   "shell=\"$\x7bSHELL:-/bin/bash\x7d\"",
   "case \"$(basename \"$shell\")\" in",
   "  bash) exec \"$shell\" --rcfile \"$SHIM_DIR/bashrc\" -i ;;",
   "  *) exec \"$shell\" -i ;;",
   "esac"]

def wsl_terminal_entry_script (addr parent_agent_id : String) : String :=
  "set -eu\n" ++ ("VB_ADDR=" ++ (sh_quote addr ++ "\n")) ++ ("VB_PARENT=" ++ (sh_quote parent_agent_id ++ "\n")) ++
    "\n".intercalate ENTRY ++ "\n"

/-- What ends a word of the shell. -/
def ends_word (c : Char) : Bool := " \t\n;&|<>()".toList.contains c

/-- What the shell may expand. -/
def is_expanded (c : Char) : Bool := "$`\\*?[~#".toList.contains c

def read_word (text : List Char) : Option (List Char × List Char) := ShellWords.word SINGLE '"' ends_word is_expanded .bare text

/-- The text is a line that sets a variable, before the rest of the script. -/
def Assigns (name value : String) (text rest : List Char) : Prop :=
  ∃ word, text = name.toList ++ '=' :: word ∧ read_word word = some (value.toList,'\n' :: rest)

theorem assigns_quoted (name value rest : String) :
    Assigns name value (name ++ "=" ++ (sh_quote value ++ "\n") ++ rest).toList rest.toList := by
  have blank : "\n".toList = ['\n'] := rfl
  have equals : "=".toList = ['='] := rfl
  refine ⟨(sh_quote value).toList ++ '\n' :: rest.toList,?_,?_⟩
  · simp only [String.toList_append,blank,equals,List.append_assoc,List.cons_append,List.nil_append]
  · rw [sh_quote,String.toList_ofList]
    refine ShellWords.word_quoted (by decide) (by decide) (by decide) ?_
    rintro c more same
    cases same
    decide

/-- The script sets its two variables to the values that it was made for, whatever they are, and goes on as it always does. -/
theorem entry_script_assigns (addr parent_agent_id : String) :
    ∃ first second, (wsl_terminal_entry_script addr parent_agent_id).toList = "set -eu\n".toList ++ first ∧
      Assigns "VB_ADDR" addr first second ∧
      Assigns "VB_PARENT" parent_agent_id second ("\n".intercalate ENTRY ++ "\n").toList := by
  refine ⟨_,_,?_,assigns_quoted "VB_ADDR" addr _,assigns_quoted "VB_PARENT" parent_agent_id _⟩
  have addr_line : "VB_ADDR=" = "VB_ADDR" ++ "=" := by decide
  have parent_line : "VB_PARENT=" = "VB_PARENT" ++ "=" := by decide
  rw [wsl_terminal_entry_script,addr_line,parent_line,← String.toList_append]
  simp only [String.append_assoc]

/-! ## Commands for a distribution -/

/-- The options that take the argument after them. -/
def VALUED : List String := ["-d","--distribution","-u","--user","--cd","--shell-type"]

/-- The options with an argument of their own. -/
def JOINED : List String := ["--distribution=","--user=","--cd=","--shell-type="]

/-- The arguments, if they only say which shell is opened: every other one means that none is. -/
def interactive_wsl_args : List String → Option (List String)
  | [] => some []
  | arg :: rest =>
    if VALUED.contains arg then
      match rest with
      | [] => none
      | value :: rest => (interactive_wsl_args rest).map (fun out => arg :: value :: out)
    else if JOINED.any (starts_with arg) then (interactive_wsl_args rest).map (arg :: ·)
    else none

def wsl_args_include_cd (args : List String) : Bool := args.any (fun arg => arg == "--cd" || starts_with arg "--cd=")

def parse_simple_wsl_command (command : List String) : Option (List String) := do
  let tokens ← wsl_command_tokens command
  interactive_wsl_args tokens.tail

/-- The command that enters a distribution through the script. -/
def entered (interactive_args : List String) (addr parent_agent_id : String) : List String :=
  "wsl.exe" :: (interactive_args ++ ((if wsl_args_include_cd interactive_args then [] else ["--cd","~"]) ++
    ["--exec","bash","-lc",wsl_terminal_entry_script addr parent_agent_id,"vibe-bridge-terminal"]))

def maybe_wrap_wsl_terminal_command (command : List String) (addr parent_agent_id : String) : List String :=
  match parse_simple_wsl_command command with
  | none => command
  | some interactive_args => entered interactive_args addr parent_agent_id

/-- The command that `run_launch` starts. -/
def run_launch_command (opts : LaunchOpts) (pid : Nat) : List String :=
  if opts.kind = some "terminal" then
    maybe_wrap_wsl_terminal_command opts.command (opts.daemon_addr.getD DEFAULT_ADDR) s!"launch-{pid}"
  else opts.command

theorem interactive_valued {arg : String} (valued : VALUED.contains arg = true) (value : String) (rest : List String) :
    interactive_wsl_args (arg :: value :: rest) = (interactive_wsl_args rest).map (fun out => arg :: value :: out) := by
  rw [interactive_wsl_args,if_pos valued]

theorem interactive_other {arg : String} (other : ¬ VALUED.contains arg = true) (rest : List String) :
    interactive_wsl_args (arg :: rest) =
      if JOINED.any (starts_with arg) then (interactive_wsl_args rest).map (arg :: ·) else none := by
  cases rest <;> simp only [interactive_wsl_args,if_neg other]

/-- The arguments stay as they are. -/
theorem interactive_same {args out : List String} (accepted : interactive_wsl_args args = some out) : out = args := by
  fun_induction interactive_wsl_args args generalizing out with
  | case1 =>
    cases accepted
    rfl
  | case2 arg valued => cases accepted
  | case3 arg valued value rest ih =>
    obtain ⟨later,found,rfl⟩ := Option.map_eq_some_iff.mp accepted
    rw [ih found]
  | case4 arg rest valued joined ih =>
    obtain ⟨later,found,rfl⟩ := Option.map_eq_some_iff.mp accepted
    rw [ih found]
  | case5 arg rest valued joined => cases accepted

/-- Whether a shell is opened does not show before the last argument. -/
theorem interactive_append {args out : List String} (accepted : interactive_wsl_args args = some out) (more : List String) :
    interactive_wsl_args (args ++ more) = (interactive_wsl_args more).map (args ++ ·) := by
  fun_induction interactive_wsl_args args generalizing out with
  | case1 => simp
  | case2 arg valued => cases accepted
  | case3 arg valued value rest ih =>
    obtain ⟨later,found,rfl⟩ := Option.map_eq_some_iff.mp accepted
    rw [List.cons_append,List.cons_append,interactive_valued valued,ih found,Option.map_map]
    rfl
  | case4 arg rest valued joined ih =>
    obtain ⟨later,found,rfl⟩ := Option.map_eq_some_iff.mp accepted
    rw [List.cons_append,interactive_other valued,if_pos joined,ih found,Option.map_map]
    rfl
  | case5 arg rest valued joined => cases accepted

/-- A command that is not for the shell is its own tokens. -/
theorem wsl_command_tokens_direct {first : String} (direct : eq_ignore_ascii_case first "cmd.exe" = false) (rest : List String) :
    wsl_command_tokens (first :: rest) = if is_wsl first then some (first :: rest) else none := by
  have no_shell (d s c : String) : is_shell first d s c = false := by
    rw [is_shell,direct,Bool.false_and,Bool.false_and,Bool.false_and]
  unfold wsl_command_tokens
  rcases rest with _ | ⟨d,_ | ⟨s,_ | ⟨c,_ | ⟨line,_ | ⟨next,more⟩⟩⟩⟩⟩
  case cons.cons.cons.cons.nil => simp only [no_shell,Bool.false_eq_true,if_false]
  all_goals rfl

theorem wsl_command_tokens_some {command tokens : List String} (read : wsl_command_tokens command = some tokens) :
    ∃ first rest, tokens = first :: rest := by
  have kept (found : List String) (same : (match found with
      | [] => none
      | first :: _ => if is_wsl first then some found else none) = some tokens) : tokens ≠ [] := by
    rintro rfl
    cases found with
    | nil => cases same
    | cons first rest =>
      dsimp only at same
      split at same <;> cases same
  exact List.exists_cons_of_ne_nil (kept _ read)

/-- What enters a distribution runs a script, so it is no command that only opens a shell. -/
theorem entered_simple {args out : List String} (accepted : interactive_wsl_args args = some out) (addr parent_agent_id : String) :
    parse_simple_wsl_command (entered args addr parent_agent_id) = none := by
  have script : interactive_wsl_args
      ["--exec","bash","-lc",wsl_terminal_entry_script addr parent_agent_id,"vibe-bridge-terminal"] = none := by
    rw [interactive_other (by decide),if_neg (by decide)]
  have wsl : is_wsl "wsl.exe" = true := by decide
  rw [parse_simple_wsl_command,entered,wsl_command_tokens_direct (by decide),wsl,if_pos rfl]
  change interactive_wsl_args (args ++ _) = none
  rw [interactive_append accepted]
  split
  · rw [List.nil_append,script]
    rfl
  · have home : interactive_wsl_args ["--cd","~"] = some ["--cd","~"] := by decide
    rw [interactive_append home,script]
    rfl

/-- A command is wrapped once: where it opens a shell of a distribution, its own arguments stay in front, and what comes out is
    left as it is by every launch after that. -/
theorem wrapped_once (command : List String) (addr parent_agent_id : String) :
    (maybe_wrap_wsl_terminal_command command addr parent_agent_id = command ∨
      ∃ first args, wsl_command_tokens command = some (first :: args) ∧
        maybe_wrap_wsl_terminal_command command addr parent_agent_id = entered args addr parent_agent_id) ∧
    ∀ addr' parent_agent_id', maybe_wrap_wsl_terminal_command (maybe_wrap_wsl_terminal_command command addr parent_agent_id)
      addr' parent_agent_id' = maybe_wrap_wsl_terminal_command command addr parent_agent_id := by
  cases found : parse_simple_wsl_command command with
  | none =>
    have same (addr parent_agent_id : String) : maybe_wrap_wsl_terminal_command command addr parent_agent_id = command := by
      rw [maybe_wrap_wsl_terminal_command,found]
    rw [same]
    exact ⟨.inl rfl,fun addr' parent_agent_id' => same addr' parent_agent_id'⟩
  | some args =>
    have wraps : maybe_wrap_wsl_terminal_command command addr parent_agent_id = entered args addr parent_agent_id := by
      rw [maybe_wrap_wsl_terminal_command,found]
    obtain ⟨tokens,read,accepted⟩ := Option.bind_eq_some_iff.mp found
    obtain ⟨first,rest,rfl⟩ := wsl_command_tokens_some read
    rw [List.tail_cons] at accepted
    obtain rfl : args = rest := interactive_same accepted
    rw [wraps]
    refine ⟨.inr ⟨first,args,read,rfl⟩,fun addr' parent_agent_id' => ?_⟩
    rw [maybe_wrap_wsl_terminal_command,entered_simple accepted]

/-! ## The distributions that there are -/

/-- `u16::from_le_bytes` of `chunks_exact(2)`. -/
def le_units : List UInt8 → List UInt16
  | low :: high :: rest => UInt16.ofNat (low.toNat + 256 * high.toNat) :: le_units rest
  | _ => []

/-- The decoder of UTF-8, which replaces what is none, is an argument. -/
def decode_windows_command_output (from_utf8_lossy : List UInt8 → String) (bytes : List UInt8) : String :=
  match bytes with
  | first :: second :: rest =>
    if first = 0xff ∧ second = 0xfe ∨ second = 0 then
      String.ofList (Utf16.decode_lossy (le_units (if first = 0xff ∧ second = 0xfe then rest else bytes)))
    else from_utf8_lossy bytes
  | _ => from_utf8_lossy bytes

def breaks_line (c : Char) (_next : Option Char) : Bool := c == '\n'

/-- A line of `str::lines`, without its end. -/
def strip_end (line : List Char) : List Char :=
  if line.getLast? = some '\n' then
    if line.dropLast.getLast? = some '\r' then line.dropLast.dropLast else line.dropLast
  else line

def lines (text : List Char) : List (List Char) := (Lines.split breaks_line text).map strip_end

/-- What is trimmed off the name of a distribution. -/
def is_padding (c : Char) : Bool := c == '\x00' || is_whitespace c

def is_docker (name : String) : Bool :=
  eq_ignore_ascii_case name "docker-desktop" || eq_ignore_ascii_case name "docker-desktop-data"

/-- `list_wsl_distros`, from what `wsl.exe -l -q` prints. -/
def list_wsl_distros (from_utf8_lossy : List UInt8 → String) (stdout : List UInt8) : List String :=
  (((lines (decode_windows_command_output from_utf8_lossy stdout).toList).map
    (fun line => String.ofList (Words.trim is_padding line))).filter (fun line => !line.isEmpty)).filter (fun line => !is_docker line)

/-- The arguments of the shortcut of a distribution. -/
def wsl_shortcut_arguments (addr distro : String) : String :=
  "terminal-shim --daemon " ++ quote_windows_arg addr ++ " --name " ++ quote_windows_arg ("Terminal: " ++ distro) ++
    " --follow-console-size --cmdline-b64 " ++ base64_encode_bytes (as_bytes ("wsl.exe -d " ++ quote_windows_arg distro))

/-! ### Files -/

def is_control (c : Char) : Bool := c.toNat < 0x20 || (0x7f ≤ c.toNat && c.toNat < 0xa0)

/-- What the name of a file cannot have. -/
def FORBIDDEN : List Char := "<>:\"/\\|?*".toList

/-- The end of a text without its full stops. -/
def trim_full_stops (text : List Char) : List Char := (text.reverse.dropWhile (· == '.')).reverse

def sanitize_windows_shortcut_name (value : String) : String :=
  let out := value.toList.map (fun ch => if FORBIDDEN.contains ch || is_control ch then '_' else ch)
  let out := trim_full_stops (Words.trim is_whitespace out)
  if out.isEmpty then "WSL" else String.ofList out

def strip_windows_verbatim_prefix (path : String) : String :=
  if starts_with path "\\\\?\\" || starts_with path "\\??\\" then String.ofList (path.toList.drop 4) else path

def shell_display_path (path : String) : String := strip_windows_verbatim_prefix path

structure Shortcut where
  target : String
  arguments : String
  description : String
  deriving DecidableEq

/-- The files of the start menu, by their paths. -/
abbrev Files := String → Option Shortcut

/-- How a run of PowerShell ends. -/
inductive Saving
  | saved
  /-- It fails, and the file is written all the same or it is not. -/
  | failed (err : String) (written : Bool)

/-- Windows, as the installer meets it. -/
structure Windows where
  /-- What `wsl.exe -l -q` prints. -/
  wsl_list : Except String (List UInt8)
  restore_direct_wsl_start_menu_shortcuts : Files → Files × Except String Bool
  /-- The folder of the shortcuts, once it is there. -/
  dir : Except String String
  /-- How the runs of PowerShell end, in their order. -/
  powershell : Nat → Saving
  /-- What PowerShell does with a script that it reads as another one. -/
  misreads : String → Files → Files × Except String Unit
  /-- The paths of one file: letters of both cases, for one, are the same. -/
  fold : String → String

/-! ### Scripts -/

/-- The words that stand next in a script, and the string after them. -/
def read_after (words : String) (text : List Char) : Option (String × List Char) :=
  if words.toList.isPrefixOf text then
    (read_ps_string (text.drop words.toList.length)).map (fun read => (String.ofList read.1,read.2))
  else none

def CREATE : String := "$shell = New-Object -ComObject WScript.Shell; $shortcut = $shell.CreateShortcut("

def TARGET : String := "); $shortcut.TargetPath = "

def ARGUMENTS : String := "; $shortcut.Arguments = "

def DESCRIPTION : String := "; $shortcut.WorkingDirectory = $env:USERPROFILE; $shortcut.Description = "

def SAVE : String := "; $shortcut.Save()"

/-- The script of `write_windows_shortcut`. -/
def shortcut_script (path : String) (shortcut : Shortcut) : String :=
  CREATE ++ (ps_quote path ++ (TARGET ++ (ps_quote shortcut.target ++ (ARGUMENTS ++ (ps_quote shortcut.arguments ++
    (DESCRIPTION ++ (ps_quote shortcut.description ++ SAVE)))))))

/-- The shortcut that PowerShell saves for a script, after its path. -/
def read_script (script : String) : Option (String × Shortcut) := do
  let (path,rest) ← read_after CREATE script.toList
  let (target,rest) ← read_after TARGET rest
  let (arguments,rest) ← read_after ARGUMENTS rest
  let (description,rest) ← read_after DESCRIPTION rest
  if rest = SAVE.toList then some (path,⟨target,arguments,description⟩) else none

section
variable (windows : Windows)

/-- The run of PowerShell with this number, on a script that it reads so. -/
def Windows.runs (run : Nat) (files : Files) (script : String) : Option (String × Shortcut) → Files × Except String Unit
  | none => windows.misreads script files
  | some (path,shortcut) =>
    let written := Function.update files (windows.fold path) (some shortcut)
    match windows.powershell run with
    | .saved => (written,.ok ())
    | .failed err true => (written,.error err)
    | .failed err false => (files,.error err)

def write_windows_shortcut (run : Nat) (files : Files) (path target arguments description : String) : Files × Except String Unit :=
  let script := shortcut_script (shell_display_path path) ⟨shell_display_path target,arguments,description⟩
  windows.runs run files script (read_script script)

/-! ### The installer -/

/-- `dir.join(name)`. -/
def shortcut_path (dir distro : String) : String := dir ++ ("\\" ++ (sanitize_windows_shortcut_name distro ++ " (vibe-bridge).lnk"))

/-- The loop over the distributions, which ends with the first error. -/
def write_shortcuts (dir exe addr : String) : List String → Nat → Files → Files × Except String Unit
  | [], _, files => (files,.ok ())
  | distro :: rest, run, files =>
    let written := write_windows_shortcut windows run files (shortcut_path dir distro) exe (wsl_shortcut_arguments addr distro)
      ("Open " ++ distro ++ " through vibe-bridge capture")
    if written.2.isOk then write_shortcuts dir exe addr rest (run + 1) written.1 else written

def limited_profile_name_list (names : List String) : String × Nat :=
  let shown := names.take 8
  (", ".intercalate (if names.length > shown.length then shown ++ [s!"... {names.length - shown.length} more"] else shown),
    names.length)

def install_wsl_start_menu_shortcuts (from_utf8_lossy : List UInt8 → String) (files : Files) (exe addr : String) :
    Files × Except String String :=
  match windows.wsl_list with
  | .error err => (files,.error err)
  | .ok stdout =>
    let distros := list_wsl_distros from_utf8_lossy stdout
    if distros.isEmpty then (files,.ok "no WSL distros found")
    else match windows.restore_direct_wsl_start_menu_shortcuts files with
    | (files,.error err) => (files,.error err)
    | (files,.ok restored_direct) =>
      match windows.dir with
      | .error err => (files,.error err)
      | .ok dir =>
        match write_shortcuts windows dir exe addr distros 0 files with
        | (files,.error err) => (files,.error err)
        | (files,.ok ()) =>
          let (names,count) := limited_profile_name_list distros
          let restore_note := if restored_direct then "; restored direct Ubuntu/WSL shortcut(s)" else ""
          (files,.ok s!"installed {count} Start Menu shortcut(s): {names}{restore_note}")

end

/-! ### What is printed -/

def le_bytes (units : List UInt16) : List UInt8 := units.flatMap (fun u => [UInt8.ofNat (u.toNat % 256),UInt8.ofNat (u.toNat / 256)])

/-- What `wsl.exe -l -q` prints: the names in lines, in UTF-16, with a mark of the byte order or without. -/
def printed (marked : Bool) (names : List String) : List UInt8 :=
  (if marked then [0xff,0xfe] else []) ++ le_bytes (Utf16.encode (names.flatMap (fun name => name.toList ++ ['\r','\n'])))

/-- A name that is read back from its line, from a command line and from a script. -/
structure Listed (name : String) : Prop where
  recognised : Recognised name
  straight : Straight name
  one_line : '\n' ∉ name.toList
  no_nul : '\x00' ∉ name.toList
  trimmed : ∀ c, name.toList.head? = some c ∨ name.toList.getLast? = some c → is_padding c = false

theorem le_units_bytes (units : List UInt16) : le_units (le_bytes units) = units := by
  induction units with
  | nil => rfl
  | cons u units ih =>
    have bound := u.toNat_lt
    have low : (UInt8.ofNat (u.toNat % 256)).toNat = u.toNat % 256 := UInt8.toNat_ofNat_of_lt' (Nat.mod_lt _ (by decide))
    have high : (UInt8.ofNat (u.toNat / 256)).toNat = u.toNat / 256 := UInt8.toNat_ofNat_of_lt' (by change _ < 256; omega)
    have whole : u.toNat % 256 + 256 * (u.toNat / 256) = u.toNat := Nat.mod_add_div _ _
    rw [le_bytes,List.flatMap_cons]
    change UInt16.ofNat _ :: le_units (le_bytes units) = _
    rw [ih,low,high,whole,UInt16.ofNat_toNat]

theorem split_line_end {name : List Char} (one_line : '\n' ∉ name) (rest : List Char) :
    Lines.split breaks_line (name ++ '\r' :: '\n' :: rest) = (name ++ ['\r','\n']) :: Lines.split breaks_line rest := by
  induction name with
  | nil => rfl
  | cons c name ih =>
    obtain ⟨other,later⟩ := not_or.mp (List.mem_cons.not.mp one_line)
    have goes_on : ¬ breaks_line c (name ++ '\r' :: '\n' :: rest).head? = true := by
      rw [breaks_line,beq_iff_eq]
      exact Ne.symm other
    rw [List.cons_append,Lines.split,if_neg goes_on,ih later]
    rfl

theorem strip_end_line (name : List Char) : strip_end (name ++ ['\r','\n']) = name := by
  have ends : name ++ ['\r','\n'] = name ++ ['\r'] ++ ['\n'] := by simp
  rw [strip_end,ends,List.getLast?_concat,if_pos rfl,List.dropLast_concat,List.getLast?_concat,if_pos rfl,List.dropLast_concat]

theorem lines_printed {names : List String} (one_line : ∀ name ∈ names, '\n' ∉ name.toList) :
    lines (names.flatMap (fun name => name.toList ++ ['\r','\n'])) = names.map String.toList := by
  induction names with
  | nil => rfl
  | cons name names ih =>
    obtain ⟨first,later⟩ := List.forall_mem_cons.mp one_line
    rw [lines] at ih
    rw [lines,List.flatMap_cons,List.append_assoc]
    change (Lines.split breaks_line (name.toList ++ '\r' :: '\n' :: names.flatMap _)).map strip_end = _
    rw [split_line_end first,List.map_cons,strip_end_line,ih later,List.map_cons]

/-- The text is taken for UTF-16 if it is marked, or if its first character has no high byte. -/
theorem decode_printed (from_utf8_lossy : List UInt8 → String) (marked : Bool) {names : List String}
    (starts : marked = true ∨ ∃ c, (names.head?.bind (·.toList.head?)) = some c ∧ c.toNat < 0x100) :
    decode_windows_command_output from_utf8_lossy (printed marked names) =
      String.ofList (names.flatMap (fun name => name.toList ++ ['\r','\n'])) := by
  cases marked with
  | true =>
    rw [printed,if_pos rfl,List.cons_append,List.cons_append,List.nil_append,decode_windows_command_output,
      if_pos (.inl ⟨rfl,rfl⟩),if_pos ⟨rfl,rfl⟩,le_units_bytes,Utf16.decode_encode]
  | false =>
    obtain ⟨c,first,small⟩ := starts.resolve_left Bool.false_ne_true
    obtain ⟨name,found,inside⟩ := Option.bind_eq_some_iff.mp first
    obtain ⟨names,rfl⟩ := List.head?_eq_some_iff.mp found
    obtain ⟨rest,split⟩ := List.head?_eq_some_iff.mp inside
    have unit : (UInt16.ofNat c.toNat).toNat = c.toNat := UInt16.toNat_ofNat_of_lt' (by change _ < 65536; omega)
    have high : UInt8.ofNat (c.toNat / 256) = 0 := by
      rw [Nat.div_eq_of_lt small]
      rfl
    have encoded : Utf16.encode ((name :: names).flatMap (fun name => name.toList ++ ['\r','\n'])) = UInt16.ofNat c.toNat ::
        Utf16.encode (rest ++ (['\r','\n'] ++ names.flatMap (fun name => name.toList ++ ['\r','\n']))) := by
      rw [List.flatMap_cons,split,List.cons_append,List.cons_append,List.append_assoc,Utf16.encode_cons,Utf16.encode_char,
        if_pos (by omega)]
      rfl
    have whole : printed false (name :: names) = UInt8.ofNat (c.toNat % 256) :: 0 ::
        le_bytes (Utf16.encode (rest ++ (['\r','\n'] ++ names.flatMap (fun name => name.toList ++ ['\r','\n'])))) := by
      rw [printed,if_neg Bool.false_ne_true,List.nil_append,encoded,← high]
      change UInt8.ofNat ((UInt16.ofNat c.toNat).toNat % 256) :: UInt8.ofNat ((UInt16.ofNat c.toNat).toNat / 256) :: _ = _
      rw [unit]
      rfl
    have units : le_units (printed false (name :: names)) = Utf16.encode
        ((name :: names).flatMap (fun name => name.toList ++ ['\r','\n'])) := le_units_bytes _
    rw [whole] at units ⊢
    rw [decode_windows_command_output,if_pos (.inr rfl),if_neg (by rintro ⟨_,same⟩; cases same),units,Utf16.decode_encode]

/-- Every distribution is listed, but for those of Docker. -/
theorem list_printed (from_utf8_lossy : List UInt8 → String) (marked : Bool) {names : List String}
    (listed : ∀ name ∈ names, Listed name)
    (starts : marked = true ∨ ∃ c, (names.head?.bind (·.toList.head?)) = some c ∧ c.toNat < 0x100) :
    list_wsl_distros from_utf8_lossy (printed marked names) = names.filter (fun name => !is_docker name) := by
  have whole : ∀ name ∈ names, String.ofList (Words.trim is_padding name.toList) = name := by
    intro name member
    have some_there : name.toList ≠ [] := fun empty => (listed name member).recognised.1 (String.toList_eq_nil_iff.mp empty)
    have trimmed := (listed name member).trimmed
    have first := List.head?_eq_some_head some_there
    have last := List.getLast?_eq_some_getLast some_there
    rw [Words.trim_whole first last (trimmed _ (.inl first)) (trimmed _ (.inr last)),String.ofList_toList]
  have kept : names.filter (fun line => !line.isEmpty) = names := by
    refine List.filter_eq_self.mpr ?_
    intro name member
    simpa using (listed name member).recognised.1
  have same : names.map ((fun line => String.ofList (Words.trim is_padding line)) ∘ String.toList) = names :=
    (List.map_congr_left whole).trans (List.map_id names)
  rw [list_wsl_distros,decode_printed from_utf8_lossy marked starts,String.toList_ofList,
    lines_printed (fun name member => (listed name member).one_line),List.map_map,same,kept]

/-! ### What a shortcut does -/

/-- The line that a shortcut is for stands for the name of its distribution. -/
theorem tokens_distro {distro : String} (recognised : Recognised distro) :
    parse_simple_wsl_command (shell_command ("wsl.exe -d " ++ quote_windows_arg distro)) = some ["-d",distro] := by
  have words : ∀ arg ∈ ["wsl.exe","-d",distro], Recognised arg := by
    have plain {arg : String} (some_there : arg ≠ "") (none : '\\' ∉ arg.toList) : Recognised arg :=
      ⟨some_there,CommandLines.literal_of_not_mem none⟩
    simp only [List.forall_mem_cons]
    exact ⟨plain (by decide) (by decide),plain (by decide) (by decide),recognised,fun _ none => absurd none List.not_mem_nil⟩
  have line : "wsl.exe -d " ++ quote_windows_arg distro = quoted_line ["wsl.exe","-d",distro] := by
    have first : quote_windows_arg "wsl.exe" = "wsl.exe" := by decide
    have second : quote_windows_arg "-d" = "-d" := by decide
    have pieces : "wsl.exe -d " = "wsl.exe" ++ " " ++ "-d" ++ " " := by decide
    rw [quoted_line,List.map_cons,List.map_cons,List.map_singleton,first,second,pieces]
    simp only [String.intercalate_cons_cons,String.intercalate_singleton,String.append_assoc]
  have shell : is_shell "cmd.exe" "/D" "/S" "/C" = true := by decide
  have wsl : is_wsl "wsl.exe" = true := by decide
  rw [parse_simple_wsl_command,line,shell_command,wsl_command_tokens_shell shell,(split_quoted_line _).mpr words]
  dsimp only
  rw [wsl,if_pos rfl]
  change interactive_wsl_args ["-d",distro] = _
  rw [interactive_valued (by decide)]
  rfl

/-- A shortcut is for a line like that of a profile. -/
theorem shortcut_line (exe addr distro : String) : quote_windows_arg exe ++ " " ++ wsl_shortcut_arguments addr distro =
    build_terminal_profile_commandline exe addr ("Terminal: " ++ distro) ("wsl.exe -d " ++ quote_windows_arg distro) := by
  have first : " terminal-shim --daemon " = " " ++ "terminal-shim --daemon " := by decide
  unfold build_terminal_profile_commandline wsl_shortcut_arguments
  rw [first]
  simp only [String.append_assoc]

/-! ### Where a shortcut is -/

theorem straight_quoted {value : String} (straight : Straight value) : Straight (quote_windows_arg value) := by
  intro c member
  rcases mem_quoted member with rfl | rfl | within
  · rfl
  · rfl
  · exact straight c within

theorem straight_encoded (bytes : List UInt8) : Straight (base64_encode_bytes bytes) := by
  intro c member
  rw [base64_encode_bytes,String.toList_ofList] at member
  have ascii : c.toNat ≤ 127 := (coded_plain (encode_coded bytes c member)).1
  rw [is_typographic,decide_eq_false (show ¬ 0x2018 ≤ c.toNat by omega),Bool.false_and]

theorem straight_arguments {addr distro : String} (from_addr : Straight addr) (from_name : Straight distro) :
    Straight (wsl_shortcut_arguments addr distro) := by
  have titled : Straight ("Terminal: " ++ distro) := straight_append (straight_of_all rfl) from_name
  refine straight_append (straight_append (straight_append (straight_append (straight_append ?_ ?_) ?_) ?_) ?_) ?_
  · exact straight_of_all rfl
  · exact straight_quoted from_addr
  · exact straight_of_all rfl
  · exact straight_quoted titled
  · exact straight_of_all rfl
  · exact straight_encoded _

theorem straight_displayed {path : String} (straight : Straight path) : Straight (shell_display_path path) := by
  rw [shell_display_path, strip_windows_verbatim_prefix]
  split
  · intro c member
    rw [String.toList_ofList] at member
    exact straight c (List.mem_of_mem_drop member)
  · exact straight

theorem straight_sanitized {value : String} (straight : Straight value) : Straight (sanitize_windows_shortcut_name value) := by
  rw [sanitize_windows_shortcut_name]
  split
  · exact straight_of_all rfl
  · intro c member
    rw [String.toList_ofList,trim_full_stops,List.mem_reverse] at member
    have kept := (Words.trim_sublist _).subset (List.mem_reverse.mp ((List.dropWhile_sublist _).subset member))
    obtain ⟨ch,there,rfl⟩ := List.mem_map.mp kept
    split
    · rfl
    · exact straight ch there

theorem straight_path {dir distro : String} (from_dir : Straight dir) (from_name : Straight distro) :
    Straight (shortcut_path dir distro) :=
  straight_append from_dir (straight_append (straight_of_all rfl) (straight_append (straight_sanitized from_name) (straight_of_all rfl)))

theorem read_after_quoted (words : String) {value : String} (straight : Straight value) {rest : List Char}
    (ended : ∀ c more, rest = c :: more → is_single_quote c = false) :
    read_after words (words.toList ++ ((ps_quote value).toList ++ rest)) = some (value,rest) := by
  have starts : words.toList.isPrefixOf (words.toList ++ ((ps_quote value).toList ++ rest)) = true :=
    List.isPrefixOf_iff_prefix.mpr (List.prefix_append _ _)
  have unquoted : ∀ c ∈ value.toList, ¬ (0x2018 ≤ c.toNat ∧ c.toNat ≤ 0x201B) := by
    intro c member
    simpa [is_typographic] using straight c member
  rw [read_after,if_pos starts,List.drop_left,(ps_quote_read_iff value ended).mpr unquoted,Option.map_some,String.ofList_toList]

/-- PowerShell reads the script as it is meant. -/
theorem read_shortcut_script {path target arguments description : String} (from_path : Straight path) (from_target : Straight target)
    (from_arguments : Straight arguments) (from_description : Straight description) :
    read_script (shortcut_script path ⟨target,arguments,description⟩) = some (path,⟨target,arguments,description⟩) := by
  have ended (words : String) {more : List Char} (first : words.toList.head?.any (fun c => !is_single_quote c) = true) :
      ∀ c rest, words.toList ++ more = c :: rest → is_single_quote c = false := by
    rintro c rest same
    cases words_there : words.toList with
    | nil =>
      rw [words_there] at first
      cases first
    | cons d words =>
      rw [words_there] at first same
      cases same
      simpa using first
  have last : ∀ c rest, SAVE.toList = c :: rest → is_single_quote c = false := by
    have whole := @ended SAVE [] (by decide)
    rwa [List.append_nil] at whole
  rw [read_script,shortcut_script]
  simp only [String.toList_append]
  rw [read_after_quoted CREATE from_path (ended TARGET (by decide)),Option.bind_eq_bind,Option.bind_some]
  dsimp only
  rw [read_after_quoted TARGET from_target (ended ARGUMENTS (by decide)),Option.bind_some]
  dsimp only
  rw [read_after_quoted ARGUMENTS from_arguments (ended DESCRIPTION (by decide)),Option.bind_some]
  dsimp only
  rw [read_after_quoted DESCRIPTION from_description last,Option.bind_some]
  exact if_pos rfl

section
variable {windows : Windows} {dir exe addr : String} {distros : List String}

/-- The file of a distribution, as the file system finds it. -/
def Windows.file (windows : Windows) (dir distro : String) : String :=
  windows.fold (shell_display_path (shortcut_path dir distro))

/-- The shortcut of a distribution. -/
def shortcut (exe addr distro : String) : Shortcut where
  target := shell_display_path exe
  arguments := wsl_shortcut_arguments addr distro
  description := "Open " ++ distro ++ " through vibe-bridge capture"

/-- What goes into the scripts, without typographic quotes. -/
structure Plainly (dir exe addr : String) (distros : List String) : Prop where
  dir : Straight dir
  exe : Straight exe
  addr : Straight addr
  names : ∀ distro ∈ distros, Straight distro

/-- A turn of the loop: the file is written, unless PowerShell fails before that. -/
theorem write_shortcuts_cons {distro : String} (plainly : Plainly dir exe addr (distro :: distros)) (run : Nat) (files : Files) :
    write_shortcuts windows dir exe addr (distro :: distros) run files =
      match windows.powershell run with
      | .saved => write_shortcuts windows dir exe addr distros (run + 1)
          (Function.update files (windows.file dir distro) (some (shortcut exe addr distro)))
      | .failed err true => (Function.update files (windows.file dir distro) (some (shortcut exe addr distro)),.error err)
      | .failed err false => (files,.error err) := by
  have from_name := plainly.names distro List.mem_cons_self
  have described : Straight ("Open " ++ distro ++ " through vibe-bridge capture") :=
    straight_append (straight_append (straight_of_all rfl) from_name) (straight_of_all rfl)
  have read := read_shortcut_script (straight_displayed (straight_path plainly.dir from_name)) (straight_displayed plainly.exe)
    (straight_arguments plainly.addr from_name) described
  rw [write_shortcuts,write_windows_shortcut,Windows.file,shortcut]
  rw [read,Windows.runs]
  cases windows.powershell run with
  | saved => exact if_pos rfl
  | failed err written => cases written <;> exact if_neg Bool.false_ne_true

theorem plainly_tail {distro : String} (plainly : Plainly dir exe addr (distro :: distros)) : Plainly dir exe addr distros :=
  ⟨plainly.dir,plainly.exe,plainly.addr,(List.forall_mem_cons.mp plainly.names).2⟩

/-- The distributions of other files leave a file as it is, however the loop ends. -/
theorem write_shortcuts_other (plainly : Plainly dir exe addr distros) {path : String}
    (other : ∀ distro ∈ distros, windows.file dir distro ≠ path) (run : Nat) (files : Files) :
    (write_shortcuts windows dir exe addr distros run files).1 path = files path := by
  induction distros generalizing run files with
  | nil => rfl
  | cons distro rest ih =>
    obtain ⟨first,later⟩ := List.forall_mem_cons.mp other
    have kept : Function.update files (windows.file dir distro) (some (shortcut exe addr distro)) path = files path :=
      Function.update_of_ne (Ne.symm first) _ _
    rw [write_shortcuts_cons plainly]
    cases windows.powershell run with
    | saved => exact (ih (plainly_tail plainly) later (run + 1) _).trans kept
    | failed err written =>
      cases written with
      | true => exact kept
      | false => rfl

/-- A distribution that the loop gets to has its shortcut, if none after it has the same file. -/
theorem write_shortcuts_reached {before later : List String} {distro : String}
    (plainly : Plainly dir exe addr (before ++ distro :: later)) (run : Nat) (files : Files)
    (saved : ∀ i ≤ before.length, windows.powershell (run + i) = .saved)
    (unshared : ∀ other ∈ later, windows.file dir other ≠ windows.file dir distro) :
    (write_shortcuts windows dir exe addr (before ++ distro :: later) run files).1 (windows.file dir distro) =
      some (shortcut exe addr distro) := by
  induction before generalizing run files with
  | nil =>
    rw [List.nil_append] at plainly ⊢
    rw [write_shortcuts_cons plainly,show windows.powershell run = .saved from saved 0 (Nat.le_refl 0)]
    exact (write_shortcuts_other (plainly_tail plainly) unshared (run + 1) _).trans (Function.update_self _ _ _)
  | cons first before ih =>
    rw [List.cons_append] at plainly ⊢
    rw [write_shortcuts_cons plainly,show windows.powershell run = .saved from saved 0 (Nat.zero_le _)]
    refine ih (plainly_tail plainly) (run + 1) _ ?_
    intro i le
    rw [Nat.add_assoc,Nat.add_comm 1 i]
    exact saved (i + 1) (Nat.succ_le_succ le)

/-- The loop ends without an error exactly if every run of PowerShell does. -/
theorem write_shortcuts_ok_iff (plainly : Plainly dir exe addr distros) (run : Nat) (files : Files) :
    (write_shortcuts windows dir exe addr distros run files).2 = .ok () ↔
      ∀ i < distros.length, windows.powershell (run + i) = .saved := by
  induction distros generalizing run files with
  | nil => exact iff_of_true rfl (fun i none => absurd none (Nat.not_lt_zero i))
  | cons distro rest ih =>
    rw [write_shortcuts_cons plainly]
    cases first : windows.powershell run with
    | saved =>
      refine (ih (plainly_tail plainly) (run + 1) _).trans ⟨?_,?_⟩
      · rintro later (_ | i) less
        · exact first
        · rw [← Nat.add_assoc,Nat.add_right_comm]
          exact later i (Nat.lt_of_succ_lt_succ less)
      · intro all i less
        rw [Nat.add_assoc,Nat.add_comm 1 i]
        exact all (i + 1) (Nat.succ_lt_succ less)
    | failed err written =>
      refine iff_of_false ?_ ?_
      · cases written <;> exact fun ok => by cases ok
      · intro all
        have saved := all 0 (Nat.succ_pos _)
        rw [Nat.add_zero,first] at saved
        cases saved

end

/-! ### What is installed -/

/-- The name, the command and the reason not to capture it, where something is started. -/
def opens (pid : Nat) : Started → Option String × List String × Option String
  | .launched opts => (opts.name,run_launch_command opts pid,none)
  | .passed command reason => (none,command,some reason)

/-- A shortcut launches a shell of its distribution through the script, under its name; where there is no daemon, it starts the
    shell as it is. -/
theorem shortcut_opens (surroundings : Surroundings) {exe addr distro : String} (path : Executable (shell_display_path exe))
    (addr_free : '\x00' ∉ addr.toList) (listed : Listed distro) (exe_name : String) (pid : Nat) :
    (main surroundings (argv exe_name (quote_windows_arg (shortcut exe addr distro).target ++ " " ++
        (shortcut exe addr distro).arguments))).map (fun result => result.map (opens pid)) =
      some (.ok (match surroundings.ensure_daemon_listening addr with
        | .ok _ => (some ("Terminal: " ++ distro),entered ["-d",distro] addr s!"launch-{pid}",none)
        | .error reason => (none,shell_command ("wsl.exe -d " ++ quote_windows_arg distro),some reason))) := by
  have name_free : '\x00' ∉ ("Terminal: " ++ distro).toList := by
    rw [String.toList_append,List.mem_append,not_or]
    exact ⟨by decide,listed.no_nul⟩
  have some_there : "wsl.exe -d " ++ quote_windows_arg distro ≠ "" := by
    intro empty
    have none := congrArg String.toList empty
    rw [String.toList_append] at none
    cases none
  have launched : run_launch_command
      { daemon_addr := some addr, kind := some "terminal", name := some ("Terminal: " ++ distro), follow_console_size := true,
        command := shell_command ("wsl.exe -d " ++ quote_windows_arg distro) } pid =
      entered ["-d",distro] addr s!"launch-{pid}" := by
    rw [run_launch_command,if_pos rfl,maybe_wrap_wsl_terminal_command,tokens_distro listed.recognised]
    rfl
  change (main surroundings (argv exe_name (quote_windows_arg (shell_display_path exe) ++ " " ++
    wsl_shortcut_arguments addr distro))).map _ = _
  rw [shortcut_line,main_shim surroundings path addr_free name_free,if_neg some_there,started]
  cases surroundings.ensure_daemon_listening addr with
  | error reason => rfl
  | ok _ => exact congrArg (fun command => some (Except.ok (some ("Terminal: " ++ distro),command,(none : Option String)))) launched

/-- Where the folder is there, each of the distributions that are printed has its shortcut in the end, if PowerShell saves it and
    those before it and none after it has the same file; the shortcut opens it. -/
theorem shortcuts_open (surroundings : Surroundings) (windows : Windows) (files : Files) {exe addr dir : String}
    (path : Executable (shell_display_path exe)) (addr_free : '\x00' ∉ addr.toList)
    (straight : Straight dir ∧ Straight exe ∧ Straight addr) (there : windows.dir = .ok dir)
    (restored : (windows.restore_direct_wsl_start_menu_shortcuts files).2.isOk = true) (from_utf8_lossy : List UInt8 → String)
    (marked : Bool) {names : List String} (output : windows.wsl_list = .ok (printed marked names)) (listed : ∀ name ∈ names, Listed name)
    (starts : marked = true ∨ ∃ c, (names.head?.bind (·.toList.head?)) = some c ∧ c.toNat < 0x100)
    {before later : List String} {distro : String} (split : names.filter (fun name => !is_docker name) = before ++ distro :: later)
    (saved : ∀ i ≤ before.length, windows.powershell i = .saved)
    (unshared : ∀ other ∈ later, windows.file dir other ≠ windows.file dir distro) (exe_name : String) (pid : Nat) :
    ∃ shortcut, (install_wsl_start_menu_shortcuts windows from_utf8_lossy files exe addr).1 (windows.file dir distro) = some shortcut ∧
      (main surroundings (argv exe_name (quote_windows_arg shortcut.target ++ " " ++ shortcut.arguments))).map
          (fun result => result.map (opens pid)) =
        some (.ok (match surroundings.ensure_daemon_listening addr with
          | .ok _ => (some ("Terminal: " ++ distro),entered ["-d",distro] addr s!"launch-{pid}",none)
          | .error reason => (none,shell_command ("wsl.exe -d " ++ quote_windows_arg distro),some reason))) := by
  have inside : ∀ name ∈ before ++ distro :: later, Listed name := by
    intro name member
    rw [← split] at member
    exact listed name (List.mem_of_mem_filter member)
  have plainly : Plainly dir exe addr (before ++ distro :: later) :=
    ⟨straight.1,straight.2.1,straight.2.2,fun name member => (inside name member).straight⟩
  have some_there : ¬ (before ++ distro :: later).isEmpty = true := by simp
  refine ⟨shortcut exe addr distro,?_,shortcut_opens surroundings path addr_free
    (inside distro (List.mem_append_right before List.mem_cons_self)) exe_name pid⟩
  rw [install_wsl_start_menu_shortcuts,output]
  dsimp only
  rw [list_printed from_utf8_lossy marked listed starts,split,if_neg some_there]
  cases restoring : windows.restore_direct_wsl_start_menu_shortcuts files with
  | mk files result =>
    rw [restoring] at restored
    cases result with
    | error err => cases restored
    | ok restored_direct =>
      have reached := write_shortcuts_reached plainly 0 files (by simpa using saved) unshared
      dsimp only
      rw [there]
      dsimp only
      cases writing : write_shortcuts windows dir exe addr (before ++ distro :: later) 0 files with
      | mk files' result =>
        rw [writing] at reached
        cases result with
        | error err => exact reached
        | ok _ => exact reached

theorem listed_word {name : String} {first last : Char} (plain : name ≠ "" ∧ '\\' ∉ name.toList ∧ '\n' ∉ name.toList ∧ '\x00' ∉ name.toList)
    (straight : Straight name)
    (starts : name.toList.head? = some first) (ends : name.toList.getLast? = some last)
    (solid : is_padding first = false ∧ is_padding last = false) : Listed name where
  recognised := ⟨plain.1,CommandLines.literal_of_not_mem plain.2.1⟩
  straight
  one_line := plain.2.2.1
  no_nul := plain.2.2.2
  trimmed := by
    rintro c (head | tail)
    · rw [← Option.some.inj (starts.symm.trans head)]
      exact solid.1
    · rw [← Option.some.inj (ends.symm.trans tail)]
      exact solid.2

/-- A folder with the shortcut of another installation, where the third run of PowerShell fails. -/
def third_fails : Windows where
  wsl_list := .ok (printed false ["Ubuntu.","docker-desktop","Debian","Ubuntu"])
  restore_direct_wsl_start_menu_shortcuts files := (files,.ok false)
  dir := .ok "C:\\Menu\\vibe"
  powershell run := if run < 2 then .saved else .failed "denied" false
  misreads _ files := (files,.error "misread")
  fold := to_ascii_lowercase

/-- One that is saved before another one fails. -/
theorem shortcuts_open_debian : ∃ shortcut, (install_wsl_start_menu_shortcuts third_fails (fun _ => "") (fun _ => none)
      "C:\\vibe\\vb.exe" "127.0.0.1:8765").1 (third_fails.file "C:\\Menu\\vibe" "Debian") = some shortcut ∧
    (main listening (argv "vb" (quote_windows_arg shortcut.target ++ " " ++ shortcut.arguments))).map
        (fun result => result.map (opens 7)) =
      some (.ok (some "Terminal: Debian",entered ["-d","Debian"] "127.0.0.1:8765" "launch-7",none)) := by
  have listed : ∀ name ∈ ["Ubuntu.","docker-desktop","Debian","Ubuntu"], Listed name := by
    simp only [List.forall_mem_cons]
    exact ⟨listed_word (by decide) (straight_of_all rfl) rfl rfl (by decide),listed_word (by decide) (straight_of_all rfl) rfl rfl (by decide),
      listed_word (by decide) (straight_of_all rfl) rfl rfl (by decide),listed_word (by decide) (straight_of_all rfl) rfl rfl (by decide),
      fun _ none => absurd none List.not_mem_nil⟩
  have saved : ∀ i ≤ 1, third_fails.powershell i = .saved := by
    intro i le
    exact if_pos (Nat.lt_succ_of_le le)
  have split : ["Ubuntu.","docker-desktop","Debian","Ubuntu"].filter (fun name => !is_docker name) =
      ["Ubuntu."] ++ "Debian" :: ["Ubuntu"] := by decide +kernel
  exact shortcuts_open listening third_fails (fun _ => none) ⟨by decide,by decide,by decide⟩ (by decide)
    ⟨straight_of_all rfl,straight_of_all rfl,straight_of_all rfl⟩ rfl rfl (fun _ => "") false rfl listed (.inr ⟨'U',rfl,by decide⟩) split saved
    (by decide +kernel) "vb" 7

end VibeBridge.WslEntry
