import VibeBridge.Dict
import VibeBridge.Python.HidProtocol
import VibeBridge.Text
import VibeBridge.Transitions

/-!
The scanner that opens a connection to the daemon for each agent process it finds.
Its thread looks at the processes, opens connections for new ones and closes those of
processes that are gone; `stop` closes what is in the table, but waits for the thread
only for a time. Wherever the threads are, every connection that was opened is
closed once, or is in the table, or in the hands of a thread, or was pushed out of the
table by another thread (`connections_owned`), and the last happens only where a
thread is started while another one still runs (`scanned_alone`).
-/
namespace VibeBridge.Python.AgentScanner
open Transitions VibeBridge.Text

/-! ## Processes -/

/-- The entry of a process, and what can be read of it. -/
structure ProcEntry where
  pid : Nat
  cmdline : Option (List UInt8)
  environ : Option (List UInt8)

def WRAPPER_ENV_KEY : List UInt8 := as_bytes "VIBE_SESSION_ID="

def AGENT_BASENAMES : List (String × String) :=
  [("codex","codex"),("codex.exe","codex"),("claude","claude"),("claude.exe","claude"),("claude-code","claude"),
    ("claude-code.exe","claude")]

structure Config where
  basenames : List (String × String) := AGENT_BASENAMES
  /-- The decoder of UTF-8 that replaces what is none. -/
  decode_replace : List UInt8 → String
  /-- `os.path.basename(exe_name).lower()`, on Windows. -/
  program_name : String → String

/-- `os.path.basename`, on POSIX. -/
def basename (path : String) : String := String.ofList (rsplit_first (· == '/') path.toList)

variable (config : Config)

/-- The kind of the first argument that names an agent. -/
def classify_args : List (List UInt8) → Option String
  | [] => none
  | arg :: args =>
    if arg.isEmpty then classify_args args
    else match config.basenames.lookup (basename (config.decode_replace arg)) with
      | some kind => some kind
      | none => classify_args args

def classify_linux_pid (cmdline : Option (List UInt8)) : Option String :=
  match cmdline with
  | none => none
  | some raw => if raw.isEmpty then none else classify_args config (raw.splitOn 0)

/-- `key in text`, on bytes. -/
def occurs (key : List UInt8) : List UInt8 → Bool
  | [] => key.isEmpty
  | b :: rest => key.isPrefixOf (b :: rest) || occurs key rest

def is_wrapper_owned_linux (environ : Option (List UInt8)) : Bool :=
  match environ with
  | none => false
  | some env => occurs WRAPPER_ENV_KEY env

/-- The agents among the entries; without a listing there are none. -/
def enumerate_linux (entries : Option (List ProcEntry)) : Dict Nat String :=
  (entries.getD []).foldl (fun result entry =>
    match classify_linux_pid config entry.cmdline with
    | none => result
    | some kind => if is_wrapper_owned_linux entry.environ then result else result.set entry.pid kind) Dict.empty

/-- The agents among the processes, which are given with the names of their programs. -/
def enumerate_windows (entries : Option (List (Nat × String))) : Dict Nat String :=
  (entries.getD []).foldl (fun result entry =>
    match config.basenames.lookup (config.program_name entry.2) with
    | none => result
    | some kind => result.set entry.1 kind) Dict.empty

/-- What the system lists of its processes, if it does. -/
inductive Listing
  | linux (entries : Option (List ProcEntry))
  | windows (entries : Option (List (Nat × String)))

/-- `_enumerate_agents`. -/
def Listing.agents : Listing → Dict Nat String
  | .linux entries => enumerate_linux config entries
  | .windows entries => enumerate_windows config entries

/-- The listing has an entry of the process that names an agent of this kind; on Linux no wrapper owns it. -/
def Listing.Names (pid : Nat) (kind : String) : Listing → Prop
  | .linux entries => ∃ entry ∈ entries.getD [], entry.pid = pid ∧ classify_linux_pid config entry.cmdline = some kind ∧
      is_wrapper_owned_linux entry.environ = false
  | .windows entries => ∃ entry ∈ entries.getD [], entry.1 = pid ∧ config.basenames.lookup (config.program_name entry.2) = some kind

/-- What a loop over entries has put into its result comes from one of them. -/
theorem fold_found {α : Type} {step : Dict Nat String → α → Dict Nat String} {P : α → Nat × String → Prop}
    (each : ∀ result entry, ∀ e ∈ (step result entry).items, e ∈ result.items ∨ P entry e) (list : List α)
    {result : Dict Nat String} {e : Nat × String} (found : e ∈ (list.foldl step result).items) :
    e ∈ result.items ∨ ∃ entry ∈ list, P entry e := by
  induction list generalizing result with
  | nil => exact .inl found
  | cons entry list ih =>
    rw [List.foldl_cons] at found
    rcases ih found with before | ⟨later,member,rest⟩
    · rcases each _ _ _ before with there | rest
      · exact .inl there
      · exact .inr ⟨entry,List.mem_cons_self,rest⟩
    · exact .inr ⟨later,List.mem_cons_of_mem _ member,rest⟩

/-- An agent that is found is named by an entry of the listing. -/
theorem agents_named {listing : Listing} {e : Nat × String} (found : e ∈ (listing.agents config).items) :
    listing.Names config e.1 e.2 := by
  cases listing with
  | linux entries =>
    refine (fold_found (P := fun entry e => entry.pid = e.1 ∧ classify_linux_pid config entry.cmdline = some e.2 ∧
      is_wrapper_owned_linux entry.environ = false) (fun result entry e found => ?_) _ found).resolve_left List.not_mem_nil
    cases kind : classify_linux_pid config entry.cmdline with
    | none =>
      rw [kind] at found
      exact .inl found
    | some name =>
      rw [kind] at found
      dsimp only at found
      split at found
      · exact .inl found
      · rename_i free
        rcases Dict.mem_items_set found with rfl | there
        · exact .inr ⟨rfl,rfl,by simpa using free⟩
        · exact .inl there
  | windows entries =>
    refine (fold_found (P := fun entry e => entry.1 = e.1 ∧ config.basenames.lookup (config.program_name entry.2) = some e.2)
      (fun result entry e found => ?_) _ found).resolve_left List.not_mem_nil
    cases kind : config.basenames.lookup (config.program_name entry.2) with
    | none =>
      rw [kind] at found
      exact .inl found
    | some name =>
      rw [kind] at found
      rcases Dict.mem_items_set found with rfl | there
      · exact .inr ⟨rfl,rfl⟩
      · exact .inl there

/-! ## The scanner -/

structure Hook where
  sid : Nat
  kind : String
  client : Nat
  deriving DecidableEq

/-- A scan: what it found, the agents that are still to be hooked, and the processes that are still to be unhooked. -/
structure Scan where
  live : Dict Nat String
  todo : List (Nat × String)
  gone : List Nat

/-- Where a thread is. -/
inductive Thread
  | enumerating
  | enumerated (live : Dict Nat String)
  | between (scan : Scan)
  | connected (scan : Scan) (pid : Nat) (kind : String) (client : Nat)
  | asked (scan : Scan) (pid : Nat) (kind : String) (client : Nat)
  | answered (scan : Scan) (pid : Nat) (kind : String) (client : Nat) (sid : Nat)
  | told (scan : Scan) (pid : Nat) (kind : String) (client : Nat) (sid : Nat)
  | closing (scan : Scan) (client : Nat)
  | waiting (live : Dict Nat String)
  | ended

/-- What a thread does next, with what its calls give back. -/
inductive Act
  | enumerates (listing : Listing)
  /-- The processes to unhook are a difference of sets, in some order. -/
  | compares (gone : List Nat)
  | goes
  | connects (fine : Bool)
  | sends (fine : Bool)
  | receives (reply : Option Packet)

/-- Where the thread is that calls `start` and `stop`. -/
inductive Caller
  | idle | joining | clearing

structure Scanner where
  hooked : Dict Nat Hook := .empty
  stop : Bool := false
  thread : Option Nat := none
  threads : List Thread := []
  caller : Caller := .idle
  /-- The connections that were opened are the numbers below this one. -/
  opened : Nat := 0
  closed : List Nat := []
  /-- The connections that were in the table when another one took their place. -/
  pushed_out : List Nat := []

/-- What one turn of a thread changes, and what it sends on which connection. -/
def turn (s : Scanner) : Thread → Act → Option (Scanner × Thread × Option (Nat × Packet))
  | .enumerating, .enumerates listing => some (s,.enumerated (listing.agents config),none)
  | .enumerated live, .compares gone =>
    let existing := s.hooked.keys
    if gone.Perm (existing.filter (fun pid => pid ∉ live.keys)) then
      some (s,.between ⟨live,live.items.filter (fun e => e.1 ∉ existing),gone⟩,none)
    else none
  | .between ⟨live,(pid,kind) :: todo,gone⟩, .connects true =>
    some ({ s with opened := s.opened + 1 },.connected ⟨live,todo,gone⟩ pid kind s.opened,none)
  | .between ⟨live,_ :: todo,gone⟩, .connects false => some (s,.between ⟨live,todo,gone⟩,none)
  | .connected scan pid kind client, .sends true =>
    some (s,.asked scan pid kind client,some (client,make_request_session (as_bytes kind)))
  | .connected scan _ _ client, .sends false => some (s,.closing scan client,none)
  | .asked scan pid kind client, .receives (some reply) =>
    if reply.command = Cmd.SESSION_RESPONSE.value then some (s,.answered scan pid kind client reply.session_id,none)
    else some (s,.closing scan client,none)
  | .asked scan _ _ client, .receives none => some (s,.closing scan client,none)
  | .answered scan pid kind client sid, .sends fine =>
    some (s,.told scan pid kind client sid,if fine then some (client,make_status_update sid .RUN) else none)
  | .told scan pid kind client sid, .goes =>
    some ({ s with hooked := s.hooked.set pid ⟨sid,kind,client⟩,
                   pushed_out := s.pushed_out ++ ((s.hooked.get pid).map Hook.client).toList },.between scan,none)
  | .closing scan client, .goes => some ({ s with closed := s.closed ++ [client] },.between scan,none)
  | .between ⟨live,[],pid :: gone⟩, .goes =>
    match s.hooked.get pid with
    | none => some (s,.between ⟨live,[],gone⟩,none)
    | some hook => some ({ s with hooked := s.hooked.pop pid },.closing ⟨live,[],gone⟩ hook.client,none)
  | .between ⟨live,[],[]⟩, .goes => some (s,.waiting live,none)
  | .waiting _, .goes => some (s,if s.stop then .ended else .enumerating,none)
  | _, _ => none

inductive Step
  | start
  | stop
  /-- The thread has ended, or has not in the time that is waited for it. -/
  | join
  | clear
  | turn (thread : Nat) (act : Act)

def step (s : Scanner) : Step → Option (Scanner × Option (Nat × Packet))
  | .start =>
    match s.caller, s.thread with
    | .idle, some _ => some (s,none)
    | .idle, none =>
      some ({ s with stop := false, thread := some s.threads.length, threads := s.threads ++ [.enumerating] },none)
    | _, _ => none
  | .stop =>
    match s.caller with
    | .idle => some ({ s with stop := true, caller := .joining },none)
    | _ => none
  | .join =>
    match s.caller with
    | .joining => some ({ s with thread := none, caller := .clearing },none)
    | _ => none
  | .clear =>
    match s.caller with
    | .clearing =>
      some ({ s with hooked := .empty, closed := s.closed ++ s.hooked.items.map (fun e => e.2.client), caller := .idle },none)
    | _ => none
  | .turn thread act => do
    let pc ← s.threads[thread]?
    let (next,pc,sent) ← turn config s pc act
    return ({ next with threads := s.threads.set thread pc },sent)

abbrev ScannerMove := Move Scanner Step (Option (Nat × Packet))

def scanner : System Scanner Step (Option (Nat × Packet)) := fun m => step config m.pre m.input = some (m.post,m.output)

variable {config}

/-! ## Where the connections are -/

/-- The connection in the hands of a thread. -/
def Thread.held : Thread → List Nat
  | .connected _ _ _ client | .asked _ _ _ client | .answered _ _ _ client _ | .told _ _ _ client _ | .closing _ client => [client]
  | _ => []

def Scanner.tabled (s : Scanner) : List Nat := s.hooked.items.map (fun e => e.2.client)

def Scanner.hands (s : Scanner) : List Nat := s.threads.flatMap Thread.held

/-- How often a connection is closed, in the table or pushed out of it. -/
def Scanner.settled (s : Scanner) (c : Nat) : Nat := s.closed.count c + s.tabled.count c + s.pushed_out.count c

def Accounted (s : Scanner) : Prop := ∀ c, s.settled c + s.hands.count c = if c < s.opened then 1 else 0

variable {s next : Scanner} {pc pc' : Thread} {act : Act} {sent : Option (Nat × Packet)} {threads : List Thread} {t : Nat}

theorem tabled_count (s : Scanner) (c : Nat) : s.tabled.count c = s.hooked.items.countP (fun e => e.2.client == c) := by
  rw [Scanner.tabled,List.count,List.countP_map]
  rfl

theorem tabled_set (hooked : Dict Nat Hook) (pid : Nat) (hook : Hook) (c : Nat) :
    ((hooked.set pid hook).items.countP (fun e => e.2.client == c)) + (((hooked.get pid).map Hook.client).toList.count c) =
      hooked.items.countP (fun e => e.2.client == c) + [hook.client].count c := by
  have counted := Dict.countP_set (fun hook : Hook => hook.client == c) hooked pid hook
  cases found : hooked.get pid with
  | none =>
    rw [found] at counted
    simpa [List.countP_cons,List.count_cons] using counted
  | some old =>
    rw [found] at counted
    simpa [List.countP_cons,List.count_cons] using counted

theorem tabled_pop {hooked : Dict Nat Hook} {pid : Nat} {hook : Hook} (found : hooked.get pid = some hook) (c : Nat) :
    ((hooked.pop pid).items.countP (fun e => e.2.client == c)) + [hook.client].count c =
      hooked.items.countP (fun e => e.2.client == c) := by
  have counted := Dict.countP_pop (fun hook : Hook => hook.client == c) hooked pid
  rw [found] at counted
  simpa [List.countP_cons,List.count_cons] using counted

/-- What a turn changes: nothing of the threads and their caller; a connection that it opens is in its hands. -/
structure Turned (s : Scanner) (pc : Thread) (next : Scanner) (pc' : Thread) : Prop where
  caller : next.caller = s.caller
  thread : next.thread = s.thread
  threads : next.threads = s.threads
  stop : next.stop = s.stop
  opened : s.opened ≤ next.opened
  settled : ∀ c, next.settled c + pc'.held.count c =
    s.settled c + pc.held.count c + if s.opened ≤ c ∧ c < next.opened then 1 else 0

theorem turned_idle (same : pc'.held = pc.held) : Turned s pc s pc' := by
  refine ⟨rfl,rfl,rfl,rfl,Nat.le_refl _,fun c => ?_⟩
  rw [same,if_neg (by omega)]
  rfl

theorem turn_turned (turned : turn config s pc act = some (next,pc',sent)) : Turned s pc next pc' := by
  revert turned
  fun_cases turn config s pc act with
  | case4 live pid kind todo gone =>
    rintro ⟨⟩
    refine ⟨rfl,rfl,rfl,rfl,Nat.le_succ _,fun c => ?_⟩
    change s.settled c + [s.opened].count c = s.settled c + 0 + _
    rw [List.count_singleton]
    simp only [beq_iff_eq]
    split <;> split <;> omega
  | case12 scan pid kind client sid =>
    rintro ⟨⟩
    refine ⟨rfl,rfl,rfl,rfl,Nat.le_refl _,fun c => ?_⟩
    have counted := tabled_set s.hooked pid ⟨sid,kind,client⟩ c
    rw [if_neg (by change ¬ (s.opened ≤ c ∧ c < s.opened); omega)]
    simp only [Scanner.settled,tabled_count,Thread.held,List.count_append,List.count_nil] at counted ⊢
    omega
  | case13 scan client =>
    rintro ⟨⟩
    refine ⟨rfl,rfl,rfl,rfl,Nat.le_refl _,fun c => ?_⟩
    rw [if_neg (by change ¬ (s.opened ≤ c ∧ c < s.opened); omega)]
    simp only [Scanner.settled,tabled_count,Thread.held,List.count_append,List.count_nil]
    omega
  | case15 live pid gone hook found =>
    rintro ⟨⟩
    refine ⟨rfl,rfl,rfl,rfl,Nat.le_refl _,fun c => ?_⟩
    have counted := tabled_pop found c
    rw [if_neg (by change ¬ (s.opened ≤ c ∧ c < s.opened); omega)]
    simp only [Scanner.settled,tabled_count,Thread.held,List.count_nil] at counted ⊢
    omega
  | case17 live =>
    rintro ⟨⟩
    refine turned_idle ?_
    split <;> rfl
  | case3 | case18 => rintro ⟨⟩
  | _ =>
    rintro ⟨⟩
    exact turned_idle rfl

/-- One thread goes on from its place to another. -/
theorem hands_set (here : threads[t]? = some pc) (pc' : Thread) (c : Nat) :
    ((threads.set t pc').flatMap Thread.held).count c + pc.held.count c =
      (threads.flatMap Thread.held).count c + pc'.held.count c := by
  induction threads generalizing t with
  | nil => cases here
  | cons first threads ih =>
    cases t with
    | zero =>
      cases here
      rw [List.set_cons_zero,List.flatMap_cons,List.flatMap_cons,List.count_append,List.count_append]
      omega
    | succ t =>
      have later := ih (t := t) (by simpa using here)
      rw [List.set_cons_succ,List.flatMap_cons,List.flatMap_cons,List.count_append,List.count_append]
      omega

theorem hands_begun (threads : List Thread) (c : Nat) :
    ((threads ++ [Thread.enumerating]).flatMap Thread.held).count c = (threads.flatMap Thread.held).count c := by
  rw [List.flatMap_append,List.count_append]
  rfl

/-- What a step is: one of the caller, or a turn of a thread. -/
theorem step_cases {m : ScannerMove} (move : scanner config m) :
    (m.input = .start ∧ (m.post = m.pre ∨ m.pre.thread = none ∧ m.post =
      { m.pre with stop := false, thread := some m.pre.threads.length, threads := m.pre.threads ++ [.enumerating] })) ∨
    (m.input = .stop ∧ m.post = { m.pre with stop := true, caller := .joining }) ∨
    (m.input = .join ∧ m.post = { m.pre with thread := none, caller := .clearing }) ∨
    (m.input = .clear ∧ m.post =
      { m.pre with hooked := .empty, closed := m.pre.closed ++ m.pre.tabled, caller := .idle }) ∨
    ∃ t act pc next pc', m.input = .turn t act ∧ m.pre.threads[t]? = some pc ∧ turn config m.pre pc act = some (next,pc',m.output) ∧
      m.post = { next with threads := m.pre.threads.set t pc' } := by
  obtain ⟨pre,input,post,output⟩ := m
  change step config pre input = some (post,output) at move
  cases input with
  | start =>
    left
    refine ⟨rfl,?_⟩
    simp only [step] at move
    split at move
    · cases move
      exact .inl rfl
    · rename_i idle none
      cases move
      exact .inr ⟨none,rfl⟩
    · cases move
  | stop =>
    simp only [step] at move
    split at move <;> cases move
    exact .inr (.inl ⟨rfl,rfl⟩)
  | join =>
    simp only [step] at move
    split at move <;> cases move
    exact .inr (.inr (.inl ⟨rfl,rfl⟩))
  | clear =>
    simp only [step] at move
    split at move <;> cases move
    exact .inr (.inr (.inr (.inl ⟨rfl,rfl⟩)))
  | turn t act =>
    right; right; right; right
    obtain ⟨pc,here,rest⟩ := Option.bind_eq_some_iff.mp move
    obtain ⟨⟨next,pc',sent⟩,turned,same⟩ := Option.bind_eq_some_iff.mp rest
    cases same
    exact ⟨t,act,pc,next,pc',rfl,here,turned,rfl⟩

theorem accounted_move {m : ScannerMove} (move : scanner config m) (accounted : Accounted m.pre) : Accounted m.post := by
  intro c
  have before := accounted c
  rcases step_cases move with ⟨_,same | ⟨_,same⟩⟩ | ⟨_,same⟩ | ⟨_,same⟩ | ⟨_,same⟩ | ⟨t,act,pc,next,pc',_,here,turned,same⟩
  · rw [same]
    exact before
  · rw [same]
    change m.pre.settled c + ((m.pre.threads ++ [Thread.enumerating]).flatMap Thread.held).count c = _
    rw [hands_begun]
    exact before
  · rw [same]
    exact before
  · rw [same]
    exact before
  · rw [same]
    simp only [Scanner.settled,List.count_append] at before ⊢
    change m.pre.closed.count c + m.pre.tabled.count c + 0 + m.pre.pushed_out.count c + m.pre.hands.count c = _
    omega
  · have changed := turn_turned turned
    have moved := hands_set here pc' c
    have weighed := changed.settled c
    have grows := changed.opened
    rw [same]
    change next.settled c + ((m.pre.threads.set t pc').flatMap Thread.held).count c = if c < next.opened then 1 else 0
    change m.pre.settled c + (m.pre.threads.flatMap Thread.held).count c = if c < m.pre.opened then 1 else 0 at before
    split <;> split at before <;> split at weighed <;> omega

theorem owned (accounted : Accounted s) :
    (s.closed ++ s.tabled ++ s.hands ++ s.pushed_out).Perm (List.range s.opened) := by
  refine List.perm_iff_count.mpr ?_
  intro c
  have counted := accounted c
  have inside : (List.range s.opened).count c = if c < s.opened then 1 else 0 := by
    rw [List.Nodup.count List.nodup_range]
    simp only [List.mem_range]
  rw [inside,← counted]
  simp only [Scanner.settled,List.count_append]
  omega

/-- Wherever the threads are, every connection that was opened is closed once, or is in the table, in the hands of a thread, or was
    pushed out of the table. -/
theorem connections_owned {ms : List ScannerMove} {s : Scanner} (path : Path (scanner config) {} ms s) :
    (s.closed ++ s.tabled ++ s.hands ++ s.pushed_out).Perm (List.range s.opened) :=
  owned (path_invariant (fun _ => accounted_move) path (fun _ => rfl))

/-- What is right for ASCII. -/
def ascii_config : Config where
  decode_replace bytes := String.ofList (bytes.map (fun b => Char.ofNat b.toNat))
  program_name exe_name := (basename exe_name).toLower

/-- A process that was started as `codex`, with `PATH=/` as its environment. -/
def codex_entry : ProcEntry := ⟨7,some [99,111,100,101,120],some [80,65,84,72,61,47,0]⟩

/-- A scan that hooks the process. -/
def codex_steps : List Step :=
  [.start,.turn 0 (.enumerates (.linux (some [codex_entry]))),.turn 0 (.compares []),.turn 0 (.connects true),.turn 0 (.sends true),
    .turn 0 (.receives (some (make_session_response 1 .OK))),.turn 0 (.sends true),.turn 0 .goes,.turn 0 .goes]

/-- The scanner is stopped, and its thread ends in time. -/
def stop_steps : List Step := [.stop,.turn 0 .goes,.join,.clear]

def after (steps : List Step) : Scanner := finish (attempt (step ascii_config) none) {} steps

def moves_of (steps : List Step) : List ScannerMove := moves (attempt (step ascii_config) none) {} steps

theorem codex_path : Path (scanner ascii_config) {} (moves_of codex_steps) (after codex_steps) :=
  taken_path (fun _ made => made) (by decide +kernel)

theorem stopped_path : Path (scanner ascii_config) {} (moves_of (codex_steps ++ stop_steps)) (after (codex_steps ++ stop_steps)) :=
  taken_path (fun _ made => made) (by decide +kernel)

theorem connections_owned_codex : ((after codex_steps).closed ++ (after codex_steps).tabled ++ (after codex_steps).hands ++
    (after codex_steps).pushed_out).Perm (List.range (after codex_steps).opened) := connections_owned codex_path

/-! ## One thread at a time -/

/-- No thread is started while another one still runs. -/
def Alone (m : ScannerMove) : Prop := m.input = .start → m.pre.thread = none → ∀ pc ∈ m.pre.threads, pc = .ended

/-- What is hooked during a scan is alive or still to be unhooked, and what is to be hooked is neither hooked nor twice there. -/
structure Scanning (hooked : Dict Nat Hook) (scan : Scan) : Prop where
  known : ∀ pid ∈ hooked.keys, pid ∈ scan.live.keys ∨ pid ∈ scan.gone
  new : ∀ e ∈ scan.todo, e.1 ∈ scan.live.keys ∧ e.1 ∉ hooked.keys
  distinct : (scan.todo.map Prod.fst).Nodup

/-- A process that is being hooked. -/
structure Hooking (hooked : Dict Nat Hook) (scan : Scan) (pid : Nat) : Prop where
  scanning : Scanning hooked scan
  live : pid ∈ scan.live.keys
  unhooked : pid ∉ hooked.keys
  once : pid ∉ scan.todo.map Prod.fst

/-- What the place of a thread says about the table, if no other thread runs. -/
def Fits (hooked : Dict Nat Hook) : Thread → Prop
  | .enumerating | .enumerated _ | .ended => True
  | .between scan | .closing scan _ => Scanning hooked scan
  | .connected scan pid _ _ | .asked scan pid _ _ | .answered scan pid _ _ _ | .told scan pid _ _ _ => Hooking hooked scan pid
  | .waiting live => ∀ pid ∈ hooked.keys, pid ∈ live.keys

structure Lone (s : Scanner) : Prop where
  single : ∀ (i j : Nat) (pc pc' : Thread), s.threads[i]? = some pc → s.threads[j]? = some pc' → pc ≠ Thread.ended →
    pc' ≠ Thread.ended → i = j
  fits : ∀ pc ∈ s.threads, Fits s.hooked pc
  kept : s.pushed_out = []

theorem scanning_rest {hooked : Dict Nat Hook} {live : Dict Nat String} {first : Nat × String} {todo : List (Nat × String)}
    {gone : List Nat} (scanning : Scanning hooked ⟨live,first :: todo,gone⟩) : Scanning hooked ⟨live,todo,gone⟩ :=
  ⟨scanning.known,fun e member => scanning.new e (List.mem_cons_of_mem _ member),(List.nodup_cons.mp scanning.distinct).2⟩

theorem scanning_fewer {hooked hooked' : Dict Nat Hook} {scan : Scan} (fewer : ∀ pid ∈ hooked'.keys, pid ∈ hooked.keys)
    (scanning : Scanning hooked scan) : Scanning hooked' scan where
  known pid there := scanning.known pid (fewer pid there)
  new e member := ⟨(scanning.new e member).1,fun there => (scanning.new e member).2 (fewer e.1 there)⟩
  distinct := scanning.distinct

theorem hooking_fewer {hooked hooked' : Dict Nat Hook} {scan : Scan} {pid : Nat} (fewer : ∀ pid ∈ hooked'.keys, pid ∈ hooked.keys)
    (hooking : Hooking hooked scan pid) : Hooking hooked' scan pid where
  scanning := scanning_fewer fewer hooking.scanning
  live := hooking.live
  unhooked there := hooking.unhooked (fewer pid there)
  once := hooking.once

theorem fits_fewer {hooked hooked' : Dict Nat Hook} (fewer : ∀ pid ∈ hooked'.keys, pid ∈ hooked.keys) (fits : Fits hooked pc) :
    Fits hooked' pc := by
  cases pc with
  | enumerating | enumerated _ | ended => exact trivial
  | between scan | closing scan _ => exact scanning_fewer fewer fits
  | connected scan pid _ _ | asked scan pid _ _ | answered scan pid _ _ _ | told scan pid _ _ _ => exact hooking_fewer fewer fits
  | waiting live => exact fun pid there => fits pid (fewer pid there)

/-- A turn leaves its thread where it fits, and pushes nothing out of the table. -/
theorem turn_fits (turned : turn config s pc act = some (next,pc',sent)) (fits : Fits s.hooked pc) :
    Fits next.hooked pc' ∧ next.pushed_out = s.pushed_out := by
  revert turned fits
  fun_cases turn config s pc act with
  | case1 listing => rintro ⟨⟩ _; exact ⟨trivial,rfl⟩
  | case2 live gone existing same =>
    rintro ⟨⟩ _
    refine ⟨⟨?_,?_,?_⟩,rfl⟩
    · intro pid there
      by_cases alive : pid ∈ live.keys
      · exact .inl alive
      · exact .inr (same.mem_iff.mpr (List.mem_filter.mpr ⟨there,by simpa using alive⟩))
    · intro e member
      obtain ⟨alive,new⟩ := List.mem_filter.mp member
      exact ⟨List.mem_map_of_mem alive,by simpa using new⟩
    · exact live.distinct.sublist (List.filter_sublist.map Prod.fst)
  | case4 live pid kind todo gone =>
    rintro ⟨⟩ fits
    obtain ⟨alive,unhooked⟩ := fits.new (pid,kind) List.mem_cons_self
    exact ⟨⟨scanning_rest fits,alive,unhooked,(List.nodup_cons.mp fits.distinct).1⟩,rfl⟩
  | case5 live first todo gone =>
    rintro ⟨⟩ fits
    exact ⟨scanning_rest fits,rfl⟩
  | case12 scan pid kind client sid =>
    rintro ⟨⟩ fits
    obtain ⟨⟨known,new,distinct⟩,alive,unhooked,once⟩ := fits
    refine ⟨⟨?_,?_,distinct⟩,?_⟩
    · intro pid' there
      rcases Dict.mem_set.mp there with rfl | before
      · exact .inl alive
      · exact known pid' before
    · intro e member
      refine ⟨(new e member).1,fun there => ?_⟩
      rcases Dict.mem_set.mp there with same | before
      · exact once (same ▸ List.mem_map_of_mem member)
      · exact (new e member).2 before
    · change s.pushed_out ++ ((s.hooked.get pid).map Hook.client).toList = s.pushed_out
      rw [Dict.get_none.mpr unhooked]
      exact List.append_nil _
  | case14 live pid gone none =>
    rintro ⟨⟩ fits
    refine ⟨⟨?_,fits.new,fits.distinct⟩,rfl⟩
    intro pid' there
    refine (fits.known pid' there).imp_right (fun member => (List.mem_cons.mp member).resolve_left ?_)
    rintro rfl
    exact Dict.get_none.mp none there
  | case15 live pid gone hook found =>
    rintro ⟨⟩ fits
    refine ⟨⟨?_,fun e member => (List.not_mem_nil member).elim,fits.distinct⟩,rfl⟩
    intro pid' there
    obtain ⟨before,other⟩ := Dict.mem_pop.mp there
    exact (fits.known pid' before).imp_right (fun member => (List.mem_cons.mp member).resolve_left other)
  | case16 live =>
    rintro ⟨⟩ fits
    exact ⟨fun pid there => (fits.known pid there).resolve_right List.not_mem_nil,rfl⟩
  | case17 live =>
    rintro ⟨⟩ _
    refine ⟨?_,rfl⟩
    split <;> exact trivial
  | case3 | case18 => rintro ⟨⟩
  | case7 | case9 | case10 =>
    rintro ⟨⟩ fits
    exact ⟨fits.scanning,rfl⟩
  | _ =>
    rintro ⟨⟩ fits
    exact ⟨fits,rfl⟩

theorem turn_running (turned : turn config s pc act = some (next,pc',sent)) : pc ≠ .ended := by
  rintro rfl
  cases act <;> cases turned

theorem lone_move {m : ScannerMove} (move : scanner config m) (alone : Alone m) (lone : Lone m.pre) : Lone m.post := by
  rcases step_cases move with ⟨input,same | ⟨none,same⟩⟩ | ⟨_,same⟩ | ⟨_,same⟩ | ⟨_,same⟩ | ⟨t,act,pc,next,pc',_,here,turned,same⟩
  · rw [same]
    exact lone
  · have ended := alone input none
    rw [same]
    refine ⟨?_,?_,lone.kept⟩
    · -- the new thread is the last one, and all before it have ended
      have last {i : Nat} {pc : Thread} (found : (m.pre.threads ++ [Thread.enumerating])[i]? = some pc) (runs : pc ≠ .ended) :
          i = m.pre.threads.length := by
        rcases Nat.lt_trichotomy i m.pre.threads.length with before | same | after
        · rw [List.getElem?_append_left before] at found
          exact absurd (ended pc (List.mem_of_getElem? found)) runs
        · exact same
        · rw [List.getElem?_eq_none (by simp; omega)] at found
          cases found
      intro i j pc pc' first second runs runs'
      rw [last first runs,last second runs']
    · intro pc member
      rcases List.mem_append.mp member with before | new
      · exact lone.fits pc before
      · rw [List.mem_singleton.mp new]
        exact trivial
  · rw [same]
    exact ⟨lone.single,lone.fits,lone.kept⟩
  · rw [same]
    exact ⟨lone.single,lone.fits,lone.kept⟩
  · rw [same]
    exact ⟨lone.single,fun pc member => fits_fewer (fun pid there => (List.not_mem_nil there).elim) (lone.fits pc member),lone.kept⟩
  · have runs := turn_running turned
    obtain ⟨fits,kept⟩ := turn_fits turned (lone.fits pc (List.mem_of_getElem? here))
    -- every other thread has ended
    have others {i : Nat} {pc' : Thread} (found : m.pre.threads[i]? = some pc') (other : i ≠ t) : pc' = .ended := by
      by_contra runs'
      exact other (lone.single i t pc' pc found here runs' runs)
    have place {i : Nat} {found : Thread} (there : (m.pre.threads.set t pc')[i]? = some found) : found = pc' ∨ found = .ended := by
      by_cases same : t = i
      · subst same
        rw [List.getElem?_set_self (List.getElem?_eq_some_iff.mp here).1] at there
        exact .inl (Option.some.inj there).symm
      · rw [List.getElem?_set_ne same] at there
        exact .inr (others there (Ne.symm same))
    rw [same]
    refine ⟨?_,?_,kept.trans lone.kept⟩
    · have own {i : Nat} {found : Thread} (there : (m.pre.threads.set t pc')[i]? = some found) (runs : found ≠ .ended) : i = t := by
        by_contra other
        rw [List.getElem?_set_ne (Ne.symm other)] at there
        exact runs (others there other)
      intro i j first second there there' runs runs'
      rw [own there runs,own there' runs']
    · intro found member
      obtain ⟨i,there⟩ := List.mem_iff_getElem?.mp member
      rcases place there with rfl | rfl
      · exact fits
      · exact trivial

/-- With one thread at a time, nothing is pushed out of the table; after a scan, what is hooked is what the scan found alive; and after
    a `stop` whose thread has ended, every connection is closed. -/
theorem scanned_alone {ms : List ScannerMove} {s : Scanner} (path : Path (scanner config) {} ms s) (alone : ∀ m ∈ ms, Alone m) :
    s.pushed_out = [] ∧ (∀ live, Thread.waiting live ∈ s.threads → ∀ pid ∈ s.hooked.keys, pid ∈ live.keys) ∧
      (s.hooked = .empty → (∀ pc ∈ s.threads, pc = .ended) → s.closed.Perm (List.range s.opened)) := by
  have accounted : Accounted s := path_invariant (fun _ => accounted_move) path (fun _ => rfl)
  have lone : Lone s := by
    clear accounted
    induction path with
    | refl =>
      refine ⟨?_,fun _ member => (List.not_mem_nil member).elim,rfl⟩
      intro i j pc pc' found
      cases found
    | next before move ih =>
      obtain ⟨earlier,last⟩ := List.forall_mem_append.mp alone
      exact lone_move move (last _ (List.mem_singleton_self _)) (ih earlier)
  refine ⟨lone.kept,fun live waits => lone.fits _ waits,?_⟩
  intro empty ended
  have everywhere := owned accounted
  have hands : s.hands = [] := List.flatMap_eq_nil_iff.mpr (fun pc member => by rw [ended pc member]; rfl)
  have tabled : s.tabled = [] := by rw [Scanner.tabled,empty]; rfl
  rwa [hands,tabled,lone.kept,List.append_nil,List.append_nil,List.append_nil] at everywhere

/-- Threads are started in the moves only where there is none yet. -/
def starts_first (ms : List ScannerMove) : Bool :=
  ms.all (fun m => match m.input with | .start => m.pre.threads.isEmpty | _ => true)

theorem alone_first {ms : List ScannerMove} (first : starts_first ms = true) : ∀ m ∈ ms, Alone m := by
  intro m member input _ pc there
  have empty := List.all_eq_true.mp first m member
  rw [input] at empty
  rw [List.isEmpty_iff.mp empty] at there
  cases there

theorem scanned_alone_codex : (after codex_steps).pushed_out = [] ∧
    (∀ pid ∈ (after codex_steps).hooked.keys, pid ∈ ((Listing.linux (some [codex_entry])).agents ascii_config).keys) ∧
    (after (codex_steps ++ stop_steps)).closed.Perm (List.range 1) := by
  obtain ⟨kept,alive,_⟩ := scanned_alone codex_path (alone_first (by decide +kernel))
  obtain ⟨_,_,all⟩ := scanned_alone stopped_path (alone_first (by decide +kernel))
  have waits : (after codex_steps).threads = [Thread.waiting ((Listing.linux (some [codex_entry])).agents ascii_config)] := rfl
  have ended : (after (codex_steps ++ stop_steps)).threads = [Thread.ended] := rfl
  refine ⟨kept,alive _ (by rw [waits]; exact List.mem_singleton_self _),all rfl ?_⟩
  intro pc member
  rw [ended] at member
  exact List.mem_singleton.mp member

/-! ## Where the hooks come from -/

/-- A listing of the run names the process as this kind of agent. -/
def Found (config : Config) (ms : List ScannerMove) (pid : Nat) (kind : String) : Prop :=
  ∃ m ∈ ms, ∃ t listing, m.input = .turn t (.enumerates listing) ∧ listing.Names config pid kind

/-- A session was asked for on the connection. -/
def Requested (ms : List ScannerMove) (kind : String) (client : Nat) : Prop :=
  ∃ m ∈ ms, m.output = some (client,make_request_session (as_bytes kind))

/-- The answer to the request was this session. -/
def Granted (ms : List ScannerMove) (pid : Nat) (kind : String) (client sid : Nat) : Prop :=
  ∃ m ∈ ms, ∃ t scan reply, m.pre.threads[t]? = some (.asked scan pid kind client) ∧ m.input = .turn t (.receives (some reply)) ∧
    reply.command = Cmd.SESSION_RESPONSE.value ∧ reply.session_id = sid

def TodoFound (config : Config) (ms : List ScannerMove) (scan : Scan) : Prop := ∀ e ∈ scan.todo, Found config ms e.1 e.2

/-- What the thread knows has happened. -/
def Sourced (config : Config) (ms : List ScannerMove) : Thread → Prop
  | .enumerating | .ended | .waiting _ => True
  | .enumerated live => ∀ e ∈ live.items, Found config ms e.1 e.2
  | .between scan | .closing scan _ => TodoFound config ms scan
  | .connected scan pid kind _ => TodoFound config ms scan ∧ Found config ms pid kind
  | .asked scan pid kind client => TodoFound config ms scan ∧ Found config ms pid kind ∧ Requested ms kind client
  | .answered scan pid kind client sid | .told scan pid kind client sid =>
    TodoFound config ms scan ∧ Found config ms pid kind ∧ Requested ms kind client ∧ Granted ms pid kind client sid

structure Remembered (config : Config) (ms : List ScannerMove) (s : Scanner) : Prop where
  threads : ∀ pc ∈ s.threads, Sourced config ms pc
  hooked : ∀ e ∈ s.hooked.items, Found config ms e.1 e.2.kind ∧ Requested ms e.2.kind e.2.client ∧
    Granted ms e.1 e.2.kind e.2.client e.2.sid

section
variable {ms : List ScannerMove} {m : ScannerMove}

theorem Found.later {pid : Nat} {kind : String} (found : Found config ms pid kind) (m : ScannerMove) : Found config (ms ++ [m]) pid kind := by
  obtain ⟨m',member,rest⟩ := found
  exact ⟨m',List.mem_append_left _ member,rest⟩

theorem Requested.later {kind : String} {client : Nat} (requested : Requested ms kind client) (m : ScannerMove) :
    Requested (ms ++ [m]) kind client := by
  obtain ⟨m',member,rest⟩ := requested
  exact ⟨m',List.mem_append_left _ member,rest⟩

theorem Granted.later {pid : Nat} {kind : String} {client sid : Nat} (granted : Granted ms pid kind client sid) (m : ScannerMove) :
    Granted (ms ++ [m]) pid kind client sid := by
  obtain ⟨m',member,rest⟩ := granted
  exact ⟨m',List.mem_append_left _ member,rest⟩

theorem TodoFound.later {scan : Scan} (todo : TodoFound config ms scan) (m : ScannerMove) : TodoFound config (ms ++ [m]) scan :=
  fun e member => (todo e member).later m

theorem sourced_later (sourced : Sourced config ms pc) (m : ScannerMove) : Sourced config (ms ++ [m]) pc := by
  cases pc with
  | enumerating | ended | waiting _ => exact trivial
  | enumerated live => exact fun e member => (sourced e member).later m
  | between scan | closing scan _ => exact TodoFound.later sourced m
  | connected scan pid kind _ => exact ⟨sourced.1.later m,sourced.2.later m⟩
  | asked scan pid kind client => exact ⟨sourced.1.later m,sourced.2.1.later m,sourced.2.2.later m⟩
  | answered scan pid kind client sid | told scan pid kind client sid =>
    exact ⟨sourced.1.later m,sourced.2.1.later m,sourced.2.2.1.later m,sourced.2.2.2.later m⟩

/-- A turn: what its thread knows afterwards has happened, and so has what the table knows. -/
theorem turn_sourced (here : m.pre.threads[t]? = some pc) (input : m.input = .turn t act)
    (turned : turn config m.pre pc act = some (next,pc',m.output)) (remembered : Remembered config ms m.pre) :
    Sourced config (ms ++ [m]) pc' ∧ ∀ e ∈ next.hooked.items, e ∈ m.pre.hooked.items ∨
      Found config (ms ++ [m]) e.1 e.2.kind ∧ Requested (ms ++ [m]) e.2.kind e.2.client ∧ Granted (ms ++ [m]) e.1 e.2.kind e.2.client e.2.sid := by
  have last : m ∈ ms ++ [m] := List.mem_append_right _ (List.mem_singleton_self m)
  have known := sourced_later (remembered.threads pc (List.mem_of_getElem? here)) m
  have kept : ∀ e ∈ m.pre.hooked.items, e ∈ m.pre.hooked.items ∨
      Found config (ms ++ [m]) e.1 e.2.kind ∧ Requested (ms ++ [m]) e.2.kind e.2.client ∧ Granted (ms ++ [m]) e.1 e.2.kind e.2.client e.2.sid :=
    fun e member => .inl member
  generalize output : m.output = sent at turned
  revert here input known turned
  fun_cases turn config m.pre pc act with
  | case1 listing =>
    rintro here input known ⟨⟩
    exact ⟨fun e member => ⟨m,last,t,listing,input,agents_named config member⟩,kept⟩
  | case2 live gone =>
    rintro here input known ⟨⟩
    exact ⟨fun e member => known e (List.mem_filter.mp member).1,kept⟩
  | case4 live pid kind todo gone =>
    rintro here input known ⟨⟩
    exact ⟨⟨fun e member => known e (List.mem_cons_of_mem _ member),known (pid,kind) List.mem_cons_self⟩,kept⟩
  | case5 live first todo gone =>
    rintro here input known ⟨⟩
    exact ⟨fun e member => known e (List.mem_cons_of_mem _ member),kept⟩
  | case6 scan pid kind client =>
    rintro here input known ⟨⟩
    exact ⟨⟨known.1,known.2,m,last,output⟩,kept⟩
  | case7 scan pid kind client =>
    rintro here input known ⟨⟩
    exact ⟨known.1,kept⟩
  | case8 scan pid kind client reply response =>
    rintro here input known ⟨⟩
    exact ⟨⟨known.1,known.2.1,known.2.2,m,last,t,scan,reply,here,input,response,rfl⟩,kept⟩
  | case9 | case10 =>
    rintro here input known ⟨⟩
    exact ⟨known.1,kept⟩
  | case11 scan pid kind client sid fine =>
    rintro here input known ⟨⟩
    exact ⟨known,kept⟩
  | case12 scan pid kind client sid =>
    rintro here input known ⟨⟩
    refine ⟨known.1,fun e member => ?_⟩
    rcases Dict.mem_items_set member with rfl | before
    · exact .inr known.2
    · exact .inl before
  | case13 scan client =>
    rintro here input known ⟨⟩
    exact ⟨known,kept⟩
  | case14 =>
    rintro here input known ⟨⟩
    exact ⟨known,kept⟩
  | case15 live pid gone hook found =>
    rintro here input known ⟨⟩
    exact ⟨known,fun e member => .inl (List.mem_filter.mp member).1⟩
  | case16 live =>
    rintro here input known ⟨⟩
    exact ⟨trivial,kept⟩
  | case17 live =>
    rintro here input known ⟨⟩
    refine ⟨?_,kept⟩
    split <;> exact trivial
  | case3 | case18 => rintro here input known ⟨⟩

theorem remembered_move (move : scanner config m) (remembered : Remembered config ms m.pre) : Remembered config (ms ++ [m]) m.post := by
  have hooked : ∀ e ∈ m.pre.hooked.items, Found config (ms ++ [m]) e.1 e.2.kind ∧ Requested (ms ++ [m]) e.2.kind e.2.client ∧
      Granted (ms ++ [m]) e.1 e.2.kind e.2.client e.2.sid := fun e member =>
    ⟨(remembered.hooked e member).1.later m,(remembered.hooked e member).2.1.later m,(remembered.hooked e member).2.2.later m⟩
  have threads : ∀ pc ∈ m.pre.threads, Sourced config (ms ++ [m]) pc := fun pc member => sourced_later (remembered.threads pc member) m
  rcases step_cases move with ⟨_,same | ⟨_,same⟩⟩ | ⟨_,same⟩ | ⟨_,same⟩ | ⟨_,same⟩ | ⟨t,act,pc,next,pc',input,here,turned,same⟩
  · rw [same]
    exact ⟨threads,hooked⟩
  · rw [same]
    refine ⟨?_,hooked⟩
    intro pc member
    rcases List.mem_append.mp member with before | new
    · exact threads pc before
    · rw [List.mem_singleton.mp new]
      exact trivial
  · rw [same]
    exact ⟨threads,hooked⟩
  · rw [same]
    exact ⟨threads,hooked⟩
  · rw [same]
    exact ⟨threads,fun e member => (List.not_mem_nil member).elim⟩
  · obtain ⟨sourced,known⟩ := turn_sourced here input turned remembered
    rw [same]
    refine ⟨?_,fun e member => (known e member).elim (hooked e) id⟩
    intro found member
    rcases List.mem_or_eq_of_mem_set member with before | rfl
    · exact threads found before
    · exact sourced

end

/-- Every hook is of a process that an entry of a listing named as an agent of this kind and that no wrapper owned; on its
    connection a session was asked for with this kind, and the answer was its session. -/
theorem hooks_sourced {ms : List ScannerMove} {s : Scanner} (path : Path (scanner config) {} ms s) {pid : Nat} {hook : Hook}
    (hooked : s.hooked.get pid = some hook) :
    Found config ms pid hook.kind ∧ Requested ms hook.kind hook.client ∧ Granted ms pid hook.kind hook.client hook.sid := by
  have remembered : Remembered config ms s := by
    clear hooked
    induction path with
    | refl => exact ⟨fun _ member => (List.not_mem_nil member).elim,fun _ member => (List.not_mem_nil member).elim⟩
    | next before move ih => exact remembered_move move ih
  exact remembered.hooked (pid,hook) (Dict.get_iff.mp hooked)

theorem hooks_sourced_codex : Found ascii_config (moves_of codex_steps) 7 "codex" ∧ Requested (moves_of codex_steps) "codex" 0 ∧
    Granted (moves_of codex_steps) 7 "codex" 0 1 :=
  hooks_sourced codex_path (show (after codex_steps).hooked.get 7 = some ⟨1,"codex",0⟩ by decide +kernel)

end VibeBridge.Python.AgentScanner
