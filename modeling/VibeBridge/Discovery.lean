import Mathlib.Data.List.Destutter
import VibeBridge.Agent
import VibeBridge.Allocation

/-!
Which of the transcripts that were found belong to sessions that run
(`vb_host::agent_discovery`): the candidates are matched with the directories of
live processes, and windows are counted for them by their titles. The times at
which files were modified and the clock's cutoff are arguments. A hash map that
is iterated comes in some order of its entries (`HashOrders`).
-/
namespace VibeBridge.Discovery
open Allocation (swap_remove)
open VibeBridge.Text VibeBridge.Core VibeBridge.Agent

/-! ## Paths -/

/-- The slash and the backslash. -/
def is_separator (c : Char) : Bool := c = '/' || c = '\\'

/-- `str::trim_end_matches` of the separators. -/
def trim_end_separators (path : List Char) : List Char := (path.reverse.dropWhile is_separator).reverse

/-- `str::replace` of one character by another. -/
def replace_char (old new : Char) (text : List Char) : List Char := text.map (fun c => if c = old then new else c)

def normalize_cwd (cwd : String) : String := String.ofList (replace_char '\\' '/' (trim_end_separators cwd.toList))

def active_key (kind : AgentKind) (cwd : String) : AgentKey := (kind, normalize_cwd cwd)

def with_sep (path : String) : String := if ends_with path "/" then path else path ++ "/"

def cwd_prefix_matches (sess_cwd proc_cwd : String) : Bool :=
  if sess_cwd = proc_cwd then true
  else
    let sess := with_sep sess_cwd
    let proc := with_sep proc_cwd
    starts_with sess proc || starts_with proc sess

/-! ## Sorting -/

/-- The time at which the file at a path was modified, the epoch when it is unknown (`session_modified_time`). -/
abbrev ModifiedTimes := String → Int

/-- The comparison of the sorts by modification time, ties by path. -/
def newest_first (modified : ModifiedTimes) (a b : AgentSession) : Bool :=
  decide (modified b.transcript_path < modified a.transcript_path) ||
    (modified a.transcript_path == modified b.transcript_path && decide (b.transcript_path ≤ a.transcript_path))

def sort_newest_first (modified : ModifiedTimes) (sessions : List AgentSession) : List AgentSession :=
  sessions.mergeSort (newest_first modified)

/-- Two sessions that `dedup_by` takes for one. -/
def same_session (a b : AgentSession) : Bool := a.kind == b.kind && a.agent_id == b.agent_id

def sort_and_dedup_sessions (sessions : List AgentSession) : List AgentSession :=
  (sessions.mergeSort (fun a b => decide (b.agent_id ≤ a.agent_id))).destutter (fun a b => ¬ same_session a b)

/-! ## Live processes -/

/-- The sessions neither done nor failed whose files were modified after the cutoff, two hours before the clock's time. -/
def fallback_recent_active_candidates (modified : ModifiedTimes) (cutoff : Int) (candidates : List AgentSession) :
    List AgentSession :=
  sort_and_dedup_sessions (candidates.filter (fun session =>
    !(session.status == .Done || session.status == .Error) && decide (cutoff ≤ modified session.transcript_path)))

/-- A slot that a candidate can take. -/
def slot_fits (session : AgentSession) (slot : AgentKey) : Bool :=
  slot.1 == session.kind && cwd_prefix_matches (normalize_cwd session.cwd) slot.2

/-- The process is alive, so the session runs, unless it waits for input. -/
def pin_running (session : AgentSession) : AgentSession :=
  if session.status = .WaitingInput then session else { session with status := .Running }

/-- One turn of the matching loop of `filter_sessions_by_active_counts`. -/
def match_candidate (state : List AgentKey × List AgentSession) (session : AgentSession) :
    List AgentKey × List AgentSession :=
  match state.1.findIdx? (slot_fits session) with
  | none => state
  | some pos => (swap_remove state.1 pos, state.2 ++ [pin_running session])

/-- The map comes in the order in which its keys are iterated. -/
def filter_sessions_by_active_counts (modified : ModifiedTimes) (cutoff : Int) (candidates : List AgentSession)
    (counts : KeyedMap AgentKey Nat) : List AgentSession :=
  let candidates := sort_newest_first modified candidates
  let active_slots := counts.keys
  if active_slots.isEmpty then fallback_recent_active_candidates modified cutoff candidates
  else sort_and_dedup_sessions (candidates.foldl match_candidate (active_slots, [])).2

/-! ## Window titles -/

def normalize_match_text (value : String) : String :=
  String.ofList (replace_char '_' '-' (replace_char '\\' '/' (to_ascii_lowercase (trim value)).toList))

/-- What follows the last separator, those at the end apart. -/
def cwd_basename (cwd : String) : String :=
  String.ofList ((trim_end_separators cwd.toList).reverse.takeWhile (fun c => !is_separator c)).reverse

def push_label (labels : List String) (label : String) : List String :=
  let label := normalize_match_text label
  if (as_bytes label).length ≥ 3 ∧ label ∉ labels then labels ++ [label] else labels

def looks_like_plain_shell_title (title : String) : Bool :=
  if title ∈ ["npm", "node", "powershell", "windows powershell", "command prompt", "cmd"] then true
  else if contains title "windows powershell" || contains title "command prompt" then true
  else contains title "@" && (contains title ": ~" || contains title ": /" || ends_with title ":~")

def generic_agent_title_kind (title : String) : Option AgentKind :=
  if contains title "claude" then some .Claude
  else if contains title "codex" then some .Codex
  else none

/-- The length of the longest label that occurs in the title. -/
def label_score (title : String) (labels : List String) : Option Nat :=
  ((labels.filter (fun label => label != "" && contains title label)).map (fun label => (as_bytes label).length)).max?

/-- One turn of the loop of `best_matching_session_key`: a later key has to score more. -/
def better_match (title : String) (best : Option (AgentKey × Nat)) (entry : AgentKey × List String) :
    Option (AgentKey × Nat) :=
  match label_score title entry.2 with
  | none => best
  | some score =>
    match best with
    | none => some (entry.1, score)
    | some (key, current) => if score > current then some (entry.1, score) else some (key, current)

/-- The map comes in the order in which it is iterated. -/
def best_matching_session_key (title : String) (labels_by_key : KeyedMap AgentKey (List String)) : Option AgentKey :=
  ((labels_by_key.entries.map (fun e => (e.1, e.2))).foldl (better_match title) none).map (·.1)

/-- `*map.entry(key).or_insert(0) += 1` -/
def bump {κ : Type} [DecidableEq κ] (counts : KeyedMap κ Nat) (key : κ) : KeyedMap κ Nat :=
  counts.insert key ((counts.lookup key).getD 0 + 1)

/-- The orders in which the hash maps of one call are iterated. -/
structure HashOrders where
  latest_by_kind : KeyedMap AgentKind (List AgentSession) → KeyedMap AgentKind (List AgentSession)
  labels_by_key : KeyedMap AgentKey (List String) → KeyedMap AgentKey (List String)
  generic_counts : KeyedMap AgentKind Nat → KeyedMap AgentKind Nat
  latest_same : ∀ m, KeyedMap.Reordered m (latest_by_kind m)
  labels_same : ∀ m, KeyedMap.Reordered m (labels_by_key m)
  generic_same : ∀ m, KeyedMap.Reordered m (generic_counts m)

/-- One turn of the first loop: the labels of the session's key, and the sessions of its kind. -/
def label_session (state : KeyedMap AgentKey (List String) × KeyedMap AgentKind (List AgentSession))
    (session : AgentSession) : KeyedMap AgentKey (List String) × KeyedMap AgentKind (List AgentSession) :=
  let key := active_key session.kind session.cwd
  let labels := push_label ((state.1.lookup key).getD []) session.name
  let labels := push_label labels (cwd_basename session.cwd)
  (state.1.insert key labels, state.2.insert session.kind ((state.2.lookup session.kind).getD [] ++ [session]))

/-- One turn of the loop over the titles: the counts, and those of the generic titles. -/
def count_title (labels_by_key : KeyedMap AgentKey (List String))
    (state : KeyedMap AgentKey Nat × KeyedMap AgentKind Nat) (title : String) :
    KeyedMap AgentKey Nat × KeyedMap AgentKind Nat :=
  let title := normalize_match_text title
  if title = "" || looks_like_plain_shell_title title then state
  else
    match best_matching_session_key title labels_by_key with
    | some key => (bump state.1 key, state.2)
    | none =>
      match generic_agent_title_kind title with
      | some kind => (state.1, bump state.2 kind)
      | none => state

/-- One turn of the last loop: the newest sessions of a kind, as many as it has generic titles. -/
def count_generic (latest_by_kind : KeyedMap AgentKind (List AgentSession)) (counts : KeyedMap AgentKey Nat)
    (entry : AgentKind × Nat) : KeyedMap AgentKey Nat :=
  match latest_by_kind.lookup entry.1 with
  | none => counts
  | some sessions =>
    (sessions.take entry.2).foldl (fun counts session => bump counts (active_key session.kind session.cwd)) counts

def visible_terminal_session_counts_from_titles (modified : ModifiedTimes) (orders : HashOrders)
    (candidates : List AgentSession) (titles : List String) : KeyedMap AgentKey Nat :=
  let labelled := candidates.foldl label_session (∅, ∅)
  let labels_by_key := orders.labels_by_key labelled.1
  let latest_by_kind := (orders.latest_by_kind labelled.2).keys.foldl
    (fun latest kind => latest.update kind (sort_newest_first modified)) labelled.2
  let counted := titles.foldl (count_title labels_by_key) (∅, ∅)
  ((orders.generic_counts counted.2).entries.map (fun e => (e.1, e.2))).foldl (count_generic latest_by_kind) counted.1

end VibeBridge.Discovery
