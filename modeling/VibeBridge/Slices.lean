import VibeBridge.Discovery
import VibeBridge.Json
import VibeBridge.Truncation

/-!
Texts of the host that are cut at a fixed byte: the values in the log of the
terminal shim, and the name of a session whose directory has none. A cut inside a
character is a panic, here `none`. So a value is logged exactly when it is short or
its byte 240 is a character boundary, and a session is named exactly when its
directory has a name or byte 8 of its identifier is one (`slices_return_iff`).
-/
namespace VibeBridge.Slices
open VibeBridge.Text VibeBridge.Json VibeBridge.Payloads VibeBridge.Truncation VibeBridge.Discovery

/-- `&text[..end]`, which panics inside a character. -/
def slice_to (text : String) (cut : Nat) : Option String :=
  if is_char_boundary (as_bytes text) cut then from_utf8 ((as_bytes text).take cut) else none

/-- `String::truncate`. -/
def truncate (text : String) (new_len : Nat) : Option String :=
  if new_len ≤ (as_bytes text).length then slice_to text new_len else some text

/-! ## The log of the terminal shim -/

/-- The breaks that are logged as blanks. -/
def spaced (c : Char) : Char := if c = '\r' ∨ c = '\n' ∨ c = '\t' then ' ' else c

def MAX_LEN : Nat := 240

def terminal_shim_log_value (value : String) : Option String :=
  let clean := String.ofList (value.toList.map spaced)
  if (as_bytes clean).length > MAX_LEN then (truncate clean MAX_LEN).map (· ++ "...") else some clean

/-- An argument with one of these words is not logged. -/
def SENSITIVE : List String := ["token","secret","password","passwd","apikey","api-key","credential","cookie"]

/-- The argument after one of these is not logged. -/
def REDACT_NEXT : List String := ["--cmdline","--cmdline-b64","--token","--secret","--password","--passwd","--api-key",
  "--apikey","--credential","--cookie"]

/-- The scan of `terminal_shim_log_args`. -/
def log_parts : Bool → List String → Option (List String)
  | _, [] => some []
  | redact_next, arg :: args =>
    let lower := to_ascii_lowercase arg
    let value := if redact_next || SENSITIVE.any (contains lower) then some "<redacted>" else terminal_shim_log_value arg
    value.bind fun value => (log_parts (REDACT_NEXT.contains lower) args).map (value :: ·)

def terminal_shim_log_args (args : List String) : Option String :=
  (log_parts false args).map fun parts => "[" ++ ", ".intercalate parts ++ "]"

/-! ## Names of sessions -/

def session_name_from_cwd (cwd fallback_id : String) : Option String :=
  let name := rsplit_first is_separator (trim_end_separators cwd.toList)
  if name.isEmpty then (slice_to fallback_id (min (as_bytes fallback_id).length 8)).map ("S-" ++ ·)
  else some (String.ofList name)

/-- What is read of a transcript (`SessionMetadata`). -/
structure SessionMetadata where
  agent_id : Option String := none
  cwd : Option String := none

def set_if_text (slot : Option String) (value : Option Value) : Option String :=
  match (value.bind (·.as_str)).map trim with
  | none => slot
  | some text => if text.isEmpty then slot else some text

def update_claude_metadata (metadata : SessionMetadata) (value : Value) : SessionMetadata :=
  { agent_id := set_if_text metadata.agent_id (value.get "sessionId"), cwd := set_if_text metadata.cwd (value.get "cwd") }

/-- The name of the session that `discover_claude_sessions_in` makes of a transcript. -/
def claude_session_name (lines : List Value) (fallback_agent_id fallback_cwd : String) : Option String :=
  let metadata := lines.foldl update_claude_metadata {}
  session_name_from_cwd (metadata.cwd.getD fallback_cwd) (metadata.agent_id.getD fallback_agent_id)

/-! ## Cuts -/

variable {text : String} {cut : Nat}

theorem slice_boundary (boundary : is_char_boundary (as_bytes text) cut = true) :
    ∃ front, slice_to text cut = some front ∧ (as_bytes front).length = cut := by
  obtain ⟨front,_,_,size,decoded⟩ := decode_boundary boundary
  exact ⟨front,by rw [slice_to,if_pos boundary,decoded],size⟩

theorem slice_iff : (∃ front, slice_to text cut = some front) ↔ is_char_boundary (as_bytes text) cut = true := by
  constructor
  · rintro ⟨front,found⟩
    by_contra inside
    rw [slice_to,if_neg inside] at found
    cases found
  · intro boundary
    obtain ⟨front,found,_⟩ := slice_boundary boundary
    exact ⟨front,found⟩

/-! ## Values -/

theorem spaced_size (c : Char) : (spaced c).utf8Size = c.utf8Size := by
  rw [spaced]
  split
  · rename_i found
    rcases found with rfl | rfl | rfl <;> rfl
  · rfl

theorem spaced_length (cs : List Char) : (encoded (cs.map spaced)).length = (encoded cs).length := by
  induction cs with
  | nil => rfl
  | cons c cs ih => rw [List.map_cons,encoded_length,encoded_length,spaced_size,ih]

/-- Breaks and blanks have one byte each, so the boundaries stay. -/
theorem spaced_boundary (cs : List Char) (cut : Nat) :
    is_char_boundary (encoded (cs.map spaced)) cut = is_char_boundary (encoded cs) cut := by
  rw [Bool.eq_iff_iff,boundary_encoded,boundary_encoded]
  constructor
  · rintro ⟨front,back,whole,size⟩
    obtain ⟨front,back,rfl,rfl,rfl⟩ := List.map_eq_append_iff.mp whole
    exact ⟨front,back,rfl,by rw [← size,spaced_length]⟩
  · rintro ⟨front,back,rfl,size⟩
    exact ⟨front.map spaced,back.map spaced,List.map_append,by rw [spaced_length,size]⟩

/-- The value is short, or it is not cut inside a character. -/
def Loggable (value : String) : Prop :=
  (as_bytes value).length ≤ MAX_LEN ∨ is_char_boundary (as_bytes value) MAX_LEN = true

theorem clean_size (value : String) :
    (as_bytes (String.ofList (value.toList.map spaced))).length = (as_bytes value).length := by
  rw [as_bytes_flatMap,as_bytes_flatMap,String.toList_ofList]
  exact spaced_length value.toList

theorem clean_boundary (value : String) (cut : Nat) :
    is_char_boundary (as_bytes (String.ofList (value.toList.map spaced))) cut = is_char_boundary (as_bytes value) cut := by
  rw [as_bytes_flatMap,as_bytes_flatMap,String.toList_ofList]
  exact spaced_boundary value.toList cut

theorem log_value_short {value : String} (short : (as_bytes value).length ≤ MAX_LEN) :
    terminal_shim_log_value value = some (String.ofList (value.toList.map spaced)) := by
  rw [terminal_shim_log_value,clean_size,if_neg (by omega)]

theorem log_value_long {value : String} (long : ¬ (as_bytes value).length ≤ MAX_LEN) : terminal_shim_log_value value =
    (slice_to (String.ofList (value.toList.map spaced)) MAX_LEN).map (· ++ "...") := by
  rw [terminal_shim_log_value,truncate,clean_size,if_pos (by omega),if_pos (by omega)]

/-- How long a value is in the log. -/
def value_size (value : String) : Nat := if (as_bytes value).length ≤ MAX_LEN then (as_bytes value).length else 243

theorem value_size_le (value : String) : value_size value ≤ 243 := by
  rw [value_size]
  split
  · rename_i short
    exact short.trans (by decide)
  · exact Nat.le_refl 243

theorem log_value_size {value clean : String} (found : terminal_shim_log_value value = some clean) :
    (as_bytes clean).length = value_size value := by
  rw [value_size]
  by_cases short : (as_bytes value).length ≤ MAX_LEN
  · rw [log_value_short short] at found
    cases found
    rw [clean_size,if_pos short]
  · rw [log_value_long short] at found
    obtain ⟨front,sliced,rfl⟩ := Option.map_eq_some_iff.mp found
    obtain ⟨same,taken,size⟩ := slice_boundary (slice_iff.mp ⟨front,sliced⟩)
    rw [sliced] at taken
    cases taken
    have dots : (as_bytes "...").length = 3 := by decide
    rw [as_bytes_append,List.length_append,size,dots,if_neg short,MAX_LEN]

theorem log_value_iff (value : String) : (∃ clean, terminal_shim_log_value value = some clean) ↔ Loggable value := by
  rw [Loggable]
  by_cases short : (as_bytes value).length ≤ MAX_LEN
  · exact ⟨fun _ => .inl short,fun _ => ⟨_,log_value_short short⟩⟩
  · rw [log_value_long short,← clean_boundary value MAX_LEN,← slice_iff,or_iff_right short]
    constructor
    · rintro ⟨clean,found⟩
      obtain ⟨front,sliced,_⟩ := Option.map_eq_some_iff.mp found
      exact ⟨front,sliced⟩
    · rintro ⟨front,sliced⟩
      exact ⟨front ++ "...",by rw [sliced,Option.map_some]⟩

/-- The arguments that are logged as they are. -/
def logged : Bool → List String → List String
  | _, [] => []
  | redact_next, arg :: args =>
    let lower := to_ascii_lowercase arg
    let later := logged (REDACT_NEXT.contains lower) args
    if redact_next || SENSITIVE.any (contains lower) then later else arg :: later

/-- How long the parts are. -/
def part_sizes : Bool → List String → List Nat
  | _, [] => []
  | redact_next, arg :: args =>
    let lower := to_ascii_lowercase arg
    (if redact_next || SENSITIVE.any (contains lower) then 10 else value_size arg) ::
      part_sizes (REDACT_NEXT.contains lower) args

theorem log_parts_sizes {args parts : List String} {redact_next : Bool} (found : log_parts redact_next args = some parts) :
    parts.map (fun part => (as_bytes part).length) = part_sizes redact_next args := by
  induction args generalizing redact_next parts with
  | nil =>
    cases found
    rfl
  | cons arg args ih =>
    obtain ⟨value,first,rest_found⟩ := Option.bind_eq_some_iff.mp found
    obtain ⟨others,later,rfl⟩ := Option.map_eq_some_iff.mp rest_found
    rw [List.map_cons,part_sizes,ih later]
    refine congrArg (· :: _) ?_
    split at first
    · rename_i redacted
      cases first
      rw [if_pos redacted]
      decide
    · rename_i plain
      rw [if_neg plain,log_value_size first]

theorem part_sizes_length (args : List String) (redact_next : Bool) : (part_sizes redact_next args).length = args.length := by
  induction args generalizing redact_next with
  | nil => rfl
  | cons arg args ih => rw [part_sizes,List.length_cons,List.length_cons,ih]

theorem part_sizes_le {args : List String} {redact_next : Bool} : ∀ size ∈ part_sizes redact_next args, size ≤ 243 := by
  induction args generalizing redact_next with
  | nil => simp [part_sizes]
  | cons arg args ih =>
    rw [part_sizes]
    refine List.forall_mem_cons.mpr ⟨?_,ih⟩
    split
    · decide
    · exact value_size_le arg

/-- There is a part for each argument, and it is short. -/
theorem log_parts_bounded {args parts : List String} {redact_next : Bool} (found : log_parts redact_next args = some parts) :
    parts.length = args.length ∧ ∀ part ∈ parts, (as_bytes part).length ≤ 243 := by
  have sizes := log_parts_sizes found
  constructor
  · rw [← part_sizes_length args redact_next,← sizes,List.length_map]
  · intro part member
    have there : (as_bytes part).length ∈ parts.map (fun part => (as_bytes part).length) := List.mem_map_of_mem member
    rw [sizes] at there
    exact part_sizes_le _ there

/-- How long a line of parts is, with its brackets and commas. -/
def line_size (sizes : List Nat) : Nat := 2 + sizes.sum + 2 * (sizes.length - 1)

theorem intercalate_size (parts : List String) : (as_bytes (", ".intercalate parts)).length =
    (parts.map (fun part => (as_bytes part).length)).sum + 2 * (parts.length - 1) := by
  have comma : (as_bytes ", ").length = 2 := by decide
  induction parts with
  | nil => decide
  | cons part parts ih =>
    cases parts with
    | nil => simp
    | cons next parts =>
      rw [String.intercalate_cons_cons,as_bytes_append,as_bytes_append,List.length_append,List.length_append,comma,ih]
      simp only [List.map_cons,List.sum_cons,List.length_cons]
      omega

theorem line_sizes (parts : List String) : (as_bytes ("[" ++ ", ".intercalate parts ++ "]")).length =
    line_size (parts.map (fun part => (as_bytes part).length)) := by
  have opening : (as_bytes "[").length = 1 := by decide
  have closing : (as_bytes "]").length = 1 := by decide
  rw [as_bytes_append,as_bytes_append,List.length_append,List.length_append,opening,closing,intercalate_size,line_size,
    List.length_map]
  omega

theorem log_parts_iff (args : List String) (redact_next : Bool) :
    (∃ parts, log_parts redact_next args = some parts) ↔ ∀ arg ∈ logged redact_next args, Loggable arg := by
  induction args generalizing redact_next with
  | nil => exact ⟨fun _ arg none => absurd none List.not_mem_nil,fun _ => ⟨[],rfl⟩⟩
  | cons arg args ih =>
    have split_parts (value : Option String) (rest : Option (List String)) :
        (∃ parts, (value.bind fun value => rest.map (value :: ·)) = some parts) ↔
          (∃ clean, value = some clean) ∧ ∃ parts, rest = some parts := by
      cases value <;> cases rest <;> simp
    rw [log_parts,logged,split_parts,ih]
    split
    · exact and_iff_right ⟨"<redacted>",rfl⟩
    · rw [List.forall_mem_cons,log_value_iff]

/-! ## Sessions -/

/-- The directory has a name: something in it is no separator. -/
def HasName (cwd : String) : Prop := ∃ c ∈ cwd.toList, is_separator c = false

theorem last_part_some {path : List Char} (some_there : ∃ c ∈ path, is_separator c = false) :
    rsplit_first is_separator (trim_end_separators path) ≠ [] := by
  obtain ⟨c,member,solid⟩ := some_there
  have left : path.reverse.dropWhile is_separator ≠ [] := by
    intro none
    have all := List.dropWhile_eq_nil_iff.mp none c (List.mem_reverse.mpr member)
    rw [solid] at all
    cases all
  obtain ⟨d,rest,starts⟩ := List.exists_cons_of_ne_nil left
  have first := List.head_dropWhile_not is_separator left
  simp only [starts,List.head_cons] at first
  rw [rsplit_first,trim_end_separators,List.reverse_reverse,starts,List.takeWhile_cons,first]
  simp

theorem last_part_none {path : List Char} (none : ¬ ∃ c ∈ path, is_separator c = false) :
    rsplit_first is_separator (trim_end_separators path) = [] := by
  have nothing : path.reverse.dropWhile is_separator = [] := by
    rw [List.dropWhile_eq_nil_iff]
    intro c member
    by_contra solid
    exact none ⟨c,List.mem_reverse.mp member,Bool.eq_false_iff.mpr solid⟩
  rw [rsplit_first,trim_end_separators,nothing]
  rfl

theorem session_name_iff (cwd fallback_id : String) : (∃ name, session_name_from_cwd cwd fallback_id = some name) ↔
    HasName cwd ∨ is_char_boundary (as_bytes fallback_id) (min (as_bytes fallback_id).length 8) = true := by
  unfold session_name_from_cwd
  dsimp only
  by_cases named : HasName cwd
  · have some_there := last_part_some named
    rw [if_neg (by simpa using some_there)]
    exact ⟨fun _ => .inl named,fun _ => ⟨_,rfl⟩⟩
  · rw [last_part_none named,List.isEmpty_nil,if_pos rfl,or_iff_right named,← slice_iff]
    constructor
    · rintro ⟨name,found⟩
      obtain ⟨front,sliced,_⟩ := Option.map_eq_some_iff.mp found
      exact ⟨front,sliced⟩
    · rintro ⟨front,sliced⟩
      exact ⟨"S-" ++ front,by rw [sliced,Option.map_some]⟩

theorem log_args_iff (args : List String) :
    (∃ line, terminal_shim_log_args args = some line) ↔ ∀ arg ∈ logged false args, Loggable arg := by
  rw [← log_parts_iff]
  constructor
  · rintro ⟨line,found⟩
    obtain ⟨parts,there,_⟩ := Option.map_eq_some_iff.mp found
    exact ⟨parts,there⟩
  · rintro ⟨parts,there⟩
    exact ⟨_,by rw [terminal_shim_log_args,there,Option.map_some]⟩

theorem log_args_parts {args : List String} {line : String} (found : terminal_shim_log_args args = some line) :
    (as_bytes line).length = line_size (part_sizes false args) ∧ ∃ parts, line = "[" ++ ", ".intercalate parts ++ "]" ∧
      parts.length = args.length ∧ ∀ part ∈ parts, (as_bytes part).length ≤ 243 := by
  obtain ⟨parts,there,rfl⟩ := Option.map_eq_some_iff.mp found
  obtain ⟨size,bounded⟩ := log_parts_bounded there
  exact ⟨by rw [line_sizes,log_parts_sizes there],parts,rfl,size,bounded⟩

/-- Where a value, the arguments of a command or a name come back, and how long they are then: each argument is short,
    and so is their line when it adds up. -/
theorem slices_return_iff (value : String) (args : List String) (cwd fallback_id : String) :
    ((∃ clean, terminal_shim_log_value value = some clean ∧ (as_bytes clean).length ≤ 243) ↔ Loggable value) ∧
      ((∃ line, terminal_shim_log_args args = some line ∧ ∃ parts, line = "[" ++ ", ".intercalate parts ++ "]" ∧
        parts.length = args.length ∧ ∀ part ∈ parts, (as_bytes part).length ≤ 243) ↔ ∀ arg ∈ logged false args, Loggable arg) ∧
      ((∃ line, terminal_shim_log_args args = some line ∧ (as_bytes line).length ≤ 243) ↔
        (∀ arg ∈ logged false args, Loggable arg) ∧ line_size (part_sizes false args) ≤ 243) ∧
      ((∃ name, session_name_from_cwd cwd fallback_id = some name) ↔
        HasName cwd ∨ is_char_boundary (as_bytes fallback_id) (min (as_bytes fallback_id).length 8) = true) := by
  refine ⟨?_,?_,?_,session_name_iff cwd fallback_id⟩
  · rw [← log_value_iff]
    constructor
    · rintro ⟨clean,found,_⟩
      exact ⟨clean,found⟩
    · rintro ⟨clean,found⟩
      exact ⟨clean,found,by rw [log_value_size found]; exact value_size_le value⟩
  · rw [← log_args_iff]
    constructor
    · rintro ⟨line,found,_⟩
      exact ⟨line,found⟩
    · rintro ⟨line,found⟩
      exact ⟨line,found,(log_args_parts found).2⟩
  · rw [← log_args_iff]
    constructor
    · rintro ⟨line,found,short⟩
      rw [(log_args_parts found).1] at short
      exact ⟨⟨line,found⟩,short⟩
    · rintro ⟨⟨line,found⟩,short⟩
      rw [← (log_args_parts found).1] at short
      exact ⟨line,found,short⟩

/-- A transcript whose session has an identifier with a character across byte 8, in the root directory. -/
theorem slices_panic : ¬ ((∀ value, ∃ clean, terminal_shim_log_value value = some clean) ∧
    (∀ args, ∃ line, terminal_shim_log_args args = some line) ∧
    ∀ lines fallback_agent_id fallback_cwd, ∃ name, claude_session_name lines fallback_agent_id fallback_cwd = some name) := by
  rintro ⟨_,_,all⟩
  obtain ⟨name,found⟩ := all [.object [("cwd",.string "/"),("sessionId",.string "session\u00e9")]] "agent" "/home"
  have panics : claude_session_name [.object [("cwd",.string "/"),("sessionId",.string "session\u00e9")]] "agent" "/home" = none := by
    decide
  rw [panics] at found
  cases found

end VibeBridge.Slices
