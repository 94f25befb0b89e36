import VibeBridge.Base64
import VibeBridge.Json

/-!
The profiles of Windows Terminal, as `install-windows --terminal-profiles` wraps
them and `uninstall-windows` unwraps them. A wrapped profile starts the daemon's
terminal shim, which is told the command line that it stands for in base64. The
JSON library is an argument; the path of the executable is its text.
-/
namespace VibeBridge.TerminalProfiles
open VibeBridge.Text VibeBridge.Json VibeBridge.Base64

/-! ## Command lines -/

/-- The loop of `quote_windows_arg`, with the backslashes that it has not written yet. -/
def quote_body : List Char → Nat → List Char
  | [], backslashes => List.replicate (backslashes * 2) '\\'
  | ch :: rest, backslashes =>
    if ch = '\\' then quote_body rest (backslashes + 1)
    else if ch = '"' then List.replicate (backslashes * 2 + 1) '\\' ++ '"' :: quote_body rest 0
    else List.replicate backslashes '\\' ++ ch :: quote_body rest 0

def quote_windows_arg (value : String) : String :=
  if !value.isEmpty && !value.toList.any (fun ch => is_whitespace ch || ch == '"' || ch == '\\') then value
  else String.ofList ('"' :: (quote_body value.toList 0 ++ ['"']))

def build_terminal_profile_commandline (exe addr name original_cmdline : String) : String :=
  quote_windows_arg exe ++ " terminal-shim --daemon " ++ quote_windows_arg addr ++ " --name " ++ quote_windows_arg name ++
    " --follow-console-size --cmdline-b64 " ++ base64_encode_bytes (as_bytes original_cmdline)

/-- The option of the shim whose argument is the command line that it stands for. -/
def MARK : String := "--cmdline-b64"

/-- The command line that stands after the mark. -/
def decode_cmdline (part : String) : Option String :=
  match base64_decode_bytes (trim_matches part '"') with
  | .ok bytes => from_utf8 bytes
  | .error _ => none

/-- The loop over the parts of a command line. -/
def find_cmdline : List String → Option String
  | part :: next :: rest => if part = MARK then decode_cmdline next else find_cmdline (next :: rest)
  | _ => none

def extract_wrapped_terminal_cmdline (commandline : String) : Option String :=
  if !contains commandline "terminal-shim" && !contains commandline "capture-shell" && !contains commandline "vibe-terminal" then
    none
  else find_cmdline (split_whitespace commandline)

/-- The command line that a profile has for its name and its source, where it says none. -/
def inferred_commandline (profile : Value) : Option String :=
  let name := (profile.text_at "name").getD ""
  let source := (profile.text_at "source").getD ""
  let lower_name := to_ascii_lowercase name
  let lower_source := to_ascii_lowercase source
  if contains lower_source "wsl" || contains lower_name "ubuntu" || contains lower_name "debian" then
    if (trim name).isEmpty then some "wsl.exe" else some ("wsl.exe -d " ++ quote_windows_arg name)
  else if contains lower_source "powershellcore" || lower_name == "powershell" || contains lower_name "powershell 7" then
    some "pwsh.exe"
  else if contains lower_source "windowspowershell" || contains lower_name "windows powershell" then some "powershell.exe"
  else if contains lower_source "visualstudio" && contains lower_name "powershell" then some "powershell.exe"
  else if contains lower_source "cmd" || contains lower_name "command prompt" then some "cmd.exe"
  else if contains lower_name "powershell" then some "powershell.exe"
  else none

def terminal_profile_original_commandline (profile : Value) : Option String :=
  match ((profile.text_at "commandline").map trim).filter (fun value => !value.isEmpty) with
  | some commandline => some commandline
  | none => inferred_commandline profile

/-! ### What is found in a command line -/

theorem find_skip {front : List String} (unmarked : MARK ∉ front) (rest : List String) :
    find_cmdline (front ++ MARK :: rest) = (rest.head?).bind decode_cmdline := by
  induction front with
  | nil =>
    cases rest with
    | nil => rfl
    | cons next rest => rw [List.nil_append,find_cmdline,if_pos rfl,List.head?_cons,Option.bind_some]
  | cons part front ih =>
    rw [List.mem_cons,not_or] at unmarked
    obtain ⟨next,more,split⟩ := List.exists_cons_of_ne_nil (show front ++ MARK :: rest ≠ [] by simp)
    rw [List.cons_append,split,find_cmdline,if_neg (Ne.symm unmarked.1),← split,ih unmarked.2]

theorem find_unmarked {parts : List String} (unmarked : MARK ∉ parts) : find_cmdline parts = none := by
  induction parts with
  | nil => rfl
  | cons part rest ih =>
    rw [List.mem_cons,not_or] at unmarked
    cases rest with
    | nil => rfl
    | cons next rest => rw [find_cmdline,if_neg (Ne.symm unmarked.1),ih unmarked.2]

/-- What is found is decoded from the part after the mark. -/
theorem find_found {parts : List String} {original : String} (found : find_cmdline parts = some original) :
    ∃ front next rest, parts = front ++ MARK :: next :: rest ∧ decode_cmdline next = some original := by
  induction parts with
  | nil => cases found
  | cons part rest ih =>
    cases rest with
    | nil => cases found
    | cons next rest =>
      rw [find_cmdline] at found
      by_cases here : part = MARK
      · rw [if_pos here] at found
        exact ⟨[],next,rest,by rw [here]; rfl,found⟩
      · rw [if_neg here] at found
        obtain ⟨front,next',rest',split,decoded⟩ := ih found
        exact ⟨part :: front,next',rest',by rw [split]; rfl,decoded⟩

theorem trim_matches_sublist (part : String) (c : Char) : (trim_matches part c).toList.Sublist part.toList := by
  rw [trim_matches,String.toList_ofList]
  exact Words.trim_sublist _

/-- A command line is longer than the one that is found in it. -/
theorem extract_shorter {commandline original : String}
    (found : extract_wrapped_terminal_cmdline commandline = some original) :
    (as_bytes original).length < (as_bytes commandline).length := by
  rw [extract_wrapped_terminal_cmdline] at found
  split at found
  · cases found
  obtain ⟨front,next,rest,split,decoded⟩ := find_found found
  rw [decode_cmdline] at decoded
  cases read : base64_decode_bytes (trim_matches next '"') with
  | error err =>
    rw [read] at decoded
    cases decoded
  | ok bytes =>
    rw [read] at decoded
    have short := decode_length read
    rw [from_utf8_eq_some.mp decoded] at short
    have trimmed := as_bytes_le (trim_matches_sublist next '"')
    -- the mark and the part after it are apart from each other in the command line
    have within : (MARK ++ next).toList.Sublist commandline.toList := by
      have pieces : ((split_whitespace commandline).map String.toList).flatten.Sublist commandline.toList := by
        have texts : String.toList ∘ String.ofList = id := funext (fun w => String.toList_ofList)
        rw [split_whitespace,List.map_map,texts,List.map_id,Words.words_flatten]
        exact List.filter_sublist
      rw [split] at pieces
      refine List.Sublist.trans ?_ pieces
      rw [String.toList_append,List.map_append,List.flatten_append,List.map_cons,List.map_cons,List.flatten_cons,
        List.flatten_cons,← List.append_assoc MARK.toList]
      exact (List.sublist_append_left _ _).trans (List.sublist_append_right _ _)
    have both := as_bytes_le within
    rw [as_bytes_append,List.length_append] at both
    have mark : (as_bytes MARK).length = 13 := by decide
    omega

/-! ### What is built -/

theorem encoded_solid (bytes : List UInt8) : ∀ c ∈ (base64_encode_bytes bytes).toList, is_whitespace c = false ∧ c ≠ '"' := by
  intro c member
  rw [base64_encode_bytes,String.toList_ofList] at member
  obtain ⟨_,solid,unquoted,_⟩ := coded_plain (encode_coded bytes c member)
  exact ⟨solid,unquoted⟩

theorem encoded_empty {bytes : List UInt8} (empty : base64_encode_bytes bytes = "") : bytes = [] := by
  have decoded := decode_encode bytes
  rw [empty] at decoded
  cases decoded
  rfl

/-- What is written after the mark reads back. -/
theorem decode_written (original : String) : decode_cmdline (base64_encode_bytes (as_bytes original)) = some original := by
  have trimmed : trim_matches (base64_encode_bytes (as_bytes original)) '"' = base64_encode_bytes (as_bytes original) := by
    rw [trim_matches,Words.trim_solid (fun c member => by simpa using (encoded_solid _ c member).2),String.ofList_toList]
  rw [decode_cmdline,trimmed,decode_encode]
  exact from_utf8_as_bytes original

theorem split_encoded {original : String} (some_there : original ≠ "") :
    split_whitespace (base64_encode_bytes (as_bytes original)) = [base64_encode_bytes (as_bytes original)] := by
  have written : (base64_encode_bytes (as_bytes original)).toList ≠ [] := by
    intro empty
    exact some_there (as_bytes_empty.mp (encoded_empty (String.toList_eq_nil_iff.mp empty)))
  rw [split_whitespace,Words.words_whole written (fun c member => (encoded_solid _ c member).1),List.map_singleton,
    String.ofList_toList]

/-- The parts of a command line of the shim before the mark. -/
def shim_parts (exe addr name : String) : List String :=
  split_whitespace (quote_windows_arg exe) ++ (["terminal-shim","--daemon"] ++ (split_whitespace (quote_windows_arg addr) ++
    (["--name"] ++ (split_whitespace (quote_windows_arg name) ++ ["--follow-console-size"]))))

theorem build_pieces (exe addr name original : String) : build_terminal_profile_commandline exe addr name original =
    quote_windows_arg exe ++ " " ++ ("terminal-shim --daemon" ++ " " ++ (quote_windows_arg addr ++ " " ++ ("--name" ++ " " ++
      (quote_windows_arg name ++ " " ++ ("--follow-console-size --cmdline-b64" ++ " " ++
        base64_encode_bytes (as_bytes original)))))) := by
  have first : " terminal-shim --daemon " = " " ++ "terminal-shim --daemon" ++ " " := by decide
  have second : " --name " = " " ++ "--name" ++ " " := by decide
  have third : " --follow-console-size --cmdline-b64 " = " " ++ "--follow-console-size --cmdline-b64" ++ " " := by decide
  rw [build_terminal_profile_commandline,first,second,third]
  simp only [String.append_assoc]

theorem split_build (exe addr name original : String) :
    split_whitespace (build_terminal_profile_commandline exe addr name original) =
      shim_parts exe addr name ++ MARK :: split_whitespace (base64_encode_bytes (as_bytes original)) := by
  have first : split_whitespace "terminal-shim --daemon" = ["terminal-shim","--daemon"] := by decide
  have second : split_whitespace "--name" = ["--name"] := by decide
  have third : split_whitespace "--follow-console-size --cmdline-b64" = ["--follow-console-size",MARK] := by decide
  rw [build_pieces]
  simp only [split_whitespace_append,first,second,third,shim_parts,List.append_assoc]
  rfl

theorem contains_build (exe addr name original : String) :
    contains (build_terminal_profile_commandline exe addr name original) "terminal-shim" = true := by
  have word : "terminal-shim --daemon" = "terminal-shim" ++ " --daemon" := by decide
  rw [build_pieces,word]
  simp only [String.append_assoc]
  rw [← String.append_assoc,← String.append_assoc]
  exact contains_append _ _ _

theorem extract_build (exe addr name original : String) :
    extract_wrapped_terminal_cmdline (build_terminal_profile_commandline exe addr name original) =
      find_cmdline (split_whitespace (build_terminal_profile_commandline exe addr name original)) := by
  rw [extract_wrapped_terminal_cmdline,contains_build,Bool.not_true,Bool.false_and,Bool.false_and,if_neg (by decide)]

/-- No word of the arguments that stand before the mark is the mark. -/
def Unmarked (exe addr name : String) : Prop :=
  MARK ∉ split_whitespace (quote_windows_arg exe) ∧ MARK ∉ split_whitespace (quote_windows_arg addr) ∧
    MARK ∉ split_whitespace (quote_windows_arg name)

instance (exe addr name : String) : Decidable (Unmarked exe addr name) := inferInstanceAs (Decidable (_ ∧ _ ∧ _))

variable {exe addr name original : String}

theorem unmarked_parts (unmarked : Unmarked exe addr name) : MARK ∉ shim_parts exe addr name := by
  obtain ⟨in_exe,in_addr,in_name⟩ := unmarked
  have first : MARK ∉ ["terminal-shim","--daemon"] := by decide
  have second : MARK ∉ ["--name"] := by decide
  have third : MARK ∉ ["--follow-console-size"] := by decide
  simp only [shim_parts,List.mem_append,not_or]
  exact ⟨in_exe,first,in_addr,second,in_name,third⟩

/-- What is wrapped is found again. -/
theorem extract_wrapped (unmarked : Unmarked exe addr name) (some_there : original ≠ "") :
    extract_wrapped_terminal_cmdline (build_terminal_profile_commandline exe addr name original) = some original := by
  rw [extract_build,split_build,find_skip (unmarked_parts unmarked),split_encoded some_there,List.head?_cons,
    Option.bind_some,decode_written]

/-- Of an empty command line nothing is found, as nothing stands after the mark. -/
theorem find_empty (unmarked : Unmarked exe addr name) :
    find_cmdline (split_whitespace (build_terminal_profile_commandline exe addr name "")) = none := by
  have none : split_whitespace (base64_encode_bytes (as_bytes "")) = [] := by
    rw [as_bytes_empty.mpr rfl]
    decide
  rw [split_build,find_skip (unmarked_parts unmarked),none]
  rfl

theorem extract_of_find {commandline : String} (none : find_cmdline (split_whitespace commandline) = none) :
    extract_wrapped_terminal_cmdline commandline = .none := by
  rw [extract_wrapped_terminal_cmdline]
  split
  · rfl
  · exact none

/-! ### Command lines that are inferred -/

/-- The name of the capture, quoted, ends like the name of the profile, quoted. -/
theorem quote_capture (name : String) : quote_windows_arg ("Terminal: " ++ name) =
    String.ofList ('"' :: "Terminal:".toList ++ ' ' :: (quote_body name.toList 0 ++ ['"'])) := by
  have blank : ("Terminal: " ++ name).toList.any (fun ch => is_whitespace ch || ch == '"' || ch == '\\') = true := by
    rw [String.toList_append,List.any_append]
    rfl
  rw [quote_windows_arg,blank,Bool.not_true,Bool.and_false,if_neg (by decide),String.toList_append]
  rfl

/-- A quoted name has no mark as a word of its own, unless the capture has. -/
theorem find_quoted {name : String} (unmarked : MARK ∉ split_whitespace (quote_windows_arg ("Terminal: " ++ name))) :
    find_cmdline (["wsl.exe","-d"] ++ split_whitespace (quote_windows_arg name)) = none := by
  have front : MARK ∉ ["wsl.exe","-d"] := by decide
  by_cases member : MARK ∈ split_whitespace (quote_windows_arg name)
  · rw [quote_windows_arg] at member ⊢
    split at member
    · -- the name is one word, and nothing stands after it
      rename_i plain
      rw [if_pos plain]
      simp only [Bool.and_eq_true,Bool.not_eq_true',List.any_eq_false] at plain
      have solid : ∀ c ∈ name.toList, is_whitespace c = false := by
        intro c within
        have other := plain.2 c within
        simp only [Bool.or_eq_true,not_or,Bool.not_eq_true] at other
        exact other.1.1
      have some_there : name.toList ≠ [] := by
        intro empty
        simp [String.toList_eq_nil_iff.mp empty] at plain
      rw [split_whitespace,Words.words_whole some_there solid,List.map_singleton,String.ofList_toList] at member ⊢
      rw [← List.mem_singleton.mp member]
      exact find_skip front []
    · rw [split_whitespace,String.toList_ofList,List.mem_map] at member
      obtain ⟨word,within,same⟩ := member
      have mark : word = MARK.toList := by rw [← same,String.toList_ofList]
      rcases Words.mem_words_cons within with first | later
      · rw [mark] at first
        cases first
      · refine absurd ?_ unmarked
        have blank : is_whitespace ' ' = true := by decide
        rw [quote_capture,split_whitespace,String.toList_ofList,List.cons_append,← List.cons_append,Words.words_append blank,
          List.map_append,List.mem_append,← same]
        exact .inr (List.mem_map_of_mem later)
  · exact find_unmarked (by rw [List.mem_append,not_or]; exact ⟨front,member⟩)

/-! ### Blanks at the ends -/

/-- An argument begins with a character that is no blank. -/
theorem quote_first (value : String) : ∃ c rest, (quote_windows_arg value).toList = c :: rest ∧ is_whitespace c = false := by
  rw [quote_windows_arg]
  split
  · rename_i plain
    simp only [Bool.and_eq_true,Bool.not_eq_true',List.any_eq_false] at plain
    obtain ⟨some_there,solid⟩ := plain
    cases cs : value.toList with
    | nil => simp [String.toList_eq_nil_iff.mp cs] at some_there
    | cons c rest =>
      refine ⟨c,rest,rfl,?_⟩
      have first := solid c (by rw [cs]; exact List.mem_cons_self)
      simp only [Bool.or_eq_true,not_or,Bool.not_eq_true] at first
      exact first.1.1
  · exact ⟨'"',_,String.toList_ofList,by decide⟩

/-- A command line of the shim has no blanks at its ends. -/
theorem trim_build (exe addr name : String) (some_there : original ≠ "") :
    trim (build_terminal_profile_commandline exe addr name original) =
      build_terminal_profile_commandline exe addr name original := by
  obtain ⟨c,rest,starts,solid⟩ := quote_first exe
  have written : (base64_encode_bytes (as_bytes original)).toList ≠ [] := by
    intro empty
    exact some_there (as_bytes_empty.mp (encoded_empty (String.toList_eq_nil_iff.mp empty)))
  obtain ⟨d,last⟩ : ∃ d, (base64_encode_bytes (as_bytes original)).toList.getLast? = some d :=
    ⟨_,List.getLast?_eq_some_getLast written⟩
  rw [trim,Words.trim_whole (x := c) (y := d) _ _ solid ((encoded_solid _ d (List.mem_of_getLast? last)).1),String.ofList_toList]
  · rw [build_terminal_profile_commandline]
    simp only [String.toList_append,List.append_assoc,starts,List.cons_append,List.head?_cons]
  · rw [build_terminal_profile_commandline,String.toList_append]
    exact List.getLast?_append_of_ne_nil _ written |>.trans last

/-- A command line of the shim is not blank. -/
theorem trim_build_some (exe addr name original : String) :
    trim (build_terminal_profile_commandline exe addr name original) ≠ "" := by
  intro empty
  have parts := split_whitespace_trim (build_terminal_profile_commandline exe addr name original)
  rw [empty,split_build] at parts
  have none : split_whitespace "" = [] := by decide
  rw [none] at parts
  simp at parts

/-! ## Profiles -/

def is_hidden (profile : Value) : Bool := ((profile.get "hidden").bind (·.as_bool)).getD false

def profile_name (profile : Value) : String := (profile.text_at "name").getD "Windows Terminal"

/-- What a turn of one of the loops over the profiles leaves, and the names that it notes. -/
structure Turn where
  profile : Value
  changed : Option String := none
  supported : Option String := none

def wrap_profile (exe addr : String) (profile : Value) : Turn :=
  if !profile.is_object then { profile }
  else if is_hidden profile then { profile }
  else
    let name := profile_name profile
    match terminal_profile_original_commandline profile with
    | none => { profile }
    | some profile_cmdline =>
      let original := (extract_wrapped_terminal_cmdline profile_cmdline).getD profile_cmdline
      let wrapped := build_terminal_profile_commandline exe addr ("Terminal: " ++ name) original
      if profile.text_at "commandline" = some wrapped then { profile, supported := some name }
      else { profile := profile.insert "commandline" (.string wrapped), changed := some name, supported := some name }

def unwrap_profile (profile : Value) : Turn :=
  if !profile.is_object then { profile }
  else
    match profile.text_at "commandline" with
    | none => { profile }
    | some commandline =>
      match extract_wrapped_terminal_cmdline commandline with
      | none => { profile }
      | some original =>
        { profile := profile.insert "commandline" (.string original), changed := some (profile_name profile) }

/-! ## Settings -/

/-- Where `strip_jsonc_comments` is in a text. -/
inductive Place
  | outside
  | string (escaped : Bool)
  | line
  | block (prev : Char)

/-- The loop of `strip_jsonc_comments`. -/
def strip_from : Place → List Char → List Char
  | _, [] => []
  | .string escaped, ch :: rest =>
    ch :: strip_from (if escaped then .string false else if ch = '\\' then .string true
      else if ch = '"' then .outside else .string false) rest
  | .line, ch :: rest => if ch = '\n' then '\n' :: strip_from .outside rest else strip_from .line rest
  | .block prev, ch :: rest => if prev = '*' ∧ ch = '/' then strip_from .outside rest else strip_from (.block ch) rest
  | .outside, '/' :: '/' :: rest => strip_from .line rest
  | .outside, '/' :: '*' :: rest => strip_from (.block '\x00') rest
  | .outside, ch :: rest => ch :: strip_from (if ch = '"' then .string false else .outside) rest

def strip_jsonc_comments (input : String) : String := String.ofList (strip_from .outside input.toList)

/-- The functions of the JSON library that are called. -/
structure SerdeJson where
  from_str : String → Except String Value
  to_string_pretty : Value → String

/-- `profiles.list` of a settings document. -/
def profiles_list (root : Value) : Option (List Value) := ((root.get "profiles").bind (·.get "list")).bind (·.as_array)

/-- The document with other profiles. -/
def with_profiles (root : Value) (profiles : List Value) : Value :=
  root.insert "profiles" (((root.get "profiles").getD .null).insert "list" (.array profiles))

structure TerminalSettingsWrapResult where
  output : Option String
  changed_profiles : List String
  supported_profiles : List String

structure TerminalSettingsUnwrapResult where
  output : Option String
  changed_profiles : List String

/-- The document of a settings text. -/
def parse_settings (serde : SerdeJson) (input : String) : Except String Value :=
  match serde.from_str (strip_jsonc_comments input) with
  | .ok root => .ok root
  | .error err => .error s!"parse settings json: {err}"

def write_settings (serde : SerdeJson) (root : Value) : String := serde.to_string_pretty root ++ "\n"

def wrap_windows_terminal_settings_json (serde : SerdeJson) (input exe addr : String) :
    Except String TerminalSettingsWrapResult := do
  let root ← parse_settings serde input
  match profiles_list root with
  | none => .error "Windows Terminal settings missing profiles.list"
  | some profiles =>
    let turns := profiles.map (wrap_profile exe addr)
    let changed_profiles := turns.filterMap (·.changed)
    let output := if changed_profiles.isEmpty then none
      else some (write_settings serde (with_profiles root (turns.map (·.profile))))
    return ⟨output,changed_profiles,turns.filterMap (·.supported)⟩

def unwrap_windows_terminal_settings_json (serde : SerdeJson) (input : String) :
    Except String TerminalSettingsUnwrapResult := do
  let root ← parse_settings serde input
  match profiles_list root with
  | none => .error "Windows Terminal settings missing profiles.list"
  | some profiles =>
    let turns := profiles.map unwrap_profile
    let changed_profiles := turns.filterMap (·.changed)
    let output := if changed_profiles.isEmpty then none
      else some (write_settings serde (with_profiles root (turns.map (·.profile))))
    return ⟨output,changed_profiles⟩

end VibeBridge.TerminalProfiles
