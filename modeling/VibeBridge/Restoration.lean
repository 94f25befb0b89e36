import VibeBridge.Uninstall

/-!
Installing into the settings of Windows Terminal, any number of times, and then
uninstalling. Each call reads the text that the one before left, and the loops
over the profiles treat each apart (`installed_documents`), so the settings come
back exactly if each of their profiles does (`restores_each`). That the JSON
library reads back what it prints is asked of the documents of the run only.
-/
namespace VibeBridge.TerminalProfiles
open VibeBridge.Text VibeBridge.Json VibeBridge.Base64

/-! ## Settings -/

/-- The document that an installation or the uninstallation leaves. -/
def updated (turn : Value → Turn) (root : Value) : Value :=
  match profiles_list root with
  | some profiles => with_profiles root (profiles.map (fun profile => (turn profile).profile))
  | none => root

def installed_document (root : Value) (call : Install) : Value := updated (wrap_profile call.exe call.addr) root

theorem list_found {root : Value} {profiles : List Value} (found : profiles_list root = some profiles) :
    ∃ settings, root.get "profiles" = some settings ∧ settings.get "list" = some (.array profiles) := by
  simp only [profiles_list,Option.bind_eq_some_iff] at found
  obtain ⟨list,⟨settings,there,within⟩,items⟩ := found
  cases list with
  | array items' =>
    cases items
    exact ⟨settings,there,within⟩
  | _ => cases items

theorem list_of_with {root : Value} {profiles : List Value} (found : profiles_list root = some profiles) (profiles' : List Value) :
    profiles_list (with_profiles root profiles') = some profiles' := by
  obtain ⟨settings,there,within⟩ := list_found found
  rw [profiles_list,with_profiles,get_insert (get_object there),if_pos rfl,there,Option.getD_some,Option.bind_some,
    get_insert (get_object within),if_pos rfl]
  rfl

theorem with_with {root : Value} {profiles : List Value} (found : profiles_list root = some profiles)
    (profiles' profiles'' : List Value) :
    with_profiles (with_profiles root profiles') profiles'' = with_profiles root profiles'' := by
  obtain ⟨settings,there,within⟩ := list_found found
  simp only [with_profiles]
  rw [get_insert (get_object there),if_pos rfl,insert_insert,Option.getD_some,insert_insert]

theorem with_same {root : Value} {profiles : List Value} (found : profiles_list root = some profiles) :
    with_profiles root profiles = root := by
  obtain ⟨settings,there,within⟩ := list_found found
  rw [with_profiles,there,Option.getD_some,insert_same within,insert_same there]

theorem updated_found {root : Value} {profiles : List Value} (found : profiles_list root = some profiles)
    (turn : Value → Turn) : updated turn root = with_profiles root (profiles.map (fun profile => (turn profile).profile)) := by
  rw [updated,found]

theorem installed_found {root : Value} {profiles : List Value} (found : profiles_list root = some profiles) (call : Install) :
    installed_document root call = with_profiles root (profiles.map (fun profile => installed profile call)) :=
  updated_found found _

/-- The installations work on each profile apart. -/
theorem installed_documents (calls : List Install) {root : Value} {profiles : List Value}
    (found : profiles_list root = some profiles) : calls.foldl installed_document root =
      with_profiles root (profiles.map (fun profile => calls.foldl installed profile)) := by
  induction calls generalizing root profiles with
  | nil =>
    simp only [List.foldl_nil,List.map_id']
    exact (with_same found).symm
  | cons call rest ih =>
    have next := list_of_with found (profiles.map (fun profile => installed profile call))
    rw [List.foldl_cons,installed_found found,ih next,with_with found,List.map_map]
    rfl

/-! ## Texts of settings -/

/-- Outside of its string literals a text has no slash, so no comment begins there. -/
def uncommented : Option Bool → List Char → Bool
  | _, [] => true
  | none, ch :: rest => ch != '/' && uncommented (if ch = '"' then some false else none) rest
  | some escaped, ch :: rest =>
    uncommented (if escaped then some false else if ch = '\\' then some true else if ch = '"' then none else some false) rest

/-- Where the comments are looked for at a place of such a text. -/
def place_of : Option Bool → Place
  | none => .outside
  | some escaped => .string escaped

theorem strip_uncommented (text : List Char) (place : Option Bool) (plain : uncommented place text = true) :
    strip_from (place_of place) text = text := by
  induction text generalizing place with
  | nil => cases place <;> rfl
  | cons ch rest ih =>
    cases place with
    | none =>
      rw [uncommented,Bool.and_eq_true,bne_iff_ne] at plain
      obtain ⟨no_slash,later⟩ := plain
      have next := ih _ later
      rw [place_of,strip_from]
      · by_cases quote : ch = '"'
        · rw [if_pos quote] at next ⊢
          exact congrArg (ch :: ·) next
        · rw [if_neg quote] at next ⊢
          exact congrArg (ch :: ·) next
      all_goals
        rintro rest' rfl
        exact absurd rfl no_slash
    | some escaped =>
      rw [uncommented] at plain
      have next := ih _ plain
      rw [place_of,strip_from]
      refine congrArg (ch :: ·) (Eq.trans ?_ next)
      congr 1
      split
      · rfl
      · split
        · rfl
        · split <;> rfl

/-- The JSON library reads back a document that it has printed, and prints no comments. -/
structure ReadsBack (serde : SerdeJson) (root : Value) : Prop where
  uncommented : uncommented none (write_settings serde root).toList = true
  same : serde.from_str (write_settings serde root) = .ok root

theorem parse_written {serde : SerdeJson} {root : Value} (back : ReadsBack serde root) :
    parse_settings serde (write_settings serde root) = .ok root := by
  have stripped : strip_jsonc_comments (write_settings serde root) = write_settings serde root := by
    rw [strip_jsonc_comments]
    exact (congrArg String.ofList (strip_uncommented _ none back.uncommented)).trans String.ofList_toList
  rw [parse_settings,stripped,back.same]

/-- A turn that notes no change makes none. -/
def Notes (turn : Value → Turn) : Prop := ∀ profile, (turn profile).changed = none → (turn profile).profile = profile

theorem wrap_notes (exe addr : String) : Notes (wrap_profile exe addr) := by
  intro profile
  rw [wrap_profile]
  split
  · exact fun _ => rfl
  · split
    · exact fun _ => rfl
    · cases terminal_profile_original_commandline profile with
      | none => exact fun _ => rfl
      | some commandline =>
        simp only
        split
        · exact fun _ => rfl
        · intro unchanged
          cases unchanged

theorem unwrap_notes : Notes unwrap_profile := by
  intro profile
  rw [unwrap_profile]
  split
  · exact fun _ => rfl
  · cases profile.text_at "commandline" with
    | none => exact fun _ => rfl
    | some commandline =>
      simp only
      cases extract_wrapped_terminal_cmdline commandline with
      | none => exact fun _ => rfl
      | some original =>
        intro unchanged
        cases unchanged

/-- The text that a loop over the profiles leaves is one of the document that the loop leaves. -/
theorem written_reads {serde : SerdeJson} {text : String} {root : Value} {profiles : List Value}
    (read : parse_settings serde text = .ok root) (found : profiles_list root = some profiles) {turn : Value → Turn}
    (notes : Notes turn) (back : ReadsBack serde (updated turn root)) :
    parse_settings serde ((if ((profiles.map turn).filterMap (·.changed)).isEmpty then none
      else some (write_settings serde (with_profiles root ((profiles.map turn).map (·.profile))))).getD text) =
        .ok (updated turn root) := by
  by_cases unchanged : (profiles.map turn).filterMap (·.changed) = []
  · rw [unchanged,List.isEmpty_nil,if_pos rfl,Option.getD_none,read]
    have same : profiles.map (fun profile => (turn profile).profile) = profiles := by
      rw [List.filterMap_eq_nil_iff] at unchanged
      refine (List.map_congr_left ?_).trans (List.map_id profiles)
      exact fun profile member => notes profile (unchanged _ (List.mem_map_of_mem member))
    rw [updated_found found,same,with_same found]
  · have changed : ¬ ((profiles.map turn).filterMap (·.changed)).isEmpty = true := by simpa using unchanged
    have left : with_profiles root ((profiles.map turn).map (·.profile)) = updated turn root := by
      rw [updated_found found,List.map_map]
      rfl
    rw [if_neg changed,Option.getD_some,left]
    exact parse_written back

/-- The settings text that an installation leaves. -/
def install (serde : SerdeJson) (text : String) (call : Install) : Except String String := do
  let result ← wrap_windows_terminal_settings_json serde text call.exe call.addr
  return result.output.getD text

/-- The settings text that the uninstallation leaves. -/
def uninstall (serde : SerdeJson) (text : String) : Except String String := do
  let result ← unwrap_windows_terminal_settings_json serde text
  return result.output.getD text

/-- Installations, each on the text that the one before left, and then the uninstallation. -/
def install_and_uninstall (serde : SerdeJson) (calls : List Install) (text : String) : Except String String := do
  let left ← calls.foldlM (install serde) text
  uninstall serde left

/-- The documents that a run goes through. -/
def documents : List Install → Value → List Value
  | [], root => [updated unwrap_profile root]
  | call :: rest, root => installed_document root call :: documents rest (installed_document root call)

theorem install_reads {serde : SerdeJson} {text : String} {root : Value} {profiles : List Value}
    (read : parse_settings serde text = .ok root) (found : profiles_list root = some profiles) (call : Install)
    (back : ReadsBack serde (installed_document root call)) :
    ∃ text', install serde text call = .ok text' ∧ parse_settings serde text' = .ok (installed_document root call) := by
  have reads := written_reads read found (wrap_notes call.exe call.addr) back
  refine ⟨_,?_,reads⟩
  rw [install,wrap_windows_terminal_settings_json,read]
  simp only [bind,Except.bind,found]
  rfl

theorem uninstall_reads {serde : SerdeJson} {text : String} {root : Value} {profiles : List Value}
    (read : parse_settings serde text = .ok root) (found : profiles_list root = some profiles)
    (back : ReadsBack serde (updated unwrap_profile root)) :
    ∃ text', uninstall serde text = .ok text' ∧ parse_settings serde text' = .ok (updated unwrap_profile root) := by
  have reads := written_reads read found unwrap_notes back
  refine ⟨_,?_,reads⟩
  rw [uninstall,unwrap_windows_terminal_settings_json,read]
  simp only [bind,Except.bind,found]
  rfl

/-- A run goes through, and leaves a text of the document that the turns of the loops leave. -/
theorem run_reads {serde : SerdeJson} (calls : List Install) {text : String} {root : Value} {profiles : List Value}
    (read : parse_settings serde text = .ok root) (found : profiles_list root = some profiles)
    (back : ∀ document ∈ documents calls root, ReadsBack serde document) :
    ∃ text', install_and_uninstall serde calls text = .ok text' ∧
      parse_settings serde text' = .ok (updated unwrap_profile (calls.foldl installed_document root)) := by
  induction calls generalizing text root profiles with
  | nil => exact uninstall_reads read found (back _ List.mem_cons_self)
  | cons call rest ih =>
    obtain ⟨text',installs,reads⟩ := install_reads read found call (back _ List.mem_cons_self)
    have next : profiles_list (installed_document root call) = some (profiles.map (fun profile => installed profile call)) := by
      rw [installed_found found]
      exact list_of_with found _
    obtain ⟨final,runs,left⟩ := ih reads next (fun document member => back document (List.mem_cons_of_mem _ member))
    refine ⟨final,?_,left⟩
    rw [install_and_uninstall,List.foldlM_cons,installs]
    exact runs

/-- The profiles after a run are those that the run was told. -/
def Restores (serde : SerdeJson) (calls : List Install) (text : String) (profiles : List Value) : Prop :=
  ∃ text' root', install_and_uninstall serde calls text = .ok text' ∧ parse_settings serde text' = .ok root' ∧
    profiles_list root' = some profiles

/-- A run restores the profiles of the settings exactly if it restores each of them. -/
theorem restores_each {serde : SerdeJson} {text : String} {root : Value} {profiles : List Value}
    (read : parse_settings serde text = .ok root) (found : profiles_list root = some profiles) (calls : List Install)
    (back : ∀ document ∈ documents calls root, ReadsBack serde document) :
    Restores serde calls text profiles ↔ ∀ profile ∈ profiles, uninstalled (calls.foldl installed profile) = profile := by
  obtain ⟨text',runs,reads⟩ := run_reads calls read found back
  have left : profiles_list (updated unwrap_profile (calls.foldl installed_document root)) =
      some (profiles.map (fun profile => uninstalled (calls.foldl installed profile))) := by
    rw [installed_documents calls found]
    have there := list_of_with found (profiles.map (fun profile => calls.foldl installed profile))
    rw [updated_found there,with_with found,List.map_map]
    exact list_of_with found _
  have each : profiles.map (fun profile => uninstalled (calls.foldl installed profile)) = profiles ↔
      ∀ profile ∈ profiles, uninstalled (calls.foldl installed profile) = profile := by
    refine Iff.trans ?_ (List.map_inj_left (g := id))
    rw [List.map_id]
  rw [← each]
  constructor
  · rintro ⟨final,root',same,parsed,list⟩
    rw [runs] at same
    cases same
    rw [reads] at parsed
    cases parsed
    rw [left] at list
    exact Option.some.inj list
  · intro same
    exact ⟨text',_,runs,reads,left.trans (congrArg some same)⟩

/-! ## Settings with a profile -/

/-- A profile whose fields are texts. -/
def profile_of (fields : List (String × String)) : Value := .object (fields.map (fun field => (field.1,.string field.2)))

def settings (fields : List (String × String)) : Value :=
  .object [("profiles",.object [("list",.array [profile_of fields])])]

theorem settings_found (fields : List (String × String)) : profiles_list (settings fields) = some [profile_of fields] := rfl

theorem documents_settings {fields wrapped left : List (String × String)} {call : Install}
    (wraps : installed (profile_of fields) call = profile_of wrapped) (unwraps : uninstalled (profile_of wrapped) = profile_of left) :
    documents [call] (settings fields) = [settings wrapped,settings left] := by
  have first : installed_document (settings fields) call = settings wrapped := by
    rw [installed_found (settings_found fields),List.map_singleton,wraps]
    rfl
  have second : updated unwrap_profile (settings wrapped) = settings left := by
    rw [updated_found (settings_found wrapped),List.map_singleton]
    exact congrArg (fun profile => with_profiles (settings wrapped) [profile]) unwraps
  rw [documents,documents,first,second]

/-- A text, quoted as the JSON library quotes one. -/
def quoted (text : List Char) : List Char :=
  '"' :: (text.flatMap (fun ch => if ch = '"' ∨ ch = '\\' then ['\\',ch] else [ch]) ++ ['"'])

/-- Such settings as the JSON library prints them. -/
def pretty (root : Value) : List Char :=
  match profiles_list root with
  | some [.object fields] =>
    let lines := fields.map (fun field =>
      "        ".toList ++ quoted field.1.toList ++ [':',' '] ++ quoted ((field.2.as_str.getD "").toList))
    "\x7b\n  \"profiles\": \x7b\n".toList ++ ("    \"list\": [\n      \x7b\n".toList ++ ([',','\n'].intercalate lines ++
      "\n      \x7d\n    ]\n  \x7d\n\x7d".toList))
  | _ => "null".toList

/-- The JSON library on the texts of known settings. -/
def recorded (known : List Value) : SerdeJson where
  from_str text := ((known.find? (fun root => String.ofList (pretty root) ++ "\n" == text)).map .ok).getD
    (.error "expected value at line 1 column 1")
  to_string_pretty root := String.ofList (pretty root)

theorem recorded_reads {known : List Value} (distinct : (known.map pretty).Nodup)
    (plain : ∀ root ∈ known, uncommented none (pretty root ++ ['\n']) = true) :
    ∀ root ∈ known, ReadsBack (recorded known) root := by
  intro root member
  refine ⟨?_,?_⟩
  · have here := plain root member
    rw [write_settings,String.toList_append]
    simpa [recorded] using here
  · have found : known.find? (fun root' => write_settings (recorded known) root' == write_settings (recorded known) root) =
        some root := by
      rw [List.find?_eq_some_iff_append]
      obtain ⟨front,rest,split⟩ := List.append_of_mem member
      refine ⟨by simp,front,rest,split,?_⟩
      intro other within
      have apart : pretty other ≠ pretty root := by
        rw [split,List.map_append,List.nodup_append] at distinct
        exact distinct.2.2 _ (List.mem_map_of_mem within) _ (by simp)
      simpa [write_settings,recorded,String.ofList_inj] using apart
    exact congrArg (fun found => (Option.map Except.ok found).getD (.error "expected value at line 1 column 1")) found

/-- What is printed of a profile is compared and scanned by the characters of its pieces. -/
theorem pretty_settings (fields : List (String × String)) : pretty (settings fields) =
    "\x7b\n  \"profiles\": \x7b\n".toList ++ ("    \"list\": [\n      \x7b\n".toList ++ ([',','\n'].intercalate (fields.map
      (fun field => "        ".toList ++ quoted field.1.toList ++ [':',' '] ++ quoted field.2.toList)) ++
        "\n      \x7d\n    ]\n  \x7d\n\x7d".toList)) := by
  rw [pretty,settings_found,profile_of]
  simp only [List.map_map]
  rfl

def vb : Install := ⟨"vb.exe","127.0.0.1:8765"⟩

/-- The command line of the shim that this installation writes. -/
def vb_shim (name encoded : String) : String :=
  "vb.exe" ++ " terminal-shim --daemon " ++ "127.0.0.1:8765" ++ " --name " ++ name ++
    " --follow-console-size --cmdline-b64 " ++ encoded

theorem shim_vb {profile : Value} {name : String} (named : quote_windows_arg ("Terminal: " ++ profile_name profile) = name)
    (original : String) : shim profile vb original = vb_shim name (base64_encode_bytes (as_bytes original)) := by
  have exe : quote_windows_arg "vb.exe" = "vb.exe" := by decide +kernel
  have addr : quote_windows_arg "127.0.0.1:8765" = "127.0.0.1:8765" := by decide +kernel
  rw [shim,build_terminal_profile_commandline,vb,exe,addr,named,vb_shim]

def cmd : List (String × String) := [("commandline","cmd.exe"),("name","cmd")]

def cmd_wrapped : List (String × String) := [("commandline",vb_shim "\"Terminal: cmd\"" "Y21kLmV4ZQ=="),("name","cmd")]

theorem cmd_unmarked : AllUnmarked (profile_of cmd) [vb] := by
  rw [AllUnmarked,List.forall_mem_singleton]
  decide +kernel

theorem cmd_restorable : Restorable (profile_of cmd) := by
  have plain : trim "cmd.exe" = "cmd.exe" ∧ Own "cmd.exe" := by decide +kernel
  have said : ((profile_of cmd).text_at "commandline").filter (fun text => !(trim text).isEmpty) = some "cmd.exe" := by
    decide +kernel
  rw [Restorable,if_neg (by decide),said]
  exact plain

theorem cmd_wraps : installed (profile_of cmd) vb = profile_of cmd_wrapped := by
  have original : terminal_profile_original_commandline (profile_of cmd) = some "cmd.exe" := by decide +kernel
  have own : stands_for "cmd.exe" = "cmd.exe" := by decide +kernel
  have named : quote_windows_arg ("Terminal: " ++ profile_name (profile_of cmd)) = "\"Terminal: cmd\"" := by decide +kernel
  have encoded : base64_encode_bytes (as_bytes "cmd.exe") = "Y21kLmV4ZQ==" := by decide +kernel
  rw [installed_supported rfl (by decide) vb original,own,shim_vb named,encoded]
  rfl

theorem cmd_documents : documents [vb] (settings cmd) = [settings cmd_wrapped,settings cmd] := by
  refine documents_settings cmd_wraps ?_
  rw [← cmd_wraps]
  exact (profile_restored_iff (profile_of cmd) vb [] (fun _ => cmd_unmarked)).mpr cmd_restorable

/-- The settings that the run on this profile goes through. -/
def cmd_known : List Value := [settings cmd,settings cmd_wrapped]

theorem cmd_reads : ∀ root ∈ cmd_known, ReadsBack (recorded cmd_known) root := by
  refine recorded_reads ?_ ?_
  · simp only [cmd_known,List.map_cons,List.map_nil,pretty_settings,cmd,cmd_wrapped,vb_shim,String.toList_append]
    decide +kernel
  · simp only [cmd_known,List.forall_mem_cons,pretty_settings,cmd,cmd_wrapped,vb_shim,List.map_cons,String.toList_append]
    decide +kernel

/-- A profile that Windows Terminal generates: it says no command line. -/
def power_shell : List (String × String) := [("name","PowerShell"),("source","Windows.Terminal.PowershellCore")]

def power_shell_wrapped : List (String × String) :=
  ("commandline",vb_shim "\"Terminal: PowerShell\"" "cHdzaC5leGU=") :: power_shell

def power_shell_left : List (String × String) := ("commandline","pwsh.exe") :: power_shell

theorem power_shell_unmarked : AllUnmarked (profile_of power_shell) [vb] := by
  rw [AllUnmarked,List.forall_mem_singleton]
  decide +kernel

theorem shim_power_shell :
    shim (profile_of power_shell) vb "pwsh.exe" = vb_shim "\"Terminal: PowerShell\"" "cHdzaC5leGU=" := by
  have named : quote_windows_arg ("Terminal: " ++ profile_name (profile_of power_shell)) = "\"Terminal: PowerShell\"" := by
    decide +kernel
  have encoded : base64_encode_bytes (as_bytes "pwsh.exe") = "cHdzaC5leGU=" := by decide +kernel
  rw [shim_vb named,encoded]

theorem power_shell_wraps : installed (profile_of power_shell) vb = profile_of power_shell_wrapped := by
  have original : terminal_profile_original_commandline (profile_of power_shell) = some "pwsh.exe" := by decide +kernel
  have own : stands_for "pwsh.exe" = "pwsh.exe" := by decide +kernel
  rw [installed_supported rfl (by decide) vb original,own,shim_power_shell]
  rfl

theorem power_shell_unwraps : uninstalled (profile_of power_shell_wrapped) = profile_of power_shell_left := by
  have stands : stands_for (vb_shim "\"Terminal: PowerShell\"" "cHdzaC5leGU=") = "pwsh.exe" := by
    have found := extract_wrapped (power_shell_unmarked vb List.mem_cons_self) (show "pwsh.exe" ≠ "" by decide)
    rw [stands_for,← shim_power_shell,shim,found,Option.getD_some]
  have object : (profile_of power_shell).is_object = true := rfl
  have unwrapped := uninstalled_text object (vb_shim "\"Terminal: PowerShell\"" "cHdzaC5leGU=")
  rw [stands] at unwrapped
  exact unwrapped

/-- The settings that the run on this profile goes through. -/
def power_shell_known : List Value := [settings power_shell,settings power_shell_wrapped,settings power_shell_left]

theorem power_shell_reads : ∀ root ∈ power_shell_known, ReadsBack (recorded power_shell_known) root := by
  refine recorded_reads ?_ ?_
  · simp only [power_shell_known,List.map_cons,List.map_nil,pretty_settings,power_shell_wrapped,power_shell_left,power_shell,
      vb_shim,String.toList_append]
    decide +kernel
  · simp only [power_shell_known,List.forall_mem_cons,pretty_settings,power_shell_wrapped,power_shell_left,power_shell,
      vb_shim,List.map_cons,String.toList_append]
    decide +kernel

/-! ## Which settings come back -/

/-- A run restores the profiles of the settings exactly if each of them is restorable. -/
theorem restored_iff {serde : SerdeJson} {text : String} {root : Value} {profiles : List Value}
    (read : parse_settings serde text = .ok root) (found : profiles_list root = some profiles) (call : Install)
    (rest : List Install) (back : ∀ document ∈ documents (call :: rest) root, ReadsBack serde document)
    (unmarked : ∀ profile ∈ profiles, Supported profile → AllUnmarked profile (call :: rest)) :
    Restores serde (call :: rest) text profiles ↔ ∀ profile ∈ profiles, Restorable profile := by
  rw [restores_each read found (call :: rest) back]
  exact forall₂_congr (fun profile member => profile_restored_iff profile call rest (unmarked profile member))

/-- A profile with the command line `cmd.exe` comes back. -/
theorem restored_cmd : Restores (recorded cmd_known) [vb] (write_settings (recorded cmd_known) (settings cmd)) [profile_of cmd] := by
  have back : ∀ document ∈ documents [vb] (settings cmd), ReadsBack (recorded cmd_known) document := by
    rw [cmd_documents]
    exact fun document member => cmd_reads document (by simpa [cmd_known,or_comm] using member)
  have read := parse_written (cmd_reads (settings cmd) List.mem_cons_self)
  refine (restored_iff read (settings_found cmd) vb [] back ?_).mpr ?_
  · rw [List.forall_mem_singleton]
    exact fun _ => cmd_unmarked
  · rw [List.forall_mem_singleton]
    exact cmd_restorable

/-- A generated profile keeps the command line that was inferred for it. -/
theorem power_shell_not_restored : parse_settings (recorded power_shell_known)
      (write_settings (recorded power_shell_known) (settings power_shell)) = .ok (settings power_shell) ∧
    profiles_list (settings power_shell) = some [profile_of power_shell] ∧
    ¬ Restores (recorded power_shell_known) [vb] (write_settings (recorded power_shell_known) (settings power_shell))
      [profile_of power_shell] := by
  have read := parse_written (power_shell_reads (settings power_shell) List.mem_cons_self)
  refine ⟨read,settings_found power_shell,?_⟩
  have back : ∀ document ∈ documents [vb] (settings power_shell), ReadsBack (recorded power_shell_known) document := by
    rw [documents_settings power_shell_wraps power_shell_unwraps]
    exact fun document member => power_shell_reads document (List.mem_cons_of_mem _ member)
  rw [restores_each read (settings_found power_shell) [vb] back,List.forall_mem_singleton,List.foldl_cons,List.foldl_nil,
    power_shell_wraps,power_shell_unwraps]
  intro same
  have said := congrArg (fun profile => (profile.get "commandline").isSome) same
  revert said
  decide

end VibeBridge.TerminalProfiles
