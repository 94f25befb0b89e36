import VibeBridge.TerminalProfiles

/-!
A profile of Windows Terminal that is wrapped, any number of times, and then
unwrapped. A wrapped command line stands for the one that was there, however
often it is wrapped again (`run_restores`). But what is noted of the original is
its command line without the blanks at its ends, or the one that was inferred
where there was none, so only some profiles come back (`profile_restored_iff`).
-/
namespace VibeBridge.TerminalProfiles
open VibeBridge.Text VibeBridge.Json VibeBridge.Base64

/-! ## What a profile says -/

theorem text_at_insert {profile : Value} (object : profile.is_object = true) (text : String) :
    (profile.insert "commandline" (.string text)).text_at "commandline" = some text := by
  rw [Value.text_at,get_insert object,if_pos rfl]
  rfl

/-- The other fields do not change. -/
theorem get_other {profile : Value} (object : profile.is_object = true) (value : Value) {key : String}
    (other : key ≠ "commandline") : (profile.insert "commandline" value).get key = profile.get key := by
  rw [get_insert object,if_neg other]

theorem hidden_insert {profile : Value} (object : profile.is_object = true) (value : Value) :
    is_hidden (profile.insert "commandline" value) = is_hidden profile := by
  rw [is_hidden,get_other object value (by decide),is_hidden]

theorem name_insert {profile : Value} (object : profile.is_object = true) (value : Value) :
    profile_name (profile.insert "commandline" value) = profile_name profile := by
  rw [profile_name,Value.text_at,get_other object value (by decide)]
  rfl

theorem text_get {profile : Value} {text : String} (said : profile.text_at "commandline" = some text) :
    profile.get "commandline" = some (.string text) := by
  rw [Value.text_at,Option.bind_eq_some_iff] at said
  obtain ⟨value,found,text⟩ := said
  cases value with
  | string said =>
    cases text
    exact found
  | _ => cases text

theorem original_said {profile : Value} {text : String} (said : profile.text_at "commandline" = some text)
    (nonblank : trim text ≠ "") : terminal_profile_original_commandline profile = some (trim text) := by
  rw [terminal_profile_original_commandline,said,Option.map_some,Option.filter_some,if_pos (by simpa using nonblank)]

/-- Where the profile says no command line, or a blank one. -/
theorem original_unsaid {profile : Value} (unsaid : ∀ text, profile.text_at "commandline" = some text → trim text = "") :
    terminal_profile_original_commandline profile = inferred_commandline profile := by
  rw [terminal_profile_original_commandline]
  cases said : profile.text_at "commandline" with
  | none => rfl
  | some text => rw [Option.map_some,Option.filter_some,if_neg (by simp [unsaid text said])]

theorem inferred_cases {profile : Value} {commandline : String} (inferred : inferred_commandline profile = some commandline) :
    commandline ∈ ["wsl.exe","pwsh.exe","powershell.exe","cmd.exe"] ∨
      ∃ name, profile.text_at "name" = some name ∧ commandline = "wsl.exe -d " ++ quote_windows_arg name := by
  simp only [inferred_commandline] at inferred
  split at inferred
  · split at inferred
    · cases inferred
      exact .inl (by simp)
    · rename_i named
      cases said : profile.text_at "name" with
      | none =>
        rw [said] at named
        exact absurd (by decide) named
      | some name =>
        rw [said] at inferred
        cases inferred
        exact .inr ⟨name,rfl,rfl⟩
  · left
    split at inferred
    · cases inferred; simp
    · split at inferred
      · cases inferred; simp
      · split at inferred
        · cases inferred; simp
        · split at inferred
          · cases inferred; simp
          · split at inferred
            · cases inferred; simp
            · cases inferred

/-- A command line with a part is not blank. -/
theorem trim_of_split {commandline : String} (parts : split_whitespace commandline ≠ []) : trim commandline ≠ "" := by
  intro blank
  rw [← split_whitespace_trim,blank] at parts
  exact parts (by decide)

/-- What is inferred is not blank, and is no command line of the shim. -/
theorem inferred_plain {profile : Value} {commandline : String} (inferred : inferred_commandline profile = some commandline)
    (unmarked : MARK ∉ split_whitespace (quote_windows_arg ("Terminal: " ++ profile_name profile))) :
    extract_wrapped_terminal_cmdline commandline = none ∧ trim commandline ≠ "" := by
  rcases inferred_cases inferred with fixed | ⟨name,named,rfl⟩
  · revert fixed
    revert commandline
    have each : ∀ commandline ∈ ["wsl.exe","pwsh.exe","powershell.exe","cmd.exe"],
        extract_wrapped_terminal_cmdline commandline = none ∧ trim commandline ≠ "" := by decide
    exact fun commandline _ => each commandline
  · rw [profile_name,named,Option.getD_some] at unmarked
    have front : "wsl.exe -d " = "wsl.exe -d" ++ " " := by decide
    have parts : split_whitespace "wsl.exe -d" = ["wsl.exe","-d"] := by decide
    have split : split_whitespace ("wsl.exe -d " ++ quote_windows_arg name) =
        ["wsl.exe","-d"] ++ split_whitespace (quote_windows_arg name) := by
      rw [front,split_whitespace_append,parts]
    refine ⟨extract_of_find ?_,trim_of_split ?_⟩
    · rw [split]
      exact find_quoted unmarked
    · rw [split]
      simp

/-! ## Wrapping again and again -/

/-- The command line that a command line stands for. -/
def stands_for (commandline : String) : String := (extract_wrapped_terminal_cmdline commandline).getD commandline

/-- An installation: the executable, and the address of the daemon. -/
structure Install where
  exe : String
  addr : String

def installed (profile : Value) (call : Install) : Value := (wrap_profile call.exe call.addr profile).profile

def uninstalled (profile : Value) : Value := (unwrap_profile profile).profile

/-- The command line of the shim that a profile gets. -/
def shim (profile : Value) (call : Install) (original : String) : String :=
  build_terminal_profile_commandline call.exe call.addr ("Terminal: " ++ profile_name profile) original

section
variable {profile : Value} (object : profile.is_object = true) (visible : is_hidden profile = false)

include object visible in
theorem installed_supported {commandline : String} (call : Install)
    (original : terminal_profile_original_commandline profile = some commandline) :
    installed profile call = profile.insert "commandline" (.string (shim profile call (stands_for commandline))) := by
  rw [installed,wrap_profile,object,Bool.not_true,if_neg (by decide),visible,if_neg (by decide)]
  simp only [original]
  split
  · rename_i same
    exact (insert_same (text_get same)).symm
  · rfl

omit object visible in
theorem installed_unsupported (call : Install) (original : terminal_profile_original_commandline profile = none) :
    installed profile call = profile := by
  rw [installed,wrap_profile]
  split
  · rfl
  · split
    · rfl
    · simp only [original]

theorem installed_hidden (hidden : is_hidden profile = true) (call : Install) : installed profile call = profile := by
  rw [installed,wrap_profile,hidden]
  split <;> rfl

include object visible in
/-- A profile with a command line is wrapped as what this command line stands for. -/
theorem installed_text {text : String} (nonblank : trim text ≠ "") (call : Install) :
    installed (profile.insert "commandline" (.string text)) call =
      profile.insert "commandline" (.string (shim profile call (stands_for (trim text)))) := by
  have is_object := (insert_object profile "commandline" (.string text)).trans object
  have shown := (hidden_insert object (.string text)).trans visible
  rw [installed_supported is_object shown call (original_said (text_at_insert object text) nonblank),insert_insert,shim,
    name_insert object,shim]

include object in
theorem uninstalled_text (text : String) :
    uninstalled (profile.insert "commandline" (.string text)) = profile.insert "commandline" (.string (stands_for text)) := by
  have is_object := (insert_object profile "commandline" (.string text)).trans object
  rw [uninstalled,unwrap_profile,is_object,Bool.not_true,if_neg (by decide)]
  simp only [text_at_insert object]
  cases found : extract_wrapped_terminal_cmdline text with
  | none => simp only [stands_for,found,Option.getD_none]
  | some original => simp only [stands_for,found,Option.getD_some,insert_insert]

/-- No word of what the calls put before the mark is the mark. -/
def AllUnmarked (profile : Value) (calls : List Install) : Prop :=
  ∀ call ∈ calls, Unmarked call.exe call.addr ("Terminal: " ++ profile_name profile)

include object visible in
/-- Further installations wrap the same command line. -/
theorem run_wraps {original : String} (some_there : original ≠ "") (calls : List Install)
    (unmarked : AllUnmarked profile calls) (last : Install)
    (unmarked_last : Unmarked last.exe last.addr ("Terminal: " ++ profile_name profile)) :
    ∃ call, Unmarked call.exe call.addr ("Terminal: " ++ profile_name profile) ∧
      calls.foldl installed (profile.insert "commandline" (.string (shim profile last original))) =
        profile.insert "commandline" (.string (shim profile call original)) := by
  induction calls generalizing last with
  | nil => exact ⟨last,unmarked_last,rfl⟩
  | cons call rest ih =>
    have trimmed : trim (shim profile last original) = shim profile last original := trim_build _ _ _ some_there
    have stands : stands_for (shim profile last original) = original := by
      rw [stands_for,shim,extract_wrapped unmarked_last some_there,Option.getD_some]
    have nonblank : trim (shim profile last original) ≠ "" := trim_build_some _ _ _ _
    rw [List.foldl_cons,installed_text object visible nonblank call,trimmed,stands]
    exact ih (fun later member => unmarked later (List.mem_cons_of_mem call member)) call (unmarked call List.mem_cons_self)

include object visible in
/-- After installations and the uninstallation a profile says what its command line stood for. Where that
    is the empty command line, it says one of the shim, with nothing after the mark. -/
theorem run_restores {commandline : String} (original : terminal_profile_original_commandline profile = some commandline)
    (call : Install) (rest : List Install) (unmarked : AllUnmarked profile (call :: rest)) :
    ∃ text, uninstalled ((call :: rest).foldl installed profile) = profile.insert "commandline" (.string text) ∧
      ((stands_for commandline ≠ "" ∧ text = stands_for commandline) ∨
        (stands_for commandline = "" ∧ find_cmdline (split_whitespace text) = none)) := by
  have unmarked_call := unmarked call List.mem_cons_self
  have unmarked_rest : AllUnmarked profile rest := fun later member => unmarked later (List.mem_cons_of_mem call member)
  have stands : ∀ {last : Install} {original : String}, Unmarked last.exe last.addr ("Terminal: " ++ profile_name profile) →
      original ≠ "" → stands_for (shim profile last original) = original := by
    intro last original unmarked_last some_there
    rw [stands_for,shim,extract_wrapped unmarked_last some_there,Option.getD_some]
  rw [List.foldl_cons,installed_supported object visible call original]
  by_cases empty : stands_for commandline = ""
  · rw [empty]
    have nothing := find_empty unmarked_call
    cases rest with
    | nil =>
      refine ⟨shim profile call "",?_,.inr ⟨rfl,nothing⟩⟩
      rw [List.foldl_nil,uninstalled_text object,stands_for,shim,extract_of_find nothing,Option.getD_none]
    | cons call' rest =>
      have nonblank : trim (shim profile call "") ≠ "" := trim_build_some _ _ _ _
      have nothing' : find_cmdline (split_whitespace (trim (shim profile call ""))) = none := by
        rw [split_whitespace_trim]
        exact nothing
      have itself : stands_for (trim (shim profile call "")) = trim (shim profile call "") := by
        rw [stands_for,extract_of_find nothing',Option.getD_none]
      rw [List.foldl_cons,installed_text object visible nonblank call',itself]
      obtain ⟨last,unmarked_last,wrapped⟩ := run_wraps object visible nonblank rest
        (fun later member => unmarked_rest later (List.mem_cons_of_mem call' member)) call' (unmarked_rest call' List.mem_cons_self)
      rw [wrapped,uninstalled_text object,stands unmarked_last nonblank]
      exact ⟨_,rfl,.inr ⟨rfl,nothing'⟩⟩
  · obtain ⟨last,unmarked_last,wrapped⟩ := run_wraps object visible empty rest unmarked_rest call unmarked_call
    rw [wrapped,uninstalled_text object,stands unmarked_last empty]
    exact ⟨_,rfl,.inl ⟨empty,rfl⟩⟩

end

/-! ## Which profiles come back -/

/-- The command line is no command line of the shim. -/
def Own (commandline : String) : Prop := extract_wrapped_terminal_cmdline commandline = none

instance (commandline : String) : Decidable (Own commandline) := inferInstanceAs (Decidable (_ = _))

/-- A hidden profile comes back unless it is wrapped already. A visible one comes back if its command line
    has no blanks at its ends and is not wrapped, or if it has none and none can be inferred. -/
def Restorable (profile : Value) : Prop :=
  if is_hidden profile then ∀ text, profile.text_at "commandline" = some text → Own text
  else
    match ((profile.text_at "commandline").filter (fun text => !(trim text).isEmpty)) with
    | some text => trim text = text ∧ Own text
    | none => inferred_commandline profile = none

/-- What stands for itself has no blanks at its ends and is not wrapped. -/
theorem stands_for_itself {text : String} : stands_for (trim text) = text ↔ trim text = text ∧ Own text := by
  constructor
  · intro same
    rw [stands_for] at same
    cases found : extract_wrapped_terminal_cmdline (trim text) with
    | none =>
      rw [found,Option.getD_none] at same
      rw [same] at found
      exact ⟨same,found⟩
    | some original =>
      rw [found,Option.getD_some] at same
      have shorter := extract_shorter found
      have fewer := as_bytes_le (s := trim text) (t := text) (by
        rw [trim,String.toList_ofList]
        exact Words.trim_sublist _)
      rw [same] at shorter
      omega
  · rintro ⟨same,own⟩
    rw [same,stands_for,own,Option.getD_none]

theorem insert_commandline_iff {profile : Value} (object : profile.is_object = true) {text : String} :
    profile.insert "commandline" (.string text) = profile ↔ profile.text_at "commandline" = some text := by
  constructor
  · intro same
    rw [← same]
    exact text_at_insert object text
  · intro said
    exact insert_same (text_get said)

/-- Uninstalling leaves a profile as it is exactly if it is not wrapped. -/
theorem uninstalled_iff {profile : Value} (object : profile.is_object = true) :
    uninstalled profile = profile ↔ ∀ text, profile.text_at "commandline" = some text → Own text := by
  rw [uninstalled,unwrap_profile,object,Bool.not_true,if_neg (by decide)]
  cases said : profile.text_at "commandline" with
  | none => simp
  | some text =>
    simp only [Option.some.injEq,forall_eq']
    cases found : extract_wrapped_terminal_cmdline text with
    | none => simp [Own,found]
    | some original =>
      simp only [Own,found]
      rw [insert_commandline_iff object,said,Option.some.injEq]
      constructor
      · rintro rfl
        exact absurd (extract_shorter found) (Nat.lt_irrefl _)
      · intro none
        cases none

/-- What is no object stays. -/
theorem restored_other {profile : Value} (other : profile.is_object = false) (calls : List Install) :
    uninstalled (calls.foldl installed profile) = profile := by
  have unwrapped : uninstalled profile = profile := by rw [uninstalled,unwrap_profile,other,Bool.not_false,if_pos rfl]
  have kept : ∀ call, installed profile call = profile := by
    intro call
    rw [installed,wrap_profile,other,Bool.not_false,if_pos rfl]
  rw [List.foldl_fixed' kept,unwrapped]

theorem restorable_other {profile : Value} (other : profile.is_object = false) : Restorable profile := by
  have nothing : ∀ key, profile.get key = none := by
    intro key
    cases profile with
    | object fields => cases other
    | _ => rfl
  have uninferred : inferred_commandline profile = none := by
    rw [inferred_commandline]
    simp only [Value.text_at,nothing]
    decide
  have unsaid : profile.text_at "commandline" = none := by rw [Value.text_at,nothing]; rfl
  have visible : ¬ is_hidden profile = true := by
    rw [is_hidden,nothing]
    decide
  rw [Restorable,if_neg visible,unsaid]
  exact uninferred

/-- The calls have a command line to wrap. -/
def Supported (profile : Value) : Prop :=
  profile.is_object = true ∧ is_hidden profile = false ∧ (terminal_profile_original_commandline profile).isSome

/-- A visible profile that says a command line. -/
theorem restored_said {profile : Value} {text : String} (object : profile.is_object = true) (visible : is_hidden profile = false)
    (said : profile.text_at "commandline" = some text) (nonblank : trim text ≠ "") (call : Install) (rest : List Install)
    (unmarked : Supported profile → AllUnmarked profile (call :: rest)) :
    uninstalled ((call :: rest).foldl installed profile) = profile ↔ trim text = text ∧ Own text := by
  have original := original_said said nonblank
  replace unmarked := unmarked ⟨object,visible,by rw [original]; rfl⟩
  obtain ⟨final,restored,found⟩ := run_restores object visible original call rest unmarked
  rw [restored,insert_commandline_iff object,said,Option.some.injEq,← stands_for_itself]
  rcases found with ⟨some_there,same⟩ | ⟨empty,nothing⟩
  · rw [same]
    exact eq_comm
  · -- the empty command line is what a wrapped one stands for, and it is not found again
    constructor
    · rintro rfl
      rw [← split_whitespace_trim] at nothing
      rw [stands_for,extract_of_find nothing,Option.getD_none] at empty
      exact absurd empty nonblank
    · intro same
      rw [← same,empty] at nonblank
      exact absurd (by decide) nonblank

/-- A visible profile that says none, or a blank one. -/
theorem restored_unsaid {profile : Value} (object : profile.is_object = true) (visible : is_hidden profile = false)
    (unsaid : ∀ text, profile.text_at "commandline" = some text → trim text = "") (call : Install) (rest : List Install)
    (unmarked : Supported profile → AllUnmarked profile (call :: rest)) :
    uninstalled ((call :: rest).foldl installed profile) = profile ↔ inferred_commandline profile = none := by
  have original := original_unsaid unsaid
  cases inferred : inferred_commandline profile with
  | none =>
    rw [inferred] at original
    rw [List.foldl_fixed' (fun call => installed_unsupported call original)]
    refine iff_of_true ((uninstalled_iff object).mpr ?_) rfl
    intro text there
    have blank := split_whitespace_trim text
    rw [unsaid text there] at blank
    refine extract_of_find ?_
    rw [← blank]
    decide
  | some commandline =>
    refine iff_of_false ?_ (by simp)
    rw [inferred] at original
    replace unmarked := unmarked ⟨object,visible,by rw [original]; rfl⟩
    obtain ⟨own,nonblank⟩ := inferred_plain inferred (unmarked call List.mem_cons_self).2.2
    have itself : stands_for commandline = commandline := by rw [stands_for,own,Option.getD_none]
    obtain ⟨final,restored,found⟩ := run_restores object visible original call rest unmarked
    rw [restored,insert_commandline_iff object]
    intro there
    rcases found with ⟨some_there,same⟩ | ⟨empty,nothing⟩
    · rw [same,itself] at there
      exact nonblank (unsaid commandline there)
    · rw [itself] at empty
      rw [empty] at nonblank
      exact nonblank (by decide)

/-- Whatever the calls were, a profile comes back exactly if it is restorable. -/
theorem profile_restored_iff (profile : Value) (call : Install) (rest : List Install)
    (unmarked : Supported profile → AllUnmarked profile (call :: rest)) :
    uninstalled ((call :: rest).foldl installed profile) = profile ↔ Restorable profile := by
  by_cases object : profile.is_object = true
  swap
  · have other : profile.is_object = false := by simpa using object
    exact iff_of_true (restored_other other _) (restorable_other other)
  by_cases hidden : is_hidden profile = true
  · rw [List.foldl_fixed' (installed_hidden hidden),Restorable,if_pos hidden]
    exact uninstalled_iff object
  have visible : is_hidden profile = false := by simpa using hidden
  rw [Restorable,if_neg hidden]
  cases said : (profile.text_at "commandline").filter (fun text => !(trim text).isEmpty) with
  | some text =>
    rw [Option.filter_eq_some_iff] at said
    obtain ⟨said,nonblank⟩ := said
    exact restored_said object visible said (by simpa using nonblank) call rest unmarked
  | none =>
    refine restored_unsaid object visible ?_ call rest unmarked
    intro text there
    rw [there,Option.filter_some] at said
    by_contra nonblank
    rw [if_pos (by simpa using nonblank)] at said
    cases said

end VibeBridge.TerminalProfiles
