import VibeBridge.TerminalProfiles

/-!
What is found in the command line that is built for a profile. The arguments are
quoted, but they are searched word by word: a mark that is a word of one of them
hides the mark of the shim, and what stands after it is taken for the original
(`extract_build_iff`).
-/
namespace VibeBridge.TerminalProfiles
open VibeBridge.Text VibeBridge.Base64

variable {words more front : List String} {original : String}

theorem find_past (unmarked : MARK ∉ front) (rest : List String) : find_cmdline (front ++ rest) = find_cmdline rest := by
  by_cases marked : MARK ∈ rest
  · obtain ⟨before,after,rfl,first⟩ := List.eq_append_cons_of_mem marked
    rw [← List.append_assoc,find_skip first,find_skip (by rw [List.mem_append,not_or]; exact ⟨unmarked,first⟩)]
  · rw [find_unmarked marked,find_unmarked (by rw [List.mem_append,not_or]; exact ⟨unmarked,marked⟩)]

/-- Among the words, one comes after the first mark, and it is the original in base64. -/
def Told (words : List String) (original : String) : Prop :=
  ∃ front next rest, words = front ++ MARK :: next :: rest ∧ MARK ∉ front ∧ decode_cmdline next = some original

/-- A mark among the words is the one that is found. -/
theorem find_marked {option : String} (marked : MARK ∈ words) (refused : decode_cmdline option = none) :
    find_cmdline (words ++ option :: more) = some original ↔ Told words original := by
  obtain ⟨before,after,rfl,first⟩ := List.eq_append_cons_of_mem marked
  rw [List.append_assoc,List.cons_append,find_skip first]
  constructor
  · intro found
    cases after with
    | nil =>
      rw [List.nil_append,List.head?_cons,Option.bind_some,refused] at found
      cases found
    | cons next rest =>
      rw [List.cons_append,List.head?_cons,Option.bind_some] at found
      exact ⟨before,next,rest,rfl,first,found⟩
  · rintro ⟨front,next,rest,split,unmarked,decoded⟩
    have same := find_skip first (after ++ option :: more)
    have whole : before ++ MARK :: (after ++ option :: more) = front ++ MARK :: (next :: rest ++ option :: more) := by
      rw [← List.cons_append,← List.append_assoc,split]
      simp
    rw [← same,whole,find_skip unmarked,List.cons_append,List.head?_cons,Option.bind_some]
    exact decoded

def argument_words (argument : String) : List String := split_whitespace (quote_windows_arg argument)

/-- The first argument with a mark among its words has the original after it, or none has a mark and there is something
    to write after the mark of the shim. -/
def Recovered (exe addr name original : String) : Prop :=
  if MARK ∈ argument_words exe then Told (argument_words exe) original
  else if MARK ∈ argument_words addr then Told (argument_words addr) original
  else if MARK ∈ argument_words name then Told (argument_words name) original
  else original ≠ ""

theorem options_refused : decode_cmdline "terminal-shim" = none ∧ decode_cmdline "--name" = none ∧
    decode_cmdline "--follow-console-size" = none := by decide

theorem unmarked_options : MARK ∉ ["terminal-shim","--daemon"] ∧ MARK ∉ ["--name"] ∧ MARK ∉ ["--follow-console-size"] := by
  decide

/-- The words of the command line that is built. -/
theorem extract_words (exe addr name original : String) :
    extract_wrapped_terminal_cmdline (build_terminal_profile_commandline exe addr name original) =
      find_cmdline (argument_words exe ++ (["terminal-shim","--daemon"] ++ (argument_words addr ++ (["--name"] ++
        (argument_words name ++ (["--follow-console-size"] ++
          MARK :: split_whitespace (base64_encode_bytes (as_bytes original)))))))) := by
  rw [extract_build,split_build,shim_parts]
  simp only [argument_words,List.append_assoc]

/-- The original is found in the command line exactly when no argument hides it, or one has it too. -/
theorem extract_build_iff (exe addr name original : String) :
    extract_wrapped_terminal_cmdline (build_terminal_profile_commandline exe addr name original) = some original ↔
      Recovered exe addr name original := by
  obtain ⟨shim,name_option,size_option⟩ := options_refused
  obtain ⟨unmarked_shim,unmarked_name,unmarked_size⟩ := unmarked_options
  rw [extract_words,Recovered]
  by_cases in_exe : MARK ∈ argument_words exe
  · rw [if_pos in_exe,List.cons_append]
    exact find_marked in_exe shim
  · rw [if_neg in_exe,find_past in_exe,find_past unmarked_shim]
    by_cases in_addr : MARK ∈ argument_words addr
    · rw [if_pos in_addr,List.cons_append]
      exact find_marked in_addr name_option
    · rw [if_neg in_addr,find_past in_addr,find_past unmarked_name]
      by_cases in_name : MARK ∈ argument_words name
      · rw [if_pos in_name,List.cons_append]
        exact find_marked in_name size_option
      · rw [if_neg in_name,find_past in_name,find_skip unmarked_size]
        by_cases empty : original = ""
        · subst empty
          have none : split_whitespace (base64_encode_bytes (as_bytes "")) = [] := by
            rw [as_bytes_empty.mpr rfl]
            decide
          rw [none]
          exact ⟨fun found => absurd found (by decide),fun some_there => absurd rfl some_there⟩
        · rw [split_encoded empty,List.head?_cons,Option.bind_some,decode_written]
          exact ⟨fun _ => empty,fun _ => rfl⟩

/-- A name with the mark as its second word. -/
theorem extract_hidden : ¬ ∀ exe addr name original,
    extract_wrapped_terminal_cmdline (build_terminal_profile_commandline exe addr name original) = some original := by
  intro all
  have found := all "vb-daemon.exe" "127.0.0.1:7777" "a --cmdline-b64 b" "cmd.exe"
  have unmarked : MARK ∉ argument_words "vb-daemon.exe" ∧ MARK ∉ argument_words "127.0.0.1:7777" := by decide
  have words : argument_words "a --cmdline-b64 b" = ["\"a",MARK,"b\""] := by decide
  have whole : ∀ rest, ["\"a",MARK,"b\""] ++ rest = ["\"a"] ++ MARK :: "b\"" :: rest := fun _ => rfl
  have refused : decode_cmdline "b\"" = none := by decide
  rw [extract_words,find_past unmarked.1,find_past unmarked_options.1,find_past unmarked.2,find_past unmarked_options.2.1,
    words,whole,find_skip (by decide),List.head?_cons,Option.bind_some,refused] at found
  cases found

end VibeBridge.TerminalProfiles
