import VibeBridge.CommandLines
import VibeBridge.TerminalProfiles

/-!
The command that the terminal shim starts. Where it is a line for `cmd.exe`, the
line is cut into tokens, to see whether it starts `wsl.exe`. The splitter takes
every backslash for itself but one before a quote, while `quote_windows_arg`
doubles the backslashes before a quote and at the end: a line comes back where
there are none of these, and no argument is empty (`quoted_line_tokens`).
-/
namespace VibeBridge.TerminalShim
open VibeBridge.Text VibeBridge.TerminalProfiles CommandLines

/-- A token is kept unless it is empty. -/
def flushed (current : List Char) : List (List Char) := if current.isEmpty then [] else [current]

attribute [local irreducible] is_whitespace in
/-- The loop of `split_windows_commandline_loosely`. -/
def split_from : Bool → List Char → List Char → List (List Char)
  | _, current, [] => flushed current
  | in_quotes, current, '"' :: rest => split_from (!in_quotes) current rest
  | true, current, '\\' :: '"' :: rest => split_from true (current ++ ['"']) rest
  | in_quotes, current, ch :: rest =>
    if is_whitespace ch && !in_quotes then flushed current ++ split_from in_quotes [] rest
    else split_from in_quotes (current ++ [ch]) rest

def split_windows_commandline_loosely (input : String) : List String :=
  (split_from false [] input.toList).map String.ofList

/-- `str::eq_ignore_ascii_case`. -/
def eq_ignore_ascii_case (s t : String) : Bool := to_ascii_lowercase s == to_ascii_lowercase t

/-- The command is the shell with the options to run a line. -/
def is_shell (cmd d s c : String) : Bool :=
  eq_ignore_ascii_case cmd "cmd.exe" && eq_ignore_ascii_case d "/D" && eq_ignore_ascii_case s "/S" && eq_ignore_ascii_case c "/C"

def exe_name (first : String) : String := String.ofList (rsplit_first (fun c => c == '\\' || c == '/') first.toList)

def is_wsl (first : String) : Bool :=
  let exe := to_ascii_lowercase (exe_name first)
  exe == "wsl.exe" || exe == "wsl"

def wsl_command_tokens (command : List String) : Option (List String) :=
  let tokens := match command with
    | [cmd,d,s,c,line] => if is_shell cmd d s c then split_windows_commandline_loosely line else command
    | _ => command
  match tokens with
  | [] => none
  | first :: _ => if is_wsl first then some tokens else none

variable {current rest cs : List Char} {in_quotes : Bool} {n : Nat} {ch : Char}

/-! ## What is written comes back -/

theorem split_open (in_quotes : Bool) (current rest : List Char) :
    split_from in_quotes current ('"' :: rest) = split_from (!in_quotes) current rest := by
  rw [split_from]

theorem split_escaped (current rest : List Char) :
    split_from true current ('\\' :: '"' :: rest) = split_from true (current ++ ['"']) rest := by
  rw [split_from]

/-- A character that stands for itself, or separates. -/
theorem split_next (unquoted : ch ≠ '"') (plain : ch = '\\' → in_quotes = true → rest.head? ≠ some '"') :
    split_from in_quotes current (ch :: rest) =
      if is_whitespace ch && !in_quotes then flushed current ++ split_from in_quotes [] rest
      else split_from in_quotes (current ++ [ch]) rest := by
  rw [split_from]
  · exact unquoted
  · rintro more open_quote rfl rfl
    exact plain rfl open_quote rfl

theorem split_plain (solid : in_quotes = true ∨ is_whitespace ch = false) (unquoted : ch ≠ '"')
    (plain : ch = '\\' → in_quotes = true → rest.head? ≠ some '"') :
    split_from in_quotes current (ch :: rest) = split_from in_quotes (current ++ [ch]) rest := by
  have joins : (is_whitespace ch && !in_quotes) = false := by
    rcases solid with rfl | solid
    · rw [Bool.not_true,Bool.and_false]
    · rw [solid,Bool.false_and]
  rw [split_next unquoted plain,joins,if_neg (by decide)]

/-- Backslashes before a character that is no quote. -/
theorem split_run (solid : ch ≠ '"') (plain : ch ≠ '\\') (n : Nat) (current : List Char) :
    split_from true current (List.replicate n '\\' ++ ch :: rest) = split_from true (current ++ List.replicate n '\\' ++ [ch]) rest := by
  induction n generalizing current with
  | zero => rw [List.replicate_zero,List.nil_append,List.append_nil,split_plain (.inl rfl) solid (fun same => absurd same plain)]
  | succ n ih =>
    rw [List.replicate_succ,List.cons_append,split_plain (.inl rfl) (by decide),ih]
    · simp
    · intro _ _
      cases n with
      | zero => simpa using solid
      | succ n => simp [List.replicate_succ]

/-- A quoted argument that is read from its middle on. -/
theorem split_quote_body (literal : Literal '"' '\\' (List.replicate n '\\' ++ cs)) :
    split_from true current (quote_body cs n ++ '"' :: rest) = split_from false (current ++ List.replicate n '\\' ++ cs) rest := by
  induction cs generalizing n current with
  | nil =>
    rw [List.append_nil,literal_run_end] at literal
    subst literal
    rw [quote_body,Nat.zero_mul,List.replicate_zero,List.nil_append,split_open,List.append_nil,List.append_nil]
    rfl
  | cons c cs ih =>
    rw [quote_body]
    by_cases slash : c = '\\'
    · subst slash
      rw [replicate_cons] at literal
      rw [if_pos rfl,ih literal,List.append_assoc,← replicate_cons,List.append_assoc]
    · obtain ⟨front,others⟩ := (literal_run (by decide) slash).mp literal
      have none : Literal '"' '\\' (List.replicate 0 '\\' ++ cs) := others
      rw [if_neg slash]
      by_cases open_quote : c = '"'
      · subst open_quote
        obtain rfl : n = 0 := front.resolve_right (fun differs => differs rfl)
        have written_quote : List.replicate (0 * 2 + 1) '\\' ++ '"' :: quote_body cs 0 ++ '"' :: rest =
            '\\' :: '"' :: (quote_body cs 0 ++ '"' :: rest) := rfl
        rw [if_pos rfl,written_quote,split_escaped,ih none]
        simp
      · rw [if_neg open_quote,List.append_assoc,List.cons_append,split_run open_quote slash,ih none]
        simp

/-- An argument that is written without quotes. -/
theorem split_unquoted (solid : ∀ c ∈ cs, is_whitespace c = false ∧ c ≠ '"' ∧ c ≠ '\\') :
    split_from false current (cs ++ rest) = split_from false (current ++ cs) rest := by
  induction cs generalizing current with
  | nil => rw [List.nil_append,List.append_nil]
  | cons c cs ih =>
    obtain ⟨⟨joins,unquoted,plain⟩,later⟩ := List.forall_mem_cons.mp solid
    rw [List.cons_append,split_plain (.inr joins) unquoted (fun same => absurd same plain),ih later]
    simp

/-- The argument before is over. -/
def Over (rest : List Char) : Prop := ∀ c more, rest = c :: more → c = ' '

theorem split_blank (current more : List Char) :
    split_from false current (' ' :: more) = flushed current ++ split_from false [] more := by
  have blank : is_whitespace ' ' = true := by decide
  have no_quote : ' ' = '\\' → false = true → more.head? ≠ some '"' := fun same => absurd same (by decide)
  rw [split_next (by decide) no_quote,blank,Bool.not_false,Bool.and_true,if_pos rfl]

theorem split_over (ended : Over rest) : split_from false current rest = flushed current ++ split_from false [] rest := by
  cases rest with
  | nil => rw [split_from,split_from,flushed,flushed,List.isEmpty_nil,if_pos rfl,List.append_nil]
  | cons c more =>
    obtain rfl := ended c more rfl
    have nothing : flushed [] = [] := rfl
    rw [split_blank,split_blank,nothing,List.nil_append]

/-- The argument is not empty, and no backslash of it stands before a quote or at its end. -/
def Recognised (arg : String) : Prop := arg ≠ "" ∧ Literal '"' '\\' arg.toList

theorem quote_plain {value : String}
    (plain : (!value.isEmpty && !value.toList.any (fun ch => is_whitespace ch || ch == '"' || ch == '\\')) = true) :
    value ≠ "" ∧ ∀ c ∈ value.toList, is_whitespace c = false ∧ c ≠ '"' ∧ c ≠ '\\' := by
  simp only [Bool.and_eq_true,Bool.not_eq_true',List.any_eq_false,String.isEmpty_eq_false_iff] at plain
  refine ⟨plain.1,?_⟩
  intro c member
  have other := plain.2 c member
  simp only [Bool.or_eq_true,not_or,Bool.not_eq_true,beq_eq_false_iff_ne,ne_eq] at other
  exact ⟨other.1.1,other.1.2,other.2⟩

/-- One argument, with what comes after it. -/
theorem split_quoted {arg : String} (literal : Literal '"' '\\' arg.toList) (ended : Over rest) :
    split_from false [] ((quote_windows_arg arg).toList ++ rest) = flushed arg.toList ++ split_from false [] rest := by
  rw [quote_windows_arg]
  split
  · rename_i plain
    rw [split_unquoted (quote_plain plain).2,List.nil_append,split_over ended]
  · have from_here : Literal '"' '\\' (List.replicate 0 '\\' ++ arg.toList) := literal
    rw [String.toList_ofList,List.cons_append,List.append_assoc,List.singleton_append,split_open,Bool.not_false,
      split_quote_body from_here,split_over ended]
    rfl

/-! ## What comes back was written -/

/-- How many backslashes are written for an argument. -/
def marks (l : List Char) : Nat := l.count '\\' + l.count '"'

theorem marks_append (l m : List Char) : marks (l ++ m) = marks l + marks m := by
  simp only [marks,List.count_append]
  omega

/-- Every backslash of a line becomes a backslash of a token, or a quote. -/
theorem split_marks (l : List Char) (in_quotes : Bool) (current : List Char) :
    marks (split_from in_quotes current l).flatten = marks current + l.count '\\' := by
  have kept (current : List Char) : (flushed current).flatten = current := by
    cases current with
    | nil => rfl
    | cons c cs => exact List.append_nil (c :: cs)
  fun_induction split_from in_quotes current l with
  | case1 in_quotes current => rw [kept,List.count_nil,Nat.add_zero]
  | case2 in_quotes current rest ih => rw [ih,List.count_cons_of_ne (by decide)]
  | case3 current rest ih =>
    rw [ih,marks_append,List.count_cons_self,List.count_cons_of_ne (by decide)]
    change marks current + 1 + _ = _
    omega
  | case4 in_quotes current ch rest unquoted plain separates ih =>
    have other : ch ≠ '\\' := by
      rintro rfl
      rw [show is_whitespace '\\' = false by decide,Bool.false_and] at separates
      cases separates
    have none : marks [] = 0 := rfl
    rw [List.flatten_append,marks_append,kept,ih,List.count_cons_of_ne other,none]
    omega
  | case5 in_quotes current ch rest unquoted plain joins ih =>
    have one : marks [ch] = [ch].count '\\' := by
      rw [marks,List.count_singleton (a := '"'),if_neg (by simpa using unquoted),Nat.add_zero]
    have parts : (ch :: rest).count '\\' = [ch].count '\\' + rest.count '\\' := by
      rw [← List.count_append]
      rfl
    rw [ih,marks_append,one,parts]
    omega

theorem split_some (l : List Char) (in_quotes : Bool) (current : List Char) : [] ∉ split_from in_quotes current l := by
  have kept (current : List Char) : [] ∉ flushed current := by
    cases current <;> simp [flushed]
  fun_induction split_from in_quotes current l with
  | case1 in_quotes current => exact kept current
  | case2 in_quotes current rest ih => exact ih
  | case3 current rest ih => exact ih
  | case4 in_quotes current ch rest unquoted plain separates ih =>
    rw [List.mem_append,not_or]
    exact ⟨kept current,ih⟩
  | case5 in_quotes current ch rest unquoted plain joins ih => exact ih

/-- As many backslashes are written as there are backslashes and quotes, or more where some are doubled. -/
theorem quote_body_marks (cs : List Char) (n : Nat) : n + marks cs ≤ (quote_body cs n).count '\\' ∧
    ((quote_body cs n).count '\\' = n + marks cs ↔ Literal '"' '\\' (List.replicate n '\\' ++ cs)) := by
  induction cs generalizing n with
  | nil =>
    rw [quote_body,List.count_replicate_self,List.append_nil,literal_run_end]
    change n + 0 ≤ _ ∧ (_ = n + 0 ↔ _)
    omega
  | cons c cs ih =>
    rw [quote_body]
    by_cases slash : c = '\\'
    · subst slash
      have more : n + marks ('\\' :: cs) = n + 1 + marks cs := by
        simp only [marks,List.count_cons_self,List.count_cons_of_ne (show '\\' ≠ '"' by decide)]
        omega
      rw [if_pos rfl,replicate_cons,more]
      exact ih (n + 1)
    · obtain ⟨bound,exact_when⟩ := ih 0
      rw [List.replicate_zero,List.nil_append] at exact_when
      rw [if_neg slash,literal_run (by decide) slash,← exact_when]
      by_cases open_quote : c = '"'
      · subst open_quote
        have more : marks ('"' :: cs) = marks cs + 1 := by
          simp only [marks,List.count_cons_self,List.count_cons_of_ne (show '"' ≠ '\\' by decide)]
          omega
        rw [if_pos rfl,List.count_append,List.count_replicate_self,List.count_cons_of_ne (by decide),more]
        simp only [ne_eq,not_true_eq_false,or_false]
        omega
      · have same : marks (c :: cs) = marks cs := by
          rw [marks,marks,List.count_cons_of_ne slash,List.count_cons_of_ne open_quote]
        have differs : n = 0 ∨ c ≠ '"' := .inr open_quote
        rw [if_neg open_quote,List.count_append,List.count_replicate_self,List.count_cons_of_ne slash,same,and_iff_right differs]
        omega

theorem quote_marks (arg : String) : marks arg.toList ≤ (quote_windows_arg arg).toList.count '\\' ∧
    ((quote_windows_arg arg).toList.count '\\' = marks arg.toList ↔ Literal '"' '\\' arg.toList) := by
  rw [quote_windows_arg]
  split
  · rename_i plain
    have none := (quote_plain plain).2
    have no_slash : '\\' ∉ arg.toList := fun member => (none _ member).2.2 rfl
    have no_quote : '"' ∉ arg.toList := fun member => (none _ member).2.1 rfl
    rw [marks,List.count_eq_zero_of_not_mem no_slash,List.count_eq_zero_of_not_mem no_quote]
    exact ⟨Nat.le_refl 0,fun _ => literal_of_not_mem no_slash,fun _ => rfl⟩
  · rw [String.toList_ofList,List.count_cons_of_ne (by decide),List.count_append]
    have bound := quote_body_marks arg.toList 0
    rw [Nat.zero_add] at bound
    exact bound

/-! ## Command lines -/

/-- The arguments, each quoted, with blanks between them. -/
def quoted_line (args : List String) : String := " ".intercalate (args.map quote_windows_arg)

theorem quoted_line_cons (arg : String) (args : List String) :
    ∃ rest, (quoted_line (arg :: args)).toList = (quote_windows_arg arg).toList ++ rest ∧ Over rest ∧
      split_from false [] rest = split_from false [] (quoted_line args).toList ∧
      rest.count '\\' = (quoted_line args).toList.count '\\' := by
  cases args with
  | nil => 
    refine ⟨[],?_,?_,rfl,rfl⟩
    · rw [quoted_line,List.map_singleton,String.intercalate_singleton,List.append_nil]
    · rintro c more split
      cases split
  | cons next args =>
    refine ⟨' ' :: (quoted_line (next :: args)).toList,?_,?_,?_,List.count_cons_of_ne (by decide)⟩
    · rw [quoted_line,List.map_cons,List.map_cons,String.intercalate_cons_cons,← List.map_cons,← quoted_line,
        String.toList_append,String.toList_append,List.append_assoc]
      rfl
    · rintro c more split
      cases split
      rfl
    · exact split_blank [] _

/-- Arguments whose backslashes stand for themselves come back, but for the empty ones. -/
theorem split_line {args : List String} (literal : ∀ arg ∈ args, Literal '"' '\\' arg.toList) :
    split_from false [] (quoted_line args).toList = args.flatMap (fun arg => flushed arg.toList) := by
  induction args with
  | nil => rfl
  | cons arg args ih =>
    obtain ⟨first,later⟩ := List.forall_mem_cons.mp literal
    obtain ⟨rest,split,ended,same,_⟩ := quoted_line_cons arg args
    rw [split,split_quoted first ended,same,ih later,List.flatMap_cons]

/-- As many backslashes are written as the arguments have backslashes and quotes, or more where some are doubled. -/
theorem quoted_line_marks (args : List String) :
    marks (args.map String.toList).flatten ≤ (quoted_line args).toList.count '\\' ∧
      ((quoted_line args).toList.count '\\' = marks (args.map String.toList).flatten ↔
        ∀ arg ∈ args, Literal '"' '\\' arg.toList) := by
  induction args with
  | nil => exact ⟨Nat.le_refl 0,fun _ => by simp,fun _ => rfl⟩
  | cons arg args ih =>
    obtain ⟨rest,split,_,_,same⟩ := quoted_line_cons arg args
    obtain ⟨bound,exact_when⟩ := ih
    obtain ⟨first_bound,first_exact⟩ := quote_marks arg
    rw [List.forall_mem_cons,← first_exact,← exact_when,split,List.count_append,same,List.map_cons,List.flatten_cons,
      marks_append]
    omega

theorem split_quoted_line (args : List String) :
    split_windows_commandline_loosely (quoted_line args) = args ↔ ∀ arg ∈ args, Recognised arg := by
  rw [split_windows_commandline_loosely]
  constructor
  · intro same
    have tokens : split_from false [] (quoted_line args).toList = args.map String.toList := by
      have back := congrArg (List.map String.toList) same
      rw [List.map_map] at back
      rw [← back]
      simp
    have counted := split_marks (quoted_line args).toList false []
    have none : marks [] = 0 := rfl
    rw [tokens,none,Nat.zero_add] at counted
    have literal := (quoted_line_marks args).2.mp counted.symm
    intro arg member
    refine ⟨?_,literal arg member⟩
    rintro rfl
    have absent := split_some (quoted_line args).toList false []
    rw [tokens] at absent
    exact absent (List.mem_map.mpr ⟨"",member,rfl⟩)
  · intro recognised
    rw [split_line (fun arg member => (recognised arg member).2)]
    induction args with
    | nil => rfl
    | cons arg args ih =>
      obtain ⟨⟨some_there,_⟩,later⟩ := List.forall_mem_cons.mp recognised
      have kept : flushed arg.toList = [arg.toList] := by
        rw [flushed,if_neg (by simpa using some_there)]
      rw [List.flatMap_cons,List.map_append,ih later,kept,List.map_singleton,String.ofList_toList,List.singleton_append]

theorem wsl_command_tokens_shell {cmd d s c : String} (shell : is_shell cmd d s c = true) (line : String) :
    wsl_command_tokens [cmd,d,s,c,line] = match split_windows_commandline_loosely line with
      | [] => none
      | first :: more => if is_wsl first then some (first :: more) else none := by
  unfold wsl_command_tokens
  dsimp only
  rw [shell,if_pos rfl]
  cases split_windows_commandline_loosely line <;> rfl

/-- The line comes back exactly when its arguments are recognised, and then it is one for `wsl.exe` as the first of them is. -/
theorem quoted_line_tokens (args : List String) :
    (split_windows_commandline_loosely (quoted_line args) = args ↔ ∀ arg ∈ args, Recognised arg) ∧
      ∀ cmd d s c, is_shell cmd d s c = true → (wsl_command_tokens [cmd,d,s,c,quoted_line args] = some args ↔
        (∀ arg ∈ args, Recognised arg) ∧ ∃ first, args.head? = some first ∧ is_wsl first = true) := by
  refine ⟨split_quoted_line args,?_⟩
  intro cmd d s c shell
  rw [wsl_command_tokens_shell shell,← split_quoted_line]
  cases split_windows_commandline_loosely (quoted_line args) with
  | nil =>
    constructor
    · intro found
      cases found
    · rintro ⟨rfl,first,starts,_⟩
      cases starts
  | cons first more =>
    dsimp only
    constructor
    · intro found
      split at found
      · rename_i wsl
        cases found
        exact ⟨rfl,first,rfl,wsl⟩
      · cases found
    · rintro ⟨rfl,other,starts,wsl⟩
      cases starts
      rw [if_pos wsl]

/-- A line that starts a distribution whose name has a blank. -/
theorem quoted_line_tokens_wsl :
    wsl_command_tokens ["cmd.exe","/d","/s","/c",quoted_line ["C:\\Windows\\WSL.exe","-d","my linux"]] =
      some ["C:\\Windows\\WSL.exe","-d","my linux"] := by
  refine ((quoted_line_tokens _).2 "cmd.exe" "/d" "/s" "/c" (by decide)).mpr ⟨?_,_,rfl,by decide⟩
  simp [Recognised,literal_cons,literal_nil]

/-- An argument that ends with a backslash. -/
theorem quoted_line_doubles : ¬ ∀ args, split_windows_commandline_loosely (quoted_line args) = args := by
  intro all
  have found := all ["wsl.exe","--cd","C:\\"]
  exact absurd found (by decide)

end VibeBridge.TerminalShim
