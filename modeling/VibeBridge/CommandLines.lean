import Mathlib.Data.List.Count
import Mathlib.Data.List.Flatten
import VibeBridge.Suffixes
import VibeBridge.Words

/-!
Command lines as the C runtime of Windows cuts them into arguments. A quote opens
and closes, blanks separate where no quote is open. Before a quote, two
backslashes stand for one, and one left over makes the quote a character of the
argument; other backslashes stand for themselves.

An argument is quoted here without regard for its backslashes: every quote gets
one of its own, and nothing else is changed. Each backslash of a command line that
stands before a quote loses one half, so what comes back can be weighed against
what was written (`weight_arguments`): the arguments come back exactly where no
backslash stands before a quote or at the end of a quoted argument.
-/
namespace CommandLines
universe u
variable {α : Type u} (quote backslash : α) (blank : α → Bool)

/-- Every backslash is followed by something, which is no quote. -/
def Literal (l : List α) : Prop :=
  ∀ before b after, l = before ++ b :: after → b = backslash → ∃ c rest, after = c :: rest ∧ c ≠ quote

/-- An argument with backslashes that may yet turn out to stand before a quote. -/
def pending (argument : Option (List α)) (backslashes : Nat) : Option (List α) :=
  if backslashes = 0 then argument else some (argument.getD [] ++ List.replicate backslashes backslash)

/-- The arguments of a command line, after a beginning: whether a quote is open, what has been read of an argument, if
    one has begun, and how many backslashes have been read last. -/
def arguments [DecidableEq α] (quoted : Bool) (argument : Option (List α)) (backslashes : Nat) : List α → List (List α)
  | [] => (pending backslash argument backslashes).toList
  | c :: rest =>
    if c = backslash then arguments quoted argument (backslashes + 1) rest
    else if c = quote then
      let read := argument.getD [] ++ List.replicate (backslashes / 2) backslash
      if backslashes % 2 = 0 then arguments (!quoted) (some read) 0 rest
      else arguments quoted (some (read ++ [quote])) 0 rest
    else if blank c && !quoted then
      (pending backslash argument backslashes).toList ++ arguments false none 0 rest
    else arguments quoted (some ((pending backslash argument backslashes).getD [] ++ [c])) 0 rest

variable {quote backslash blank} {argument : Option (List α)} {l rest : List α} {c sep : α} {quoted : Bool} {n : Nat}

/-! ## Backslashes that stand for themselves -/

theorem literal_nil : Literal quote backslash [] := by
  intro before b after split
  cases before <;> cases split

theorem literal_cons : Literal quote backslash (c :: l) ↔
    (c = backslash → ∃ d rest, l = d :: rest ∧ d ≠ quote) ∧ Literal quote backslash l :=
  Suffixes.everywhere_cons (Q := fun b after => b = backslash → ∃ d rest, after = d :: rest ∧ d ≠ quote)

theorem literal_of_not_mem (none : backslash ∉ l) : Literal quote backslash l := by
  rintro before b after rfl rfl
  exact absurd (List.mem_append_right _ List.mem_cons_self) none

/-- One more backslash at the end of a run. -/
theorem replicate_cons (n : Nat) (c : α) (l : List α) : List.replicate n c ++ c :: l = List.replicate (n + 1) c ++ l := by
  rw [List.replicate_succ',List.append_assoc,List.singleton_append]

/-- Backslashes before what is no backslash. -/
theorem literal_run (apart : backslash ≠ quote) (other : c ≠ backslash) : Literal quote backslash (List.replicate n backslash ++ c :: l) ↔
    (n = 0 ∨ c ≠ quote) ∧ Literal quote backslash l := by
  induction n with
  | zero =>
    rw [List.replicate_zero,List.nil_append,literal_cons]
    constructor
    · rintro ⟨_,others⟩
      exact ⟨.inl rfl,others⟩
    · rintro ⟨_,others⟩
      exact ⟨fun same => absurd same other,others⟩
  | succ n ih =>
    rw [List.replicate_succ,List.cons_append,literal_cons,ih]
    constructor
    · rintro ⟨first,_,others⟩
      refine ⟨.inr ?_,others⟩
      obtain ⟨d,rest,same,differs⟩ := first rfl
      cases n with
      | zero =>
        cases same
        exact differs
      | succ n => rename_i run; exact run.resolve_left (Nat.succ_ne_zero n)
    · rintro ⟨zero | differs,others⟩
      · cases zero
      · refine ⟨fun _ => ?_,.inr differs,others⟩
        cases n with
        | zero => exact ⟨c,l,rfl,differs⟩
        | succ n => exact ⟨backslash,_,rfl,apart⟩

/-- Backslashes at the end. -/
theorem literal_run_end : Literal quote backslash (List.replicate n backslash) ↔ n = 0 := by
  constructor
  · intro literal
    cases n with
    | zero => rfl
    | succ n =>
      obtain ⟨c,rest,after,_⟩ := literal (List.replicate n backslash) backslash [] (List.replicate_succ' ..) rfl
      cases after
  · rintro rfl
    exact literal_nil

/-! ## Quoting -/

section
variable [DecidableEq α] (quote backslash blank)

/-- An argument with a backslash before each quote. -/
def escape (l : List α) : List α := l.flatMap (fun c => if c = quote then [backslash,quote] else [c])

/-- An argument as it is written: quoted where it has a blank. -/
def written (l : List α) : List α := if l.any blank then quote :: (escape quote backslash l ++ [quote]) else l

/-- The command line of some arguments. -/
def line (sep : α) (args : List (List α)) : List α := [sep].intercalate (args.map (written quote backslash blank))

/-- The argument comes back from the command line. -/
def Kept (l : List α) : Prop := if l.any blank then Literal quote backslash l else quote ∉ l

/-- The argument before is over. -/
def Ended (rest : List α) : Prop := ∀ c more, rest = c :: more → c ≠ backslash ∧ c ≠ quote ∧ blank c = true

end

theorem escape_nil [DecidableEq α] : escape quote backslash [] = [] := rfl

theorem escape_cons [DecidableEq α] (c : α) (l : List α) :
    escape quote backslash (c :: l) = (if c = quote then [backslash,quote] else [c]) ++ escape quote backslash l :=
  List.flatMap_cons

theorem escape_append [DecidableEq α] (l m : List α) :
    escape quote backslash (l ++ m) = escape quote backslash l ++ escape quote backslash m := List.flatMap_append

theorem escape_plain [DecidableEq α] (free : quote ∉ l) : escape quote backslash l = l := by
  induction l with
  | nil => rfl
  | cons c l ih =>
    rw [List.mem_cons,not_or] at free
    rw [escape_cons,if_neg (Ne.symm free.1),ih free.2,List.singleton_append]

theorem pending_zero (argument : Option (List α)) : pending backslash argument 0 = argument := rfl

theorem pending_getD (argument : Option (List α)) (n : Nat) :
    (pending backslash argument n).getD [] = argument.getD [] ++ List.replicate n backslash := by
  rw [pending]
  split
  · rename_i zero
    rw [zero,List.replicate_zero,List.append_nil]
  · rfl

theorem pending_flatten (argument : Option (List α)) (n : Nat) :
    (pending backslash argument n).toList.flatten = argument.getD [] ++ List.replicate n backslash := by
  rw [← pending_getD]
  cases pending backslash argument n <;> simp

theorem ended_nil : Ended quote backslash blank [] := by
  intro c more split
  cases split

variable [DecidableEq α]

theorem arguments_end (ended : Ended quote backslash blank rest) : arguments quote backslash blank false argument n rest =
    (pending backslash argument n).toList ++ arguments quote backslash blank false none 0 rest := by
  cases rest with
  | nil => rw [arguments,arguments,pending_zero,Option.toList_none,List.append_nil]
  | cons c more =>
    obtain ⟨plain,open_quote,separates⟩ := ended c more rfl
    rw [arguments,arguments,if_neg plain,if_neg open_quote,if_neg plain,if_neg open_quote,separates]
    rfl

/-- A quoted argument that is read from its middle on. -/
theorem arguments_escaped (apart : backslash ≠ quote) (literal : Literal quote backslash (List.replicate n backslash ++ l)) :
    arguments quote backslash blank true argument n (escape quote backslash l ++ quote :: rest) =
      arguments quote backslash blank false (some (argument.getD [] ++ List.replicate n backslash ++ l)) 0 rest := by
  induction l generalizing argument n with
  | nil =>
    rw [List.append_nil,literal_run_end] at literal
    subst literal
    rw [escape_nil,List.nil_append,arguments,if_neg apart.symm,if_pos rfl]
    simp
  | cons c l ih =>
    rw [escape_cons]
    by_cases slash : c = backslash
    · subst slash
      rw [replicate_cons] at literal
      rw [if_neg apart,List.singleton_append,List.cons_append,arguments,if_pos rfl,ih literal,List.append_assoc,
        ← replicate_cons,List.append_assoc]
    · obtain ⟨front,others⟩ := (literal_run apart slash).mp literal
      have none : Literal quote backslash (List.replicate 0 backslash ++ l) := others
      by_cases open_quote : c = quote
      · subst open_quote
        obtain rfl : n = 0 := front.resolve_right (fun differs => differs rfl)
        have written_quote : [backslash,c] ++ escape c backslash l ++ c :: rest =
            backslash :: c :: (escape c backslash l ++ c :: rest) := rfl
        rw [if_pos rfl,written_quote,arguments,if_pos rfl,arguments,if_neg slash,if_pos rfl,if_neg (by decide),ih none]
        simp
      · rw [if_neg open_quote,List.singleton_append,List.cons_append,arguments,if_neg slash,if_neg open_quote,
          Bool.not_true,Bool.and_false,if_neg (by decide),ih none,pending_getD]
        simp

/-- An argument without blanks and quotes that is read from its middle on. -/
theorem arguments_plain (begun : argument = none → n = 0 → l ≠ []) (unquoted : quote ∉ l)
    (solid : ∀ c ∈ l, blank c = false) (ended : Ended quote backslash blank rest) :
    arguments quote backslash blank false argument n (l ++ rest) =
      (argument.getD [] ++ List.replicate n backslash ++ l) :: arguments quote backslash blank false none 0 rest := by
  induction l generalizing argument n with
  | nil =>
    rw [List.nil_append,arguments_end ended,List.append_nil,pending]
    split
    · rename_i zero
      cases argument with
      | none => exact absurd rfl (begun rfl zero)
      | some read => rw [zero]; simp
    · rfl
  | cons c l ih =>
    rw [List.mem_cons,not_or] at unquoted
    obtain ⟨first,later⟩ := List.forall_mem_cons.mp solid
    rw [List.cons_append,arguments]
    by_cases slash : c = backslash
    · rw [if_pos slash,ih (fun _ zero => absurd zero (Nat.succ_ne_zero n)) unquoted.2 later,slash,List.replicate_succ']
      simp
    · rw [if_neg slash,if_neg (Ne.symm unquoted.1),first,Bool.false_and,if_neg (by decide),
        ih (fun none => absurd none (Option.some_ne_none _)) unquoted.2 later,pending_getD]
      simp

/-! ## Weights -/

variable (quote backslash) in
/-- What an argument weighs: a backslash twice as much as a quote. -/
def weight (l : List α) : Nat := 2 * l.count backslash + l.count quote

variable (quote backslash) in
/-- What the arguments of a command line weigh, counted on the line: a backslash that stands before a quote counts half. -/
def line_weight (n : Nat) : List α → Nat
  | [] => 2 * n
  | c :: rest =>
    if c = backslash then line_weight (n + 1) rest
    else if c = quote then n + line_weight 0 rest
    else 2 * n + line_weight 0 rest

theorem weight_append (l m : List α) : weight quote backslash (l ++ m) = weight quote backslash l + weight quote backslash m := by
  simp only [weight,List.count_append]
  omega

theorem weight_backslashes (apart : backslash ≠ quote) (n : Nat) :
    weight quote backslash (List.replicate n backslash) = 2 * n := by
  rw [weight,List.count_replicate_self,List.count_replicate,if_neg (by simpa using apart),Nat.add_zero]

theorem weight_arguments (apart : backslash ≠ quote) (l : List α) (quoted : Bool) (argument : Option (List α)) (n : Nat) :
    weight quote backslash (arguments quote backslash blank quoted argument n l).flatten =
      weight quote backslash (argument.getD []) + line_weight quote backslash n l := by
  have zero : weight quote backslash ([] : List α) = 0 := rfl
  have held (argument : Option (List α)) (n : Nat) :
      weight quote backslash (pending backslash argument n).toList.flatten = weight quote backslash (argument.getD []) + 2 * n := by
    rw [pending_flatten,weight_append,weight_backslashes apart]
  induction l generalizing quoted argument n with
  | nil => rw [arguments,line_weight,held]
  | cons c rest ih =>
    rw [arguments,line_weight]
    by_cases slash : c = backslash
    · rw [if_pos slash,if_pos slash,ih]
    · rw [if_neg slash,if_neg slash]
      by_cases open_quote : c = quote
      · rw [if_pos open_quote,if_pos open_quote]
        have one : weight quote backslash [quote] = 1 := by simp [weight,apart.symm]
        split
        · rw [ih,Option.getD_some,weight_append,weight_backslashes apart]
          omega
        · rw [ih,Option.getD_some,weight_append,weight_append,weight_backslashes apart,one]
          omega
      · have light : weight quote backslash [c] = 0 := by simp [weight,slash,open_quote]
        rw [if_neg open_quote,if_neg open_quote]
        split
        · rw [List.flatten_append,weight_append,held,ih,Option.getD_none,zero]
          omega
        · rw [ih,Option.getD_some,weight_append,pending_getD,weight_append,weight_backslashes apart,light]
          omega

theorem line_weight_end (ended : Ended quote backslash blank rest) :
    line_weight quote backslash n rest = 2 * n + line_weight quote backslash 0 rest := by
  cases rest with
  | nil => rfl
  | cons c more =>
    obtain ⟨plain,open_quote,_⟩ := ended c more rfl
    rw [line_weight,line_weight,if_neg plain,if_neg open_quote,if_neg plain,if_neg open_quote]
    omega

/-- A quoted argument weighs no more than what was written, and as much if its backslashes stand for themselves. -/
theorem line_weight_escaped (apart : backslash ≠ quote) (n : Nat) :
    line_weight quote backslash n (escape quote backslash l ++ quote :: rest) ≤
        2 * n + weight quote backslash l + line_weight quote backslash 0 rest ∧
      (line_weight quote backslash n (escape quote backslash l ++ quote :: rest) =
          2 * n + weight quote backslash l + line_weight quote backslash 0 rest ↔
        Literal quote backslash (List.replicate n backslash ++ l)) := by
  induction l generalizing n with
  | nil =>
    rw [List.append_nil,literal_run_end,escape_nil,List.nil_append,line_weight,if_neg apart.symm,if_pos rfl,weight]
    simp only [List.count_nil]
    omega
  | cons c l ih =>
    rw [escape_cons]
    by_cases slash : c = backslash
    · subst slash
      have more : 2 * n + weight quote c (c :: l) = 2 * (n + 1) + weight quote c l := by
        simp only [weight,List.count_cons_self,List.count_cons_of_ne apart]
        omega
      rw [replicate_cons,if_neg apart,List.singleton_append,List.cons_append,line_weight,if_pos rfl,more]
      exact ih (n + 1)
    · rw [literal_run apart slash]
      obtain ⟨bound,exact_when⟩ := ih 0
      rw [List.replicate_zero,List.nil_append] at exact_when
      rw [← exact_when]
      by_cases open_quote : c = quote
      · subst open_quote
        have written_quote : [backslash,c] ++ escape c backslash l ++ c :: rest =
            backslash :: c :: (escape c backslash l ++ c :: rest) := rfl
        have more : weight c backslash (c :: l) = weight c backslash l + 1 := by
          simp only [weight,List.count_cons_self,List.count_cons_of_ne slash]
          omega
        rw [if_pos rfl,written_quote,line_weight,if_pos rfl,line_weight,if_neg slash,if_pos rfl,more]
        simp only [ne_eq,not_true_eq_false,or_false]
        omega
      · have same : weight quote backslash (c :: l) = weight quote backslash l := by
          rw [weight,weight,List.count_cons_of_ne slash,List.count_cons_of_ne open_quote]
        rw [if_neg open_quote,List.singleton_append,List.cons_append,line_weight,if_neg slash,if_neg open_quote,same]
        have differs : n = 0 ∨ c ≠ quote := .inr open_quote
        rw [and_iff_right differs]
        omega

/-- An argument that is not quoted weighs no more than what was written, and as much if it has no quote. -/
theorem line_weight_plain (apart : backslash ≠ quote) (ended : Ended quote backslash blank rest) (n : Nat) :
    line_weight quote backslash n (l ++ rest) ≤ 2 * n + weight quote backslash l + line_weight quote backslash 0 rest ∧
      (line_weight quote backslash n (l ++ rest) = 2 * n + weight quote backslash l + line_weight quote backslash 0 rest ↔
        quote ∉ l) := by
  induction l generalizing n with
  | nil =>
    rw [List.nil_append,line_weight_end ended]
    simp [weight]
  | cons c l ih =>
    rw [List.cons_append,line_weight,List.mem_cons,not_or]
    by_cases slash : c = backslash
    · subst slash
      have more : 2 * n + weight quote c (c :: l) = 2 * (n + 1) + weight quote c l := by
        simp only [weight,List.count_cons_self,List.count_cons_of_ne apart]
        omega
      rw [if_pos rfl,more,and_iff_right apart.symm]
      exact ih (n + 1)
    · obtain ⟨bound,exact_when⟩ := ih 0
      rw [if_neg slash]
      by_cases open_quote : c = quote
      · subst open_quote
        have more : weight c backslash (c :: l) = weight c backslash l + 1 := by
          simp only [weight,List.count_cons_self,List.count_cons_of_ne slash]
          omega
        rw [if_pos rfl,more]
        simp only [not_true_eq_false,false_and,iff_false]
        omega
      · have same : weight quote backslash (c :: l) = weight quote backslash l := by
          rw [weight,weight,List.count_cons_of_ne slash,List.count_cons_of_ne open_quote]
        rw [if_neg open_quote,same,and_iff_right (Ne.symm open_quote),← exact_when]
        omega

/-! ## Command lines -/

variable {arg : List α} {args : List (List α)}

/-- After the first argument, the others are read as if they were the whole line. -/
theorem line_cons (separates : blank sep = true) (plain : sep ≠ backslash) (open_quote : sep ≠ quote) (arg : List α)
    (args : List (List α)) : ∃ rest, line quote backslash blank sep (arg :: args) = written quote backslash blank arg ++ rest ∧
      Ended quote backslash blank rest ∧
      arguments quote backslash blank false none 0 rest =
        arguments quote backslash blank false none 0 (line quote backslash blank sep args) ∧
      line_weight quote backslash 0 rest = line_weight quote backslash 0 (line quote backslash blank sep args) := by
  cases args with
  | nil => exact ⟨[],by simp [line],ended_nil,rfl,rfl⟩
  | cons next args =>
    refine ⟨sep :: line quote backslash blank sep (next :: args),?_,?_,?_,?_⟩
    · rw [line,List.map_cons,List.intercalate_cons_of_ne_nil (by simp),List.append_assoc]
      rfl
    · rintro c more split
      cases split
      exact ⟨plain,open_quote,separates⟩
    · rw [arguments,if_neg plain,if_neg open_quote,separates]
      rfl
    · rw [line_weight,if_neg plain,if_neg open_quote]
      omega

theorem mem_line (member : c ∈ line quote backslash blank sep args) :
    c = sep ∨ c = quote ∨ c = backslash ∨ ∃ arg ∈ args, c ∈ arg := by
  rcases Words.mem_intercalate member with separator | ⟨piece,written_there,inside⟩
  · exact .inl (List.mem_singleton.mp separator)
  · obtain ⟨arg,there,rfl⟩ := List.mem_map.mp written_there
    right
    rw [written] at inside
    split at inside
    · rw [List.mem_cons,List.mem_append,List.mem_singleton,escape,List.mem_flatMap] at inside
      rcases inside with open_quote | ⟨d,member,here⟩ | closing
      · exact .inl open_quote
      · split at here
        · rw [List.mem_pair] at here
          exact here.elim (fun slash => .inr (.inl slash)) .inl
        · rw [List.mem_singleton] at here
          exact .inr (.inr ⟨arg,there,here ▸ member⟩)
      · exact .inl closing
    · exact .inr (.inr ⟨arg,there,inside⟩)

/-- What is read stands on the line. -/
theorem mem_arguments (plain : c ≠ backslash) (open_quote : c ≠ quote)
    (member : c ∈ (arguments quote backslash blank quoted argument n l).flatten) : c ∈ argument.getD [] ∨ c ∈ l := by
  have no_slash (n : Nat) : c ∉ List.replicate n backslash := fun there => plain (List.eq_of_mem_replicate there)
  have held {argument : Option (List α)} {n : Nat} (there : c ∈ (pending backslash argument n).toList.flatten) :
      c ∈ argument.getD [] := by
    rw [pending_flatten,List.mem_append] at there
    exact there.resolve_right (no_slash n)
  induction l generalizing quoted argument n with
  | nil => exact .inl (held member)
  | cons d rest ih =>
    rw [arguments] at member
    split at member
    · exact (ih member).imp_right (List.mem_cons_of_mem d)
    · split at member
      · split at member
        · have found := ih member
          simp only [Option.getD_some,List.mem_append,no_slash,or_false] at found
          exact found.imp_right (List.mem_cons_of_mem d)
        · have found := ih member
          simp only [Option.getD_some,List.mem_append,no_slash,or_false,List.mem_singleton,open_quote] at found
          exact found.imp_right (List.mem_cons_of_mem d)
      · split at member
        · rw [List.flatten_append,List.mem_append] at member
          rcases member with before | later
          · exact .inl (held before)
          · exact .inr (List.mem_cons_of_mem d ((ih later).resolve_left List.not_mem_nil))
        · have found := ih member
          rw [Option.getD_some,pending_getD] at found
          simp only [List.mem_append,no_slash,or_false,List.mem_singleton] at found
          rcases found with (before | here) | later
          · exact .inl before
          · exact .inr (List.mem_cons.mpr (.inl here))
          · exact .inr (List.mem_cons_of_mem d later)

/-- The arguments come back, but for the empty ones, where no backslash is lost and no quote. -/
theorem arguments_line (apart : backslash ≠ quote) (separates : blank sep = true) (plain : sep ≠ backslash)
    (open_quote : sep ≠ quote) (kept : ∀ arg ∈ args, Kept quote backslash blank arg) :
    arguments quote backslash blank false none 0 (line quote backslash blank sep args) = args.filter (fun arg => !arg.isEmpty) := by
  induction args with
  | nil => rfl
  | cons arg args ih =>
    obtain ⟨first,later⟩ := List.forall_mem_cons.mp kept
    obtain ⟨rest,split,ended,same,_⟩ := line_cons separates plain open_quote arg args
    rw [Kept] at first
    rw [split,written]
    split at first
    · rename_i blanks
      have some_there : arg ≠ [] := by
        rintro rfl
        cases blanks
      rw [if_pos blanks,List.cons_append,List.append_assoc,List.singleton_append,arguments,if_neg apart.symm,if_pos rfl,
        if_pos rfl,Bool.not_false,arguments_escaped (n := 0) apart first,arguments_end ended,same,ih later,
        List.filter_cons_of_pos (by simpa using some_there)]
      rfl
    · rename_i solid
      rw [if_neg solid]
      cases arg with
      | nil => rw [List.nil_append,same,ih later]; rfl
      | cons c cs =>
        rw [Bool.not_eq_true,List.any_eq_false] at solid
        rw [arguments_plain (fun _ _ => List.cons_ne_nil c cs) first (fun d member => Bool.eq_false_iff.mpr (solid d member)) ended,
          same,ih later]
        rfl

/-- What comes back weighs no more than what was written, and as much where no backslash is lost and no quote. -/
theorem line_weight_line (apart : backslash ≠ quote) (separates : blank sep = true) (plain : sep ≠ backslash)
    (open_quote : sep ≠ quote) : line_weight quote backslash 0 (line quote backslash blank sep args) ≤
        weight quote backslash args.flatten ∧
      (line_weight quote backslash 0 (line quote backslash blank sep args) = weight quote backslash args.flatten ↔
        ∀ arg ∈ args, Kept quote backslash blank arg) := by
  induction args with
  | nil => exact ⟨Nat.le_refl 0,fun _ => by simp,fun _ => rfl⟩
  | cons arg args ih =>
    obtain ⟨rest,split,ended,_,same⟩ := line_cons separates plain open_quote arg args
    have first : line_weight quote backslash 0 (written quote backslash blank arg ++ rest) ≤
          weight quote backslash arg + line_weight quote backslash 0 rest ∧
        (line_weight quote backslash 0 (written quote backslash blank arg ++ rest) =
          weight quote backslash arg + line_weight quote backslash 0 rest ↔ Kept quote backslash blank arg) := by
      rw [written,Kept]
      split
      · obtain ⟨bound,exact_when⟩ : _ ∧ (_ ↔ Literal quote backslash (List.replicate 0 backslash ++ arg)) :=
          line_weight_escaped apart 0
        rw [Nat.mul_zero,Nat.zero_add] at bound exact_when
        rw [List.cons_append,List.append_assoc,List.singleton_append,line_weight,if_neg apart.symm,if_pos rfl,Nat.zero_add]
        exact ⟨bound,exact_when⟩
      · obtain ⟨bound,exact_when⟩ := line_weight_plain (l := arg) apart ended 0
        rw [Nat.mul_zero,Nat.zero_add] at bound exact_when
        exact ⟨bound,exact_when⟩
    obtain ⟨bound,exact_when⟩ := ih
    obtain ⟨first_bound,first_exact⟩ := first
    rw [List.forall_mem_cons,← first_exact,← exact_when,split,List.flatten_cons,weight_append]
    omega

/-- Where what comes back weighs as much as what was written, no backslash was lost and no quote. -/
theorem arguments_kept (apart : backslash ≠ quote) (separates : blank sep = true) (plain : sep ≠ backslash)
    (open_quote : sep ≠ quote)
    (same : weight quote backslash
      (arguments quote backslash blank false none 0 (line quote backslash blank sep args)).flatten =
        weight quote backslash args.flatten) : ∀ arg ∈ args, Kept quote backslash blank arg := by
  have nothing : weight quote backslash ([] : List α) = 0 := rfl
  rw [weight_arguments apart,Option.getD_none,nothing,Nat.zero_add] at same
  exact (line_weight_line apart separates plain open_quote).2.mp same

end CommandLines
