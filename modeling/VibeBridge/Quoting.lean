import Mathlib.Data.List.Flatten
import VibeBridge.CommandLines

/-!
Arguments that are quoted for any runtime: inside quotes, the backslashes before a
quote and at the end are doubled, and a quote gets one more. The runtimes of today
read a command line as the older ones do, but take two quotes where one is open for
a character. What is quoted so is read as it was given, whatever its characters
are (`arguments_enclosed`), but for the name of the program, which has an end at the
first quote and no escapes.
-/
namespace Quoting
open CommandLines
universe u
variable {α : Type u} [DecidableEq α] (quote backslash : α) (blank : α → Bool)

/-- An argument between its quotes, with the backslashes that are not written yet. -/
def body : List α → Nat → List α
  | [], n => List.replicate (n * 2) backslash
  | c :: rest, n =>
    if c = backslash then body rest (n + 1)
    else if c = quote then List.replicate (n * 2 + 1) backslash ++ quote :: body rest 0
    else List.replicate n backslash ++ c :: body rest 0

def enclosed (l : List α) : List α := quote :: (body quote backslash l 0 ++ [quote])

/-- The name of the program, and the line after it. -/
def program : Bool → List α → List α × List α
  | _, [] => ([],[])
  | quoted, c :: rest =>
    if c = quote then program (!quoted) rest
    else if blank c && !quoted then ([],rest)
    else Prod.map (c :: ·) id (program quoted rest)

/-- The arguments after the name of the program. One that has just been closed goes on if a quote follows. -/
def arguments (quoted closed : Bool) (argument : Option (List α)) (n : Nat) : List α → List (List α)
  | [] => (pending backslash argument n).toList
  | c :: rest =>
    if c = backslash then arguments quoted false argument (n + 1) rest
    else if c = quote then
      let read := argument.getD [] ++ List.replicate (n / 2) backslash
      if n % 2 = 1 ∨ closed then arguments (quoted || closed) false (some (read ++ [quote])) 0 rest
      else arguments (!quoted) quoted (some read) 0 rest
    else if blank c && !quoted then (pending backslash argument n).toList ++ arguments false false none 0 rest
    else arguments quoted false (some ((pending backslash argument n).getD [] ++ [c])) 0 rest

/-- The arguments of what is left of a line, between two of them. -/
def remaining (rest : List α) : List (List α) := arguments quote backslash blank false false none 0 rest

/-- However the line goes on after it, the piece is read as the argument. -/
def Reads (piece arg : List α) : Prop := ∀ rest, Ended quote backslash blank rest →
  remaining quote backslash blank (piece ++ rest) = arg :: remaining quote backslash blank rest

variable {quote backslash blank} {quoted closed : Bool} {argument : Option (List α)} {n : Nat} {l rest : List α} {c sep : α}

/-! ## Steps -/

theorem arguments_run (m : Nat) : arguments quote backslash blank quoted false argument n (List.replicate m backslash ++ rest) =
    arguments quote backslash blank quoted false argument (n + m) rest := by
  induction m generalizing n with
  | zero => rfl
  | succ m ih => rw [List.replicate_succ,List.cons_append,arguments,if_pos rfl,ih,Nat.add_right_comm,Nat.add_assoc]

theorem arguments_next (plain : c ≠ backslash) (unquoted : c ≠ quote) (joins : (blank c && !quoted) = false) :
    arguments quote backslash blank quoted closed argument n (c :: rest) =
      arguments quote backslash blank quoted false (some ((pending backslash argument n).getD [] ++ [c])) 0 rest := by
  rw [arguments,if_neg plain,if_neg unquoted,joins,if_neg Bool.false_ne_true]

theorem arguments_escape (apart : backslash ≠ quote) (odd : n % 2 = 1) :
    arguments quote backslash blank quoted false argument n (quote :: rest) =
      arguments quote backslash blank quoted false (some (argument.getD [] ++ List.replicate (n / 2) backslash ++ [quote])) 0 rest := by
  rw [arguments,if_neg apart.symm,if_pos rfl,if_pos (.inl odd),Bool.or_false]

theorem arguments_toggle (apart : backslash ≠ quote) (even : n % 2 = 0) :
    arguments quote backslash blank quoted false argument n (quote :: rest) =
      arguments quote backslash blank (!quoted) quoted (some (argument.getD [] ++ List.replicate (n / 2) backslash)) 0 rest := by
  have single : ¬ (n % 2 = 1 ∨ false = true) := by
    rintro (odd | again)
    · omega
    · cases again
  rw [arguments,if_neg apart.symm,if_pos rfl,if_neg single]

theorem arguments_over (ended : Ended quote backslash blank rest) :
    arguments quote backslash blank false closed (some l) 0 rest = l :: remaining quote backslash blank rest := by
  cases rest with
  | nil => rfl
  | cons d more =>
    obtain ⟨plain,unquoted,separates⟩ := ended d more rfl
    rw [remaining,arguments,if_neg plain,if_neg unquoted,separates,arguments,if_neg plain,if_neg unquoted,separates]
    rfl

theorem remaining_blank (plain : sep ≠ backslash) (unquoted : sep ≠ quote) (separates : blank sep = true) (rest : List α) :
    remaining quote backslash blank (sep :: rest) = remaining quote backslash blank rest := by
  rw [remaining,arguments,if_neg plain,if_neg unquoted,separates]
  rfl

/-! ## What is quoted -/

/-- The rest of an argument, from the backslashes on that are not written yet. -/
theorem arguments_body (apart : backslash ≠ quote) (ended : Ended quote backslash blank rest) (read l : List α) (n : Nat) :
    arguments quote backslash blank true false (some read) 0 (body quote backslash l n ++ quote :: rest) =
      (read ++ List.replicate n backslash ++ l) :: remaining quote backslash blank rest := by
  induction l generalizing read n with
  | nil =>
    rw [body,arguments_run,Nat.zero_add,arguments_toggle apart (by omega),Bool.not_true,arguments_over ended,List.append_nil,
      Option.getD_some,Nat.mul_div_cancel n (by decide)]
  | cons c l ih =>
    rw [body]
    by_cases slash : c = backslash
    · subst slash
      rw [if_pos rfl,ih,List.append_assoc,← replicate_cons,← List.append_assoc]
    · rw [if_neg slash]
      by_cases open_quote : c = quote
      · subst open_quote
        have half : (0 + (n * 2 + 1)) / 2 = n := by omega
        rw [if_pos rfl,List.append_assoc,arguments_run,List.cons_append,arguments_escape apart (by omega),half,ih]
        simp
      · have inside : (blank c && !true) = false := Bool.and_false _
        have held : (pending backslash (some read) (0 + n)).getD [] = read ++ List.replicate n backslash := by
          rw [Nat.zero_add,pending_getD]
          rfl
        rw [if_neg open_quote,List.append_assoc,arguments_run,List.cons_append,arguments_next slash open_quote inside,held,ih]
        simp

/-- A quoted argument is read as it was given, whatever stands in it. -/
theorem arguments_enclosed (apart : backslash ≠ quote) (l : List α) :
    Reads quote backslash blank (enclosed quote backslash l) l := by
  intro rest ended
  rw [enclosed,List.cons_append,List.append_assoc,List.singleton_append,remaining,arguments_toggle apart rfl]
  exact arguments_body apart ended [] l 0

/-- An argument without blanks, quotes and backslashes stands for itself. -/
theorem arguments_plain (some_there : l ≠ []) (plain : ∀ c ∈ l, c ≠ backslash ∧ c ≠ quote ∧ blank c = false) :
    Reads quote backslash blank l l := by
  have from_there (l : List α) (plain : ∀ c ∈ l, c ≠ backslash ∧ c ≠ quote ∧ blank c = false) (read rest : List α) :
      arguments quote backslash blank false false (some read) 0 (l ++ rest) =
        arguments quote backslash blank false false (some (read ++ l)) 0 rest := by
    induction l generalizing read with
    | nil => rw [List.append_nil,List.nil_append]
    | cons c l ih =>
      obtain ⟨⟨slash,open_quote,joins⟩,later⟩ := List.forall_mem_cons.mp plain
      rw [List.cons_append,arguments_next slash open_quote (by rw [joins,Bool.false_and])]
      change arguments quote backslash blank false false (some (read ++ [c])) 0 (l ++ rest) = _
      rw [ih later,List.append_assoc,List.singleton_append]
  intro rest ended
  cases l with
  | nil => exact absurd rfl some_there
  | cons c l =>
    obtain ⟨⟨slash,open_quote,joins⟩,later⟩ := List.forall_mem_cons.mp plain
    rw [List.cons_append,remaining,arguments_next slash open_quote (by rw [joins,Bool.false_and])]
    change arguments quote backslash blank false false (some [c]) 0 (l ++ rest) = _
    exact (from_there l later [c] rest).trans (arguments_over ended)

/-- Pieces with separators between them are read one by one. -/
theorem remaining_pieces (plain : sep ≠ backslash) (unquoted : sep ≠ quote) (separates : blank sep = true)
    {pieces args : List (List α)} (reads : List.Forall₂ (Reads quote backslash blank) pieces args)
    (ended : Ended quote backslash blank rest) :
    remaining quote backslash blank ([sep].intercalate pieces ++ rest) = args ++ remaining quote backslash blank rest := by
  induction reads with
  | nil => rfl
  | @cons piece arg pieces args first later ih =>
    cases pieces with
    | nil =>
      cases later
      have single : [sep].intercalate [piece] = piece := by simp
      rw [single,first rest ended]
      rfl
    | cons next pieces =>
      have goes_on : Ended quote backslash blank (sep :: ([sep].intercalate (next :: pieces) ++ rest)) := by
        rintro c more same
        cases same
        exact ⟨plain,unquoted,separates⟩
      rw [List.intercalate_cons_of_ne_nil (by simp),List.append_assoc,List.append_assoc,List.singleton_append,
        first _ goes_on,remaining_blank plain unquoted separates,ih]
      rfl

/-! ## The name of the program -/

theorem program_quoted (free : quote ∉ l) (rest : List α) :
    program quote blank true (l ++ quote :: rest) = Prod.map (l ++ ·) id (program quote blank false rest) := by
  induction l with
  | nil => rw [List.nil_append,program,if_pos rfl]; rfl
  | cons c l ih =>
    obtain ⟨other,later⟩ := not_or.mp (List.mem_cons.not.mp free)
    rw [List.cons_append,program,if_neg (Ne.symm other),Bool.not_true,Bool.and_false,if_neg Bool.false_ne_true,ih later]
    rfl

theorem program_plain (plain : ∀ c ∈ l, c ≠ quote ∧ blank c = false) (rest : List α) :
    program quote blank false (l ++ rest) = Prod.map (l ++ ·) id (program quote blank false rest) := by
  induction l with
  | nil => rfl
  | cons c l ih =>
    obtain ⟨⟨open_quote,joins⟩,later⟩ := List.forall_mem_cons.mp plain
    rw [List.cons_append,program,if_neg open_quote,joins,Bool.false_and,if_neg Bool.false_ne_true,ih later]
    rfl

theorem program_blank (unquoted : sep ≠ quote) (separates : blank sep = true) (rest : List α) :
    program quote blank false (sep :: rest) = ([],rest) := by
  rw [program,if_neg unquoted,separates]
  rfl

/-- Without quotes, only the backslashes at the end are doubled. -/
theorem body_plain (free : quote ∉ l) (n : Nat) :
    ∃ m, body quote backslash l n = List.replicate n backslash ++ l ++ List.replicate m backslash ∧
      ((List.replicate n backslash ++ l).getLast? ≠ some backslash → m = 0) := by
  induction l generalizing n with
  | nil =>
    refine ⟨n,?_,?_⟩
    · rw [body,List.append_nil,← List.replicate_add,Nat.mul_two]
    · cases n with
      | zero => exact fun _ => rfl
      | succ n =>
        intro other
        rw [List.append_nil,List.replicate_succ',List.getLast?_concat] at other
        exact absurd rfl other
  | cons c l ih =>
    obtain ⟨other,later⟩ := not_or.mp (List.mem_cons.not.mp free)
    rw [body]
    by_cases slash : c = backslash
    · subst slash
      rw [if_pos rfl,replicate_cons]
      exact ih later (n + 1)
    · obtain ⟨m,split,last⟩ := ih later 0
      rw [List.replicate_zero,List.nil_append] at split last
      rw [if_neg slash,if_neg (Ne.symm other),split]
      refine ⟨m,by simp,?_⟩
      intro differs
      apply last
      cases l with
      | nil => simp
      | cons d l =>
        rw [List.getLast?_append_of_ne_nil _ (List.cons_ne_nil c (d :: l)),List.getLast?_cons_cons] at differs
        exact differs

/-- The name of a program is read as it was quoted, if it has no quote and no backslash at its end. -/
theorem program_enclosed (unquoted : sep ≠ quote) (separates : blank sep = true) (apart : backslash ≠ quote) (free : quote ∉ l)
    (rest : List α) : (program quote blank false (enclosed quote backslash l ++ sep :: rest)).2 = rest ∧
      (l.getLast? ≠ some backslash → (program quote blank false (enclosed quote backslash l ++ sep :: rest)).1 = l) := by
  obtain ⟨m,split,last⟩ : ∃ m, body quote backslash l 0 = l ++ List.replicate m backslash ∧
      (l.getLast? ≠ some backslash → m = 0) := body_plain free 0
  have no_quote : quote ∉ l ++ List.replicate m backslash := by
    rw [List.mem_append,not_or]
    exact ⟨free,fun there => apart (List.eq_of_mem_replicate there).symm⟩
  have whole : program quote blank false (enclosed quote backslash l ++ sep :: rest) = (l ++ List.replicate m backslash,rest) := by
    rw [enclosed,List.cons_append,program,if_pos rfl,Bool.not_false,List.append_assoc,List.singleton_append,split,
      program_quoted no_quote,program_blank unquoted separates]
    simp
  rw [whole]
  refine ⟨rfl,fun differs => ?_⟩
  rw [last differs,List.replicate_zero,List.append_nil]

end Quoting
