import Mathlib.Data.List.Basic

/-!
Arguments that begin with options. An option sets something, or takes the argument
after it; after a separator, or from the first argument on that is no option, the
arguments are left as they are. What is written option by option is read option
by option (`Reads.append`), and nothing after the separator is taken for an option
(`Reads.rest`).
-/
namespace Options
universe u v w
variable {σ : Type u} {ε : Type v} {α : Type w}

/-- What an option does: it sets, or takes the argument after it, with what is said where there is none. -/
inductive Effect (σ : Type u) (ε : Type v) (α : Type w)
  | sets (s : σ)
  | takes (missing : ε) (read : α → Except ε σ)

structure Parser (σ : Type u) (ε : Type v) (α : Type w) where
  separator : α
  option : σ → α → Option (Effect σ ε α)
  /-- What is said of an argument that would be an option. -/
  refused : α → Option ε

variable [DecidableEq α]

/-- What the options set, and the arguments that are left. -/
def parse (p : Parser σ ε α) : σ → List α → Except ε (σ × List α)
  | s, [] => .ok (s,[])
  | s, arg :: rest =>
    if arg = p.separator then .ok (s,rest)
    else match p.option s arg with
      | some (.sets next) => parse p next rest
      | some (.takes missing read) =>
        match rest with
        | [] => .error missing
        | value :: rest =>
          match read value with
          | .ok next => parse p next rest
          | .error err => .error err
      | none =>
        match p.refused arg with
        | some err => .error err
        | none => .ok (s,arg :: rest)

/-- The arguments are options, and this is what they set, whatever comes after them. -/
def Reads (p : Parser σ ε α) (s : σ) (args : List α) (t : σ) : Prop := ∀ rest, parse p s (args ++ rest) = parse p t rest

variable {p : Parser σ ε α} {s t next : σ} {args more : List α} {arg value : α} {missing err : ε} {read : α → Except ε σ}

theorem Reads.nil (s : σ) : Reads p s [] s := fun _ => rfl

theorem Reads.append (first : Reads p s args t) (later : Reads p t more next) : Reads p s (args ++ more) next := by
  intro rest
  rw [List.append_assoc,first,later]

theorem Reads.sets (apart : arg ≠ p.separator) (option : p.option s arg = some (.sets next)) : Reads p s [arg] next := by
  intro rest
  rw [List.singleton_append,parse,if_neg apart,option]

theorem Reads.takes (apart : arg ≠ p.separator) (option : p.option s arg = some (.takes missing read))
    (accepted : read value = .ok next) : Reads p s [arg,value] next := by
  intro rest
  rw [List.cons_append,List.singleton_append,parse,if_neg apart,option]
  dsimp only
  rw [accepted]

/-- What comes after the separator is left, be it an option or not. -/
theorem Reads.rest (reads : Reads p s args t) (more : List α) : parse p s (args ++ p.separator :: more) = .ok (t,more) := by
  rw [reads,parse,if_pos rfl]

/-- The arguments of an option are missing at the end. -/
theorem Reads.lacks (reads : Reads p s args t) (apart : arg ≠ p.separator)
    (option : p.option t arg = some (.takes missing read)) : parse p s (args ++ [arg]) = .error missing := by
  rw [reads,parse,if_neg apart,option]

/-- Nothing is left but what options and their arguments end with. -/
theorem Reads.end (reads : Reads p s args t) : parse p s args = .ok (t,[]) := by
  have whole := reads []
  rw [List.append_nil] at whole
  rw [whole,parse]

end Options
