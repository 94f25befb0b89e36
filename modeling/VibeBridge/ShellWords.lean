import Mathlib.Data.List.Count

/-!
Texts that are quoted for a shell. In the first kind of shell, everything stands for
itself between single quotes, so a single quote is written between double ones. In
the second kind, a quote is written twice; where the shell knows several
characters for a quote and only one of them is doubled, a text comes back exactly
if it has none of the others (`verbatim_doubled_iff`).
-/
namespace ShellWords
universe u
variable {α : Type u}

/-! ## Words -/

section
variable [DecidableEq α] (single double : α) (ends expands : α → Bool)

inductive Place
  | bare | single | double

/-- The word that a text begins with, and what comes after it; a word with anything that the shell expands is none. -/
def word : Place → List α → Option (List α × List α)
  | .bare, [] => some ([],[])
  | .single, [] => none
  | .double, [] => none
  | .bare, c :: rest =>
    if ends c then some ([],c :: rest)
    else if c = single then word .single rest
    else if c = double then word .double rest
    else if expands c then none
    else (word .bare rest).map (Prod.map (c :: ·) id)
  | .single, c :: rest =>
    if c = single then word .bare rest
    else (word .single rest).map (Prod.map (c :: ·) id)
  | .double, c :: rest =>
    if c = double then word .bare rest
    else if expands c then none
    else (word .double rest).map (Prod.map (c :: ·) id)

/-- A text between single quotes, but for its own, which are between double ones. -/
def quoted (l : List α) : List α :=
  single :: (l.flatMap (fun c => if c = single then [single,double,single,double,single] else [c]) ++ [single])

variable {single double ends expands} {l rest : List α}

/-- A quoted text is one word, whatever it is. -/
theorem word_quoted (apart : single ≠ double) (plain : expands single = false) (goes_on : ends single = false ∧ ends double = false)
    (ended : ∀ c more, rest = c :: more → ends c = true) :
    word single double ends expands .bare (quoted single double l ++ rest) = some (l,rest) := by
  have after : word single double ends expands .bare rest = some ([],rest) := by
    cases rest with
    | nil => rfl
    | cons c more => rw [word,ended c more rfl,if_pos rfl]
  have inside (l : List α) : word single double ends expands .single
      (l.flatMap (fun c => if c = single then [single,double,single,double,single] else [c]) ++ single :: rest) = some (l,rest) := by
    induction l with
    | nil => rw [List.flatMap_nil,List.nil_append,word,if_pos rfl,after]
    | cons c l ih =>
      rw [List.flatMap_cons,List.append_assoc]
      by_cases quote : c = single
      · -- the quotes are left for double ones, and entered again
        subst quote
        rw [if_pos rfl]
        change word c double ends expands .single (c :: double :: c :: double :: c :: (_ ++ c :: rest)) = _
        rw [word,if_pos rfl,word,goes_on.2,if_neg Bool.false_ne_true,if_neg apart.symm,if_pos rfl,word,if_neg apart,plain,
          if_neg Bool.false_ne_true,word,if_pos rfl,word,goes_on.1,if_neg Bool.false_ne_true,if_pos rfl,ih]
        rfl
      · rw [if_neg quote,List.singleton_append,word,if_neg quote,ih]
        rfl
  rw [quoted,List.cons_append,List.append_assoc,List.singleton_append,word,goes_on.1,if_neg Bool.false_ne_true,if_pos rfl,inside]

end

/-! ## Verbatim texts -/

section
variable (quotes : α → Bool)

/-- The text up to the quote that closes it, and what comes after it: two quotes stand for the second of them. -/
def verbatim : List α → Option (List α × List α)
  | [] => none
  | [c] => if quotes c then some ([],[]) else none
  | c :: d :: rest =>
    if quotes c then
      if quotes d then (verbatim rest).map (Prod.map (d :: ·) id) else some ([],d :: rest)
    else (verbatim (d :: rest)).map (Prod.map (c :: ·) id)

/-- A text in which one of the quotes is doubled. -/
def doubled [DecidableEq α] (quote : α) (l : List α) : List α := l.flatMap (fun c => if c = quote then [c,c] else [c])

variable {quotes} {l rest : List α} {c : α}

theorem verbatim_close (closes : quotes c = true) (ended : ∀ d more, rest = d :: more → quotes d = false) :
    verbatim quotes (c :: rest) = some ([],rest) := by
  cases rest with
  | nil => rw [verbatim,closes,if_pos rfl]
  | cons d more => rw [verbatim,closes,if_pos rfl,ended d more rfl,if_neg Bool.false_ne_true]

theorem verbatim_plain (plain : quotes c = false) : verbatim quotes (c :: l) = (verbatim quotes l).map (Prod.map (c :: ·) id) := by
  cases l with
  | nil =>
    change (if quotes c then some ([],[]) else none) = none
    rw [plain,if_neg Bool.false_ne_true]
  | cons d rest => rw [verbatim,plain,if_neg Bool.false_ne_true]

theorem verbatim_pair {d : α} (first : quotes c = true) (second : quotes d = true) :
    verbatim quotes (c :: d :: l) = (verbatim quotes l).map (Prod.map (d :: ·) id) := by
  rw [verbatim,first,if_pos rfl,second,if_pos rfl]

/-- What is read takes its own length, once more for each quote, and the quote that closes it. -/
theorem verbatim_length {l read rest : List α} (found : verbatim quotes l = some (read,rest)) :
    l.length = read.length + read.countP quotes + 1 + rest.length := by
  fun_induction verbatim quotes l generalizing read rest with
  | case1 => cases found
  | case2 c closes =>
    cases found
    rfl
  | case3 c plain => cases found
  | case4 c d more first second ih =>
    obtain ⟨⟨read',rest'⟩,later,same⟩ := Option.map_eq_some_iff.mp found
    cases same
    rw [List.length_cons,List.length_cons,ih later,List.countP_cons_of_pos second]
    simp only [List.length_cons,id_eq]
    omega
  | case5 c d more first single =>
    cases found
    simp only [List.length_cons,List.length_nil,List.countP_nil]
    omega
  | case6 c d more plain ih =>
    obtain ⟨⟨read',rest'⟩,later,same⟩ := Option.map_eq_some_iff.mp found
    cases same
    rw [List.length_cons,ih later,List.countP_cons_of_neg plain]
    simp only [List.length_cons,id_eq]
    omega

variable [DecidableEq α] {quote : α}

theorem doubled_length (quote : α) (l : List α) : (doubled quote l).length = l.length + l.count quote := by
  induction l with
  | nil => rfl
  | cons c l ih =>
    rw [doubled] at ih
    rw [doubled,List.flatMap_cons,List.length_append,ih,List.count_cons,List.length_cons]
    split <;> simp_all <;> omega

/-- A text comes back exactly if the quote that is doubled is the only one that it has. -/
theorem verbatim_doubled_iff (closes : quotes quote = true) (ended : ∀ d more, rest = d :: more → quotes d = false) :
    verbatim quotes (doubled quote l ++ quote :: rest) = some (l,rest) ↔ ∀ c ∈ l, quotes c = true → c = quote := by
  constructor
  · intro found c member is_quote
    have length := verbatim_length found
    rw [List.length_append,doubled_length,List.length_cons] at length
    -- every quote that is read takes two characters, and only one of them is written twice
    have same : l.count quote = l.countP quotes := by omega
    by_contra other
    have fewer : (l.filter quotes).countP (· == quote) < (l.filter quotes).length := by
      refine Nat.lt_of_le_of_ne List.countP_le_length ?_
      intro all
      have only := List.countP_eq_length.mp all c (List.mem_filter.mpr ⟨member,is_quote⟩)
      exact other (by simpa using only)
    have counted : (l.filter quotes).countP (· == quote) = l.count quote := by
      rw [List.countP_filter,List.count]
      refine List.countP_congr ?_
      intro d _
      rw [Bool.and_eq_true,beq_iff_eq]
      exact ⟨And.left,fun equal => ⟨equal,equal ▸ closes⟩⟩
    rw [counted,← List.countP_eq_length_filter] at fewer
    omega
  · intro only
    induction l with
    | nil => exact verbatim_close closes ended
    | cons c l ih =>
      obtain ⟨first,later⟩ := List.forall_mem_cons.mp only
      rw [doubled] at ih
      rw [doubled,List.flatMap_cons,List.append_assoc]
      by_cases equal : c = quote
      · subst equal
        rw [if_pos rfl,List.cons_append,List.singleton_append,verbatim_pair closes closes,ih later]
        rfl
      · have plain : quotes c = false := Bool.eq_false_iff.mpr (fun is_quote => equal (first is_quote))
        rw [if_neg equal,List.singleton_append,verbatim_plain plain,ih later]
        rfl

end

end ShellWords
