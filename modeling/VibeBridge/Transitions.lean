import VibeBridge.Suffixes

/-!
Labelled transition systems whose runs keep every move they make: the state
before it, the input, the state after it and the output. A path grows at its
end, so an induction over it follows the history, and it splits at any of its
moves (`path_split`). An invariant is carried along a path by the moves
(`path_invariant`), and then holds before each of them (`path_moves`). What
holds of every move and the moves before it holds `Throughout`.
-/
namespace Transitions
universe u v w
variable {σ : Type u} {ε : Type v} {ρ : Type w}

/-- One move: the system in `pre` took `input`, answered `output` and is in `post`. -/
structure Move (σ : Type u) (ε : Type v) (ρ : Type w) where
  pre : σ
  input : ε
  post : σ
  output : ρ

/-- A system is the set of moves that it can make. -/
abbrev System (σ : Type u) (ε : Type v) (ρ : Type w) := Move σ ε ρ → Prop

/-- The moves of a path lead from one state to another, each starting where the
    last one ended. -/
inductive Path (M : System σ ε ρ) (s : σ) : List (Move σ ε ρ) → σ → Prop
  | refl : Path M s [] s
  | next {ms : List (Move σ ε ρ)} {m : Move σ ε ρ} (before : Path M s ms m.pre) (move : M m) :
      Path M s (ms ++ [m]) m.post

variable {M : System σ ε ρ} {s t u : σ} {ms ns : List (Move σ ε ρ)}

theorem path_nil (path : Path M s [] t) : t = s := by
  generalize shape : ([] : List (Move σ ε ρ)) = moves at path
  cases path with
  | refl => rfl
  | next before move => simp at shape

theorem path_append (first : Path M s ms t) (second : Path M t ns u) : Path M s (ms ++ ns) u := by
  induction second with
  | refl => simpa using first
  | next before move ih => rw [← List.append_assoc]; exact .next ih move

theorem path_one {m : Move σ ε ρ} (move : M m) : Path M m.pre [m] m.post := by
  have single := Path.next (s := m.pre) .refl move
  simpa using single

theorem path_cons {m : Move σ ε ρ} (move : M m) (rest : Path M m.post ms t) : Path M m.pre (m :: ms) t :=
  path_append (path_one move) rest

/-- A path of two parts passes through a state between them. -/
theorem path_middle (path : Path M s (ms ++ ns) t) : ∃ u, Path M s ms u ∧ Path M u ns t := by
  generalize whole : ms ++ ns = moves at path
  induction path generalizing ns with
  | refl =>
    obtain ⟨rfl,rfl⟩ := List.append_eq_nil_iff.mp whole
    exact ⟨s,.refl,.refl⟩
  | @next ks m before move ih =>
    rcases ns.eq_nil_or_concat with rfl | ⟨front,last,rfl⟩
    · rw [List.append_nil] at whole
      subst whole
      exact ⟨m.post,.next before move,.refl⟩
    · rw [List.concat_eq_append,← List.append_assoc] at whole
      obtain ⟨same,ends⟩ := List.append_inj' whole rfl
      obtain ⟨u,left,right⟩ := ih same
      cases ends
      exact ⟨u,left,by rw [List.concat_eq_append]; exact .next right move⟩

/-- A path through a move leads to it, makes it and goes on from it. -/
theorem path_split {m : Move σ ε ρ} (path : Path M s (ms ++ m :: ns) t) :
    Path M s ms m.pre ∧ M m ∧ Path M m.post ns t := by
  obtain ⟨u,left,right⟩ := path_middle path
  obtain ⟨v,single,rest⟩ := path_middle (show Path M u ([m] ++ ns) t from right)
  generalize shape : [m] = moves at single
  cases single with
  | refl => simp at shape
  | @next ks m' before move =>
    obtain ⟨same,ends⟩ := List.append_inj' (show [] ++ [m] = ks ++ [m'] from shape) rfl
    cases ends
    subst same
    have start := path_nil before
    rw [start]
    exact ⟨left,move,rest⟩

/-- What every move of the system preserves holds at the end of every path. -/
theorem path_invariant {P : σ → Prop} (kept : ∀ m, M m → P m.pre → P m.post) (path : Path M s ms t)
    (initial : P s) : P t := by
  induction path with
  | refl => exact initial
  | next before move ih => exact kept _ move ih

/-- Along a path, every move is one of the system and starts where the invariant holds. -/
theorem path_moves {P : σ → Prop} (kept : ∀ m, M m → P m.pre → P m.post) (path : Path M s ms t)
    (initial : P s) : ∀ m ∈ ms, M m ∧ P m.pre := by
  intro m member
  obtain ⟨before,after,rfl⟩ := List.append_of_mem member
  obtain ⟨left,move,_⟩ := path_split path
  exact ⟨move,path_invariant kept left initial⟩

/-- What holds at the start of a path and after each of its moves holds before each of them and at its end. -/
theorem path_linked (P : σ → Prop) (path : Path M s ms t) (start : P s) (kept : ∀ m ∈ ms, P m.post) :
    P t ∧ ∀ m ∈ ms, P m.pre := by
  induction path with
  | refl => exact ⟨start,by simp⟩
  | @next ms m before move ih =>
    obtain ⟨last,earlier⟩ := ih (fun m' member => kept m' (List.mem_append_left _ member))
    refine ⟨kept m (by simp),?_⟩
    intro m' member
    rcases List.mem_append.mp member with old | new
    · exact earlier m' old
    · rw [List.mem_singleton.mp new]
      exact last

/-- A path whose moves all satisfy a condition is one of the system that has this condition. -/
theorem path_restrict {C : Move σ ε ρ → Prop} (path : Path M s ms t) (allowed : ∀ m ∈ ms, C m) :
    Path (fun m => M m ∧ C m) s ms t := by
  induction path with
  | refl => exact .refl
  | next before move ih =>
    refine .next (ih ?_) ⟨move,allowed _ (by simp)⟩
    intro m member
    exact allowed m (List.mem_append_left _ member)

/-! ### What holds at every move -/

/-- At every move of the history the property holds of the moves before it and of itself. -/
def Throughout (Q : List (Move σ ε ρ) → Move σ ε ρ → Prop) (ms : List (Move σ ε ρ)) : Prop :=
  ∀ before m after, ms = before ++ m :: after → Q before m

variable {Q C : List (Move σ ε ρ) → Move σ ε ρ → Prop}

theorem throughout_nil : Throughout Q [] := by
  intro before m after whole
  simp at whole

theorem throughout_snoc {m : Move σ ε ρ} : Throughout Q (ms ++ [m]) ↔ Throughout Q ms ∧ Q ms m :=
  Suffixes.everywhere_snoc

/-- The moves before the one at a place are those that the history has up to there. -/
theorem throughout_take : Throughout Q ms ↔ ∀ i, ∀ inside : i < ms.length, Q (ms.take i) (ms.get ⟨i,inside⟩) := by
  constructor
  · intro all i inside
    refine all (ms.take i) _ (ms.drop (i + 1)) ?_
    rw [List.get_eq_getElem,← List.drop_eq_getElem_cons inside,List.take_append_drop]
  · rintro all before m after rfl
    have here := all before.length (by simp)
    simpa using here

/-- A property of the moves alone holds throughout when it holds of each of them. -/
theorem throughout_mem {q : Move σ ε ρ → Prop} : Throughout (fun _ => q) ms ↔ ∀ m ∈ ms, q m := by
  constructor
  · intro all m member
    obtain ⟨before,after,rfl⟩ := List.append_of_mem member
    exact all before m after rfl
  · rintro all before m after rfl
    exact all m (by simp)

/-- Where a state is good, the property holds of a move exactly under the
    condition, and under the condition the next state is good again. Then it holds
    throughout a path exactly when the condition does. -/
theorem throughout_iff {P : List (Move σ ε ρ) → σ → Prop}
    (same : ∀ ms m, M m → P ms m.pre → (Q ms m ↔ C ms m))
    (kept : ∀ ms m, M m → P ms m.pre → C ms m → P (ms ++ [m]) m.post)
    (path : Path M s ms t) (initial : P [] s) : Throughout Q ms ↔ Throughout C ms := by
  have both : (Throughout Q ms ↔ Throughout C ms) ∧ (Throughout C ms → P ms t) := by
    induction path with
    | refl => exact ⟨⟨fun _ => throughout_nil,fun _ => throughout_nil⟩,fun _ => initial⟩
    | @next ks m before move ih =>
      obtain ⟨iff,good⟩ := ih
      rw [throughout_snoc,throughout_snoc,iff]
      refine ⟨and_congr_right (fun condition => same ks m move (good condition)),?_⟩
      rintro ⟨condition,last⟩
      exact kept ks m move (good condition) last
  exact both.1

/-! ### Systems given by a function -/

/-- The moves of a function on a list of inputs. -/
def moves (step : σ → ε → σ × ρ) : σ → List ε → List (Move σ ε ρ)
  | _, [] => []
  | s, e :: es => ⟨s,e,(step s e).1,(step s e).2⟩ :: moves step (step s e).1 es

/-- The state after a list of inputs. -/
def finish (step : σ → ε → σ × ρ) : σ → List ε → σ
  | s, [] => s
  | s, e :: es => finish step (step s e).1 es

theorem moves_path {step : σ → ε → σ × ρ} : ∀ (s : σ) (es : List ε), (∀ m ∈ moves step s es, M m) →
    Path M s (moves step s es) (finish step s es)
  | _, [], _ => .refl
  | s, e :: es, moved => path_cons (moved ⟨s,e,(step s e).1,(step s e).2⟩ (by simp [moves]))
      (moves_path (step s e).1 es (fun m member => moved m (by simp [moves,member])))

theorem moves_append (step : σ → ε → σ × ρ) (s : σ) (es es' : List ε) :
    moves step s (es ++ es') = moves step s es ++ moves step (finish step s es) es' := by
  induction es generalizing s with
  | nil => rfl
  | cons e rest ih => simp [moves,finish,ih]

/-- Every move of a function is one that the function makes. -/
theorem moves_step {step : σ → ε → σ × ρ} {s : σ} {es : List ε} {m : Move σ ε ρ} (member : m ∈ moves step s es) :
    step m.pre m.input = (m.post,m.output) := by
  induction es generalizing s with
  | nil => cases member
  | cons e rest ih =>
    rcases List.mem_cons.mp member with rfl | later
    · rfl
    · exact ih later

theorem moves_input {step : σ → ε → σ × ρ} {s : σ} {es : List ε} {m : Move σ ε ρ} (member : m ∈ moves step s es) :
    m.input ∈ es := by
  induction es generalizing s with
  | nil => cases member
  | cons e rest ih =>
    rcases List.mem_cons.mp member with rfl | later
    · exact List.mem_cons_self
    · exact List.mem_cons_of_mem e (ih later)

/-- A step that cannot always be taken, as a function: where it cannot, nothing changes. -/
def attempt (step : σ → ε → Option (σ × ρ)) (idle : ρ) (s : σ) (e : ε) : σ × ρ := (step s e).getD (s,idle)

/-- Whether the step can be taken at all of the moves. -/
def taken (step : σ → ε → Option (σ × ρ)) (ms : List (Move σ ε ρ)) : Bool := ms.all (fun m => (step m.pre m.input).isSome)

/-- Inputs of which every step can be taken make a path. -/
theorem taken_path {step : σ → ε → Option (σ × ρ)} {idle : ρ} {s : σ} {es : List ε}
    (moved : ∀ m, step m.pre m.input = some (m.post,m.output) → M m) (all : taken step (moves (attempt step idle) s es) = true) :
    Path M s (moves (attempt step idle) s es) (finish (attempt step idle) s es) := by
  refine moves_path s es (fun m member => moved m ?_)
  obtain ⟨result,there⟩ := Option.isSome_iff_exists.mp (List.all_eq_true.mp all m member)
  have made := moves_step member
  rw [attempt,there,Option.getD_some] at made
  rw [there,made]

theorem finish_append (step : σ → ε → σ × ρ) (s : σ) (es es' : List ε) :
    finish step s (es ++ es') = finish step (finish step s es) es' := by
  induction es generalizing s with
  | nil => rfl
  | cons e rest ih => exact ih (step s e).1

end Transitions
