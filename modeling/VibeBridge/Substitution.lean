import Mathlib.Data.List.Basic

/-!
Substitution of the matches of a pattern, from the left and without overlaps. A
pattern tells what it captures at the front of a list, and how long the match is.
Cutting a list does not change what is substituted, as long as no match reaches
across the cut (`substitute_append`).
-/
namespace VibeBridge.Substitution

section
variable {α γ : Type} (pattern : List α → Option (γ × Nat)) (replacement : γ → List α)

/-- The list with its matches replaced, after so many elements that belong to a match. -/
def substitute_from : Nat → List α → List α
  | _, [] => []
  | skipped + 1, _ :: rest => substitute_from skipped rest
  | 0, a :: rest =>
    match pattern (a :: rest) with
    | some (captured,length) => replacement captured ++ substitute_from (length - 1) rest
    | none => a :: substitute_from 0 rest

def substitute (l : List α) : List α := substitute_from pattern replacement 0 l

/-- What the matches capture, after so many elements that belong to a match. -/
def captures_from : Nat → List α → List γ
  | _, [] => []
  | skipped + 1, _ :: rest => captures_from skipped rest
  | 0, a :: rest =>
    match pattern (a :: rest) with
    | some (captured,length) => captured :: captures_from (length - 1) rest
    | none => captures_from 0 rest

def captures (l : List α) : List γ := captures_from pattern 0 l

/-- The matches, each with the elements in front of it, and the elements after the last, after so many elements that
    belong to a match and with those in front of the next one so far. -/
def segments_from : Nat → List α → List α → List (List α × γ) × List α
  | _, front, [] => ([],front)
  | skipped + 1, front, _ :: rest => segments_from skipped front rest
  | 0, front, a :: rest =>
    match pattern (a :: rest) with
    | some (captured,length) =>
      ((front,captured) :: (segments_from (length - 1) [] rest).1,(segments_from (length - 1) [] rest).2)
    | none => segments_from 0 (front ++ [a]) rest

def segments (l : List α) : List (List α × γ) × List α := segments_from pattern 0 [] l

variable {pattern replacement}

theorem substitute_from_append {front : List α} (rest : List α) (skipped : Nat) (short : skipped ≤ front.length)
    (inside : ∀ suffix, suffix <:+ front → suffix ≠ [] → pattern (suffix ++ rest) = pattern suffix)
    (bounded : ∀ suffix captured length, suffix <:+ front → pattern suffix = some (captured,length) → length ≤ suffix.length) :
    substitute_from pattern replacement skipped (front ++ rest) =
      substitute_from pattern replacement skipped front ++ substitute_from pattern replacement 0 rest := by
  induction front generalizing skipped with
  | nil =>
    obtain rfl : skipped = 0 := by simpa using short
    cases rest <;> simp [substitute_from]
  | cons a front ih =>
    have inside' : ∀ suffix, suffix <:+ front → suffix ≠ [] → pattern (suffix ++ rest) = pattern suffix :=
      fun suffix within => inside suffix (within.trans (List.suffix_cons a front))
    have bounded' : ∀ suffix captured length, suffix <:+ front → pattern suffix = some (captured,length) →
        length ≤ suffix.length :=
      fun suffix captured length within => bounded suffix captured length (within.trans (List.suffix_cons a front))
    cases skipped with
    | succ skipped =>
      rw [List.cons_append,substitute_from,substitute_from]
      exact ih skipped (by simpa using short) inside' bounded'
    | zero =>
      have here := inside (a :: front) List.suffix_rfl (by simp)
      rw [List.cons_append] at here
      rw [List.cons_append,substitute_from,substitute_from,here]
      cases found : pattern (a :: front) with
      | none =>
        simp only [List.cons_append]
        rw [ih 0 (by omega) inside' bounded']
      | some hit =>
        obtain ⟨captured,length⟩ := hit
        have fits := bounded (a :: front) captured length List.suffix_rfl found
        simp only [List.append_assoc]
        rw [ih (length - 1) (by rw [List.length_cons] at fits; omega) inside' bounded']

/-- What is substituted in two lists is substituted in both together, if no match of the first goes on in the second. -/
theorem substitute_append {front rest : List α}
    (inside : ∀ suffix, suffix <:+ front → suffix ≠ [] → pattern (suffix ++ rest) = pattern suffix)
    (bounded : ∀ suffix captured length, pattern suffix = some (captured,length) → length ≤ suffix.length) :
    substitute pattern replacement (front ++ rest) = substitute pattern replacement front ++ substitute pattern replacement rest :=
  substitute_from_append rest 0 (Nat.zero_le _) inside (fun suffix captured length _ => bounded suffix captured length)

/-- Without a match nothing is replaced. -/
theorem substitute_unmatched {l : List α} (unmatched : ∀ suffix, suffix <:+ l → pattern suffix = none) :
    substitute pattern replacement l = l := by
  induction l with
  | nil => rfl
  | cons a rest ih =>
    have here := unmatched (a :: rest) List.suffix_rfl
    have later := ih (fun suffix within => unmatched suffix (within.trans (List.suffix_cons a rest)))
    rw [substitute] at later ⊢
    rw [substitute_from,here]
    simp only
    rw [later]

theorem captures_skipped (front rest : List α) : captures_from pattern front.length (front ++ rest) = captures pattern rest := by
  induction front with
  | nil => rfl
  | cons a front ih => exact ih

/-- A match at the front, and those after it. -/
theorem captures_match {front rest : List α} {captured : γ} (some_there : front ≠ [])
    (found : pattern (front ++ rest) = some (captured,front.length)) :
    captures pattern (front ++ rest) = captured :: captures pattern rest := by
  obtain ⟨a,front,rfl⟩ := List.exists_cons_of_ne_nil some_there
  rw [List.cons_append] at found
  rw [captures,List.cons_append,captures_from,found]
  exact congrArg (captured :: ·) (captures_skipped front rest)

theorem segments_from_whole {whole : γ → List α} (matched : ∀ suffix captured length, pattern suffix = some (captured,length) →
    0 < length ∧ whole captured = suffix.take length) (skipped : Nat) (front l : List α) :
    (segments_from pattern skipped front l).1.flatMap (fun segment => segment.1 ++ whole segment.2) ++
      (segments_from pattern skipped front l).2 = front ++ l.drop skipped := by
  induction l generalizing skipped front with
  | nil => cases skipped <;> simp [segments_from]
  | cons a rest ih =>
    cases skipped with
    | succ skipped => exact ih skipped front
    | zero =>
      rw [segments_from]
      cases found : pattern (a :: rest) with
      | none =>
        simp only
        rw [ih 0 (front ++ [a])]
        simp
      | some hit =>
        obtain ⟨captured,length⟩ := hit
        obtain ⟨some_there,taken⟩ := matched (a :: rest) captured length found
        obtain ⟨less,rfl⟩ : ∃ less, length = less + 1 := ⟨length - 1,by omega⟩
        simp only [List.flatMap_cons,taken,List.append_assoc,Nat.add_sub_cancel]
        rw [ih less [],List.nil_append,List.drop_zero,← List.take_append_drop (less + 1) (a :: rest)]
        simp

/-- The segments of a list are the list. -/
theorem segments_whole {whole : γ → List α} (matched : ∀ suffix captured length, pattern suffix = some (captured,length) →
    0 < length ∧ whole captured = suffix.take length) (l : List α) :
    (segments pattern l).1.flatMap (fun segment => segment.1 ++ whole segment.2) ++ (segments pattern l).2 = l :=
  segments_from_whole matched 0 [] l

/-- Where matches are taken out, only elements of the list are left. -/
theorem substitute_from_sublist (skipped : Nat) (l : List α) :
    (substitute_from pattern (fun _ => []) skipped l).Sublist l := by
  induction l generalizing skipped with
  | nil => cases skipped <;> exact List.Sublist.refl _
  | cons a rest ih =>
    cases skipped with
    | succ skipped => exact (ih skipped).cons a
    | zero =>
      rw [substitute_from]
      split
      · exact (ih _).cons a
      · exact (ih 0).cons_cons a

/-- An element that no match has is left. -/
theorem mem_substitute_from {a : α} (outside : ∀ suffix captured length, pattern suffix = some (captured,length) →
    0 < length ∧ a ∉ suffix.take length) (skipped : Nat) (l : List α) (member : a ∈ l.drop skipped) :
    a ∈ substitute_from pattern (fun _ => []) skipped l := by
  induction l generalizing skipped with
  | nil => simp at member
  | cons b rest ih =>
    cases skipped with
    | succ skipped => exact ih skipped (by simpa using member)
    | zero =>
      rw [List.drop_zero] at member
      rw [substitute_from]
      cases found : pattern (b :: rest) with
      | none =>
        rw [List.mem_cons] at member ⊢
        exact member.imp_right (fun later => ih 0 (by simpa using later))
      | some hit =>
        obtain ⟨captured,length⟩ := hit
        obtain ⟨some_there,not_inside⟩ := outside (b :: rest) captured length found
        obtain ⟨less,rfl⟩ : ∃ less, length = less + 1 := ⟨length - 1,by omega⟩
        refine ih less ?_
        rw [← List.take_append_drop (less + 1) (b :: rest),List.mem_append] at member
        exact member.resolve_left not_inside

end

end VibeBridge.Substitution
