import Mathlib.Data.List.Infix

/-!
What comes after an element in a list that grows at its end (`split_snoc`), and
the longest suffix of a list that has a property, such as a bound on its size.
Where the fronts of what has the property have it too, the longest suffix can be
kept while the list grows: the next one is to be found in what was kept
(`longest_concat`).
-/
namespace Suffixes
universe u
variable {α : Type u} {P : List α → Prop} {l s r : List α}

/-- The element is the new one, or it was there and the new one comes after it. -/
theorem split_snoc {a b : α} {before after : List α} : l ++ [a] = before ++ b :: after ↔
    (l = before ∧ a = b ∧ after = []) ∨ ∃ middle, l = before ++ b :: middle ∧ after = middle ++ [a] := by
  constructor
  · intro whole
    rcases after.eq_nil_or_concat with rfl | ⟨middle,last,rfl⟩
    · obtain ⟨same,ends⟩ := List.append_inj' whole rfl
      exact .inl ⟨same,List.singleton_injective ends,rfl⟩
    · rw [List.concat_eq_append,← List.cons_append,← List.append_assoc] at whole
      obtain ⟨same,ends⟩ := List.append_inj' whole rfl
      exact .inr ⟨middle,same,by rw [List.concat_eq_append,ends]⟩
  · rintro (⟨rfl,rfl,rfl⟩ | ⟨middle,rfl,rfl⟩)
    · rfl
    · simp

/-- What holds of each element and those before it. -/
theorem everywhere_snoc {Q : List α → α → Prop} {a : α} :
    (∀ before b after, l ++ [a] = before ++ b :: after → Q before b) ↔
      (∀ before b after, l = before ++ b :: after → Q before b) ∧ Q l a := by
  constructor
  · intro all
    refine ⟨?_,all l a [] rfl⟩
    rintro before b after rfl
    exact all before b (after ++ [a]) (by simp)
  · rintro ⟨all,last⟩ before b after whole
    rcases split_snoc.mp whole with ⟨rfl,rfl,_⟩ | ⟨middle,split,_⟩
    · exact last
    · exact all before b middle split

/-- What holds of each element and those after it. -/
theorem everywhere_cons {Q : α → List α → Prop} {a : α} :
    (∀ before b after, a :: l = before ++ b :: after → Q b after) ↔
      Q a l ∧ ∀ before b after, l = before ++ b :: after → Q b after := by
  constructor
  · intro all
    refine ⟨all [] a l rfl,?_⟩
    rintro before b after rfl
    exact all (a :: before) b after rfl
  · rintro ⟨first,all⟩ before b after whole
    rcases List.cons_eq_append_iff.mp whole with ⟨rfl,same⟩ | ⟨more,rfl,rest⟩
    · cases same
      exact first
    · exact all more b after rest

/-- The longest suffix of `l` with the property. -/
structure Longest (P : List α → Prop) (l s : List α) : Prop where
  suffix : s <:+ l
  holds : P s
  longest : ∀ t, t <:+ l → P t → t <:+ s

theorem longest_self (holds : P l) : Longest P l l := ⟨List.suffix_rfl,holds,fun _ suffix _ => suffix⟩

/-- Where the whole list lacks the property, its first element is not in the suffix. -/
theorem longest_cons {x : α} (lacks : ¬ P (x :: l)) (rest : Longest P l s) : Longest P (x :: l) s := by
  refine ⟨rest.suffix.trans (List.suffix_cons x l),rest.holds,?_⟩
  intro t suffix holds
  rcases List.suffix_cons_iff.mp suffix with rfl | later
  · exact absurd holds lacks
  · exact rest.longest t later holds

theorem longest_concat {x : α} (fronts : ∀ t, P (t ++ [x]) → P t) (before : Longest P l s) (now : Longest P (s ++ [x]) r) :
    Longest P (l ++ [x]) r := by
  refine ⟨now.suffix.trans (List.suffix_append_self_iff.mpr before.suffix),now.holds,?_⟩
  intro t suffix holds
  rcases t.eq_nil_or_concat with rfl | ⟨front,last,rfl⟩
  · exact List.nil_suffix
  · rw [List.concat_eq_append] at suffix holds ⊢
    obtain ⟨rfl,earlier⟩ : last = x ∧ front <:+ l := by
      obtain ⟨taken,whole⟩ := suffix
      rw [← List.append_assoc] at whole
      obtain ⟨same,ends⟩ := List.append_inj' whole rfl
      exact ⟨List.singleton_injective ends,taken,same⟩
    exact now.longest _ (List.suffix_append_self_iff.mpr (before.longest front earlier (fronts front holds))) holds

end Suffixes
