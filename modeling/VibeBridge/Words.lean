import Mathlib.Data.List.Basic
import Mathlib.Data.List.Infix
import Mathlib.Data.List.TakeWhile

/-!
Lists cut at separators: the words of a list are the longest pieces without one
that are not empty. Separators at the ends can be trimmed off.
-/
namespace Words
universe u
variable {α : Type u} (p : α → Bool)

/-- The words of a list. -/
def words (l : List α) : List (List α) := (l.splitOnP p).filter (fun w => !w.isEmpty)

/-- A list without the separators at its two ends. -/
def trim (l : List α) : List α := ((l.dropWhile p).reverse.dropWhile p).reverse

variable {p}

theorem words_nil : words p [] = [] := by simp [words,List.splitOnP_nil]

/-- Words split at a separator. -/
theorem words_append {sep : α} (separates : p sep) (xs ys : List α) : words p (xs ++ sep :: ys) = words p xs ++ words p ys := by
  rw [words,List.splitOnP_append_cons xs ys separates,List.filter_append]
  rfl

theorem words_cons_sep {sep : α} (separates : p sep) (ys : List α) : words p (sep :: ys) = words p ys := by
  have split := words_append separates [] ys
  rwa [words_nil] at split

theorem words_concat_sep {sep : α} (separates : p sep) (xs : List α) : words p (xs ++ [sep]) = words p xs := by
  rw [words_append separates,words_nil,List.append_nil]

/-- A list without a separator is a word, unless it is empty. -/
theorem words_whole {w : List α} (some_there : w ≠ []) (whole : ∀ x ∈ w, p x = false) : words p w = [w] := by
  rw [words,List.splitOnP_eq_singleton whole]
  simp [some_there]

/-- An element that is no separator comes before the first word, or is a word of its own. -/
theorem words_cons {x : α} (joins : p x = false) (ys : List α) :
    ∃ w rest, words p (x :: ys) = (x :: w) :: rest ∧ ∀ word ∈ rest, word ∈ words p ys := by
  obtain ⟨first,pieces,split⟩ := List.exists_cons_of_ne_nil (List.splitOnP_ne_nil p ys)
  refine ⟨first,pieces.filter (fun w => !w.isEmpty),?_,?_⟩
  · rw [words,List.splitOnP_cons_eq_if_modifyHead,joins,split]
    simp
  · intro word member
    rw [words,split,List.filter_cons]
    split
    · exact List.mem_cons_of_mem _ member
    · exact member

/-- A word begins with the first element, or is a word of the others. -/
theorem mem_words_cons {x : α} {ys word : List α} (member : word ∈ words p (x :: ys)) :
    word.head? = some x ∨ word ∈ words p ys := by
  cases sep : p x with
  | true =>
    rw [words_cons_sep sep] at member
    exact .inr member
  | false =>
    obtain ⟨w,rest,split,others⟩ := words_cons sep ys
    rw [split,List.mem_cons] at member
    rcases member with rfl | later
    · exact .inl rfl
    · exact .inr (others word later)

/-- The words put together are the list without its separators. -/
theorem words_flatten (l : List α) : (words p l).flatten = l.filter (fun x => !p x) := by
  rw [words,List.flatten_filter_not_isEmpty]
  induction l with
  | nil => simp [List.splitOnP_nil]
  | cons x ys ih =>
    rw [List.splitOnP_cons_eq_if_modifyHead]
    split
    · rename_i sep
      rw [List.flatten_cons,List.nil_append,ih,List.filter_cons_of_neg (by simp [sep])]
    · rename_i joins
      obtain ⟨first,others,split⟩ := List.exists_cons_of_ne_nil (List.splitOnP_ne_nil p ys)
      rw [split] at ih ⊢
      rw [List.modifyHead_cons,List.flatten_cons,List.cons_append,← List.flatten_cons,ih,
        List.filter_cons_of_pos (by simpa using joins)]

/-! ## Trimming -/

theorem words_dropWhile (l : List α) : words p (l.dropWhile p) = words p l := by
  induction l with
  | nil => rfl
  | cons x ys ih =>
    rw [List.dropWhile_cons]
    split
    · rename_i sep
      rw [ih,words_cons_sep sep]
    · rfl

theorem words_dropWhile_end (l : List α) : words p (l.reverse.dropWhile p).reverse = words p l := by
  induction l using List.reverseRecOn with
  | nil => rfl
  | append_singleton xs x ih =>
    rw [List.reverse_append,List.reverse_singleton,List.singleton_append,List.dropWhile_cons]
    split
    · rename_i sep
      rw [ih,words_concat_sep sep]
    · rw [List.reverse_cons,List.reverse_reverse]

/-- Trimming keeps the words. -/
theorem words_trim (l : List α) : words p (trim p l) = words p l := by
  rw [trim,words_dropWhile_end,words_dropWhile]

/-- Where neither end is a separator, there is nothing to trim. -/
theorem trim_whole {x y : α} {l : List α} (first : l.head? = some x) (last : l.getLast? = some y) (starts : p x = false)
    (ends : p y = false) : trim p l = l := by
  have front : l.dropWhile p = l := by
    cases l with
    | nil => rfl
    | cons z zs =>
      cases first
      rw [List.dropWhile_cons,if_neg (by simp [starts])]
  have back : l.reverse.dropWhile p = l.reverse := by
    cases turned : l.reverse with
    | nil => rfl
    | cons z zs =>
      have same : z = y := by
        rw [← List.head?_reverse,turned] at last
        exact Option.some.inj last
      rw [List.dropWhile_cons,if_neg (by simp [same,ends])]
  rw [trim,front,back,List.reverse_reverse]

theorem trim_solid {l : List α} (solid : ∀ x ∈ l, p x = false) : trim p l = l := by
  cases first : l.head? with
  | none => rw [List.head?_eq_none_iff.mp first]; rfl
  | some x =>
    cases last : l.getLast? with
    | none => rw [List.getLast?_eq_none_iff.mp last]; rfl
    | some y => exact trim_whole first last (solid x (List.mem_of_mem_head? first)) (solid y (List.mem_of_getLast? last))

/-- Separators at the end are trimmed. -/
theorem trim_end {seps : List α} (separate : ∀ x ∈ seps, p x = true) (l : List α) : trim p (l ++ seps) = trim p l := by
  have none_left : seps.dropWhile p = [] := List.dropWhile_eq_nil_iff.mpr separate
  rw [trim,trim,List.dropWhile_append]
  split
  · rename_i empty
    rw [none_left,List.isEmpty_iff.mp empty]
  · have skipped : seps.reverse.dropWhile p = [] :=
      List.dropWhile_eq_nil_iff.mpr (fun x member => separate x (List.mem_reverse.mp member))
    rw [List.reverse_append,List.dropWhile_append,skipped]
    rfl

theorem trim_seps {seps : List α} (separate : ∀ x ∈ seps, p x = true) : trim p seps = [] := trim_end separate []

theorem trim_sublist (l : List α) : (trim p l).Sublist l := by
  have back := List.dropWhile_sublist p (l := (l.dropWhile p).reverse)
  have front := List.dropWhile_sublist p (l := l)
  have turned := back.reverse
  rw [List.reverse_reverse] at turned
  exact turned.trans front

theorem trim_infix (l : List α) : trim p l <:+: l := by
  have front : ((l.dropWhile p).reverse.dropWhile p).reverse <+: l.dropWhile p := by
    rw [← List.reverse_suffix,List.reverse_reverse]
    exact List.dropWhile_suffix p
  exact front.isInfix.trans (List.dropWhile_suffix p).isInfix

/-! ## Lists put together -/

theorem mem_intercalate {sep : List α} {lists : List (List α)} {x : α} (member : x ∈ sep.intercalate lists) :
    x ∈ sep ∨ ∃ l ∈ lists, x ∈ l := by
  induction lists with
  | nil => cases member
  | cons l lists ih =>
    by_cases last : lists = []
    · rw [last,List.intercalate_singleton] at member
      exact .inr ⟨l,List.mem_cons_self,member⟩
    · rw [List.intercalate_cons_of_ne_nil last,List.append_assoc,List.mem_append,List.mem_append] at member
      rcases member with here | between | later
      · exact .inr ⟨l,List.mem_cons_self,here⟩
      · exact .inl between
      · exact (ih later).imp_right (fun ⟨other,mem,inside⟩ => ⟨other,List.mem_cons_of_mem l mem,inside⟩)

theorem intercalate_mem (sep : List α) {l : List α} {lists : List (List α)} (member : l ∈ lists) {x : α} (inside : x ∈ l) :
    x ∈ sep.intercalate lists := by
  induction lists with
  | nil => cases member
  | cons first lists ih =>
    by_cases last : lists = []
    · subst last
      rw [List.intercalate_singleton,← List.mem_singleton.mp member]
      exact inside
    · rw [List.intercalate_cons_of_ne_nil last,List.append_assoc,List.mem_append,List.mem_append]
      rcases List.mem_cons.mp member with rfl | later
      · exact .inl inside
      · exact .inr (.inr (ih later))

/-! ## Elements that are no separators -/

section
variable {q : α → Bool}

theorem filter_dropWhile (apart : ∀ x, p x = true → q x = false) (l : List α) : (l.dropWhile p).filter q = l.filter q := by
  induction l with
  | nil => rfl
  | cons x l ih =>
    by_cases dropped : p x = true
    · rw [List.dropWhile_cons_of_pos dropped,ih,List.filter_cons_of_neg (by simp [apart x dropped])]
    · rw [List.dropWhile_cons_of_neg dropped]

theorem filter_dropWhile_end (apart : ∀ x, p x = true → q x = false) (l : List α) :
    ((l.reverse.dropWhile p).reverse).filter q = l.filter q := by
  rw [List.filter_reverse,filter_dropWhile apart,List.filter_reverse,List.reverse_reverse]

theorem filter_trim (apart : ∀ x, p x = true → q x = false) (l : List α) : (trim p l).filter q = l.filter q := by
  rw [trim,filter_dropWhile_end apart,filter_dropWhile apart]

theorem filter_intercalate {sep : List α} (none : sep.filter q = []) (lists : List (List α)) :
    (sep.intercalate lists).filter q = lists.flatMap (List.filter q) := by
  induction lists with
  | nil => rfl
  | cons l lists ih =>
    by_cases last : lists = []
    · rw [last,List.intercalate_singleton]
      simp
    · rw [List.intercalate_cons_of_ne_nil last,List.filter_append,List.filter_append,none,ih,List.flatMap_cons,List.append_nil]

end

end Words
