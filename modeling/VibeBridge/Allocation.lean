import Mathlib.Data.List.Forall2
import Mathlib.Data.List.Perm.Basic

/-!
First come, first served: claimants come one after another, and each takes the
first of the slots that are left which fits it, or goes without. The last slot
fills the gap (`swap_remove`). Which slot is the first depends on the order of
the slots, and every way to choose among those that fit comes from some order
(`serves_realised`). Who is served does not depend on it when no claimant finds
all its slots given away, who under another choice would have found one
(`Settled`, `settled_same`), and for distinct claimants only then
(`settled_of_same`).
-/
namespace Allocation
universe u v
variable {α : Type u} {ρ : Type v}

/-- Removes the element at the position, and puts the last one there. -/
def swap_remove (slots : List ρ) (pos : Nat) : List ρ :=
  match slots.getLast? with
  | none => slots
  | some last => (slots.set pos last).dropLast

theorem swap_remove_concat (front : List ρ) (last : ρ) (pos : Nat) :
    swap_remove (front ++ [last]) pos = front.set pos last := by
  rw [swap_remove,List.getLast?_concat]
  by_cases inside : pos < front.length
  · simp [inside]
  · have only : ∀ k, [last].set k last = [last] := by intro k; cases k <;> rfl
    simp [List.set_append,inside,only,List.set_eq_of_length_le (Nat.le_of_not_lt inside)]

/-- What is removed and what stays are the slots there were. -/
theorem swap_remove_perm {slots : List ρ} {pos : Nat} {slot : ρ} (found : slots[pos]? = some slot) :
    slots.Perm (slot :: swap_remove slots pos) := by
  rcases slots.eq_nil_or_concat with rfl | ⟨front,last,rfl⟩
  · simp at found
  · rw [List.concat_eq_append] at found ⊢
    rw [swap_remove_concat]
    by_cases inside : pos < front.length
    · rw [List.getElem?_append_left inside,List.getElem?_eq_getElem inside] at found
      cases found
      have parts : front = front.take pos ++ front[pos] :: front.drop (pos + 1) := by simp
      have changed : front.set pos last = front.take pos ++ last :: front.drop (pos + 1) := by
        rw [List.set_eq_take_append_cons_drop,if_pos inside]
      calc front ++ [last] = front.take pos ++ front[pos] :: (front.drop (pos + 1) ++ [last]) := by
            rw [← List.cons_append,← List.append_assoc,← parts]
        _ |>.Perm (front[pos] :: (front.take pos ++ (front.drop (pos + 1) ++ [last]))) := List.perm_middle
        _ |>.Perm (front[pos] :: front.set pos last) := by
            rw [changed]
            exact ((List.perm_append_singleton last _).append_left _).cons _
    · rw [List.getElem?_append_right (by omega)] at found
      have only : pos - front.length = 0 := by
        by_contra beyond
        rw [List.getElem?_eq_none (by simp; omega)] at found
        cases found
      rw [only] at found
      cases found
      rw [List.set_eq_of_length_le (by omega)]
      exact List.perm_append_singleton _ _

/-- The claimants that are served. -/
def serve (fits : α → ρ → Bool) : List ρ → List α → List α
  | _, [] => []
  | slots, claimant :: rest =>
    match slots.findIdx? (fits claimant) with
    | none => serve fits slots rest
    | some pos => claimant :: serve fits (swap_remove slots pos) rest

/-- Without a slot none is served. -/
theorem serve_none (fits : α → ρ → Bool) (claimants : List α) : serve fits [] claimants = [] := by
  induction claimants with
  | nil => rfl
  | cons claimant rest ih => exact ih

/-- The claimants that can be served, whatever slot each of them takes. -/
inductive Serves (fits : α → ρ → Bool) : List ρ → List α → List α → Prop
  | done {slots : List ρ} : Serves fits slots [] []
  | passed {slots : List ρ} {claimant : α} {rest out : List α} (unfit : ∀ slot ∈ slots, fits claimant slot = false)
      (later : Serves fits slots rest out) : Serves fits slots (claimant :: rest) out
  | given {slots left : List ρ} {slot : ρ} {claimant : α} {rest out : List α} (choice : slots.Perm (slot :: left))
      (fit : fits claimant slot = true) (later : Serves fits left rest out) :
      Serves fits slots (claimant :: rest) (claimant :: out)

variable {fits : α → ρ → Bool} {slots left left' : List ρ} {claimants served out out' : List α}

theorem serve_serves (fits : α → ρ → Bool) (slots : List ρ) (claimants : List α) :
    Serves fits slots claimants (serve fits slots claimants) := by
  induction claimants generalizing slots with
  | nil => exact .done
  | cons claimant rest ih =>
    rw [serve]
    cases first : slots.findIdx? (fits claimant) with
    | none =>
      refine .passed ?_ (ih slots)
      simpa using first
    | some pos =>
      obtain ⟨within,fit,_⟩ := List.findIdx?_eq_some_iff_getElem.mp first
      exact .given (swap_remove_perm (List.getElem?_eq_getElem within)) fit (ih _)

/-- Every choice is the one that is made in some order of the slots. -/
theorem serves_realised (serves : Serves fits slots claimants out) :
    ∃ order, slots.Perm order ∧ serve fits order claimants = out := by
  induction serves with
  | @done slots => exact ⟨slots,.refl _,rfl⟩
  | @passed slots claimant rest out unfit later ih =>
    obtain ⟨order,same,result⟩ := ih
    refine ⟨order,same,?_⟩
    have first : order.findIdx? (fits claimant) = none := by
      rw [List.findIdx?_eq_none_iff]
      exact fun slot member => unfit slot (same.mem_iff.mpr member)
    rw [serve,first]
    exact result
  | @given slots left slot claimant rest out choice fit later ih =>
    obtain ⟨order,same,result⟩ := ih
    -- The chosen slot comes first, and the one that is to be first after it comes last.
    obtain ⟨next,reordered,removed⟩ : ∃ next, order.Perm next ∧ swap_remove (slot :: next) 0 = order := by
      cases order with
      | nil => exact ⟨[],.refl _,rfl⟩
      | cons head tail =>
        refine ⟨tail ++ [head],(List.perm_append_singleton head tail).symm,?_⟩
        rw [← List.cons_append,swap_remove_concat]
        rfl
    refine ⟨slot :: next,choice.trans ((same.trans reordered).cons slot),?_⟩
    have first : (slot :: next).findIdx? (fits claimant) = some 0 := by simp [List.findIdx?_cons,fit]
    rw [serve,first]
    simp only [removed,result]

/-! ### When the order does not matter -/

/-- These slots are left when each of the served has been given one that fits. -/
def Leaves (fits : α → ρ → Bool) (slots : List ρ) (served : List α) (left : List ρ) : Prop :=
  ∃ given, List.Forall₂ (fun claimant slot => fits claimant slot = true) served given ∧ slots.Perm (given ++ left)

/-- They can all be given slots that fit. -/
def Matchable (fits : α → ρ → Bool) (slots : List ρ) (served : List α) : Prop := ∃ left, Leaves fits slots served left

/-- They can be given slots such that none is left that fits the claimant. -/
def Crowded (fits : α → ρ → Bool) (slots : List ρ) (served : List α) (claimant : α) : Prop :=
  ∃ left, Leaves fits slots served left ∧ ∀ slot ∈ left, fits claimant slot = false

/-- From the first claimant on, those are kept that can be given slots together with the ones kept before. None that
    is kept is crowded out by another choice of slots for those before. -/
def Settled (fits : α → ρ → Bool) (slots : List ρ) : List α → List α → Prop
  | _, [] => True
  | served, claimant :: rest =>
    (Matchable fits slots (served ++ [claimant]) →
      ¬ Crowded fits slots served claimant ∧ Settled fits slots (served ++ [claimant]) rest) ∧
    (¬ Matchable fits slots (served ++ [claimant]) → Settled fits slots served rest)

theorem leaves_nil : Leaves fits slots [] left ↔ slots.Perm left := by
  constructor
  · rintro ⟨given,each,same⟩
    cases each
    exact same
  · intro same
    exact ⟨[],.nil,same⟩

theorem leaves_perm (leaves : Leaves fits slots served left) (same : left.Perm left') : Leaves fits slots served left' := by
  obtain ⟨given,each,parts⟩ := leaves
  exact ⟨given,each,parts.trans (same.append_left given)⟩

/-- One more claimant takes one of the slots that are left. -/
theorem leaves_concat {claimant : α} : Leaves fits slots (served ++ [claimant]) left ↔
    ∃ slot, fits claimant slot = true ∧ Leaves fits slots served (slot :: left) := by
  constructor
  · rintro ⟨given,each,parts⟩
    rcases given.eq_nil_or_concat with rfl | ⟨front,slot,rfl⟩
    · have size := each.length_eq
      simp at size
    · rw [List.concat_eq_append,← List.forall₂_reverse_iff,List.reverse_concat,List.reverse_concat] at each
      cases each with
      | cons fit each =>
        refine ⟨slot,fit,front,List.forall₂_reverse_iff.mp each,?_⟩
        rw [List.concat_eq_append,List.append_assoc] at parts
        exact parts
  · rintro ⟨slot,fit,given,each,parts⟩
    refine ⟨given ++ [slot],List.rel_append each (.cons fit .nil),?_⟩
    rw [List.append_assoc]
    exact parts

/-- A claimant who finds a slot can be served with those before. -/
theorem leaves_given {claimant : α} {slot : ρ} (leaves : Leaves fits slots served left) (choice : left.Perm (slot :: left'))
    (fit : fits claimant slot = true) : Leaves fits slots (served ++ [claimant]) left' :=
  leaves_concat.mpr ⟨slot,fit,leaves_perm leaves choice⟩

/-- Where the claimants are settled, the same are served under all choices. -/
theorem settled_serves (settled : Settled fits slots served claimants) (before : Leaves fits slots served left)
    (before' : Leaves fits slots served left') (serves : Serves fits left claimants out)
    (serves' : Serves fits left' claimants out') : out = out' := by
  induction claimants generalizing served left left' out out' with
  | nil =>
    cases serves
    cases serves'
    rfl
  | cons claimant rest ih =>
    obtain ⟨kept,dropped⟩ := settled
    cases serves with
    | passed unfit later =>
      have crowded : Crowded fits slots served claimant := ⟨left,before,unfit⟩
      have unmatched : ¬ Matchable fits slots (served ++ [claimant]) := fun fit => (kept fit).1 crowded
      cases serves' with
      | passed unfit' later' => exact ih (dropped unmatched) before before' later later'
      | given choice fit later' => exact absurd ⟨_,leaves_given before' choice fit⟩ unmatched
    | given choice fit later =>
      have matchable : Matchable fits slots (served ++ [claimant]) := ⟨_,leaves_given before choice fit⟩
      obtain ⟨free,settled⟩ := kept matchable
      cases serves' with
      | passed unfit' later' => exact absurd ⟨_,before',unfit'⟩ free
      | given choice' fit' later' =>
        rw [ih settled (leaves_given before choice fit) (leaves_given before' choice' fit') later later']

/-- Who is served is among the claimants. -/
theorem serves_sublist (serves : Serves fits slots claimants out) : out.Sublist claimants := by
  induction serves with
  | done => exact .slnil
  | passed unfit later ih => exact ih.cons _
  | given choice fit later ih => exact ih.cons_cons _

/-- Where the same distinct claimants are served under all choices, they are settled. -/
theorem settled_of_serves (distinct : claimants.Nodup) (same : ∀ {left left' out out'}, Leaves fits slots served left →
      Leaves fits slots served left' → Serves fits left claimants out → Serves fits left' claimants out' →
      ∀ claimant ∈ out, claimant ∈ out') : Settled fits slots served claimants := by
  induction claimants generalizing served with
  | nil => trivial
  | cons claimant rest ih =>
    obtain ⟨first,later⟩ := List.nodup_cons.mp distinct
    constructor
    · rintro ⟨left,leaves⟩
      obtain ⟨slot,fit,leaves⟩ := leaves_concat.mp leaves
      constructor
      · rintro ⟨left',leaves',unfit⟩
        have served := same leaves leaves' (.given (.refl _) fit (serve_serves fits left rest))
          (.passed unfit (serve_serves fits left' rest)) claimant List.mem_cons_self
        exact first ((serves_sublist (serve_serves fits left' rest)).subset served)
      · refine ih later ?_
        intro left left' out out' leaves leaves' serves serves' other member
        obtain ⟨slot,fit,leaves⟩ := leaves_concat.mp leaves
        obtain ⟨slot',fit',leaves'⟩ := leaves_concat.mp leaves'
        have among := same leaves leaves' (.given (.refl _) fit serves) (.given (.refl _) fit' serves') other
          (List.mem_cons_of_mem _ member)
        rcases List.mem_cons.mp among with rfl | among
        · exact absurd ((serves_sublist serves).subset member) first
        · exact among
    · intro unmatched
      refine ih later ?_
      intro left left' out out' leaves leaves' serves serves' other member
      have unfit : ∀ {left}, Leaves fits slots served left → ∀ slot ∈ left, fits claimant slot = false := by
        intro left leaves slot among
        cases fit : fits claimant slot with
        | false => rfl
        | true =>
          obtain ⟨front,back,rfl⟩ := List.append_of_mem among
          exact absurd ⟨_,leaves_given leaves List.perm_middle fit⟩ unmatched
      exact same leaves leaves' (.passed (unfit leaves) serves) (.passed (unfit leaves') serves') other member

/-- Settled claimants are served the same in all orders of the slots. -/
theorem settled_same (settled : Settled fits slots [] claimants) {order order' : List ρ} (perm : slots.Perm order)
    (perm' : slots.Perm order') : serve fits order claimants = serve fits order' claimants :=
  settled_serves settled (leaves_nil.mpr perm) (leaves_nil.mpr perm') (serve_serves fits order claimants)
    (serve_serves fits order' claimants)

/-- Distinct claimants who are served the same in all orders are settled. -/
theorem settled_of_same (distinct : claimants.Nodup) (same : ∀ order order', slots.Perm order → slots.Perm order' →
      ∀ claimant ∈ serve fits order claimants, claimant ∈ serve fits order' claimants) :
    Settled fits slots [] claimants := by
  refine settled_of_serves distinct ?_
  intro left left' out out' leaves leaves' serves serves'
  obtain ⟨order,perm,rfl⟩ := serves_realised serves
  obtain ⟨order',perm',rfl⟩ := serves_realised serves'
  exact same order order' ((leaves_nil.mp leaves).trans perm) ((leaves_nil.mp leaves').trans perm')

end Allocation
