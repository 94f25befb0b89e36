import Mathlib.Logic.Function.Basic
import Mathlib.Data.List.Nodup

/-!
A directory of clients. Each client may hold a lease, which one authority hands
out: clients wait in a queue, and a grant goes to the first of them, whoever
held that lease before. Beside this each client has the approvals it asked for
and the decisions on them that it has not taken yet.

The directory is well formed (`WellFormed`) when those who wait hold no lease
and no lease is held twice; every action keeps it so. Whether everybody who is
entitled to a lease holds one or waits for one (`Served`) is kept by exactly the
actions that take no lease away from such a client (`served_kept`, `stranded`).
-/
namespace Leases
set_option linter.unusedSectionVars false
universe u
variable {κ σ α ι δ : Type u}

/-- What the directory knows of a client: its lease, whether it needs none, the
    approvals it asked for and the decisions that wait for it. -/
structure Entry (σ α ι δ : Type u) where
  held : Option σ
  exempt : Bool
  asked : List α
  decided : ι → Option δ

structure Directory (κ σ α ι δ : Type u) where
  entry : κ → Option (Entry σ α ι δ)
  waiting : List κ

/-- What can happen to a directory. -/
inductive Action (κ σ α ι δ : Type u)
  /-- A client is entered, or entered again. -/
  | enroll (k : κ) (exempt : Bool)
  /-- A client is entered unless it is known. -/
  | discover (k : κ)
  | leave (k : κ)
  /-- The lease goes to the first client that waits. -/
  | grant (s : σ)
  /-- The lease is taken from whoever holds it. -/
  | revoke (s : σ)
  | ask (k : κ) (a : α)
  | withdraw (k : κ) (i : ι)
  /-- A client takes the decision on one of its approvals. -/
  | take (k : κ) (i : ι)
  | decide (k : κ) (i : ι) (d : δ)

/-- A client as it is entered first. -/
def Entry.fresh (exempt : Bool) : Entry σ α ι δ := ⟨none,exempt,[],fun _ => none⟩

section
variable [DecidableEq κ] [DecidableEq σ] [DecidableEq ι] (ident : α → ι)

/-- The client without the lease `s`. -/
def Entry.release (s : σ) (e : Entry σ α ι δ) : Entry σ α ι δ := if e.held = some s then { e with held := none } else e

/-- The client after it is entered, perhaps again. -/
def enrolled (exempt : Bool) : Option (Entry σ α ι δ) → Entry σ α ι δ
  | some e => { e with exempt := exempt }
  | none => .fresh exempt

def Directory.modify (D : Directory κ σ α ι δ) (k : κ) (f : Entry σ α ι δ → Entry σ α ι δ) : Directory κ σ α ι δ :=
  { D with entry := Function.update D.entry k ((D.entry k).map f) }

def Directory.enroll (D : Directory κ σ α ι δ) (k : κ) (exempt : Bool) : Directory κ σ α ι δ :=
  let e := enrolled exempt (D.entry k)
  { entry := Function.update D.entry k (some e)
    waiting := if e.held = none ∧ exempt = false ∧ k ∉ D.waiting then D.waiting ++ [k] else D.waiting }

/-- What an action makes of a directory. -/
def apply (D : Directory κ σ α ι δ) : Action κ σ α ι δ → Directory κ σ α ι δ
  | .enroll k exempt => D.enroll k exempt
  | .discover k => if (D.entry k).isSome then D else D.enroll k false
  | .leave k => ⟨Function.update D.entry k none,D.waiting.filter (fun k' => k' ≠ k)⟩
  | .grant s =>
    match D.waiting with
    | [] => D
    | k :: rest =>
      { entry := fun k' => if k' = k then (D.entry k).map (fun e => { e with held := some s })
          else (D.entry k').map (Entry.release s)
        waiting := rest }
  | .revoke s => { D with entry := fun k => (D.entry k).map (Entry.release s) }
  | .ask k a => D.modify k (fun e =>
      { e with asked := e.asked ++ [a], decided := Function.update e.decided (ident a) none })
  | .withdraw k i => D.modify k (fun e => { e with asked := e.asked.filter (fun a => ident a ≠ i) })
  | .take k i => D.modify k (fun e => { e with decided := Function.update e.decided i none })
  | .decide k i d => D.modify k (fun e =>
      { e with asked := e.asked.filter (fun a => ident a ≠ i), decided := Function.update e.decided i (some d) })

/-- What a list of actions makes of a directory. -/
def applyAll (D : Directory κ σ α ι δ) (as : List (Action κ σ α ι δ)) : Directory κ σ α ι δ := as.foldl (apply ident) D

variable {ident}

/-- What each of the actions keeps, all of them keep. -/
theorem applyAll_keeps {P : Directory κ σ α ι δ → Prop} {as : List (Action κ σ α ι δ)}
    (kept : ∀ D, ∀ a ∈ as, P D → P (apply ident D a)) {D : Directory κ σ α ι δ} (holds : P D) :
    P (applyAll ident D as) := by
  induction as generalizing D with
  | nil => exact holds
  | cons a rest ih =>
    exact ih (fun D a later => kept D a (List.mem_cons_of_mem _ later)) (kept D a List.mem_cons_self holds)

theorem modify_entry (D : Directory κ σ α ι δ) (k k' : κ) (f : Entry σ α ι δ → Entry σ α ι δ) :
    (D.modify k f).entry k' = if k' = k then (D.entry k).map f else D.entry k' := by
  simp only [Directory.modify,Function.update_apply]

theorem enroll_entry (D : Directory κ σ α ι δ) (k k' : κ) (exempt : Bool) :
    (D.enroll k exempt).entry k' = if k' = k then some (enrolled exempt (D.entry k)) else D.entry k' := by
  simp only [Directory.enroll,Function.update_apply]

theorem release_held {s t : σ} {e : Entry σ α ι δ} : (e.release s).held = some t ↔ e.held = some t ∧ t ≠ s := by
  unfold Entry.release
  split
  · rename_i same; simp [same]; intro eq; exact eq.symm
  · rename_i other
    constructor
    · intro holds; exact ⟨holds,fun same => other (same ▸ holds)⟩
    · exact And.left

/-- What an action can do to a client that it leaves in the directory. -/
inductive Changed (ident : α → ι) (D : Directory κ σ α ι δ) (k : κ) (e : Entry σ α ι δ) :
    Action κ σ α ι δ → Entry σ α ι δ → Prop
  | same {a : Action κ σ α ι δ} : Changed ident D k e a e
  | exempted {exempt : Bool} : Changed ident D k e (.enroll k exempt) { e with exempt := exempt }
  | granted {s : σ} (first : D.waiting.head? = some k) : Changed ident D k e (.grant s) { e with held := some s }
  | stolen {s : σ} (had : e.held = some s) (other : D.waiting ≠ []) (notFirst : D.waiting.head? ≠ some k) :
      Changed ident D k e (.grant s) { e with held := none }
  | revoked {s : σ} (had : e.held = some s) : Changed ident D k e (.revoke s) { e with held := none }
  | asked {x : α} : Changed ident D k e (.ask k x)
      { e with asked := e.asked ++ [x], decided := Function.update e.decided (ident x) none }
  | withdrawn {i : ι} : Changed ident D k e (.withdraw k i)
      { e with asked := e.asked.filter (fun x => ident x ≠ i) }
  | taken {i : ι} : Changed ident D k e (.take k i) { e with decided := Function.update e.decided i none }
  | decided {i : ι} {d : δ} : Changed ident D k e (.decide k i d)
      { e with asked := e.asked.filter (fun x => ident x ≠ i), decided := Function.update e.decided i (some d) }

theorem known_modify {D : Directory κ σ α ι δ} {k k' : κ} {e : Entry σ α ι δ} (known : D.entry k = some e)
    {f : Entry σ α ι δ → Entry σ α ι δ} {a : Action κ σ α ι δ} (changed : k = k' → Changed ident D k e a (f e)) :
    ∃ e', (D.modify k' f).entry k = some e' ∧ Changed ident D k e a e' := by
  rw [modify_entry]
  by_cases same : k = k'
  · exact ⟨f e,by simp [← same,known],changed same⟩
  · exact ⟨e,by simp [same,known],.same⟩

variable (ident) in
/-- A client stays as an action leaves it, unless it leaves itself. -/
theorem known_apply {D : Directory κ σ α ι δ} {k : κ} {e : Entry σ α ι δ} (known : D.entry k = some e)
    (a : Action κ σ α ι δ) :
    (a = .leave k ∧ (apply ident D a).entry k = none) ∨
      ∃ e', (apply ident D a).entry k = some e' ∧ Changed ident D k e a e' := by
  cases a with
  | enroll k' exempt =>
    right
    rw [apply,enroll_entry]
    split
    · rename_i same; subst same
      rw [known]
      exact ⟨_,rfl,.exempted⟩
    · exact ⟨e,known,.same⟩
  | discover k' =>
    right
    rw [apply]
    split
    · exact ⟨e,known,.same⟩
    · rename_i unknown
      rw [enroll_entry]
      split
      · rename_i same; subst same
        rw [known] at unknown
        exact absurd rfl unknown
      · exact ⟨e,known,.same⟩
  | leave k' =>
    simp only [apply,Function.update_apply]
    by_cases same : k = k'
    · subst same; left; exact ⟨rfl,by simp⟩
    · right; exact ⟨e,by simp [same,known],.same⟩
  | grant s =>
    right
    cases queue : D.waiting with
    | nil => simp only [apply,queue]; exact ⟨e,known,.same⟩
    | cons first rest =>
      simp only [apply,queue]
      by_cases same : k = first
      · subst same
        exact ⟨_,by simp [known],.granted (by rw [queue]; rfl)⟩
      · by_cases had : e.held = some s
        · refine ⟨{ e with held := none },by simp [same,known,Entry.release,had],.stolen had (by simp [queue]) ?_⟩
          rw [queue]
          intro first_k
          exact same (Option.some.inj first_k).symm
        · exact ⟨e,by simp [same,known,Entry.release,had],.same⟩
  | revoke s =>
    right
    by_cases had : e.held = some s
    · exact ⟨_,by simp [apply,known,Entry.release,had],.revoked had⟩
    · exact ⟨e,by simp [apply,known,Entry.release,had],.same⟩
  | ask k' x => exact .inr (known_modify known (fun same => same ▸ .asked))
  | withdraw k' i => exact .inr (known_modify known (fun same => same ▸ .withdrawn))
  | take k' i => exact .inr (known_modify known (fun same => same ▸ .taken))
  | decide k' i d => exact .inr (known_modify known (fun same => same ▸ .decided))

/-- A client that an action brings into the directory is fresh, and waits unless it is exempt. -/
theorem unknown_apply {D : Directory κ σ α ι δ} {k : κ} {e : Entry σ α ι δ} {a : Action κ σ α ι δ}
    (unknown : D.entry k = none) (after : (apply ident D a).entry k = some e) :
    ∃ exempt, (a = .enroll k exempt ∨ (a = .discover k ∧ exempt = false)) ∧ e = .fresh exempt ∧
      apply ident D a = D.enroll k exempt := by
  cases a with
  | enroll k' exempt =>
    rw [apply,enroll_entry] at after
    split at after
    · rename_i same; subst same
      rw [unknown] at after
      cases after
      exact ⟨exempt,.inl rfl,rfl,rfl⟩
    · rw [unknown] at after; cases after
  | discover k' =>
    rw [apply] at after
    split at after
    · rw [unknown] at after; cases after
    · rename_i new
      rw [enroll_entry] at after
      split at after
      · rename_i same; subst same
        rw [unknown] at after
        cases after
        exact ⟨false,.inr ⟨rfl,rfl⟩,rfl,by rw [apply,if_neg new]⟩
      · rw [unknown] at after; cases after
  | leave k' => simp [apply,Function.update_apply,unknown] at after
  | grant s =>
    cases queue : D.waiting with
    | nil => simp only [apply,queue] at after; rw [unknown] at after; cases after
    | cons first rest =>
      simp only [apply,queue] at after
      split at after
      · rename_i same; subst same; simp [unknown] at after
      · simp [unknown] at after
  | revoke s => simp [apply,unknown] at after
  | ask k' _ | withdraw k' _ | take k' _ | decide k' _ _ =>
    rw [apply,modify_entry] at after
    split at after
    · rename_i same; subst same; simp [unknown] at after
    · rw [unknown] at after; cases after

/-- A client after an action was fresh, or comes from itself before. -/
theorem entry_apply {D : Directory κ σ α ι δ} {k : κ} {e : Entry σ α ι δ} {a : Action κ σ α ι δ}
    (after : (apply ident D a).entry k = some e) :
    (D.entry k = none ∧ ∃ exempt, e = .fresh exempt) ∨ ∃ e', D.entry k = some e' ∧ Changed ident D k e' a e := by
  cases before : D.entry k with
  | none =>
    obtain ⟨exempt,_,fresh,_⟩ := unknown_apply before after
    exact .inl ⟨rfl,exempt,fresh⟩
  | some e' =>
    rcases known_apply ident before a with ⟨_,gone⟩ | ⟨e₁,found,change⟩
    · rw [gone] at after; cases after
    · rw [found] at after
      cases after
      exact .inr ⟨e',rfl,change⟩

/-! ### Where leases, approvals and decisions come from -/

/-- A client that holds a lease held it before, or was the first to wait when it was granted. -/
theorem held_apply {D : Directory κ σ α ι δ} {a : Action κ σ α ι δ} {k : κ} {e : Entry σ α ι δ} {s : σ}
    (after : (apply ident D a).entry k = some e) (held : e.held = some s) :
    (∃ e', D.entry k = some e' ∧ e'.held = some s) ∨ (a = .grant s ∧ D.waiting.head? = some k) := by
  rcases entry_apply after with ⟨_,exempt,rfl⟩ | ⟨e',before,change⟩
  · cases held
  · cases change with
    | granted first => cases held; exact .inr ⟨rfl,first⟩
    | stolen _ _ _ => cases held
    | revoked _ => cases held
    | _ => exact .inl ⟨_,before,held⟩

/-- An approval that a client waits for was asked before, or is asked now. -/
theorem changed_asked {D : Directory κ σ α ι δ} {a : Action κ σ α ι δ} {k : κ} {e e' : Entry σ α ι δ}
    (change : Changed ident D k e' a e) {x : α} (asked : x ∈ e.asked) : x ∈ e'.asked ∨ a = .ask k x := by
  cases change with
  | asked =>
    rcases List.mem_append.mp asked with old | new
    · exact .inl old
    · rw [List.mem_singleton.mp new]; exact .inr rfl
  | withdrawn => exact .inl (List.mem_filter.mp asked).1
  | decided => exact .inl (List.mem_filter.mp asked).1
  | _ => exact .inl asked

/-- A decision that waits for a client waited before, or is given now. -/
theorem changed_decided {D : Directory κ σ α ι δ} {a : Action κ σ α ι δ} {k : κ} {e e' : Entry σ α ι δ}
    (change : Changed ident D k e' a e) {i : ι} {d : δ} (decided : e.decided i = some d) :
    e'.decided i = some d ∨ a = .decide k i d := by
  cases change with
  | asked =>
    simp only [Function.update_apply] at decided
    split at decided
    · cases decided
    · exact .inl decided
  | taken =>
    simp only [Function.update_apply] at decided
    split at decided
    · cases decided
    · exact .inl decided
  | decided =>
    simp only [Function.update_apply] at decided
    split at decided
    · rename_i same; subst same; cases decided; exact .inr rfl
    · exact .inl decided
  | _ => exact .inl decided

/-! ### Leases are exclusive -/

/-- Those who wait are known, hold no lease and wait once; no lease has two holders. -/
structure WellFormed (D : Directory κ σ α ι δ) : Prop where
  distinct : D.waiting.Nodup
  unheld : ∀ k ∈ D.waiting, ∃ e, D.entry k = some e ∧ e.held = none
  exclusive : ∀ k k' e e' s, D.entry k = some e → D.entry k' = some e' → e.held = some s → e'.held = some s → k = k'

theorem wellFormed_empty : WellFormed (⟨fun _ => none,[]⟩ : Directory κ σ α ι δ) :=
  ⟨List.nodup_nil,by simp,by simp⟩

/-- Who waits after an action waited before, or is entered by it without a lease. -/
theorem waiting_apply {D : Directory κ σ α ι δ} {a : Action κ σ α ι δ} {k : κ}
    (after : k ∈ (apply ident D a).waiting) : k ∈ D.waiting ∨
      ∃ exempt, apply ident D a = D.enroll k exempt ∧ (enrolled exempt (D.entry k)).held = none := by
  have enroll : ∀ k' exempt, k ∈ (D.enroll k' exempt).waiting → k ∈ D.waiting ∨
      (k = k' ∧ (enrolled exempt (D.entry k')).held = none) := by
    intro k' exempt member
    simp only [Directory.enroll] at member
    split at member
    · rename_i new
      rcases List.mem_append.mp member with old | last
      · exact .inl old
      · exact .inr ⟨List.mem_singleton.mp last,new.1⟩
    · exact .inl member
  cases a with
  | enroll k' exempt =>
    rcases enroll k' exempt after with old | ⟨rfl,none_held⟩
    · exact .inl old
    · exact .inr ⟨exempt,rfl,none_held⟩
  | discover k' =>
    rw [apply] at after
    split at after
    · exact .inl after
    · rename_i new
      rcases enroll k' false after with old | ⟨rfl,none_held⟩
      · exact .inl old
      · exact .inr ⟨false,by rw [apply,if_neg new],none_held⟩
  | leave k' => exact .inl (List.mem_filter.mp after).1
  | grant s =>
    cases queue : D.waiting with
    | nil => simp only [apply,queue] at after; cases after
    | cons first rest => simp only [apply,queue] at after; exact .inl (by simp [after])
  | _ => exact .inl after

variable (ident) in
/-- Who waits goes on waiting, unless it leaves or gets the lease. -/
theorem waiting_kept {D : Directory κ σ α ι δ} (a : Action κ σ α ι δ) {k : κ} (waits : k ∈ D.waiting) :
    k ∈ (apply ident D a).waiting ∨ a = .leave k ∨ ∃ s, a = .grant s ∧ D.waiting.head? = some k := by
  have enroll : ∀ k' exempt, k ∈ (D.enroll k' exempt).waiting := by
    intro k' exempt
    simp only [Directory.enroll]
    split
    · exact List.mem_append_left _ waits
    · exact waits
  cases a with
  | enroll k' exempt => exact .inl (enroll k' exempt)
  | discover k' =>
    left
    rw [apply]
    split
    · exact waits
    · exact enroll k' false
  | leave k' =>
    by_cases same : k = k'
    · subst same; exact .inr (.inl rfl)
    · exact .inl (List.mem_filter.mpr ⟨waits,by simpa using same⟩)
  | grant s =>
    cases queue : D.waiting with
    | nil => rw [queue] at waits; cases waits
    | cons first rest =>
      rw [queue] at waits
      rcases List.mem_cons.mp waits with rfl | later
      · exact .inr (.inr ⟨s,rfl,rfl⟩)
      · left; simp only [apply,queue]; exact later
  | _ => exact .inl waits

/-- After a grant the lease is with the first that waited; the other leases stay where they were. -/
theorem grant_held {D : Directory κ σ α ι δ} {s t : σ} {first k : κ} {rest : List κ} {e : Entry σ α ι δ}
    (queue : D.waiting = first :: rest) (after : (apply ident D (.grant s)).entry k = some e)
    (held : e.held = some t) :
    (k = first ∧ t = s) ∨ (k ≠ first ∧ t ≠ s ∧ ∃ e', D.entry k = some e' ∧ e'.held = some t) := by
  simp only [apply,queue] at after
  split at after
  · rename_i same
    obtain ⟨e',_,rfl⟩ := Option.map_eq_some_iff.mp after
    cases held
    exact .inl ⟨same,rfl⟩
  · rename_i other
    obtain ⟨e',found,rfl⟩ := Option.map_eq_some_iff.mp after
    obtain ⟨before,different⟩ := release_held.mp held
    exact .inr ⟨other,different,e',found,before⟩

theorem distinct_apply {D : Directory κ σ α ι δ} (valid : WellFormed D) (a : Action κ σ α ι δ) :
    (apply ident D a).waiting.Nodup := by
  have enroll : ∀ k exempt, (D.enroll k exempt).waiting.Nodup := by
    intro k exempt
    simp only [Directory.enroll]
    split
    · rename_i new
      exact List.nodup_append.mpr ⟨valid.distinct,List.nodup_singleton k,by
        intro x old y last same
        rw [List.mem_singleton] at last
        subst last same
        exact new.2.2 old⟩
    · exact valid.distinct
  cases a with
  | enroll k exempt => exact enroll k exempt
  | discover k =>
    rw [apply]
    split
    · exact valid.distinct
    · exact enroll k false
  | leave k => exact valid.distinct.filter _
  | grant s =>
    cases queue : D.waiting with
    | nil => simp only [apply,queue]; exact List.nodup_nil
    | cons first rest =>
      have distinct := valid.distinct
      rw [queue] at distinct
      simp only [apply,queue]
      exact distinct.of_cons
  | _ => exact valid.distinct

theorem unheld_apply {D : Directory κ σ α ι δ} (valid : WellFormed D) (a : Action κ σ α ι δ) :
    ∀ k ∈ (apply ident D a).waiting, ∃ e, (apply ident D a).entry k = some e ∧ e.held = none := by
  intro k waits
  rcases waiting_apply waits with old | ⟨exempt,same,none_held⟩
  · obtain ⟨e,found,none_held⟩ := valid.unheld k old
    rcases known_apply ident found a with ⟨rfl,_⟩ | ⟨e',after,change⟩
    · simp [apply] at waits
    · refine ⟨e',after,?_⟩
      cases change with
      | granted first =>
        cases queue : D.waiting with
        | nil => rw [queue] at first; cases first
        | cons head rest =>
          rw [queue] at first
          cases first
          have distinct := valid.distinct
          rw [queue] at distinct
          simp only [apply,queue] at waits
          exact absurd waits (List.nodup_cons.mp distinct).1
      | _ => first | exact none_held | rfl
  · exact ⟨_,by rw [same,enroll_entry,if_pos rfl],none_held⟩

theorem exclusive_apply {D : Directory κ σ α ι δ} (valid : WellFormed D) (a : Action κ σ α ι δ) (k k' : κ)
    (e e' : Entry σ α ι δ) (s : σ) (here : (apply ident D a).entry k = some e)
    (there : (apply ident D a).entry k' = some e') (held : e.held = some s) (held' : e'.held = some s) : k = k' := by
  rcases held_apply here held with ⟨e₁,before,old⟩ | ⟨rfl,first⟩
  · rcases held_apply there held' with ⟨e₂,before',old'⟩ | ⟨rfl,first'⟩
    · exact valid.exclusive k k' e₁ e₂ s before before' old old'
    · obtain ⟨rest,queue⟩ := List.head?_eq_some_iff.mp first'
      rcases grant_held queue here held with ⟨same,_⟩ | ⟨_,different,_⟩
      · exact same
      · exact absurd rfl different
  · obtain ⟨rest,queue⟩ := List.head?_eq_some_iff.mp first
    rcases grant_held queue there held' with ⟨same,_⟩ | ⟨_,different,_⟩
    · exact same.symm
    · exact absurd rfl different

theorem wellFormed_apply {D : Directory κ σ α ι δ} (a : Action κ σ α ι δ) (valid : WellFormed D) :
    WellFormed (apply ident D a) :=
  ⟨distinct_apply valid a,unheld_apply valid a,exclusive_apply valid a⟩

/-! ### Everybody who needs a lease holds one or waits for one -/

/-- A client without a lease waits for one, if it needs one. -/
def Served (D : Directory κ σ α ι δ) : Prop :=
  ∀ k e, D.entry k = some e → e.exempt = false → e.held = none → k ∈ D.waiting

/-- The action takes its lease from a client that needs one. -/
def Strands (D : Directory κ σ α ι δ) : Action κ σ α ι δ → Prop
  | .grant s => D.waiting ≠ [] ∧ ∃ k e, D.entry k = some e ∧ e.exempt = false ∧ e.held = some s
  | .revoke s => ∃ k e, D.entry k = some e ∧ e.exempt = false ∧ e.held = some s
  | _ => False

theorem served_kept {D : Directory κ σ α ι δ} {a : Action κ σ α ι δ} (served : Served D) (safe : ¬ Strands D a) :
    Served (apply ident D a) := by
  intro k e after needs without
  cases before : D.entry k with
  | none =>
    obtain ⟨exempt,_,rfl,same⟩ := unknown_apply before after
    simp only [Entry.fresh] at needs
    subst needs
    rw [same]
    simp only [Directory.enroll,enrolled,before,Entry.fresh]
    split
    · simp
    · rename_i old; simp at old; exact old
  | some e' =>
    -- It waited before, so it waits now or the action answered it.
    have kept : e'.exempt = false → e'.held = none → k ∈ (apply ident D a).waiting := by
      intro needs' without'
      rcases waiting_kept ident a (served k e' before needs' without') with waits | rfl | ⟨s,rfl,first⟩
      · exact waits
      · simp [apply] at after
      · obtain ⟨rest,queue⟩ := List.head?_eq_some_iff.mp first
        simp only [apply,queue,↓reduceIte,before,Option.map_some] at after
        cases after
        cases without
    rcases known_apply ident before a with ⟨_,gone⟩ | ⟨e₁,found,change⟩
    · rw [gone] at after; cases after
    · rw [found] at after
      cases after
      cases change with
      | exempted =>
        simp only at needs without
        subst needs
        simp only [apply,Directory.enroll,enrolled,before]
        split
        · simp
        · rename_i old; simp [without] at old; exact old
      | granted _ => cases without
      | stolen had other _ => exact absurd ⟨other,k,e',before,needs,had⟩ safe
      | revoked had => exact absurd ⟨k,e',before,needs,had⟩ safe
      | _ => exact kept needs without

theorem stranded {D : Directory κ σ α ι δ} {a : Action κ σ α ι δ} (valid : WellFormed D) (strands : Strands D a) :
    ¬ Served (apply ident D a) := by
  intro served
  have holds_not_waits : ∀ k e s, D.entry k = some e → e.held = some s → k ∉ D.waiting := by
    intro k e s found held waits
    obtain ⟨e',found',without⟩ := valid.unheld k waits
    rw [found] at found'
    cases found'
    rw [held] at without
    cases without
  cases a with
  | grant s =>
    obtain ⟨other,k,e,found,needs,held⟩ := strands
    have out := holds_not_waits k e s found held
    obtain ⟨first,rest,queue⟩ := List.exists_cons_of_ne_nil other
    rw [queue] at out
    have notFirst : k ≠ first := fun same => out (by simp [same])
    have after : (apply ident D (.grant s)).entry k = some { e with held := none } := by
      simp [apply,queue,notFirst,found,Entry.release,held]
    have waits := served k _ after needs rfl
    simp only [apply,queue] at waits
    exact out (by simp [waits])
  | revoke s =>
    obtain ⟨k,e,found,needs,held⟩ := strands
    have after : (apply ident D (.revoke s)).entry k = some { e with held := none } := by
      simp [apply,found,Entry.release,held]
    exact holds_not_waits k e s found held (served k _ after needs rfl)
  | _ => exact strands

/-! ### Exempt clients -/

/-- An exempt client holds no lease and waits for none. -/
def Unburdened (D : Directory κ σ α ι δ) : Prop :=
  ∀ k e, D.entry k = some e → e.exempt = true → e.held = none ∧ k ∉ D.waiting

/-- The action exempts a client that holds a lease or waits for one. -/
def Burdens (D : Directory κ σ α ι δ) : Action κ σ α ι δ → Prop
  | .enroll k true => k ∈ D.waiting ∨ ∃ e, D.entry k = some e ∧ e.held ≠ none
  | _ => False

/-- No action makes an exempt client wait. -/
theorem exempt_waiting {D : Directory κ σ α ι δ} {a : Action κ σ α ι δ} {k : κ} {e : Entry σ α ι δ}
    (after : (apply ident D a).entry k = some e) (exempt : e.exempt = true) (waits : k ∈ (apply ident D a).waiting) :
    k ∈ D.waiting := by
  rcases waiting_apply waits with old | ⟨exempt',same,_⟩
  · exact old
  · have entered : enrolled exempt' (D.entry k) = e := by
      rw [same,enroll_entry,if_pos rfl] at after
      exact Option.some.inj after
    have exempt_now : exempt' = true := by
      rw [← exempt,← entered]
      cases D.entry k <;> rfl
    rw [same,exempt_now] at waits
    simpa [Directory.enroll] using waits

theorem unburdened_kept {D : Directory κ σ α ι δ} {a : Action κ σ α ι δ} (valid : WellFormed D)
    (unburdened : Unburdened D) (safe : ¬ Burdens D a) : Unburdened (apply ident D a) := by
  intro k e after exempt
  have queue := exempt_waiting after exempt
  rcases entry_apply after with ⟨unknown,exempt',rfl⟩ | ⟨e',before,change⟩
  · refine ⟨rfl,fun waits => ?_⟩
    obtain ⟨e',found,_⟩ := valid.unheld k (queue waits)
    rw [unknown] at found
    cases found
  · have kept : e'.exempt = true → e.held = e'.held → e.held = none ∧ k ∉ (apply ident D a).waiting := by
      intro exempt' held
      obtain ⟨none_held,out⟩ := unburdened k e' before exempt'
      exact ⟨held.trans none_held,fun waits => out (queue waits)⟩
    cases change with
    | exempted =>
      simp only at exempt
      subst exempt
      constructor
      · by_contra held
        exact safe (.inr ⟨e',before,held⟩)
      · intro waits
        exact safe (.inl (queue waits))
    | granted first => exact absurd (List.mem_of_head? first) (unburdened k e' before exempt).2
    | stolen _ _ _ => exact ⟨rfl,fun waits => (unburdened k e' before exempt).2 (queue waits)⟩
    | revoked _ => exact ⟨rfl,fun waits => (unburdened k e' before exempt).2 (queue waits)⟩
    | _ => exact kept exempt rfl

theorem burdened {D : Directory κ σ α ι δ} {a : Action κ σ α ι δ} (burdens : Burdens D a) :
    ¬ Unburdened (apply ident D a) := by
  intro unburdened
  cases a with
  | enroll k exempt =>
    cases exempt with
    | false => exact burdens
    | true =>
      have after : (apply ident D (.enroll k true)).entry k = some (enrolled true (D.entry k)) := by
        rw [apply,enroll_entry,if_pos rfl]
      obtain ⟨none_held,out⟩ := unburdened k _ after (by cases D.entry k <;> rfl)
      rcases burdens with waits | ⟨e,found,held⟩
      · exact out (by simpa [apply,Directory.enroll] using waits)
      · rw [found] at none_held
        exact held none_held
  | _ => exact burdens

/-! ### Approvals -/

/-- The client waits for the approval `i`. -/
def Entry.Asks (ident : α → ι) (e : Entry σ α ι δ) (i : ι) : Prop := ∃ x ∈ e.asked, ident x = i

/-- No approval is both waited for and decided. -/
def Settled (ident : α → ι) (D : Directory κ σ α ι δ) : Prop :=
  ∀ k e i, D.entry k = some e → e.Asks ident i → e.decided i = none

theorem asks_filter {e : Entry σ α ι δ} {i j : ι} {f : ι → Option δ} :
    Entry.Asks ident { e with asked := e.asked.filter (fun x => ident x ≠ i), decided := f } j ↔
      e.Asks ident j ∧ j ≠ i := by
  simp only [Entry.Asks,List.mem_filter,decide_eq_true_eq]
  constructor
  · rintro ⟨x,⟨member,other⟩,rfl⟩; exact ⟨⟨x,member,rfl⟩,other⟩
  · rintro ⟨⟨x,member,rfl⟩,other⟩; exact ⟨x,⟨member,other⟩,rfl⟩

theorem asks_append {e : Entry σ α ι δ} {y : α} {j : ι} {f : ι → Option δ} :
    Entry.Asks ident { e with asked := e.asked ++ [y], decided := f } j ↔ e.Asks ident j ∨ j = ident y := by
  simp only [Entry.Asks,List.mem_append,List.mem_singleton]
  constructor
  · rintro ⟨x,member | rfl,rfl⟩
    · exact .inl ⟨x,member,rfl⟩
    · exact .inr rfl
  · rintro (⟨x,member,rfl⟩ | rfl)
    · exact ⟨x,.inl member,rfl⟩
    · exact ⟨y,.inr rfl,rfl⟩

theorem settled_apply {D : Directory κ σ α ι δ} (a : Action κ σ α ι δ) (settled : Settled ident D) :
    Settled ident (apply ident D a) := by
  intro k e i after asks
  rcases entry_apply after with ⟨_,exempt,rfl⟩ | ⟨e',before,change⟩
  · rfl
  · have old := settled k e' i before
    cases change with
    | asked =>
      simp only [Function.update_apply]
      split
      · rfl
      · rename_i other
        rcases asks_append.mp asks with asks | same
        · exact old asks
        · exact absurd same other
    | withdrawn => exact old (asks_filter.mp asks).1
    | taken =>
      simp only [Function.update_apply]
      split
      · rfl
      · exact old asks
    | decided =>
      obtain ⟨asks,other⟩ := asks_filter.mp asks
      simp only [Function.update_apply,if_neg other]
      exact old asks
    | _ => exact old asks

/-- An action that does not concern the approval `i` of a client leaves it as it is. -/
theorem approval_kept {D : Directory κ σ α ι δ} {a : Action κ σ α ι δ} {k : κ} {e e' : Entry σ α ι δ} {i : ι}
    (change : Changed ident D k e a e') (noAsk : ∀ x, a = .ask k x → ident x ≠ i) (noWithdraw : a ≠ .withdraw k i)
    (noTake : a ≠ .take k i) (noDecision : ∀ d, a ≠ .decide k i d) :
    (e'.Asks ident i ↔ e.Asks ident i) ∧ e'.decided i = e.decided i := by
  cases change with
  | @asked x =>
    have other : i ≠ ident x := fun same => noAsk x rfl same.symm
    exact ⟨asks_append.trans (or_iff_left other),by simp only [Function.update_apply,if_neg other]⟩
  | @withdrawn j =>
    have other : i ≠ j := fun same => noWithdraw (by rw [same])
    exact ⟨asks_filter.trans (and_iff_left other),rfl⟩
  | @taken j =>
    have other : i ≠ j := fun same => noTake (by rw [same])
    exact ⟨Iff.rfl,by simp only [Function.update_apply,if_neg other]⟩
  | @decided j d =>
    have other : i ≠ j := fun same => noDecision d (by rw [same])
    exact ⟨asks_filter.trans (and_iff_left other),by simp only [Function.update_apply,if_neg other]⟩
  | _ => exact ⟨Iff.rfl,rfl⟩

end
end Leases
