import Mathlib.Data.List.Infix
import VibeBridge.Dict
import VibeBridge.Python.HidProtocol

/-!
The router of the terminal streams (`vt100_router.py`): a buffer for each
session, and the active one. Where the source calls its screen sink, an
operation returns the call; the daemon always has a sink. `replay_active` is
left out: nothing calls it.
-/
namespace VibeBridge.Python

def DEFAULT_BUFFER_BYTES : Nat := 64 * 1024

def SCREEN_CLEAR : List UInt8 := [0x1b, 0x5b, 0x32, 0x4a, 0x1b, 0x5b, 0x48]

structure Vt100Router where
  buffer_bytes : Nat
  buffers : Dict Nat (List (List UInt8))
  sizes : Dict Nat Nat
  active : Option Nat
  deriving DecidableEq

def Vt100Router.new : Vt100Router := ⟨DEFAULT_BUFFER_BYTES,.empty,.empty,none⟩

/-- A call of the screen sink: the sid and the bytes. -/
abbrev ScreenCall := Option (Nat × List UInt8)

def Vt100Router.snapshot (router : Vt100Router) (sid : Nat) : List UInt8 := ((router.buffers.get sid).getD []).flatten

def Vt100Router.register (router : Vt100Router) (sid : Nat) : Vt100Router :=
  { router with
    buffers := router.buffers.setdefault sid []
    sizes := router.sizes.setdefault sid 0
    active := if router.active.isNone then some sid else router.active }

def Vt100Router.unregister (router : Vt100Router) (sid : Nat) : Vt100Router × ScreenCall :=
  let buffers := router.buffers.pop sid
  let sizes := router.sizes.pop sid
  if router.active = some sid then
    let replacement := buffers.keys.head?
    let router := { router with buffers := buffers, sizes := sizes, active := replacement }
    match replacement with
    | none => (router,some (sid,SCREEN_CLEAR))
    | some replacement => (router,some (replacement,SCREEN_CLEAR ++ router.snapshot replacement))
  else ({ router with buffers := buffers, sizes := sizes },none)

def Vt100Router.set_active (router : Vt100Router) (sid : Option Nat) : Vt100Router × Bool × ScreenCall :=
  match sid with
  | none =>
    if router.active = none then (router,true,none)
    else ({ router with active := none },true,some (0,SCREEN_CLEAR))
  | some sid =>
    if sid ∉ router.buffers.keys then (router,false,none)
    else if router.active = some sid then (router,true,none)
    else ({ router with active := some sid },true,some (sid,SCREEN_CLEAR ++ router.snapshot sid))

/-- The loop of `_evict_locked`: the chunks that stay, and their size. -/
def evict (buffer_bytes : Nat) : List (List UInt8) → Nat → List (List UInt8) × Nat
  | [], size => ([],size)
  | dropped :: rest, size =>
    if size > buffer_bytes then evict buffer_bytes rest (size - dropped.length) else (dropped :: rest,size)

def Vt100Router.append (router : Vt100Router) (sid : Nat) (data : List UInt8) : Vt100Router × ScreenCall :=
  if data.isEmpty then (router,none)
  else
    let chunks := ((router.buffers.get sid).getD []) ++ [data]
    let size := ((router.sizes.get sid).getD 0) + data.length
    let kept := evict router.buffer_bytes chunks size
    let router := { router with
      buffers := router.buffers.set sid kept.1
      sizes := router.sizes.set sid kept.2 }
    (router,if router.active = some sid then some (sid,data) else none)

/-! ## Which windows there are -/

/-- The sid has a buffer. -/
def Vt100Router.Has (router : Vt100Router) (sid : Nat) : Prop := sid ∈ router.buffers.keys

/-- The active window, if there is one, has a buffer. -/
def Vt100Router.Selects (router : Vt100Router) : Prop := ∀ sid, router.active = some sid → router.Has sid

section
variable {router : Vt100Router} {sid sid' : Nat}

theorem has_register : (router.register sid).Has sid' ↔ sid' = sid ∨ router.Has sid' := Dict.mem_setdefault

theorem selects_register (selects : router.Selects) : (router.register sid).Selects := by
  intro window active
  rw [has_register]
  simp only [Vt100Router.register] at active
  split at active
  · exact .inl (Option.some.inj active).symm
  · exact .inr (selects window active)

/-- The buffer of the sid goes, and the window that takes the place of the active one is another one that is there. -/
theorem unregister_router : (router.unregister sid).1 = { router with
    buffers := router.buffers.pop sid
    sizes := router.sizes.pop sid
    active := if router.active = some sid then (router.buffers.pop sid).keys.head? else router.active } := by
  unfold Vt100Router.unregister
  by_cases active : router.active = some sid
  · simp only [if_pos active]
    split <;> simp_all
  · simp only [if_neg active]

theorem buffers_unregister : (router.unregister sid).1.buffers = router.buffers.pop sid := by rw [unregister_router]

theorem has_unregister : (router.unregister sid).1.Has sid' ↔ router.Has sid' ∧ sid' ≠ sid := by
  rw [Vt100Router.Has,buffers_unregister]
  exact Dict.mem_pop

theorem active_unregister : (router.unregister sid).1.active =
    if router.active = some sid then (router.buffers.pop sid).keys.head? else router.active := by rw [unregister_router]

theorem selects_unregister (selects : router.Selects) : (router.unregister sid).1.Selects := by
  intro window active
  rw [active_unregister] at active
  rw [has_unregister]
  split at active
  · exact Dict.mem_pop.mp (List.mem_of_head? active)
  · rename_i other
    refine ⟨selects window active,?_⟩
    rintro rfl
    exact other active

theorem has_append (there : router.Has sid) {data : List UInt8} : (router.append sid data).1.Has sid' ↔ router.Has sid' := by
  unfold Vt100Router.append
  split
  · exact Iff.rfl
  · refine Dict.mem_set.trans ⟨?_,.inr⟩
    rintro (rfl | has)
    · exact there
    · exact has

theorem active_append {data : List UInt8} : (router.append sid data).1.active = router.active := by
  unfold Vt100Router.append
  split <;> rfl

theorem selects_append (there : router.Has sid) (selects : router.Selects) {data : List UInt8} :
    (router.append sid data).1.Selects := by
  intro window active
  rw [active_append] at active
  exact (has_append there).mpr (selects window active)

theorem has_set_active {chosen : Option Nat} : (router.set_active chosen).1.Has sid' ↔ router.Has sid' := by
  cases chosen with
  | none => unfold Vt100Router.set_active; simp only; split <;> exact Iff.rfl
  | some sid =>
    unfold Vt100Router.set_active
    simp only
    split
    · exact Iff.rfl
    · split <;> exact Iff.rfl

theorem selects_set_active (selects : router.Selects) {chosen : Option Nat} : (router.set_active chosen).1.Selects := by
  intro window active
  rw [has_set_active]
  cases chosen with
  | none =>
    unfold Vt100Router.set_active at active
    simp only at active
    split at active
    · exact selects window active
    · cases active
  | some sid =>
    unfold Vt100Router.set_active at active
    simp only at active
    split at active
    · exact selects window active
    · rename_i there
      split at active
      · exact selects window active
      · cases active
        exact not_not.mp there

theorem active_set_active (there : router.Has sid) : (router.set_active (some sid)).1.active = some sid := by
  simp only [Vt100Router.set_active]
  split
  · rename_i absent
    exact absurd there absent
  · split
    · rename_i active
      exact active
    · rfl

/-! ## What the buffers hold -/

theorem snapshot_absent (absent : ¬ router.Has sid) : router.snapshot sid = [] := by
  rw [Vt100Router.snapshot,Dict.get_none.mpr absent]
  rfl

theorem snapshot_register : (router.register sid).snapshot sid' = router.snapshot sid' := by
  simp only [Vt100Router.snapshot,Vt100Router.register,Dict.get_setdefault]
  by_cases same : sid' = sid
  · simp [same]
  · simp [same]

theorem snapshot_unregister : (router.unregister sid).1.snapshot sid' = if sid' = sid then [] else router.snapshot sid' := by
  rw [Vt100Router.snapshot,buffers_unregister,Dict.get_pop]
  by_cases same : sid' = sid
  · simp [same]
  · simp [same,Vt100Router.snapshot]

theorem snapshot_set_active {chosen : Option Nat} : (router.set_active chosen).1.snapshot sid' = router.snapshot sid' := by
  cases chosen with
  | none =>
    simp only [Vt100Router.set_active]
    split <;> rfl
  | some sid =>
    simp only [Vt100Router.set_active]
    split
    · rfl
    · split <;> rfl

/-- What is dropped from a buffer is dropped from its start. -/
theorem evict_suffix (buffer_bytes : Nat) (chunks : List (List UInt8)) (size : Nat) :
    (evict buffer_bytes chunks size).1 <:+ chunks := by
  induction chunks generalizing size with
  | nil => exact List.suffix_rfl
  | cons dropped rest ih =>
    rw [evict]
    split
    · exact (ih _).trans (List.suffix_cons dropped rest)
    · exact List.suffix_rfl

theorem snapshot_append {data : List UInt8} : (router.append sid data).1.snapshot sid <:+ router.snapshot sid ++ data := by
  unfold Vt100Router.append
  split
  · rename_i empty
    rw [List.isEmpty_iff.mp empty,List.append_nil]
  · rw [Vt100Router.snapshot,Dict.get_set,if_pos rfl]
    have kept := (evict_suffix router.buffer_bytes (((router.buffers.get sid).getD []) ++ [data])
      (((router.sizes.get sid).getD 0) + data.length)).flatten
    rwa [List.flatten_append,List.flatten_singleton] at kept

theorem snapshot_append_other {data : List UInt8} (other : sid' ≠ sid) :
    (router.append sid data).1.snapshot sid' = router.snapshot sid' := by
  unfold Vt100Router.append
  split
  · rfl
  · rw [Vt100Router.snapshot,Dict.get_set,if_neg other]
    rfl

end
end VibeBridge.Python
