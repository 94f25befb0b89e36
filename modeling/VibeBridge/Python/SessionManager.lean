import VibeBridge.Dict
import VibeBridge.Python.HidProtocol

/-!
The session manager (`session_manager.py`). The readings of the clock are
arguments: the one that `_reap_expired_locked` takes, and the one that a session
is stamped with. The invalidation callback works on other objects than the
manager, so an operation returns what it tells the callback, in order, and its
caller runs the callback. A session is found under its sid; its plugin, its
directory and its context are only written to the state file.
-/
namespace VibeBridge.Python

structure Session where
  last_active_ms : Int
  deriving DecidableEq

structure SessionManager where
  max : Nat
  ttl_ms : Int
  sessions : Dict Nat Session
  next_sid : Nat
  /-- What the constructor checks. -/
  in_range : 0 < max ∧ max ≤ 0xFFFF
  /-- Sids are counted from 1. -/
  positive : 0 < next_sid
  deriving DecidableEq

/-- `SessionManager.__init__`, or the text of its `ValueError`. -/
def SessionManager.new (max_sessions : Nat) (ttl_seconds : Int) : Except String SessionManager :=
  if h : 0 < max_sessions ∧ max_sessions ≤ 0xFFFF then .ok ⟨max_sessions,ttl_seconds * 1000,.empty,1,h,by decide⟩
  else .error s!"max_sessions out of range: {max_sessions}"

/-- The table that an operation leaves, what it told the callback, and what it returns. -/
structure Outcome (α : Type) where
  manager : SessionManager
  told : List (Nat × Status)
  result : α

/-! ## Queries -/

def SessionManager.get (manager : SessionManager) (sid : Nat) : Option Session := manager.sessions.get sid

/-- The sids of `all_sessions`, in order. -/
def SessionManager.all_sids (manager : SessionManager) : List Nat := manager.sessions.keys.mergeSort (fun a b => a ≤ b)

/-! ## Internals -/

def SessionManager.invalidate_locked (manager : SessionManager) (sid : Nat) : SessionManager :=
  { manager with sessions := manager.sessions.pop sid }

def SessionManager.reap_expired_locked (manager : SessionManager) (now : Int) : Outcome (List Nat) :=
  let cutoff := now - manager.ttl_ms
  let expired := (manager.sessions.items.filter (fun s => s.2.last_active_ms < cutoff)).map Prod.fst
  ⟨expired.foldl SessionManager.invalidate_locked manager,expired.map (fun sid => (sid,.EXPIRED)),expired⟩

/-- The first of the sessions that were active least recently. -/
def SessionManager.pick_lru_locked (manager : SessionManager) : Option Nat :=
  (manager.sessions.items.minOn? (fun s => s.2.last_active_ms)).map Prod.fst

def SessionManager.advance_next_sid_locked (manager : SessionManager) : SessionManager :=
  { manager with
    next_sid := if manager.next_sid + 1 > manager.max then 1 else manager.next_sid + 1
    positive := by split <;> omega }

/-- The loop of `_allocate_sid_locked`: nothing when it ends in its `RuntimeError`. -/
def SessionManager.probe (manager : SessionManager) : Nat → SessionManager × Option Nat
  | 0 => (manager,none)
  | turns + 1 =>
    let candidate := manager.next_sid
    let manager := manager.advance_next_sid_locked
    if candidate ∉ manager.sessions.keys then (manager,some candidate) else manager.probe turns

def SessionManager.allocate_sid_locked (manager : SessionManager) : SessionManager × Option Nat :=
  manager.probe manager.max

/-- A full table loses a session, where there is one. -/
def SessionManager.make_room (manager : SessionManager) : Option (SessionManager × List Nat) :=
  if manager.sessions.keys.length ≥ manager.max then
    match manager.pick_lru_locked with
    | some victim => some (manager.invalidate_locked victim,[victim])
    | none => none
  else some (manager,[])

def SessionManager.create (manager : SessionManager) (sid : Nat) (now : Int) : SessionManager :=
  { manager with sessions := manager.sessions.set sid ⟨now⟩ }

/-! ## Operations -/

/-- Allocates a session: its sid, a status and the sids that made room, or nothing after a `RuntimeError`. -/
def SessionManager.request_session (manager : SessionManager) (reaped now : Int) :
    Outcome (Option (Nat × Status × List Nat)) :=
  let r := manager.reap_expired_locked reaped
  match r.manager.make_room with
  | none => ⟨r.manager,r.told,some (0,.POOL_FULL,[])⟩
  | some (manager,evicted) =>
    let told := r.told ++ evicted.map (fun sid => (sid,.RECLAIMED))
    match manager.allocate_sid_locked with
    | (manager,none) => ⟨manager,told,none⟩
    | (manager,some sid) => ⟨manager.create sid now,told,some (sid,.CREATED,evicted)⟩

/-- Registers a sid that the board allocated. -/
def SessionManager.adopt_session (manager : SessionManager) (sid : Nat) (reaped now : Int) :
    Outcome (Nat × Status × List Nat) :=
  if sid = 0 ∨ sid > manager.max then ⟨manager,[],(0,.INVALID,[])⟩
  else
    let r := manager.reap_expired_locked reaped
    let room := if sid ∈ r.manager.sessions.keys then some (r.manager.invalidate_locked sid,[sid]) else r.manager.make_room
    match room with
    | none => ⟨r.manager,r.told,(0,.POOL_FULL,[])⟩
    | some (manager,evicted) =>
      ⟨(manager.create sid now).advance_next_sid_locked,r.told ++ evicted.map (fun sid => (sid,.RECLAIMED)),
        (sid,.CREATED,evicted)⟩

def SessionManager.touch (manager : SessionManager) (sid : Nat) (now : Int) : SessionManager :=
  match manager.sessions.get sid with
  | some _ => { manager with sessions := manager.sessions.set sid ⟨now⟩ }
  | none => manager

def SessionManager.invalidate (manager : SessionManager) (sid : Nat) (status : Status) : Outcome Bool :=
  if sid ∈ manager.sessions.keys then ⟨manager.invalidate_locked sid,[(sid,status)],true⟩ else ⟨manager,[],false⟩

def SessionManager.reap_expired (manager : SessionManager) (now : Int) : Outcome (List Nat) :=
  manager.reap_expired_locked now

/-! ## What an operation does to the live sids -/

def SessionManager.Live (manager : SessionManager) (sid : Nat) : Prop := sid ∈ manager.sessions.keys

instance (manager : SessionManager) (sid : Nat) : Decidable (manager.Live sid) :=
  inferInstanceAs (Decidable (sid ∈ manager.sessions.keys))

/-- Exactly the sids that the callback was told are live no more. -/
def Closes (manager manager' : SessionManager) (told : List (Nat × Status)) : Prop :=
  ∀ sid, manager'.Live sid ↔ manager.Live sid ∧ sid ∉ told.map Prod.fst

theorem closes_refl (manager : SessionManager) : Closes manager manager [] := by
  intro sid
  simp

theorem closes_trans {a b c : SessionManager} {told told' : List (Nat × Status)} (first : Closes a b told)
    (second : Closes b c told') : Closes a c (told ++ told') := by
  intro sid
  rw [second sid,first sid,List.map_append,List.mem_append,not_or,and_assoc]

theorem invalidate_live {manager : SessionManager} {sid sid' : Nat} :
    (manager.invalidate_locked sid').Live sid ↔ manager.Live sid ∧ sid ≠ sid' := Dict.mem_pop

theorem closes_one (manager : SessionManager) (sid : Nat) (status : Status) :
    Closes manager (manager.invalidate_locked sid) [(sid,status)] := by
  intro sid'
  rw [invalidate_live]
  simp

theorem closes_reap (manager : SessionManager) (now : Int) :
    Closes manager (manager.reap_expired_locked now).manager (manager.reap_expired_locked now).told := by
  have all : ∀ (sids : List Nat) (manager : SessionManager) (sid : Nat),
      (sids.foldl SessionManager.invalidate_locked manager).Live sid ↔ manager.Live sid ∧ sid ∉ sids := by
    intro sids
    induction sids with
    | nil => intro manager sid; simp
    | cons first rest ih =>
      intro manager sid
      rw [List.foldl_cons,ih,invalidate_live,List.mem_cons,not_or,and_assoc]
  intro sid
  simp [SessionManager.reap_expired_locked,all]

theorem closes_room {manager manager' : SessionManager} {evicted : List Nat}
    (room : manager.make_room = some (manager',evicted)) :
    Closes manager manager' (evicted.map (fun sid => (sid,.RECLAIMED))) := by
  unfold SessionManager.make_room at room
  split at room
  · split at room
    · cases room
      exact closes_one manager _ _
    · cases room
  · cases room
    exact closes_refl manager

/-- There is always a session to make room, as the table can hold one. -/
theorem room_there (manager : SessionManager) : ∃ room, manager.make_room = some room := by
  unfold SessionManager.make_room
  split
  · rename_i full
    have positive := manager.in_range.1
    cases lru : manager.pick_lru_locked with
    | some victim => exact ⟨_,rfl⟩
    | none =>
      rw [SessionManager.pick_lru_locked,Option.map_eq_none_iff] at lru
      have empty : manager.sessions.items = [] := by
        by_contra some_live
        have found : (manager.sessions.items.minOn? (fun s => s.2.last_active_ms)).isSome := List.isSome_minOn?_iff.mpr some_live
        rw [lru] at found
        cases found
      simp [Dict.keys,empty] at full
      omega
  · exact ⟨_,rfl⟩

theorem probe_live (turns : Nat) (manager : SessionManager) :
    (∀ sid, (manager.probe turns).1.Live sid ↔ manager.Live sid) ∧
      ∀ sid, (manager.probe turns).2 = some sid → ¬ manager.Live sid ∧ 0 < sid := by
  induction turns generalizing manager with
  | zero => exact ⟨fun _ => Iff.rfl,fun _ none => by cases none⟩
  | succ turns ih =>
    rw [SessionManager.probe]
    split
    · rename_i free
      refine ⟨fun _ => Iff.rfl,?_⟩
      intro sid found
      cases found
      exact ⟨free,manager.positive⟩
    · exact ih manager.advance_next_sid_locked

/-- A sid is opened: some others are closed, the sid is not live after that, and then it is. -/
structure Opens (manager manager' : SessionManager) (told : List (Nat × Status)) (sid : Nat) : Prop where
  positive : 0 < sid
  fresh : manager.Live sid → sid ∈ told.map Prod.fst
  live : ∀ sid', manager'.Live sid' ↔ sid' = sid ∨ (manager.Live sid' ∧ sid' ∉ told.map Prod.fst)

theorem create_live {manager : SessionManager} {sid sid' : Nat} {now : Int} :
    (manager.create sid now).Live sid' ↔ sid' = sid ∨ manager.Live sid' := Dict.mem_set

theorem opens_create {manager mid manager' : SessionManager} {told : List (Nat × Status)} {sid : Nat} (now : Int)
    (positive : 0 < sid) (closes : Closes manager mid told) (free : ¬ mid.Live sid)
    (same : ∀ sid', manager'.Live sid' ↔ (mid.create sid now).Live sid') : Opens manager manager' told sid := by
  refine ⟨positive,?_,?_⟩
  · intro live
    by_contra kept
    exact free ((closes sid).mpr ⟨live,kept⟩)
  · intro sid'
    rw [same,create_live,closes]

/-- A request for a session closes some and opens the one that it returns, unless it raises. -/
theorem request_opens (manager : SessionManager) (reaped now : Int) :
    let o := manager.request_session reaped now
    (∃ sid evicted, o.result = some (sid,.CREATED,evicted) ∧ evicted ⊆ o.told.map Prod.fst ∧
        Opens manager o.manager o.told sid) ∨
      (o.result = none ∧ Closes manager o.manager o.told) := by
  intro o
  have reap := closes_reap manager reaped
  obtain ⟨⟨room,evicted⟩,found⟩ := room_there (manager.reap_expired_locked reaped).manager
  have closed := closes_trans reap (closes_room found)
  obtain ⟨same,free⟩ := probe_live room.max room
  simp only [o,SessionManager.request_session,found]
  split
  · rename_i manager' none
    refine .inr ⟨rfl,?_⟩
    intro sid
    rw [← closed sid,← same sid,← SessionManager.allocate_sid_locked,none]
  · rename_i manager' sid allocated
    rw [SessionManager.allocate_sid_locked] at allocated
    rw [allocated] at same free
    refine .inl ⟨sid,evicted,rfl,?_,opens_create now (free sid rfl).2 closed (free sid rfl).1 ?_⟩
    · intro victim member
      simp [member]
    · intro sid'
      rw [create_live,create_live,same]

/-- The sids that the board can allocate. -/
def SessionManager.Usable (manager : SessionManager) (sid : Nat) : Prop := 0 < sid ∧ sid ≤ manager.max

instance (manager : SessionManager) (sid : Nat) : Decidable (manager.Usable sid) := inferInstanceAs (Decidable (_ ∧ _))

/-- A sid that is out of range is not adopted. -/
theorem adopt_outside {manager : SessionManager} {sid : Nat} (outside : ¬ manager.Usable sid) (reaped now : Int) :
    manager.adopt_session sid reaped now = ⟨manager,[],(0,.INVALID,[])⟩ := by
  unfold SessionManager.Usable at outside
  rw [SessionManager.adopt_session,if_pos (by omega)]

/-- An adoption closes some sessions and opens the one that the board allocated. -/
theorem adopt_opens {manager : SessionManager} {sid : Nat} (usable : manager.Usable sid) (reaped now : Int) :
    let o := manager.adopt_session sid reaped now
    (∃ evicted, o.result = (sid,.CREATED,evicted)) ∧ Opens manager o.manager o.told sid := by
  intro o
  have reap := closes_reap manager reaped
  have room : ∃ room evicted, (if sid ∈ (manager.reap_expired_locked reaped).manager.sessions.keys then
      some ((manager.reap_expired_locked reaped).manager.invalidate_locked sid,[sid])
      else (manager.reap_expired_locked reaped).manager.make_room) = some (room,evicted) ∧
      Closes (manager.reap_expired_locked reaped).manager room (evicted.map (fun sid => (sid,.RECLAIMED))) ∧
        ¬ room.Live sid := by
    split
    · exact ⟨_,_,rfl,closes_one _ sid _,by rw [invalidate_live]; simp⟩
    · rename_i free
      obtain ⟨⟨room,evicted⟩,found⟩ := room_there (manager.reap_expired_locked reaped).manager
      have closes := closes_room found
      exact ⟨room,evicted,found,closes,fun live => free ((closes sid).mp live).1⟩
  obtain ⟨room,evicted,found,closes,free⟩ := room
  unfold SessionManager.Usable at usable
  simp only [o,SessionManager.adopt_session,if_neg (show ¬ (sid = 0 ∨ sid > manager.max) by omega),found]
  refine ⟨⟨evicted,rfl⟩,opens_create now usable.1 (closes_trans reap closes) free ?_⟩
  intro sid'
  rfl

theorem touch_live {manager : SessionManager} {sid sid' : Nat} {now : Int} :
    (manager.touch sid now).Live sid' ↔ manager.Live sid' := by
  unfold SessionManager.touch
  split
  · rename_i session found
    have there : sid ∈ manager.sessions.keys := Dict.mem_keys.mpr ⟨session,found⟩
    refine Dict.mem_set.trans ⟨?_,.inr⟩
    rintro (rfl | live)
    · exact there
    · exact live
  · exact Iff.rfl

theorem get_live {manager : SessionManager} {sid : Nat} : manager.get sid = none ↔ ¬ manager.Live sid := Dict.get_none

theorem closes_invalidate (manager : SessionManager) (sid : Nat) (status : Status) :
    Closes manager (manager.invalidate sid status).manager (manager.invalidate sid status).told := by
  unfold SessionManager.invalidate
  split
  · exact closes_one manager sid status
  · exact closes_refl manager

theorem invalidate_told {manager : SessionManager} {sid : Nat} {status : Status} :
    (manager.invalidate sid status).told = if manager.Live sid then [(sid,status)] else [] := by
  by_cases live : sid ∈ manager.sessions.keys
  · rw [SessionManager.invalidate,if_pos live,if_pos (show manager.Live sid from live)]
  · rw [SessionManager.invalidate,if_neg live,if_neg (show ¬ manager.Live sid from live)]

/-- Whatever it was, the session is live no more; the others are as they were. -/
theorem invalidate_ends {manager : SessionManager} {sid sid' : Nat} {status : Status} :
    (manager.invalidate sid status).manager.Live sid' ↔ manager.Live sid' ∧ sid' ≠ sid := by
  by_cases live : sid ∈ manager.sessions.keys
  · rw [SessionManager.invalidate,if_pos live]
    exact invalidate_live
  · rw [SessionManager.invalidate,if_neg live]
    refine ⟨fun there => ⟨there,?_⟩,And.left⟩
    rintro rfl
    exact live there

end VibeBridge.Python
