import Mathlib.Data.List.Range
import Mathlib.Data.List.Perm.Subperm
import VibeBridge.Python.SessionManager

/-!
The session manager over whole histories. Its live sids and the sid that it
probes next stay between 1 and its maximum, so there are never more sessions than
that, and while one is missing the probe finds a free sid. Hence a request always
creates a session, and the answers for a pool that has no room are never given
(`pool_never_exhausted`).
-/
namespace VibeBridge.Python

/-! ## Calls -/

/-- The calls that change the table, with the readings of the clock. -/
inductive Call
  | request_session (reaped now : Int)
  | adopt_session (sid : Nat) (reaped now : Int)
  | touch (sid : Nat) (now : Int)
  | invalidate (sid : Nat) (status : Status)
  | reap_expired (now : Int)

def SessionManager.after (manager : SessionManager) : Call → SessionManager
  | .request_session reaped now => (manager.request_session reaped now).manager
  | .adopt_session sid reaped now => (manager.adopt_session sid reaped now).manager
  | .touch sid now => manager.touch sid now
  | .invalidate sid status => (manager.invalidate sid status).manager
  | .reap_expired now => (manager.reap_expired now).manager

/-! ## The invariant -/

/-- The live sids and the one to be probed next are sids that can be allocated. -/
structure SessionManager.Bounded (manager : SessionManager) : Prop where
  live : ∀ sid, manager.Live sid → manager.Usable sid
  next : manager.Usable manager.next_sid

/-- Distinct numbers between 1 and `n` are at most `n`. -/
theorem length_le_of_range {n : Nat} {sids : List Nat} (distinct : sids.Nodup) (range : ∀ sid ∈ sids, 0 < sid ∧ sid ≤ n) :
    sids.length ≤ n := by
  have within : sids ⊆ List.range' 1 n := by
    intro sid member
    have := range sid member
    rw [List.mem_range'_1]
    omega
  have shorter := (List.subperm_of_subset distinct within).length_le
  rwa [List.length_range'] at shorter

/-- The other way round, with all of them there are `n`. -/
theorem range_le_length {n : Nat} {sids : List Nat} (all : ∀ sid, 0 < sid → sid ≤ n → sid ∈ sids) : n ≤ sids.length := by
  have within : List.range' 1 n ⊆ sids := by
    intro sid member
    rw [List.mem_range'_1] at member
    exact all sid (by omega) (by omega)
  have longer := (List.subperm_of_subset List.nodup_range' within).length_le
  rwa [List.length_range'] at longer

theorem bounded_count {manager : SessionManager} (bounded : manager.Bounded) :
    manager.sessions.keys.length ≤ manager.max := length_le_of_range manager.sessions.distinct bounded.live

/-! ## The probe -/

theorem advance_max (manager : SessionManager) : manager.advance_next_sid_locked.max = manager.max := rfl

theorem advance_next (manager : SessionManager) : manager.advance_next_sid_locked.next_sid =
    if manager.next_sid + 1 > manager.max then 1 else manager.next_sid + 1 := rfl

theorem advance_usable {manager : SessionManager} (next : manager.Usable manager.next_sid) :
    manager.advance_next_sid_locked.Usable manager.advance_next_sid_locked.next_sid := by
  rw [SessionManager.Usable] at next ⊢
  rw [advance_max,advance_next]
  by_cases past : manager.next_sid + 1 > manager.max
  · rw [if_pos past]
    omega
  · rw [if_neg past]
    omega

/-- The probe moves the next sid and nothing else, and what it finds is in range. -/
theorem probe_kept (turns : Nat) {manager : SessionManager} (next : manager.Usable manager.next_sid) :
    (manager.probe turns).1.max = manager.max ∧ (manager.probe turns).1.sessions = manager.sessions ∧
      manager.Usable (manager.probe turns).1.next_sid ∧
      ∀ sid, (manager.probe turns).2 = some sid → manager.Usable sid := by
  induction turns generalizing manager with
  | zero => exact ⟨rfl,rfl,next,fun _ none => by cases none⟩
  | succ turns ih =>
    rw [SessionManager.probe]
    split
    · refine ⟨rfl,rfl,advance_usable next,?_⟩
      intro sid found
      cases found
      exact next
    · exact ih (advance_usable next)

/-- The sid that a probe tries in its turn `k`. -/
def SessionManager.candidate (manager : SessionManager) (k : Nat) : Nat :=
  if manager.next_sid + k ≤ manager.max then manager.next_sid + k else manager.next_sid + k - manager.max

theorem candidate_advance {manager : SessionManager} (next : manager.Usable manager.next_sid) {k : Nat}
    (turn : k + 1 < manager.max) : manager.advance_next_sid_locked.candidate k = manager.candidate (k + 1) := by
  rw [SessionManager.Usable] at next
  rw [SessionManager.candidate,SessionManager.candidate,advance_max,advance_next]
  by_cases past : manager.next_sid + 1 > manager.max
  · rw [if_pos past,if_pos (by omega),if_neg (by omega)]
    omega
  · rw [if_neg past,Nat.add_right_comm manager.next_sid 1 k]
    rfl

/-- A probe that finds nothing has seen a live session in each of its turns. -/
theorem probe_none {turns : Nat} {manager : SessionManager} (next : manager.Usable manager.next_sid)
    (within : turns ≤ manager.max) (none : (manager.probe turns).2 = none) :
    ∀ k < turns, manager.Live (manager.candidate k) := by
  induction turns generalizing manager with
  | zero =>
    intro k before
    omega
  | succ turns ih =>
    intro k before
    rw [SessionManager.probe] at none
    split at none
    · cases none
    · rename_i taken
      cases k with
      | zero =>
        have first : manager.candidate 0 = manager.next_sid := if_pos next.2
        rw [first]
        exact Decidable.not_not.mp taken
      | succ k =>
        rw [← candidate_advance next (by omega)]
        exact ih (advance_usable next) (Nat.le_of_succ_le within) none k (by omega)

/-- The candidates of as many turns as there are sids are all the sids. -/
theorem candidate_all {manager : SessionManager} (next : manager.Usable manager.next_sid) {sid : Nat}
    (usable : manager.Usable sid) : ∃ k < manager.max, manager.candidate k = sid := by
  simp only [SessionManager.Usable] at next usable
  by_cases ahead : manager.next_sid ≤ sid
  · refine ⟨sid - manager.next_sid,by omega,?_⟩
    rw [SessionManager.candidate,if_pos (by omega)]
    omega
  · refine ⟨sid + manager.max - manager.next_sid,by omega,?_⟩
    rw [SessionManager.candidate,if_neg (by omega)]
    omega

/-- With a session missing, there is a sid to allocate. -/
theorem allocate_finds {manager : SessionManager} (next : manager.Usable manager.next_sid)
    (room : manager.sessions.keys.length < manager.max) : ∃ sid, manager.allocate_sid_locked.2 = some sid := by
  cases found : manager.allocate_sid_locked.2 with
  | some sid => exact ⟨sid,rfl⟩
  | none =>
    have full : manager.max ≤ manager.sessions.keys.length := by
      refine range_le_length ?_
      intro sid positive le
      obtain ⟨k,before,rfl⟩ := candidate_all next ⟨positive,le⟩
      exact probe_none next le_rfl found k before
    omega

/-! ## Making room -/

theorem reap_kept (manager : SessionManager) (now : Int) :
    (manager.reap_expired_locked now).manager.max = manager.max ∧
      (manager.reap_expired_locked now).manager.next_sid = manager.next_sid := by
  have all : ∀ (sids : List Nat) (manager : SessionManager),
      (sids.foldl SessionManager.invalidate_locked manager).max = manager.max ∧
        (sids.foldl SessionManager.invalidate_locked manager).next_sid = manager.next_sid := by
    intro sids
    induction sids with
    | nil => intro manager; exact ⟨rfl,rfl⟩
    | cons sid rest ih => intro manager; exact ih (manager.invalidate_locked sid)
  exact all _ manager

/-- A manager with fewer sessions, or with as many. -/
theorem bounded_closes {manager manager' : SessionManager} {told : List (Nat × Status)} (bounded : manager.Bounded)
    (closes : Closes manager manager' told) (max : manager'.max = manager.max) (next : manager'.next_sid = manager.next_sid) :
    manager'.Bounded := by
  have usable : ∀ sid, manager.Usable sid → manager'.Usable sid := by
    intro sid usable
    rwa [SessionManager.Usable,max]
  refine ⟨?_,?_⟩
  · intro sid live
    exact usable sid (bounded.live sid ((closes sid).mp live).1)
  · rw [next]
    exact usable _ bounded.next

theorem bounded_reap {manager : SessionManager} (bounded : manager.Bounded) (now : Int) :
    (manager.reap_expired_locked now).manager.Bounded :=
  bounded_closes bounded (closes_reap manager now) (reap_kept manager now).1 (reap_kept manager now).2

/-- The victim is live, and no session was active less recently. -/
theorem lru_oldest {manager : SessionManager} {victim : Nat} (lru : manager.pick_lru_locked = some victim) :
    ∃ session, manager.get victim = some session ∧
      ∀ sid other, manager.get sid = some other → session.last_active_ms ≤ other.last_active_ms := by
  rw [SessionManager.pick_lru_locked,Option.map_eq_some_iff] at lru
  obtain ⟨⟨_,session⟩,oldest,rfl⟩ := lru
  have some_live : manager.sessions.items ≠ [] := by
    rintro empty
    rw [empty] at oldest
    cases oldest
  have same : manager.sessions.items.minOn (fun s => s.2.last_active_ms) some_live = _ :=
    Option.some.inj ((List.minOn?_eq_some_minOn some_live).symm.trans oldest)
  refine ⟨session,Dict.get_iff.mpr ?_,?_⟩
  · rw [← same]
    exact List.minOn_mem
  · intro sid other found
    have least := List.apply_minOn_le_of_mem (f := fun s : Nat × Session => s.2.last_active_ms) (Dict.get_iff.mp found)
    rwa [same] at least

/-- How a manager makes room for one session: it had room, or it was full and loses the
    session that was active least recently. -/
inductive MakesRoom (manager : SessionManager) : SessionManager → List Nat → Prop
  | had (room : manager.sessions.keys.length < manager.max) : MakesRoom manager manager []
  | evicts {victim : Nat} (full : manager.sessions.keys.length = manager.max)
      (lru : manager.pick_lru_locked = some victim) : MakesRoom manager (manager.invalidate_locked victim) [victim]

theorem room_made {manager : SessionManager} (bounded : manager.Bounded) :
    ∃ room evicted, manager.make_room = some (room,evicted) ∧ MakesRoom manager room evicted := by
  obtain ⟨⟨room,evicted⟩,made⟩ := room_there manager
  refine ⟨room,evicted,made,?_⟩
  unfold SessionManager.make_room at made
  split at made
  · rename_i full
    split at made
    · rename_i victim lru
      cases made
      exact .evicts (le_antisymm (bounded_count bounded) full) lru
    · cases made
  · rename_i room
    cases made
    exact .had (by omega)

theorem pop_shorter {manager : SessionManager} {sid : Nat} (live : manager.Live sid) :
    (manager.invalidate_locked sid).sessions.keys.length < manager.sessions.keys.length := by
  have without : (manager.invalidate_locked sid).sessions.keys ⊆ manager.sessions.keys.erase sid := by
    intro other member
    obtain ⟨live,different⟩ := Dict.mem_pop.mp member
    exact (List.mem_erase_of_ne different).mpr live
  have shorter : (manager.invalidate_locked sid).sessions.keys.length ≤ (manager.sessions.keys.erase sid).length :=
    (List.subperm_of_subset (manager.invalidate_locked sid).sessions.distinct without).length_le
  have one_less := List.length_erase_of_mem live
  have positive := List.length_pos_of_mem live
  omega

theorem makes_room_short {manager room : SessionManager} {evicted : List Nat} (makes : MakesRoom manager room evicted) :
    room.sessions.keys.length < manager.max := by
  cases makes with
  | had room => exact room
  | evicts full lru =>
    obtain ⟨session,found,_⟩ := lru_oldest lru
    have shorter := pop_shorter (Dict.mem_keys.mpr ⟨session,found⟩ : manager.Live _)
    omega

theorem makes_room_kept {manager room : SessionManager} {evicted : List Nat} (makes : MakesRoom manager room evicted) :
    room.max = manager.max ∧ room.next_sid = manager.next_sid ∧
      ∀ sid, room.Live sid ↔ manager.Live sid ∧ sid ∉ evicted := by
  cases makes with
  | had room => exact ⟨rfl,rfl,fun sid => by simp⟩
  | evicts full lru => exact ⟨rfl,rfl,fun sid => by rw [invalidate_live]; simp⟩

/-! ## What a call does -/

/-- The answer of a request: a sid that was free once the expired sessions and the victim were
    gone. There is a victim only where the pool was still full, and it is the oldest. -/
structure Granted (manager : SessionManager) (reaped now : Int) (sid : Nat) (evicted : List Nat) : Prop where
  created : (manager.request_session reaped now).result = some (sid,.CREATED,evicted)
  usable : manager.Usable sid
  fresh : ¬ ((manager.reap_expired_locked reaped).manager.Live sid ∧ sid ∉ evicted)
  one : evicted.length ≤ 1
  full : evicted ≠ [] → (manager.reap_expired_locked reaped).manager.sessions.keys.length = manager.max
  oldest : ∀ victim ∈ evicted, ∃ session, (manager.reap_expired_locked reaped).manager.get victim = some session ∧
    ∀ sid other, (manager.reap_expired_locked reaped).manager.get sid = some other →
      session.last_active_ms ≤ other.last_active_ms

theorem granted_of_room {manager room : SessionManager} {reaped now : Int} {sid : Nat} {evicted : List Nat}
    (makes : MakesRoom (manager.reap_expired_locked reaped).manager room evicted)
    (created : (manager.request_session reaped now).result = some (sid,.CREATED,evicted)) (usable : manager.Usable sid)
    (free : ¬ room.Live sid) : Granted manager reaped now sid evicted := by
  rw [(makes_room_kept makes).2.2 sid] at free
  have same := (reap_kept manager reaped).1
  cases makes with
  | had room => exact ⟨created,usable,free,Nat.zero_le 1,fun some => absurd rfl some,fun victim member => by cases member⟩
  | evicts full lru =>
    refine ⟨created,usable,free,le_rfl,fun _ => full.trans same,?_⟩
    intro victim member
    rw [List.mem_singleton.mp member]
    exact lru_oldest lru

theorem create_bounded {manager : SessionManager} {sid : Nat} (bounded : manager.Bounded) (usable : manager.Usable sid)
    (now : Int) : (manager.create sid now).Bounded := by
  refine ⟨?_,bounded.next⟩
  intro sid' live
  rcases create_live.mp live with rfl | live
  · exact usable
  · exact bounded.live sid' live

theorem request_granted {manager : SessionManager} (bounded : manager.Bounded) (reaped now : Int) :
    (∃ sid evicted, Granted manager reaped now sid evicted) ∧
      (manager.request_session reaped now).manager.max = manager.max ∧
      (manager.request_session reaped now).manager.Bounded := by
  obtain ⟨room,evicted,made,makes⟩ := room_made (bounded_reap bounded reaped)
  obtain ⟨max,next,live⟩ := makes_room_kept makes
  have reaped_max := (reap_kept manager reaped).1
  have whole : room.max = manager.max := max.trans reaped_max
  have ready : room.Usable room.next_sid := by
    have there := (bounded_reap bounded reaped).next
    rwa [SessionManager.Usable,next,max]
  have short := makes_room_short makes
  rw [← max] at short
  obtain ⟨sid,found⟩ := allocate_finds ready short
  obtain ⟨probed_max,probed,probed_next,in_range⟩ := probe_kept room.max ready
  have free := ((probe_live room.max room).2 sid found).1
  have usable : manager.Usable sid := by
    have there := in_range sid found
    rwa [SessionManager.Usable,whole] at there
  have answered : manager.request_session reaped now = ⟨room.allocate_sid_locked.1.create sid now,
      (manager.reap_expired_locked reaped).told ++ evicted.map (fun sid => (sid,.RECLAIMED)),some (sid,.CREATED,evicted)⟩ := by
    simp only [SessionManager.request_session,made]
    rw [show room.allocate_sid_locked = (room.allocate_sid_locked.1,some sid) from Prod.ext rfl found]
  refine ⟨⟨sid,evicted,granted_of_room makes (by rw [answered]) usable free⟩,?_⟩
  rw [answered]
  refine ⟨probed_max.trans whole,create_bounded ⟨?_,?_⟩ ?_ now⟩
  · intro sid' there
    have reaped_live := ((live sid').mp (((probe_live room.max room).1 sid').mp there)).1
    have usable := (bounded_reap bounded reaped).live sid' reaped_live
    rwa [SessionManager.Usable,SessionManager.allocate_sid_locked,probed_max,max]
  · rwa [SessionManager.Usable,SessionManager.allocate_sid_locked,probed_max]
  · rwa [SessionManager.Usable,SessionManager.allocate_sid_locked,probed_max,whole]

/-- A table in which a sid is missing has room for it. -/
theorem missing_room {manager : SessionManager} (bounded : manager.Bounded) {sid : Nat} (usable : manager.Usable sid)
    (free : ¬ manager.Live sid) : manager.sessions.keys.length < manager.max := by
  have within : ∀ other ∈ sid :: manager.sessions.keys, 0 < other ∧ other ≤ manager.max := by
    intro other member
    rcases List.mem_cons.mp member with rfl | live
    · exact usable
    · exact bounded.live other live
  have shorter := length_le_of_range (List.nodup_cons.mpr ⟨free,manager.sessions.distinct⟩) within
  rw [List.length_cons] at shorter
  omega

/-- An adoption reclaims the sid from the session that has it, and no other. -/
theorem adopt_adopts {manager : SessionManager} (bounded : manager.Bounded) {sid : Nat} (usable : manager.Usable sid)
    (reaped now : Int) : (manager.adopt_session sid reaped now).result = (sid,.CREATED,
        if (manager.reap_expired_locked reaped).manager.Live sid then [sid] else []) ∧
      (manager.adopt_session sid reaped now).manager.max = manager.max ∧
      (manager.adopt_session sid reaped now).manager.Bounded := by
  have reaped_max := (reap_kept manager reaped).1
  have reaped_bounded := bounded_reap bounded reaped
  have reaped_usable : (manager.reap_expired_locked reaped).manager.Usable sid := by
    rwa [SessionManager.Usable,reaped_max]
  have inside : ¬ (sid = 0 ∨ sid > manager.max) := by
    rw [SessionManager.Usable] at usable
    omega
  have advanced : ∀ room : SessionManager, room.Bounded → room.advance_next_sid_locked.Bounded :=
    fun room bounded => ⟨bounded.live,advance_usable bounded.next⟩
  by_cases live : (manager.reap_expired_locked reaped).manager.Live sid
  · simp only [SessionManager.adopt_session,if_neg inside,if_pos live,
      if_pos (show sid ∈ (manager.reap_expired_locked reaped).manager.sessions.keys from live)]
    have without := bounded_closes reaped_bounded (closes_one _ sid .RECLAIMED) rfl rfl
    exact ⟨trivial,reaped_max,advanced _ (create_bounded without reaped_usable now)⟩
  · have room : (manager.reap_expired_locked reaped).manager.make_room = some ((manager.reap_expired_locked reaped).manager,[]) := by
      have short := missing_room reaped_bounded reaped_usable live
      rw [SessionManager.make_room,if_neg (by omega)]
    simp only [SessionManager.adopt_session,if_neg inside,if_neg live,room,
      if_neg (show sid ∉ (manager.reap_expired_locked reaped).manager.sessions.keys from live)]
    exact ⟨trivial,reaped_max,advanced _ (create_bounded reaped_bounded reaped_usable now)⟩

/-! ## Histories -/

theorem bounded_after {manager : SessionManager} (bounded : manager.Bounded) (call : Call) :
    (manager.after call).max = manager.max ∧ (manager.after call).Bounded := by
  cases call with
  | request_session reaped now => exact (request_granted bounded reaped now).2
  | adopt_session sid reaped now =>
    rw [SessionManager.after]
    by_cases usable : manager.Usable sid
    · exact (adopt_adopts bounded usable reaped now).2
    · rw [adopt_outside usable]
      exact ⟨rfl,bounded⟩
  | touch sid now =>
    have max : (manager.touch sid now).max = manager.max := by
      unfold SessionManager.touch
      split <;> rfl
    have next : (manager.touch sid now).next_sid = manager.next_sid := by
      unfold SessionManager.touch
      split <;> rfl
    have same : Closes manager (manager.touch sid now) [] := by
      intro sid'
      rw [touch_live]
      simp
    exact ⟨max,bounded_closes bounded same max next⟩
  | invalidate sid status =>
    have kept : (manager.invalidate sid status).manager.max = manager.max ∧
        (manager.invalidate sid status).manager.next_sid = manager.next_sid := by
      unfold SessionManager.invalidate
      split <;> exact ⟨rfl,rfl⟩
    exact ⟨kept.1,bounded_closes bounded (closes_invalidate manager sid status) kept.1 kept.2⟩
  | reap_expired now => exact ⟨(reap_kept manager now).1,bounded_reap bounded now⟩

theorem bounded_run (calls : List Call) {manager : SessionManager} (bounded : manager.Bounded) :
    (calls.foldl SessionManager.after manager).max = manager.max ∧ (calls.foldl SessionManager.after manager).Bounded := by
  induction calls generalizing manager with
  | nil => exact ⟨rfl,bounded⟩
  | cons call rest ih =>
    obtain ⟨max,after⟩ := bounded_after bounded call
    exact ⟨(ih after).1.trans max,(ih after).2⟩

/-- What holds of a pool at any time: its sids are in range, a request creates a session, an
    adoption of a sid that is not live finds room for it, and no call finds the pool full. -/
structure SessionManager.Sound (manager : SessionManager) : Prop where
  in_range : ∀ sid, manager.Live sid → 1 ≤ sid ∧ sid ≤ manager.max
  pointer : 1 ≤ manager.next_sid ∧ manager.next_sid ≤ manager.max
  count : manager.sessions.keys.length ≤ manager.max
  requests : ∀ reaped now, ∃ sid evicted, Granted manager reaped now sid evicted
  adoptions : ∀ sid reaped, 1 ≤ sid ∧ sid ≤ manager.max → ¬ (manager.reap_expired_locked reaped).manager.Live sid →
    (manager.reap_expired_locked reaped).manager.sessions.keys.length < manager.max
  never_full : ∀ sid reaped now, (manager.adopt_session sid reaped now).result.2.1 ≠ .POOL_FULL

theorem sound_of_bounded {manager : SessionManager} (bounded : manager.Bounded) : manager.Sound where
  in_range := bounded.live
  pointer := bounded.next
  count := bounded_count bounded
  requests := fun reaped now => (request_granted bounded reaped now).1
  adoptions := by
    intro sid reaped usable free
    have max := (reap_kept manager reaped).1
    have short := missing_room (bounded_reap bounded reaped) (by rwa [SessionManager.Usable,max]) free
    rwa [max] at short
  never_full := by
    intro sid reaped now
    by_cases usable : manager.Usable sid
    · rw [(adopt_adopts bounded usable reaped now).1]
      exact (by decide : Status.CREATED ≠ .POOL_FULL)
    · rw [adopt_outside usable]
      exact (by decide : Status.INVALID ≠ .POOL_FULL)

/-- Every maximum that the constructor allows gives a pool that is sound after any calls. -/
theorem pool_never_exhausted (max_sessions : Nat) (ttl_seconds : Int) (positive : 1 ≤ max_sessions)
    (sixteen_bits : max_sessions ≤ 65535) : ∃ manager, SessionManager.new max_sessions ttl_seconds = .ok manager ∧
      ∀ calls : List Call, (calls.foldl SessionManager.after manager).max = max_sessions ∧
        SessionManager.Sound (calls.foldl SessionManager.after manager) := by
  refine ⟨_,dif_pos ⟨positive,sixteen_bits⟩,?_⟩
  intro calls
  have bounded : (⟨max_sessions,ttl_seconds * 1000,.empty,1,⟨positive,sixteen_bits⟩,by decide⟩ : SessionManager).Bounded :=
    ⟨fun sid live => (List.not_mem_nil live).elim,Nat.one_pos,positive⟩
  obtain ⟨max,reached⟩ := bounded_run calls bounded
  exact ⟨max,sound_of_bounded reached⟩

/-- A pool of two: it fills up, a sid is adopted, one is given back, and the rest expires. -/
theorem pool_never_exhausted_two : ∃ manager, SessionManager.new 2 60 = .ok manager ∧
    SessionManager.Sound ([.request_session 0 0,.request_session 1 1,.request_session 2 2,.adopt_session 2 3 3,.touch 1 4,
      .invalidate 2 .INVALID,.reap_expired 70000].foldl SessionManager.after manager) := by
  obtain ⟨manager,made,sound⟩ := pool_never_exhausted 2 60 (by decide) (by decide)
  exact ⟨manager,made,(sound _).2⟩

end VibeBridge.Python
