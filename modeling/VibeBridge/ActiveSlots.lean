import VibeBridge.Discovery

/-!
Which candidates the live processes keep, and whether that depends on the order
in which the slots come out of their hash map. The matching loop serves the
candidates first come, first served, the newest first (`matched_served`). The
sessions that it returns are the same in all orders when the candidates are
settled for the slots, and for candidates with distinct ids only then
(`order_free`).
-/
namespace VibeBridge.ActiveSlots
open Allocation
open VibeBridge.Text VibeBridge.Core VibeBridge.Agent VibeBridge.Discovery

/-- The kind and the id, by which sessions are told apart. -/
def session_key (session : AgentSession) : AgentKey := (session.kind,session.agent_id)

theorem same_session_iff {a b : AgentSession} : same_session a b = true ↔ session_key a = session_key b := by
  simp [same_session,session_key]

/-- The candidates that the loop keeps are those that are served. -/
theorem matched_served (candidates : List AgentSession) (slots : List AgentKey) (out : List AgentSession) :
    (candidates.foldl match_candidate (slots,out)).2 = out ++ (serve slot_fits slots candidates).map pin_running := by
  induction candidates generalizing slots out with
  | nil => simp [serve]
  | cons session rest ih =>
    rw [List.foldl_cons,match_candidate,serve]
    cases first : slots.findIdx? (slot_fits session) with
    | none => exact ih slots out
    | some pos =>
      simp only
      rw [ih,List.map_cons,List.append_assoc]
      rfl

theorem filter_served (modified : ModifiedTimes) (cutoff : Int) (candidates : List AgentSession)
    {counts : KeyedMap AgentKey Nat} (evidence : counts.keys.isEmpty = false) :
    filter_sessions_by_active_counts modified cutoff candidates counts = sort_and_dedup_sessions
      ((serve slot_fits counts.keys (sort_newest_first modified candidates)).map pin_running) := by
  rw [filter_sessions_by_active_counts]
  simp only [evidence]
  rw [matched_served]
  rfl

theorem pinned_key (session : AgentSession) : session_key (pin_running session) = session_key session := by
  rw [pin_running]
  split <;> rfl

/-- Sessions with distinct ids stay when they are sorted and cleared of doubles. -/
theorem mem_sort_and_dedup {sessions : List AgentSession} (distinct : (sessions.map session_key).Nodup)
    (session : AgentSession) : session ∈ sort_and_dedup_sessions sessions ↔ session ∈ sessions := by
  have sorted := List.mergeSort_perm sessions (fun a b => decide (b.agent_id ≤ a.agent_id))
  have apart := ((sorted.map session_key).nodup_iff).mpr distinct
  have chain : (sessions.mergeSort (fun a b => decide (b.agent_id ≤ a.agent_id))).IsChain
      (fun a b => ¬ same_session a b = true) := by
    refine List.Pairwise.isChain ?_
    rw [List.Nodup,List.pairwise_map] at apart
    exact apart.imp (fun differ same => differ (same_session_iff.mp same))
  rw [sort_and_dedup_sessions,List.destutter_of_isChain _ _ chain]
  exact sorted.mem_iff

/-- The sessions that are returned do not depend on the order of the slots. -/
def OrderFree (modified : ModifiedTimes) (cutoff : Int) (candidates : List AgentSession)
    (counts : KeyedMap AgentKey Nat) : Prop :=
  ∀ order order', KeyedMap.Reordered counts order → KeyedMap.Reordered counts order' → ∀ session,
    session ∈ filter_sessions_by_active_counts modified cutoff candidates order ↔
      session ∈ filter_sessions_by_active_counts modified cutoff candidates order'

theorem reordered_keys {counts order : KeyedMap AgentKey Nat} (same : KeyedMap.Reordered counts order) :
    counts.keys.Perm order.keys := same.map Sigma.fst

/-- An order of the keys is the order of the keys of a map. -/
theorem keys_reordered {counts : KeyedMap AgentKey Nat} {keys : List AgentKey} (same : counts.keys.Perm keys) :
    ∃ order, KeyedMap.Reordered counts order ∧ order.keys = keys := by
  have each : List.Forall₂ (fun key e => key = e.1) counts.keys counts.entries := by
    rw [AList.keys,List.keys,List.forall₂_map_left_iff]
    exact List.forall₂_same.mpr fun _ _ => rfl
  obtain ⟨entries,each,reordered⟩ := List.perm_comp_forall₂ same.symm each
  have keys_eq : keys = entries.map Sigma.fst := by
    rw [← List.forall₂_eq_eq_eq,List.forall₂_map_right_iff]
    exact each
  refine ⟨⟨entries,(List.perm_nodupKeys reordered).mpr counts.nodupKeys⟩,reordered.symm,keys_eq.symm⟩

/-- Settled candidates are the same in every order, also where they are listed. -/
theorem settled_free {modified : ModifiedTimes} {cutoff : Int} {candidates : List AgentSession}
    {counts : KeyedMap AgentKey Nat}
    (settled : Settled slot_fits counts.keys [] (sort_newest_first modified candidates)) {order order' : KeyedMap AgentKey Nat}
    (same : KeyedMap.Reordered counts order) (same' : KeyedMap.Reordered counts order') :
    filter_sessions_by_active_counts modified cutoff candidates order =
      filter_sessions_by_active_counts modified cutoff candidates order' := by
  have perm := (reordered_keys same).symm.trans (reordered_keys same')
  cases evidence : order.keys.isEmpty with
  | true =>
    have none' : order'.keys.isEmpty = true := by
      rw [List.isEmpty_iff] at evidence ⊢
      rw [evidence] at perm
      exact List.nil_perm.mp perm
    simp only [filter_sessions_by_active_counts,evidence,none',if_true]
  | false =>
    have some' : order'.keys.isEmpty = false := by
      rw [List.isEmpty_eq_false_iff] at evidence ⊢
      rintro none
      rw [none] at perm
      exact evidence (List.perm_nil.mp perm)
    rw [filter_served _ _ _ evidence,filter_served _ _ _ some',
      settled_same settled (reordered_keys same) (reordered_keys same')]

section
variable (modified : ModifiedTimes) {candidates : List AgentSession}
  (distinct : (candidates.map session_key).Nodup)
include distinct

theorem sorted_distinct : ((sort_newest_first modified candidates).map session_key).Nodup :=
  (((List.mergeSort_perm candidates (newest_first modified)).map session_key).nodup_iff).mpr distinct

/-- Of candidates with distinct ids, those are returned that are served. -/
theorem mem_filter {cutoff : Int} {counts : KeyedMap AgentKey Nat} (evidence : counts.keys.isEmpty = false)
    {session : AgentSession} (among : session ∈ sort_newest_first modified candidates) :
    pin_running session ∈ filter_sessions_by_active_counts modified cutoff candidates counts ↔
      session ∈ serve slot_fits counts.keys (sort_newest_first modified candidates) := by
  have apart := sorted_distinct modified distinct
  have part := serves_sublist (serve_serves slot_fits counts.keys (sort_newest_first modified candidates))
  have pinned : ((serve slot_fits counts.keys (sort_newest_first modified candidates)).map pin_running).map session_key =
      (serve slot_fits counts.keys (sort_newest_first modified candidates)).map session_key := by
    rw [List.map_map]
    exact List.map_congr_left fun session _ => pinned_key session
  rw [filter_served _ _ _ evidence,mem_sort_and_dedup (by rw [pinned]; exact apart.sublist (part.map session_key)),
    List.mem_map]
  constructor
  · rintro ⟨served,member,same⟩
    have key : session_key served = session_key session := by rw [← pinned_key served,same,pinned_key]
    rw [← List.inj_on_of_nodup_map apart (part.subset member) among key]
    exact member
  · intro member
    exact ⟨session,member,rfl⟩

end

/-- The sessions that are returned do not depend on the order of the slots when the candidates, newest first, are
    settled for them. For candidates with distinct ids they depend on it otherwise. -/
theorem order_free (modified : ModifiedTimes) (cutoff : Int) (candidates : List AgentSession)
    (counts : KeyedMap AgentKey Nat) :
    (Settled slot_fits counts.keys [] (sort_newest_first modified candidates) →
      OrderFree modified cutoff candidates counts) ∧
    ((candidates.map session_key).Nodup → OrderFree modified cutoff candidates counts →
      Settled slot_fits counts.keys [] (sort_newest_first modified candidates)) := by
  constructor
  · intro settled order order' same same' session
    rw [settled_free settled same same']
  · intro distinct free
    refine settled_of_same (List.Nodup.of_map _ (sorted_distinct modified distinct)) ?_
    intro keys keys' perm perm' session served
    obtain ⟨order,same,rfl⟩ := keys_reordered perm
    obtain ⟨order',same',rfl⟩ := keys_reordered perm'
    have among := (serves_sublist (serve_serves _ _ _)).subset served
    have evidence : order.keys.isEmpty = false := by
      rw [List.isEmpty_eq_false_iff]
      intro none
      rw [none,serve_none] at served
      cases served
    have evidence' : order'.keys.isEmpty = false := by
      rw [List.isEmpty_eq_false_iff] at evidence ⊢
      intro none
      have empty := (reordered_keys same).symm.trans (reordered_keys same')
      rw [none] at empty
      exact evidence (List.perm_nil.mp empty)
    exact (mem_filter modified distinct evidence' among).mp
      ((free order order' same same' _).mp ((mem_filter modified distinct evidence among).mpr served))

/-- A session in a directory. -/
def session_in (agent_id cwd : String) : AgentSession := ⟨agent_id,.Codex,"codex",cwd,agent_id,.Idle,none⟩

/-- One process, in the directory of the first of two sessions. -/
def lone : KeyedMap AgentKey Nat := (∅ : KeyedMap AgentKey Nat).insert (.Codex,"/a") 1

theorem order_free_lone : OrderFree (fun _ => 0) 0 [session_in "2" "/a",session_in "1" "/b"] lone := by
  refine (order_free (fun _ => 0) 0 [session_in "2" "/a",session_in "1" "/b"] lone).1 ?_
  have sorted : sort_newest_first (fun _ => 0) [session_in "2" "/a",session_in "1" "/b"] =
      [session_in "2" "/a",session_in "1" "/b"] := List.mergeSort_of_pairwise (by decide)
  have unfit : ∀ {served left}, ¬ Leaves slot_fits lone.keys (served ++ [session_in "1" "/b"]) left := by
    intro served left leaves
    obtain ⟨slot,fit,given,_,parts⟩ := leaves_concat.mp leaves
    have only : slot ∈ [((AgentKind.Codex,"/a") : AgentKey)] := parts.mem_iff.mpr (by simp)
    rw [List.mem_singleton.mp only] at fit
    revert fit
    decide
  rw [sorted]
  refine ⟨fun _ => ⟨?_,fun last => absurd last.choose_spec unfit,fun _ => trivial⟩,
    fun _ => ⟨fun last => absurd last.choose_spec unfit,fun _ => trivial⟩⟩
  rintro ⟨left,leaves,taken⟩
  have there : ((.Codex,"/a") : AgentKey) ∈ left := (leaves_nil.mp leaves).mem_iff.mp (by decide)
  have free := taken _ there
  revert free
  decide

/-- Processes in two directories, one in the other. -/
def nested : KeyedMap AgentKey Nat :=
  ((∅ : KeyedMap AgentKey Nat).insert (.Codex,"/a/b") 1).insert (.Codex,"/a") 1

/-- The newest session fits both, the other one only the outer. -/
theorem nested_depends : ¬ ∀ modified cutoff candidates counts, OrderFree modified cutoff candidates counts := by
  intro free
  have distinct : ([session_in "2" "/a",session_in "1" "/a/c"].map session_key).Nodup := by decide
  have sorted : sort_newest_first (fun _ => 0) [session_in "2" "/a",session_in "1" "/a/c"] =
      [session_in "2" "/a",session_in "1" "/a/c"] := List.mergeSort_of_pairwise (by decide)
  have among : session_in "1" "/a/c" ∈ sort_newest_first (fun _ => 0) [session_in "2" "/a",session_in "1" "/a/c"] := by
    rw [sorted]
    simp
  have same := free (fun _ => 0) 0 [session_in "2" "/a",session_in "1" "/a/c"] nested nested nested.reversed
    (List.Perm.refl _) (KeyedMap.reordered_reversed nested) (pin_running (session_in "1" "/a/c"))
  rw [mem_filter _ distinct (by decide) among,mem_filter _ distinct (by decide) among,sorted] at same
  revert same
  decide

end VibeBridge.ActiveSlots
