import VibeBridge.Records

/-!
When a passive agent is pruned. The daemon keeps a count of the polls that
missed an agent beside the map of agents, and only a pruning and a discovery
write it. From the moves of a run alone, an account of each agent can be kept:
whether a hook or a launch has registered it while it was in the map, and how
many prunings have missed it since it was last listed (`Account`). The record
and the count agree with the account (`Tallied`), so an agent is pruned when the
account says that it was missed for the third time (`pruned_iff`).
-/
namespace VibeBridge.Pruning
open Transitions
open VibeBridge.Core VibeBridge.Protocol VibeBridge.Agent VibeBridge.Envelope VibeBridge.Daemon
open VibeBridge.Bridge VibeBridge.Sessions VibeBridge.Abstraction VibeBridge.Events VibeBridge.Records
open VibeBridge.Outbox VibeBridge.Registrations

/-! ## The account of an agent -/

/-- The agent that a registration names. Hooks and launches register their agents. -/
def registered_key : Event → Option AgentKey
  | .json_line (.ok request) _ =>
    if request.message_type = "agent.register" then request.read_agent.toOption.map (·.key) else none
  | _ => none

/-- The agents of a snapshot. -/
def keys_of (sessions : List AgentSession) : List AgentKey := sessions.map (fun s => (s.kind,s.agent_id))

/-- The agents that the snapshot of a discovery or of a pruning lists. -/
def listed : Event → List AgentKey
  | .discovered_sessions sessions => keys_of sessions
  | .prune latest => keys_of latest
  | _ => []

def prunes : Event → Bool
  | .prune _ => true
  | _ => false

/-- What the moves of a run tell of an agent. -/
structure Account where
  /-- A hook or a launch has registered it since it was last out of the map. -/
  hooked : Bool
  /-- The prunings that have missed it since it was last listed, while it was bound and not hooked. -/
  missed : Nat

def Account.next (key : AgentKey) (account : Account) (m : BridgeMove) : Account where
  hooked := registered_key m.input == some key || (m.post.registered.lookup key).isSome && account.hooked
  missed :=
    if (listed m.input).contains key then 0
    else if prunes m.input && (sid_of m.pre key).isSome && !account.hooked then account.missed + 1
    else account.missed

def account (key : AgentKey) (ms : List BridgeMove) : Account := ms.foldl (Account.next key) ⟨false,0⟩

theorem account_next (key : AgentKey) (ms : List BridgeMove) (m : BridgeMove) :
    account key (ms ++ [m]) = (account key ms).next key m := by
  rw [account,List.foldl_append]
  rfl

theorem registered_key_iff {event : Event} {key : AgentKey} :
    registered_key event = some key ↔ ∃ fresh, Registers event fresh ∧ fresh.key = key := by
  constructor
  · intro named
    cases event with
    | json_line line polled =>
      cases line with
      | error err => cases named
      | ok request =>
        simp only [registered_key] at named
        split at named
        · rename_i type
          cases reading : request.read_agent with
          | error err => rw [reading] at named; cases named
          | ok fresh =>
            rw [reading] at named
            exact ⟨fresh,⟨request,⟨polled,rfl,type⟩,reading⟩,Option.some.inj named⟩
        · cases named
    | _ => cases named
  · rintro ⟨fresh,⟨request,⟨polled,rfl,type⟩,reading⟩,own⟩
    simp [registered_key,type,reading,Except.toOption,own]

/-! ## What the calls do to the counts -/

section
variable (daemon : BridgeDaemon) (request : RegistrationEnvelope)

/-- The state has the counts of the other one. -/
def SameCounts (post : BridgeDaemon) : Prop := post.passive_missing_counts = daemon.passive_missing_counts

theorem announce_counts (bound : Bool) (agent : RegisteredAgent) :
    SameCounts daemon (announce_registration daemon bound agent) := by
  unfold announce_registration enqueue_board_session_request SameCounts
  repeat' split
  all_goals rfl

theorem register_counts : SameCounts daemon (agent_register daemon request).1 := by
  unfold agent_register
  split
  · rfl
  · exact announce_counts _ _ _

theorem live_view_counts (agent : RegisteredAgent) : SameCounts daemon (push_live_view daemon agent) := by
  unfold push_live_view
  split <;> rfl

theorem mirror_counts (bytes : List UInt8) (key : AgentKey) : SameCounts daemon (mirror_bytes bytes daemon key) := by
  unfold mirror_bytes SameCounts
  split
  · rfl
  · simp only
    split
    · split <;> rfl
    · rfl

theorem stream_counts : SameCounts daemon (terminal_stream daemon request).1 := by
  have each : ∀ (bytes : List UInt8) (keys : List AgentKey) (other : BridgeDaemon), SameCounts daemon other →
      SameCounts daemon (keys.foldl (mirror_bytes bytes) other) := by
    intro bytes keys
    induction keys with
    | nil => intro other same; exact same
    | cons key rest ih => intro other same; exact ih _ ((mirror_counts other bytes key).trans same)
  unfold terminal_stream
  split
  · rfl
  · split
    · rfl
    · simp only
      split
      · rfl
      · exact each _ _ daemon rfl

theorem json_counts (line : Except String RegistrationEnvelope) (polled : Except String AgentPollSnapshot) :
    SameCounts daemon (handle_json_line daemon line polled).1 := by
  cases line with
  | error err => rfl
  | ok request =>
    simp only [handle_json_line]
    split
    · exact register_counts daemon request
    · unfold agent_activity
      split
      · rfl
      · simp only
        split <;> rfl
    · cases polled <;> rfl
    · unfold token_update
      repeat' split
      all_goals rfl
    · unfold turn_append
      split
      · rfl
      · split
        · rfl
        · exact live_view_counts _ _
    · unfold permission_request
      split
      · rfl
      · split
        · rfl
        · exact live_view_counts _ _
    · unfold permission_resolve
      repeat' split
      all_goals rfl
    · unfold permission_poll
      repeat' split
      all_goals rfl
    · exact stream_counts daemon request
    · unfold session_abort
      repeat' split
      all_goals rfl
    · rfl

theorem board_counts (msg : HidMessage) : SameCounts daemon (handle_board_message daemon msg).1 := by
  unfold handle_board_message
  split
  · unfold handle_session_response
    split
    · rfl
    · simp only
      split
      · rfl
      · split
        · rfl
        · split <;> rfl
  · unfold focus_board_sid
    split
    · rfl
    · simp only
      split <;> rfl
  · unfold handle_permission_response
    repeat' split
    all_goals rfl
  · unfold handle_session_invalid
    split <;> rfl
  · rfl
  · rfl
  · rfl

theorem turns_counts (turns : List DiscoveredTurn) : SameCounts daemon (ingest_discovered_turns daemon turns).1 := by
  have each : ∀ (turns : List DiscoveredTurn) (state : BridgeDaemon × Nat), SameCounts daemon state.1 →
      SameCounts daemon (turns.foldl ingest_discovered_turn state).1 := by
    intro turns
    induction turns with
    | nil => intro state same; exact same
    | cons turn rest ih =>
      intro state same
      refine ih _ ?_
      unfold ingest_discovered_turn
      simp only
      split
      · exact same
      · exact same
  exact each turns (daemon,0) rfl

end

/-- Only a pruning and a discovery write the counts. -/
theorem handle_counts (daemon : BridgeDaemon) {event : Event} (unpruned : prunes event = false)
    (undiscovered : ∀ sessions, event ≠ .discovered_sessions sessions) : SameCounts daemon (handle daemon event).1 := by
  cases event with
  | json_line line polled => exact json_counts daemon line polled
  | board_message msg => exact board_counts daemon msg
  | discovered_sessions sessions => exact absurd rfl (undiscovered sessions)
  | discovered_turns turns => exact turns_counts daemon turns
  | prune latest => cases unpruned
  | heartbeat => rfl
  | flush is_connected send => simp only [handle,flush_board_outbox]; split <;> rfl
  | drain => rfl

/-- Discovery forgets the counts of the sessions it lists. -/
theorem discovered_counts (sessions : List AgentSession) (state : BridgeDaemon × Nat) (key : AgentKey) :
    (sessions.foldl register_discovered_session state).1.passive_missing_counts.lookup key =
      if key ∈ keys_of sessions then none else state.1.passive_missing_counts.lookup key := by
  induction sessions generalizing state with
  | nil => simp [keys_of]
  | cons session rest ih =>
    have turn : (register_discovered_session state session).1.passive_missing_counts =
        state.1.passive_missing_counts.erase (session.kind,session.agent_id) := by
      unfold register_discovered_session
      simp only
      split
      · rfl
      · simp only [BridgeDaemon.insert_agent,enqueue_board_session_request]
        split <;> rfl
    have keys : keys_of (session :: rest) = (session.kind,session.agent_id) :: keys_of rest := rfl
    rw [List.foldl_cons,ih,turn,KeyedMap.lookup_erase,keys]
    by_cases first : key = (session.kind,session.agent_id)
    · simp [first]
    · by_cases later : key ∈ keys_of rest
      · rw [if_pos later,if_pos (List.mem_cons_of_mem _ later)]
      · rw [if_neg later,if_neg first,if_neg (fun member => (List.mem_cons.mp member).elim first later)]

/-! ## What a pruning does -/

/-- An agent that no hook and no launch has registered, and that is bound. -/
def Candidate (daemon : BridgeDaemon) (key : AgentKey) : Prop :=
  ∃ agent, daemon.registered.lookup key = some agent ∧ agent.from_launch = false ∧ agent.from_hook = false ∧
    agent.board_sid.isSome = true

/-- What the pruning tests of an agent. -/
def passive (_ : AgentKey) (agent : RegisteredAgent) : Bool :=
  !agent.from_launch && !agent.from_hook && agent.board_sid.isSome

theorem candidate_passive {daemon : BridgeDaemon} {key : AgentKey} :
    key ∈ daemon.registered.keysWhere passive ↔ Candidate daemon key := by
  simp only [KeyedMap.mem_keysWhere,Candidate,passive,Bool.and_eq_true,Bool.not_eq_true',and_assoc]

/-- The counts and the keys to drop before the counting loop. -/
def uncounted (daemon : BridgeDaemon) (latest : List AgentSession) : KeyedMap AgentKey UInt8 × List AgentKey :=
  ((keys_of latest).foldl (fun counts key => counts.erase key) daemon.passive_missing_counts,[])

/-- The counts and the keys to drop after it. -/
def counted (daemon : BridgeDaemon) (latest : List AgentSession) : KeyedMap AgentKey UInt8 × List AgentKey :=
  (daemon.registered.keysWhere passive).foldl (count_missing daemon.registered (keys_of latest)) (uncounted daemon latest)

theorem prune_eq (daemon : BridgeDaemon) (latest : List AgentSession) :
    prune_missing_passive_sessions daemon latest = ((counted daemon latest).2.foldl drop_agent
      { daemon with passive_missing_counts := (counted daemon latest).1 },(counted daemon latest).2) := rfl

theorem dropped_lookup (keys : List AgentKey) (daemon : BridgeDaemon) (key : AgentKey) :
    (keys.foldl drop_agent daemon).registered.lookup key =
        (if key ∈ keys then none else daemon.registered.lookup key) ∧
      (keys.foldl drop_agent daemon).passive_missing_counts.lookup key =
        if key ∈ keys then none else daemon.passive_missing_counts.lookup key := by
  induction keys generalizing daemon with
  | nil => simp
  | cons first rest ih =>
    obtain ⟨agents,counts⟩ := ih (drop_agent daemon first)
    rw [List.foldl_cons,agents,counts,drop_agent]
    simp only [KeyedMap.lookup_erase,List.mem_cons]
    by_cases same : key = first
    · simp [same]
    · simp [same]

theorem uncounted_lookup (daemon : BridgeDaemon) (latest : List AgentSession) (key : AgentKey) :
    (uncounted daemon latest).1.lookup key =
      if key ∈ keys_of latest then none else daemon.passive_missing_counts.lookup key := by
  have each : ∀ (keys : List AgentKey) (counts : KeyedMap AgentKey UInt8),
      (keys.foldl (fun counts key => counts.erase key) counts).lookup key =
        if key ∈ keys then none else counts.lookup key := by
    intro keys
    induction keys with
    | nil => simp
    | cons first rest ih =>
      intro counts
      rw [List.foldl_cons,ih,KeyedMap.lookup_erase]
      by_cases same : key = first
      · simp [same]
      · simp [same]
  exact each (keys_of latest) daemon.passive_missing_counts

section
variable (registered : KeyedMap AgentKey RegisteredAgent) (seen : List AgentKey)
  (state : KeyedMap AgentKey UInt8 × List AgentKey) {key : AgentKey}

/-- A turn for another key leaves the count of this one, and whether it is dropped. -/
theorem count_other {other : AgentKey} (apart : key ≠ other) :
    (count_missing registered seen state other).1.lookup key = state.1.lookup key ∧
      (key ∈ (count_missing registered seen state other).2 ↔ key ∈ state.2) := by
  unfold count_missing
  split
  · exact ⟨rfl,.rfl⟩
  · split
    · simp only
      split
      · exact ⟨by rw [KeyedMap.lookup_insert,if_neg apart],by simp [apart]⟩
      · exact ⟨by rw [KeyedMap.lookup_insert,if_neg apart],.rfl⟩
    · split
      · exact ⟨by rw [KeyedMap.lookup_insert,if_neg apart],.rfl⟩
      · exact ⟨rfl,.rfl⟩

/-- The turn for a key that the snapshot lists does nothing. -/
theorem count_seen (member : key ∈ seen) : count_missing registered seen state key = state := by
  rw [count_missing,if_pos member]

theorem count_others (keys : List AgentKey) (apart : key ∈ keys → key ∈ seen) :
    (keys.foldl (count_missing registered seen) state).1.lookup key = state.1.lookup key ∧
      (key ∈ (keys.foldl (count_missing registered seen) state).2 ↔ key ∈ state.2) := by
  induction keys generalizing state with
  | nil => exact ⟨rfl,.rfl⟩
  | cons first rest ih =>
    obtain ⟨counts,drops⟩ := ih (count_missing registered seen state first)
      (fun later => apart (List.mem_cons_of_mem _ later))
    by_cases same : key = first
    · subst same
      rw [count_seen registered seen state (apart List.mem_cons_self)] at counts drops
      rw [List.foldl_cons,count_seen registered seen state (apart List.mem_cons_self)]
      exact ⟨counts,drops⟩
    · obtain ⟨count,dropped⟩ := count_other registered seen state same
      exact ⟨counts.trans count,drops.trans dropped⟩

/-- The turn for a key that the snapshot misses counts one more, and drops the key at the third. -/
theorem count_missed (absent : key ∉ seen) (there : (registered.lookup key).isSome = true) :
    (count_missing registered seen state key).1.lookup key = some (((state.1.lookup key).map saturating_succ).getD 1) ∧
      (key ∈ (count_missing registered seen state key).2 ↔
        key ∈ state.2 ∨ ∃ count, state.1.lookup key = some count ∧ saturating_succ count ≥ PASSIVE_MISSING_GRACE_POLLS) := by
  rw [count_missing,if_neg absent]
  cases found : state.1.lookup key with
  | none => simp [there]
  | some count =>
    simp only
    split
    · rename_i third
      simp [third]
    · rename_i early
      simp [early]

end

section
variable {daemon : BridgeDaemon} {latest : List AgentSession} {key : AgentKey}

/-- The counting loop at a key that is a candidate and absent from the snapshot. -/
theorem counted_missed (candidate : Candidate daemon key) (absent : key ∉ keys_of latest) :
    (counted daemon latest).1.lookup key =
        some (((daemon.passive_missing_counts.lookup key).map saturating_succ).getD 1) ∧
      (key ∈ (counted daemon latest).2 ↔ ∃ count, daemon.passive_missing_counts.lookup key = some count ∧
        saturating_succ count ≥ PASSIVE_MISSING_GRACE_POLLS) := by
  have there : (daemon.registered.lookup key).isSome = true := by
    obtain ⟨agent,found,_⟩ := candidate
    rw [found]
    rfl
  have distinct := KeyedMap.keysWhere_nodup daemon.registered passive
  obtain ⟨before,after,split⟩ := List.append_of_mem (candidate_passive.mpr candidate)
  rw [split,List.nodup_append] at distinct
  obtain ⟨_,fresh,apart⟩ := distinct
  have first : key ∉ before := fun member => apart key member key (by simp) rfl
  have last : key ∉ after := (List.nodup_cons.mp fresh).1
  obtain ⟨count,drop⟩ := count_others daemon.registered (keys_of latest) (uncounted daemon latest) before
    (fun member => absurd member first)
  obtain ⟨own,own_drop⟩ := count_missed daemon.registered (keys_of latest)
    (before.foldl (count_missing daemon.registered (keys_of latest)) (uncounted daemon latest)) absent there
  obtain ⟨count',drop'⟩ := count_others daemon.registered (keys_of latest) (count_missing daemon.registered (keys_of latest)
    (before.foldl (count_missing daemon.registered (keys_of latest)) (uncounted daemon latest)) key) after
    (fun member => absurd member last)
  rw [counted,split,List.foldl_append,List.foldl_cons]
  rw [count,uncounted_lookup,if_neg absent] at own own_drop
  refine ⟨count'.trans own,drop'.trans (own_drop.trans ?_)⟩
  rw [drop]
  simp [uncounted]

/-- The counting loop at any other key. -/
theorem counted_other (other : Candidate daemon key → key ∈ keys_of latest) :
    (counted daemon latest).1.lookup key = (if key ∈ keys_of latest then none
      else daemon.passive_missing_counts.lookup key) ∧ key ∉ (counted daemon latest).2 := by
  obtain ⟨count,drop⟩ := count_others daemon.registered (keys_of latest) (uncounted daemon latest)
    (daemon.registered.keysWhere passive) (fun among => other (candidate_passive.mp among))
  rw [uncounted_lookup] at count
  exact ⟨count,fun member => by cases drop.mp member⟩

end

/-! ## The account and the state -/

/-- The count that stands for a number of missed prunings. -/
def tally (missed : Nat) : Option UInt8 := if missed = 0 then none else some missed.toUInt8

/-- The record and the count of an agent agree with its account. -/
structure Tallied (daemon : BridgeDaemon) (key : AgentKey) (account : Account) : Prop where
  present : account.hooked = true → (daemon.registered.lookup key).isSome = true
  marks : ∀ agent, daemon.registered.lookup key = some agent →
    agent.from_hook = account.hooked ∧ (agent.from_launch = true → account.hooked = true)
  counts : (daemon.registered.lookup key).isSome = true → account.hooked = false →
    account.missed < 3 ∧ daemon.passive_missing_counts.lookup key = tally account.missed

theorem tally_succ {missed : Nat} (early : missed < 2) :
    ((tally missed).map saturating_succ).getD 1 = (missed + 1).toUInt8 ∧
      ∀ count, tally missed = some count → ¬ saturating_succ count ≥ PASSIVE_MISSING_GRACE_POLLS := by
  have cases : missed = 0 ∨ missed = 1 := by omega
  rcases cases with rfl | rfl
  · exact ⟨by decide,by intro count found; cases found⟩
  · refine ⟨by decide,?_⟩
    intro count found
    cases found
    decide

theorem tally_third : ∃ count, tally 2 = some count ∧ saturating_succ count ≥ PASSIVE_MISSING_GRACE_POLLS :=
  ⟨2,rfl,by decide⟩

section
variable {daemon : BridgeDaemon} {latest : List AgentSession} {key : AgentKey} {account : Account}

theorem candidate_iff (tallied : Tallied daemon key account) :
    Candidate daemon key ↔ account.hooked = false ∧ (sid_of daemon key).isSome = true := by
  constructor
  · rintro ⟨agent,found,_,unhooked,bound⟩
    obtain ⟨hook,_⟩ := tallied.marks agent found
    refine ⟨hook ▸ unhooked,?_⟩
    rw [sid_of,found]
    exact bound
  · rintro ⟨unhooked,bound⟩
    obtain ⟨sid,owned⟩ := Option.isSome_iff_exists.mp bound
    obtain ⟨agent,found,bound⟩ := sid_of_iff.mp owned
    obtain ⟨hook,launch⟩ := tallied.marks agent found
    rw [unhooked] at hook launch
    refine ⟨agent,found,?_,hook,by rw [bound]; rfl⟩
    cases launched : agent.from_launch with
    | false => rfl
    | true => cases launch launched

/-- A candidate is in the map, and its count is known. -/
theorem candidate_count (tallied : Tallied daemon key account) (candidate : Candidate daemon key) :
    account.missed < 3 ∧ daemon.passive_missing_counts.lookup key = tally account.missed := by
  have unhooked := ((candidate_iff tallied).mp candidate).1
  obtain ⟨agent,found,_⟩ := candidate
  exact tallied.counts (by rw [found]; rfl) unhooked

/-- The agents that a pruning drops. -/
theorem pruned_third (tallied : Tallied daemon key account) :
    key ∈ (prune_missing_passive_sessions daemon latest).2 ↔ account.hooked = false ∧ (sid_of daemon key).isSome = true ∧
      key ∉ keys_of latest ∧ account.missed = 2 := by
  rw [prune_eq]
  by_cases absent : Candidate daemon key ∧ key ∉ keys_of latest
  · obtain ⟨candidate,absent⟩ := absent
    obtain ⟨early,count⟩ := candidate_count tallied candidate
    obtain ⟨unhooked,bound⟩ := (candidate_iff tallied).mp candidate
    rw [(counted_missed candidate absent).2,count]
    constructor
    · rintro ⟨count,stands,third⟩
      refine ⟨unhooked,bound,absent,?_⟩
      by_cases last : account.missed = 2
      · exact last
      · exact absurd third ((tally_succ (by omega)).2 count stands)
    · rintro ⟨_,_,_,last⟩
      rw [last]
      exact tally_third
  · constructor
    · intro dropped
      refine absurd dropped (counted_other (fun candidate => ?_)).2
      by_contra unseen
      exact absent ⟨candidate,unseen⟩
    · rintro ⟨unhooked,bound,unseen,_⟩
      exact absurd ⟨(candidate_iff tallied).mpr ⟨unhooked,bound⟩,unseen⟩ absent

end

/-- The count that a pruning leaves to an agent which it does not drop. -/
theorem pruned_count {daemon : BridgeDaemon} {latest : List AgentSession} {key : AgentKey} {account : Account}
    (tallied : Tallied daemon key account) (unhooked : account.hooked = false)
    (before : (daemon.registered.lookup key).isSome = true)
    (kept : key ∉ (prune_missing_passive_sessions daemon latest).2) :
    let missed := if key ∈ keys_of latest then 0
      else if (sid_of daemon key).isSome then account.missed + 1 else account.missed
    missed < 3 ∧ (prune_missing_passive_sessions daemon latest).1.passive_missing_counts.lookup key = tally missed := by
  obtain ⟨early,count⟩ := tallied.counts before unhooked
  have unpruned := (not_congr (pruned_third tallied)).mp kept
  rw [prune_eq] at kept ⊢
  simp only [(dropped_lookup _ _ _).2,if_neg kept]
  by_cases seen : key ∈ keys_of latest
  · rw [(counted_other (fun _ => seen)).1,if_pos seen,if_pos seen]
    exact ⟨by omega,rfl⟩
  · rw [if_neg seen]
    by_cases bound : (sid_of daemon key).isSome = true
    · have second : account.missed < 2 := by
        by_contra last
        exact unpruned ⟨unhooked,bound,seen,by omega⟩
      rw [if_pos bound,(counted_missed ((candidate_iff tallied).mpr ⟨unhooked,bound⟩) seen).1,count,(tally_succ second).1]
      exact ⟨by omega,rfl⟩
    · rw [if_neg bound,(counted_other fun candidate => absurd ((candidate_iff tallied).mp candidate).2 bound).1,if_neg seen]
      exact ⟨early,count⟩

theorem tallied_rehashed {daemon other : BridgeDaemon} (same : Rehashed daemon other) {key : AgentKey} {account : Account}
    (tallied : Tallied daemon key account) : Tallied other key account := by
  have counts : other.passive_missing_counts = daemon.passive_missing_counts := by
    obtain ⟨registered,_,rfl⟩ := same
    rfl
  constructor
  · rw [rehashed_lookup same]
    exact tallied.present
  · rw [rehashed_lookup same]
    exact tallied.marks
  · rw [rehashed_lookup same,counts]
    exact tallied.counts

section
variable {m : BridgeMove} {key : AgentKey} {account : Account}

/-- The count after a move, of an agent that was in the map and is in it, and that is not hooked. -/
theorem counts_move (move : bridge m) (tallied : Tallied m.pre key account) (unhooked : account.hooked = false)
    (before : (m.pre.registered.lookup key).isSome = true) (after : (m.post.registered.lookup key).isSome = true) :
    (account.next key m).missed < 3 ∧ m.post.passive_missing_counts.lookup key = tally (account.next key m).missed := by
  obtain ⟨daemon,same,result⟩ := move
  have result := congrArg Prod.fst result
  have own := tallied_rehashed same tallied
  have sids : sid_of daemon key = sid_of m.pre key := by rw [sid_of,sid_of,rehashed_lookup same]
  rw [← rehashed_lookup same] at before
  obtain ⟨early,count⟩ := own.counts before unhooked
  simp only at result
  cases input : m.input with
  | prune latest =>
    rw [input] at result
    simp only [handle] at result
    have kept : key ∉ (prune_missing_passive_sessions daemon latest).2 := by
      intro dropped
      rw [← result,prune_eq,(dropped_lookup _ _ _).1,if_pos (show key ∈ (counted daemon latest).2 from dropped)] at after
      cases after
    have counts := pruned_count own unhooked before kept
    rw [result,sids] at counts
    simpa [Account.next,input,listed,prunes,unhooked] using counts
  | discovered_sessions sessions =>
    rw [input] at result
    have counts := discovered_counts sessions (daemon,0) key
    rw [show (sessions.foldl register_discovered_session (daemon,0)).1 = m.post from result] at counts
    rw [counts]
    simp only [Account.next,input,listed,prunes,Bool.false_and,List.contains_iff_mem]
    split
    · exact ⟨by omega,rfl⟩
    · exact ⟨early,count⟩
  | _ =>
    have counts : SameCounts daemon (handle daemon m.input).1 :=
      handle_counts daemon (by rw [input]; rfl) (by rw [input]; intro _ other; cases other)
    rw [result] at counts
    rw [counts]
    simp only [Account.next,input,listed,prunes,Bool.false_and,List.contains_iff_mem,List.not_mem_nil,if_false]
    exact ⟨early,count⟩

/-- An agent that is discovered by a move is listed, so it has no count. -/
theorem counts_found (account : Account) (move : bridge m) {sessions : List AgentSession} (told : m.input = .discovered_sessions sessions)
    {session : AgentSession} (among : session ∈ sessions) (same : (session.kind,session.agent_id) = key) :
    (account.next key m).missed = 0 ∧ m.post.passive_missing_counts.lookup key = none := by
  obtain ⟨daemon,_,result⟩ := move
  have result := congrArg Prod.fst result
  rw [told] at result
  have member : key ∈ keys_of sessions := List.mem_map.mpr ⟨session,among,same⟩
  have counts := discovered_counts sessions (daemon,0) key
  rw [show (sessions.foldl register_discovered_session (daemon,0)).1 = m.post from result,if_pos member] at counts
  refine ⟨?_,counts⟩
  simp only [Account.next,told,listed,List.contains_iff_mem,if_pos member]

theorem tallied_move (move : bridge m) (tallied : Tallied m.pre key account) :
    Tallied m.post key (account.next key m) := by
  by_cases registers : registered_key m.input = some key
  · obtain ⟨fresh,told,own⟩ := registered_key_iff.mp registers
    obtain ⟨new,there,hook⟩ := registers_hooked move told
    rw [own] at there
    have hooked : (account.next key m).hooked = true := by simp [Account.next,registers]
    refine ⟨fun _ => by rw [there]; rfl,?_,?_⟩
    · intro agent found
      rw [found] at there
      cases there
      rw [hooked,hook]
      exact ⟨rfl,fun _ => rfl⟩
    · intro _ unhooked
      rw [hooked] at unhooked
      cases unhooked
  · have hooked : (account.next key m).hooked = ((m.post.registered.lookup key).isSome && account.hooked) := by
      simp [Account.next,registers]
    cases found : m.post.registered.lookup key with
    | none =>
      rw [found,Option.isSome_none,Bool.false_and] at hooked
      exact ⟨by simp [hooked],by rw [found]; simp,by rw [found]; simp⟩
    | some agent =>
      rw [found,Option.isSome_some,Bool.true_and] at hooked
      cases record_move move found with
      | kept traced =>
        obtain ⟨old,before,marks⟩ := traced
        obtain ⟨hook,launch⟩ := tallied.marks old before
        refine ⟨fun _ => by rw [found]; rfl,?_,?_⟩
        · intro agent' found'
          rw [found] at found'
          cases found'
          rw [hooked,marks.hook,marks.launch]
          exact ⟨hook,launch⟩
        · intro after unhooked
          rw [hooked] at unhooked
          exact counts_move move tallied unhooked (by rw [before]; rfl) after
      | registered told own made => exact absurd (registered_key_iff.mpr ⟨_,told,own⟩) registers
      | @discovered sessions told made =>
        obtain ⟨unknown,session,among,same,rfl⟩ := made
        have fresh : account.hooked = false := by
          cases hook : account.hooked with
          | false => rfl
          | true =>
            have there := tallied.present hook
            rw [unknown] at there
            cases there
        obtain ⟨missed,count⟩ := counts_found account move told among same
        refine ⟨fun _ => by rw [found]; rfl,?_,?_⟩
        · intro agent' found'
          rw [found] at found'
          cases found'
          rw [hooked,fresh]
          exact ⟨rfl,fun launched => by cases launched⟩
        · intro _ _
          rw [missed,count]
          exact ⟨by omega,rfl⟩

end

theorem tallied_run {ms : List BridgeMove} {daemon : BridgeDaemon} (run : Run ms daemon) (key : AgentKey) :
    Tallied daemon key (account key ms) := by
  induction run with
  | refl =>
    refine ⟨?_,?_,?_⟩
    · intro hook; cases hook
    · intro agent found; cases found
    · intro there; cases there
  | next before move ih =>
    rw [account_next]
    exact tallied_move move ih

/-- After any run, a pruning drops an agent exactly when no hook and no launch has registered it since it was last
    out of the map, it is bound, the snapshot misses it, and that is the third pruning to do so since it was last
    listed, the agent being such each time. -/
theorem pruned_iff {ms : List BridgeMove} {m : BridgeMove} (run : Run ms m.pre) (move : bridge m)
    {latest : List AgentSession} (input : m.input = .prune latest) {keys : List AgentKey}
    (output : m.output = .dropped keys) (key : AgentKey) :
    key ∈ keys ↔ (account key ms).hooked = false ∧ (sid_of m.pre key).isSome = true ∧
      key ∉ keys_of latest ∧ (account key (ms ++ [m])).missed = 3 := by
  have tallied := tallied_run run key
  obtain ⟨daemon,same,result⟩ := move
  have sids : sid_of daemon key = sid_of m.pre key := by rw [sid_of,sid_of,rehashed_lookup same]
  have result := congrArg Prod.snd result
  rw [input,output] at result
  cases result
  rw [pruned_third (tallied_rehashed same tallied),sids]
  refine and_congr_right fun unhooked => and_congr_right fun bound => and_congr_right fun absent => ?_
  rw [account_next]
  simp only [Account.next,input,listed,prunes,List.contains_iff_mem,if_neg absent,bound,unhooked]
  simp

/-- A session that is in a transcript only. -/
def passive_session : AgentSession := ⟨"x",.Claude,"claude","/work","/t.jsonl",.Running,none⟩

/-- A session is discovered, granted a row, and missed by two prunings. -/
def missed_twice : List Event :=
  [.discovered_sessions [passive_session],full_flush,session_response 7 .Ok,.prune [],.prune []]

theorem pruned_iff_thrice : (.Claude,"x") ∈
    (prune_missing_passive_sessions (finish handle BridgeDaemon.new missed_twice) []).2 := by
  refine (pruned_iff (m := move_of (finish handle BridgeDaemon.new missed_twice) (.prune []))
    (run_events missed_twice) (bridge_move_of _ _) rfl rfl (.Claude,"x")).mpr ⟨?_,?_,?_,?_⟩
  · decide
  · decide
  · simp [keys_of]
  · decide

/-- A hook registers a session and aborts it. Then it is discovered, granted a row, and missed by two prunings. -/
def discovered_again : List Event := registration "claude" "x" false :: abortion "claude" "x" :: missed_twice

theorem hooked_pruned : ¬ ∀ {ms : List BridgeMove} {m : BridgeMove}, Run ms m.pre → bridge m →
    ∀ {latest keys}, m.input = .prune latest → m.output = .dropped keys → ∀ key ∈ keys,
      ∀ earlier ∈ ms, registered_key earlier.input ≠ some key := by
  intro never
  have dropped : (.Claude,"x") ∈
      (prune_missing_passive_sessions (finish handle BridgeDaemon.new discovered_again) []).2 := by decide
  have first : ∃ earlier ∈ moves handle BridgeDaemon.new discovered_again,
      registered_key earlier.input = some (.Claude,"x") := ⟨_,List.mem_cons_self,by decide⟩
  obtain ⟨earlier,member,named⟩ := first
  exact never (m := move_of (finish handle BridgeDaemon.new discovered_again) (.prune []))
    (run_events discovered_again) (bridge_move_of _ _) rfl rfl _ dropped earlier member named

end VibeBridge.Pruning
