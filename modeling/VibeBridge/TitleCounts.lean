import Mathlib.Data.List.MinMax
import VibeBridge.Discovery

/-!
How windows are counted for sessions by their titles. A title counts for one of
the keys with the longest label in it (`best_iff`), for the first in the order
of the hash map. Where two keys have labels of that length, another order counts
it for another key (`tied_differs`). So the counts are the same in all orders
exactly when no title has such a tie (`counts_order_free`).
-/
namespace VibeBridge.TitleCounts
open VibeBridge.Text VibeBridge.Core VibeBridge.Agent VibeBridge.Discovery

/-! ## Counting -/

section
variable {κ : Type} [DecidableEq κ]

theorem bumped_lookup (keys : List κ) (counts : KeyedMap κ Nat) (key : κ) :
    (keys.foldl bump counts).lookup key =
      if keys.count key = 0 then counts.lookup key else some ((counts.lookup key).getD 0 + keys.count key) := by
  induction keys generalizing counts with
  | nil => rfl
  | cons first rest ih =>
    rw [List.foldl_cons,ih,bump,KeyedMap.lookup_insert,List.count_cons]
    by_cases same : key = first
    · subst same
      by_cases later : rest.count key = 0
      · simp [later]
      · simp [later]
        omega
    · simp [same,Ne.symm same]

/-- Two sequences of keys are counted the same when they are the same but for their order. -/
theorem bumped_same {keys keys' : List κ} : (∀ key, (keys.foldl bump ∅).lookup key = (keys'.foldl bump ∅).lookup key) ↔
    keys.Perm keys' := by
  rw [List.perm_iff_count]
  refine forall_congr' fun key => ?_
  have none : (∅ : KeyedMap κ Nat).lookup key = none := AList.lookup_empty key
  rw [bumped_lookup,bumped_lookup,none]
  constructor
  · intro same
    split at same
    · split at same
      · omega
      · cases same
    · split at same
      · cases same
      · simp only [Option.getD_none,Option.some.injEq] at same
        omega
  · intro same
    rw [same]

end

/-- A title that is counted. -/
def Counted (title : String) : Prop := title ≠ "" ∧ looks_like_plain_shell_title title = false

instance : DecidablePred Counted := fun title =>
  inferInstanceAs (Decidable (title ≠ "" ∧ looks_like_plain_shell_title title = false))

/-- The key that a title counts for. -/
def matched (labels_by_key : KeyedMap AgentKey (List String)) (title : String) : Option AgentKey :=
  if Counted (normalize_match_text title) then best_matching_session_key (normalize_match_text title) labels_by_key else none

/-- The kind of a title that counts for no key. -/
def generic (labels_by_key : KeyedMap AgentKey (List String)) (title : String) : Option AgentKind :=
  if Counted (normalize_match_text title) then
    match best_matching_session_key (normalize_match_text title) labels_by_key with
    | some _ => none
    | none => generic_agent_title_kind (normalize_match_text title)
  else none

theorem title_counted (labels_by_key : KeyedMap AgentKey (List String))
    (state : KeyedMap AgentKey Nat × KeyedMap AgentKind Nat) (title : String) :
    count_title labels_by_key state title = ((matched labels_by_key title).toList.foldl bump state.1,
      (generic labels_by_key title).toList.foldl bump state.2) := by
  have counts : (normalize_match_text title = "" || looks_like_plain_shell_title (normalize_match_text title)) = true ↔
      ¬ Counted (normalize_match_text title) := by
    simp only [Counted,Bool.or_eq_true,decide_eq_true_eq,not_and_or,ne_eq,not_not,Bool.not_eq_false]
  rw [count_title,matched,generic]
  by_cases counted : Counted (normalize_match_text title)
  · rw [if_pos counted,if_pos counted,if_neg (fun plain => counts.mp plain counted)]
    cases best_matching_session_key (normalize_match_text title) labels_by_key with
    | some key => rfl
    | none => cases generic_agent_title_kind (normalize_match_text title) <;> rfl
  · rw [if_neg counted,if_neg counted,if_pos (counts.mpr counted)]
    rfl

theorem titles_counted (labels_by_key : KeyedMap AgentKey (List String)) (titles : List String)
    (state : KeyedMap AgentKey Nat × KeyedMap AgentKind Nat) :
    titles.foldl (count_title labels_by_key) state =
      ((titles.filterMap (matched labels_by_key)).foldl bump state.1,
        (titles.filterMap (generic labels_by_key)).foldl bump state.2) := by
  induction titles generalizing state with
  | nil => rfl
  | cons title rest ih =>
    rw [List.foldl_cons,title_counted,ih]
    cases key : matched labels_by_key title <;> cases kind : generic labels_by_key title <;>
      simp [key,kind]

/-- The keys that the generic titles of a kind count for. -/
def newest (latest_by_kind : KeyedMap AgentKind (List AgentSession)) (entry : AgentKind × Nat) : List AgentKey :=
  (((latest_by_kind.lookup entry.1).getD []).take entry.2).map (fun session => active_key session.kind session.cwd)

theorem generics_counted (latest_by_kind : KeyedMap AgentKind (List AgentSession)) (entries : List (AgentKind × Nat))
    (counts : KeyedMap AgentKey Nat) :
    entries.foldl (count_generic latest_by_kind) counts = (entries.flatMap (newest latest_by_kind)).foldl bump counts := by
  induction entries generalizing counts with
  | nil => rfl
  | cons entry rest ih =>
    have turn : count_generic latest_by_kind counts entry = (newest latest_by_kind entry).foldl bump counts := by
      rw [count_generic,newest]
      cases latest_by_kind.lookup entry.1 with
      | none => simp
      | some sessions => rw [Option.getD_some,List.foldl_map]
    rw [List.foldl_cons,turn,ih,List.flatMap_cons,List.foldl_append]

/-! ## The best key of a title -/

/-- The keys that have a label in the title, each with the length of its longest one. -/
def scored (title : String) (labels_by_key : KeyedMap AgentKey (List String)) : List (AgentKey × Nat) :=
  labels_by_key.entries.filterMap (fun e => (label_score title e.2).map (e.1,·))

theorem mem_scored {title : String} {labels_by_key : KeyedMap AgentKey (List String)} {key : AgentKey} {score : Nat} :
    (key,score) ∈ scored title labels_by_key ↔
      ∃ labels, labels_by_key.lookup key = some labels ∧ label_score title labels = some score := by
  simp only [scored,List.mem_filterMap,Option.map_eq_some_iff,Prod.mk.injEq]
  constructor
  · rintro ⟨⟨k,labels⟩,member,n,found,rfl,rfl⟩
    exact ⟨labels,AList.mem_lookup_iff.mpr member,found⟩
  · rintro ⟨labels,there,found⟩
    exact ⟨⟨key,labels⟩,AList.mem_lookup_iff.mp there,score,found,rfl,rfl⟩

theorem scored_reordered (title : String) {m n : KeyedMap AgentKey (List String)} (same : KeyedMap.Reordered m n) :
    (scored title m).Perm (scored title n) := same.filterMap _

/-- The loop finds the first of the keys that score most. -/
theorem best_argmax (title : String) (labels_by_key : KeyedMap AgentKey (List String)) :
    best_matching_session_key title labels_by_key = ((scored title labels_by_key).argmax (·.2)).map (·.1) := by
  have loop : ∀ (entries : List (Sigma fun _ : AgentKey => List String)) (best : Option (AgentKey × Nat)),
      (entries.map (fun e => (e.1,e.2))).foldl (better_match title) best =
        (entries.filterMap (fun e => (label_score title e.2).map (e.1,·))).foldl
          (List.argAux fun b c => c.2 < b.2) best := by
    intro entries
    induction entries with
    | nil => intro best; rfl
    | cons e rest ih =>
      intro best
      rw [List.map_cons,List.foldl_cons,ih]
      cases found : label_score title e.2 with
      | none => simp [better_match,found]
      | some score =>
        rw [List.filterMap_cons_some (by rw [found]; rfl),List.foldl_cons]
        cases best <;> simp [better_match,found,List.argAux]
  rw [best_matching_session_key,loop]
  rfl

/-- The key scores most. -/
def Best (title : String) (labels_by_key : KeyedMap AgentKey (List String)) (key : AgentKey) (score : Nat) : Prop :=
  (key,score) ∈ scored title labels_by_key ∧ ∀ other ∈ scored title labels_by_key, other.2 ≤ score

theorem best_reordered {title : String} {m n : KeyedMap AgentKey (List String)} (same : KeyedMap.Reordered m n)
    {key : AgentKey} {score : Nat} : Best title n key score ↔ Best title m key score := by
  have perm := scored_reordered title same
  simp only [Best,perm.mem_iff]

section
variable {title : String} {labels_by_key : KeyedMap AgentKey (List String)} {key : AgentKey}

theorem best_of_found (found : best_matching_session_key title labels_by_key = some key) :
    ∃ score, Best title labels_by_key key score := by
  rw [best_argmax,Option.map_eq_some_iff] at found
  obtain ⟨⟨key',score⟩,first,rfl⟩ := found
  obtain ⟨member,most,_⟩ := List.argmax_eq_some_iff.mp first
  exact ⟨score,member,most⟩

theorem best_none : best_matching_session_key title labels_by_key = none ↔ scored title labels_by_key = [] := by
  rw [best_argmax,Option.map_eq_none_iff,List.argmax_eq_none]

/-- Whether a key is found does not depend on the order. -/
theorem best_none_reordered (title : String) {m n : KeyedMap AgentKey (List String)} (same : KeyedMap.Reordered m n) :
    best_matching_session_key title m = none ↔ best_matching_session_key title n = none := by
  have perm := scored_reordered title same
  rw [best_none,best_none]
  constructor
  · intro empty
    rw [empty] at perm
    exact List.nil_perm.mp perm
  · intro empty
    rw [empty] at perm
    exact List.perm_nil.mp perm

/-- Of the keys that score most the first is found. -/
theorem best_first {labels : List String} {rest : List (Sigma fun _ : AgentKey => List String)} {score : Nat}
    (first : labels_by_key.entries = ⟨key,labels⟩ :: rest) (best : Best title labels_by_key key score) :
    best_matching_session_key title labels_by_key = some key := by
  obtain ⟨member,most⟩ := best
  have there : labels_by_key.lookup key = some labels := AList.mem_lookup_iff.mpr (by rw [first]; simp)
  obtain ⟨labels',there',found⟩ := mem_scored.mp member
  rw [there] at there'
  cases there'
  have front : ∃ others, scored title labels_by_key = (key,score) :: others := by
    rw [scored,first,List.filterMap_cons_some (by rw [found]; rfl)]
    exact ⟨_,rfl⟩
  obtain ⟨others,front⟩ := front
  rw [best_argmax,front,List.argmax_cons]
  cases later : others.argmax (·.2) with
  | none => rfl
  | some other =>
    have less := most other (by rw [front]; exact List.mem_cons_of_mem _ (List.argmax_mem later))
    have stays : ¬ score < other.2 := by omega
    simp [stays]

/-- The last key is not found when another one scores most. -/
theorem best_last {labels : List String} {front : List (Sigma fun _ : AgentKey => List String)} {other : AgentKey}
    {score : Nat} (last : labels_by_key.entries = front ++ [⟨key,labels⟩]) (apart : other ≠ key)
    (best : Best title labels_by_key other score) : best_matching_session_key title labels_by_key ≠ some key := by
  intro found
  obtain ⟨member,most⟩ := best
  obtain ⟨own_score,own,_⟩ := best_of_found found
  have there : labels_by_key.lookup key = some labels := AList.mem_lookup_iff.mpr (by rw [last]; simp)
  obtain ⟨labels',there',scores⟩ := mem_scored.mp own
  rw [there] at there'
  cases there'
  have parts : scored title labels_by_key =
      front.filterMap (fun e => (label_score title e.2).map (e.1,·)) ++ [(key,own_score)] := by
    rw [scored,last,List.filterMap_append,List.filterMap_cons_some (by rw [scores]; rfl)]
    rfl
  rw [parts,List.mem_append,List.mem_singleton] at member
  have among : (other,score) ∈ front.filterMap (fun e => (label_score title e.2).map (e.1,·)) := by
    rcases member with early | same
    · exact early
    · cases same
      exact absurd rfl apart
  rw [best_argmax,parts,List.argmax_concat] at found
  cases first : (front.filterMap (fun e => (label_score title e.2).map (e.1,·))).argmax (·.2) with
  | none =>
    rw [List.argmax_eq_none] at first
    rw [first] at among
    cases among
  | some leader =>
    have bound := most (key,own_score) (by rw [parts]; simp)
    have lead := List.le_of_mem_argmax among first
    have stays : ¬ leader.2 < own_score := by
      simp only at bound lead
      omega
    rw [first] at found
    simp only [stays,if_false,Option.map_some,Option.some.injEq] at found
    -- The leader is the key of an earlier entry, and the keys are distinct.
    obtain ⟨e,early,scored⟩ := List.mem_filterMap.mp (List.argmax_mem first)
    obtain ⟨n,_,rfl⟩ := Option.map_eq_some_iff.mp scored
    have distinct := labels_by_key.nodupKeys
    rw [last,List.NodupKeys,List.keys,List.map_append,List.nodup_append] at distinct
    exact distinct.2.2 e.1 (List.mem_map_of_mem early) key (by simp) found

end

/-! ## The labels of the candidates -/

/-- A label of a key: the name or the directory name of one of its candidates, with three bytes at least. -/
def LabelOf (candidates : List AgentSession) (key : AgentKey) (label : String) : Prop :=
  ∃ session ∈ candidates, active_key session.kind session.cwd = key ∧ 3 ≤ (as_bytes label).length ∧
    (label = normalize_match_text session.name ∨ label = normalize_match_text (cwd_basename session.cwd))

/-- A label of the key that occurs in the title has this length. -/
def Matches (candidates : List AgentSession) (title : String) (key : AgentKey) (length : Nat) : Prop :=
  ∃ label, LabelOf candidates key label ∧ contains title label = true ∧ (as_bytes label).length = length

/-- Two keys have longest labels in the title that are as long, and no key has a longer one. -/
def Tied (candidates : List AgentSession) (title : String) : Prop :=
  ∃ key key' length, key ≠ key' ∧ Matches candidates title key length ∧ Matches candidates title key' length ∧
    ∀ other longer, Matches candidates title other longer → longer ≤ length

theorem mem_push_label {labels : List String} {value label : String} : label ∈ push_label labels value ↔
    label ∈ labels ∨ label = normalize_match_text value ∧ 3 ≤ (as_bytes label).length := by
  simp only [push_label]
  split
  · rename_i new
    rw [List.mem_append,List.mem_singleton]
    refine or_congr_right ?_
    constructor
    · rintro rfl
      exact ⟨rfl,new.1⟩
    · exact And.left
  · rename_i old
    constructor
    · exact .inl
    · rintro (there | ⟨rfl,long⟩)
      · exact there
      · by_contra new
        exact old ⟨long,new⟩

/-- The labels of a key after the first loop. -/
theorem mem_labels (candidates : List AgentSession)
    (state : KeyedMap AgentKey (List String) × KeyedMap AgentKind (List AgentSession)) (key : AgentKey) (label : String) :
    label ∈ ((candidates.foldl label_session state).1.lookup key).getD [] ↔
      label ∈ (state.1.lookup key).getD [] ∨ LabelOf candidates key label := by
  induction candidates generalizing state with
  | nil => simp [LabelOf]
  | cons session rest ih =>
    have turn : label ∈ ((label_session state session).1.lookup key).getD [] ↔ label ∈ (state.1.lookup key).getD [] ∨
        active_key session.kind session.cwd = key ∧ 3 ≤ (as_bytes label).length ∧
          (label = normalize_match_text session.name ∨ label = normalize_match_text (cwd_basename session.cwd)) := by
      simp only [label_session,KeyedMap.lookup_insert]
      by_cases own : key = active_key session.kind session.cwd
      · subst own
        rw [if_pos rfl,Option.getD_some,mem_push_label,mem_push_label,or_assoc]
        refine or_congr_right ?_
        constructor
        · rintro (⟨name,long⟩ | ⟨directory,long⟩)
          · exact ⟨rfl,long,.inl name⟩
          · exact ⟨rfl,long,.inr directory⟩
        · rintro ⟨_,long,name | directory⟩
          · exact .inl ⟨name,long⟩
          · exact .inr ⟨directory,long⟩
      · rw [if_neg own]
        simp [Ne.symm own]
    rw [List.foldl_cons,ih,turn,or_assoc]
    refine or_congr_right ?_
    simp only [LabelOf,List.mem_cons,exists_eq_or_imp]

theorem label_of_score {title : String} {labels : List String} {score : Nat} (found : label_score title labels = some score) :
    ∃ label ∈ labels, contains title label = true ∧ (as_bytes label).length = score := by
  obtain ⟨member,_⟩ := List.max?_eq_some_iff.mp found
  obtain ⟨label,among,size⟩ := List.mem_map.mp member
  obtain ⟨there,occurs⟩ := List.mem_filter.mp among
  exact ⟨label,there,(Bool.and_eq_true_iff.mp occurs).2,size⟩

theorem score_of_label {title label : String} {labels : List String} (member : label ∈ labels)
    (long : 3 ≤ (as_bytes label).length) (occurs : contains title label = true) :
    ∃ score, label_score title labels = some score ∧ (as_bytes label).length ≤ score := by
  have some_there : label ≠ "" := by
    intro empty
    rw [as_bytes_empty.mpr empty] at long
    simp at long
  have among : (as_bytes label).length ∈
      (labels.filter (fun label => label != "" && contains title label)).map (fun label => (as_bytes label).length) :=
    List.mem_map_of_mem (List.mem_filter.mpr ⟨member,by simp [some_there,occurs]⟩)
  cases found : label_score title labels with
  | none =>
    rw [label_score,List.max?_eq_none_iff] at found
    rw [found] at among
    cases among
  | some score => exact ⟨score,rfl,(List.max?_eq_some_iff.mp found).2 _ among⟩

/-- The labels of each key after the first loop. -/
def labels_of (candidates : List AgentSession) : KeyedMap AgentKey (List String) :=
  (candidates.foldl label_session (∅,∅)).1

theorem mem_labels_of {candidates : List AgentSession} {key : AgentKey} {label : String} :
    label ∈ ((labels_of candidates).lookup key).getD [] ↔ LabelOf candidates key label := by
  have none : (∅ : KeyedMap AgentKey (List String)).lookup key = none := AList.lookup_empty key
  rw [labels_of,mem_labels,none]
  simp

theorem matches_of_scored {candidates : List AgentSession} {title : String} {key : AgentKey} {score : Nat}
    (member : (key,score) ∈ scored title (labels_of candidates)) : Matches candidates title key score := by
  obtain ⟨labels,there,found⟩ := mem_scored.mp member
  obtain ⟨label,among,occurs,size⟩ := label_of_score found
  exact ⟨label,mem_labels_of.mp (by rw [there]; exact among),occurs,size⟩

theorem scored_of_matches {candidates : List AgentSession} {title : String} {key : AgentKey} {length : Nat}
    (occurs : Matches candidates title key length) :
    ∃ score, (key,score) ∈ scored title (labels_of candidates) ∧ length ≤ score := by
  obtain ⟨label,own,occurs,rfl⟩ := occurs
  have among := mem_labels_of.mpr own
  cases there : (labels_of candidates).lookup key with
  | none =>
    rw [there] at among
    cases among
  | some labels =>
    rw [there] at among
    obtain ⟨_,_,_,long,_⟩ := own
    obtain ⟨score,found,less⟩ := score_of_label among long occurs
    exact ⟨score,mem_scored.mpr ⟨labels,there,found⟩,less⟩

/-- The keys that score most are those with the longest labels. -/
theorem best_iff {candidates : List AgentSession} {title : String} {key : AgentKey} {length : Nat} :
    Best title (labels_of candidates) key length ↔ Matches candidates title key length ∧
      ∀ other longer, Matches candidates title other longer → longer ≤ length := by
  constructor
  · rintro ⟨member,most⟩
    refine ⟨matches_of_scored member,?_⟩
    intro other longer occurs
    obtain ⟨score,scores,less⟩ := scored_of_matches occurs
    exact less.trans (most _ scores)
  · rintro ⟨occurs,most⟩
    obtain ⟨score,scores,less⟩ := scored_of_matches occurs
    have same : score = length := le_antisymm (most _ _ (matches_of_scored scores)) less
    refine ⟨same ▸ scores,?_⟩
    rintro ⟨other,n⟩ member
    exact most _ _ (matches_of_scored member)

/-! ## The orders of the maps -/

section
variable (modified : ModifiedTimes) (orders : HashOrders) (candidates : List AgentSession) (titles : List String)

/-- The sessions of each kind, sorted. -/
def latest_of : KeyedMap AgentKind (List AgentSession) :=
  (orders.latest_by_kind (candidates.foldl label_session (∅,∅)).2).keys.foldl
    (fun latest kind => latest.update kind (sort_newest_first modified)) (candidates.foldl label_session (∅,∅)).2

/-- The counts of the generic titles. -/
def generic_counts : KeyedMap AgentKind Nat :=
  (titles.filterMap (generic (orders.labels_by_key (labels_of candidates)))).foldl bump ∅

theorem counts_keys : visible_terminal_session_counts_from_titles modified orders candidates titles =
    (titles.filterMap (matched (orders.labels_by_key (labels_of candidates))) ++
      ((orders.generic_counts (generic_counts orders candidates titles)).entries.map (fun e => (e.1,e.2))).flatMap
        (newest (latest_of modified orders candidates))).foldl bump ∅ := by
  rw [visible_terminal_session_counts_from_titles,generics_counted,titles_counted,List.foldl_append]
  rfl

theorem latest_lookup (kind : AgentKind) : (latest_of modified orders candidates).lookup kind =
    ((candidates.foldl label_session (∅,∅)).2.lookup kind).map (sort_newest_first modified) := by
  rw [latest_of,KeyedMap.lookup_update_each _ _ (AList.keys_nodup _)]
  split
  · rfl
  · rename_i unknown
    have same := KeyedMap.lookup_reordered (orders.latest_same (candidates.foldl label_session (∅,∅)).2) kind
    rw [AList.lookup_eq_none.mpr unknown] at same
    rw [← same]
    rfl

end

theorem generic_reordered {m n : KeyedMap AgentKey (List String)} (same : KeyedMap.Reordered m n) : generic m = generic n := by
  funext title
  have found := best_none_reordered (normalize_match_text title) same
  rw [generic,generic]
  split
  · cases first : best_matching_session_key (normalize_match_text title) m with
    | none => rw [found.mp first]
    | some key =>
      cases second : best_matching_session_key (normalize_match_text title) n with
      | some key' => rfl
      | none => cases first.symm.trans (found.mpr second)
  · rfl

/-- Only the titles that count for a key depend on the orders. -/
theorem counts_same {modified : ModifiedTimes} {candidates : List AgentSession} {titles : List String}
    (orders orders' : HashOrders) :
    (∀ key, (visible_terminal_session_counts_from_titles modified orders candidates titles).lookup key =
      (visible_terminal_session_counts_from_titles modified orders' candidates titles).lookup key) ↔
    (titles.filterMap (matched (orders.labels_by_key (labels_of candidates)))).Perm
      (titles.filterMap (matched (orders'.labels_by_key (labels_of candidates)))) := by
  have labels := (orders.labels_same (labels_of candidates)).symm.trans (orders'.labels_same (labels_of candidates))
  have counts : generic_counts orders candidates titles = generic_counts orders' candidates titles := by
    rw [generic_counts,generic_counts,generic_reordered labels]
  have latest : newest (latest_of modified orders candidates) = newest (latest_of modified orders' candidates) := by
    funext entry
    rw [newest,newest,latest_lookup,latest_lookup]
  have perm := ((orders.generic_same (generic_counts orders' candidates titles)).symm.trans
    (orders'.generic_same (generic_counts orders' candidates titles))).map (fun e => (e.1,e.2))
  have others := perm.flatMap_right (newest (latest_of modified orders candidates))
  rw [counts_keys,counts_keys,bumped_same,counts,← latest]
  exact ((others.append_left _).congr_left _).trans (List.perm_append_right_iff _)

/-- The counts are the same in all orders. -/
def OrderFree (modified : ModifiedTimes) (candidates : List AgentSession) (titles : List String) : Prop :=
  ∀ orders orders' key, (visible_terminal_session_counts_from_titles modified orders candidates titles).lookup key =
    (visible_terminal_session_counts_from_titles modified orders' candidates titles).lookup key

/-- Orders in which the labels of a key come first. -/
def first_orders (key : AgentKey) : HashOrders where
  latest_by_kind := id
  labels_by_key := KeyedMap.front key
  generic_counts := id
  latest_same := fun _ => List.Perm.refl _
  labels_same := KeyedMap.reordered_front key
  generic_same := fun _ => List.Perm.refl _

/-- Orders in which they come last. -/
def last_orders (key : AgentKey) : HashOrders where
  latest_by_kind := id
  labels_by_key := fun m => (KeyedMap.front key m).reversed
  generic_counts := id
  latest_same := fun _ => List.Perm.refl _
  labels_same := fun m => (KeyedMap.reordered_front key m).trans (KeyedMap.reordered_reversed _)
  generic_same := fun _ => List.Perm.refl _

/-- Of two functions, the one counts for a key whatever the other does, and one title more. -/
theorem fewer {f g : String → Option AgentKey} (key : AgentKey) {titles : List String} {title : String}
    (member : title ∈ titles) (counts : f title = some key) (fails : g title ≠ some key)
    (kept : ∀ other, g other = some key → f other = some key) : ¬ (titles.filterMap f).Perm (titles.filterMap g) := by
  have number : ∀ (h : String → Option AgentKey) (l : List String),
      (l.filterMap h).countP (fun k => decide (k = key)) = l.countP (fun t => decide (h t = some key)) := by
    intro h l
    induction l with
    | nil => rfl
    | cons t rest ih => cases found : h t <;> simp [found,ih,List.countP_cons]
  have less : ∀ l : List String, l.countP (fun t => decide (g t = some key)) ≤ l.countP (fun t => decide (f t = some key)) := by
    intro l
    refine List.countP_mono_left fun t _ own => ?_
    rw [decide_eq_true_iff] at own ⊢
    exact kept t own
  intro perm
  have same := perm.countP_eq (fun k => decide (k = key))
  obtain ⟨before,after,rfl⟩ := List.append_of_mem member
  rw [number,number,List.countP_append,List.countP_append,List.countP_cons,List.countP_cons] at same
  simp only [counts,fails,decide_true,decide_false,if_true] at same
  have front := less before
  have back := less after
  simp only [Bool.false_eq_true,if_false] at same
  omega

/-- A tie is broken by the order. -/
theorem tied_differs {modified : ModifiedTimes} {candidates : List AgentSession} {titles : List String} {title : String}
    (member : title ∈ titles) (counted : Counted (normalize_match_text title))
    (tied : Tied candidates (normalize_match_text title)) : ¬ OrderFree modified candidates titles := by
  obtain ⟨key,key',length,apart,own,own',most⟩ := tied
  intro free
  have perm := (counts_same (first_orders key) (last_orders key)).mp (free (first_orders key) (last_orders key))
  have best := best_iff.mpr ⟨own,most⟩
  have best' := best_iff.mpr ⟨own',most⟩
  obtain ⟨labels,there,_⟩ := mem_scored.mp best.1
  obtain ⟨rest,front⟩ := KeyedMap.front_entries there
  have last : ((last_orders key).labels_by_key (labels_of candidates)).entries = rest.reverse ++ [⟨key,labels⟩] := by
    rw [show ((last_orders key).labels_by_key (labels_of candidates)).entries =
      (KeyedMap.front key (labels_of candidates)).entries.reverse from rfl,front,List.reverse_cons]
  have firsts := (first_orders key).labels_same (labels_of candidates)
  have lasts := (last_orders key).labels_same (labels_of candidates)
  refine fewer key member ?_ ?_ ?_ perm
  · rw [matched,if_pos counted]
    exact best_first front ((best_reordered firsts).mpr best)
  · rw [matched,if_pos counted]
    exact best_last last apart.symm ((best_reordered lasts).mpr best')
  · intro other found
    rw [matched] at found ⊢
    split at found
    · rename_i counted
      obtain ⟨score,found⟩ := best_of_found found
      rw [if_pos counted]
      exact best_first front ((best_reordered firsts).mpr ((best_reordered lasts).mp found))
    · cases found

/-- The counts do not depend on the orders of the maps exactly when no title is tied between two keys. -/
theorem counts_order_free (modified : ModifiedTimes) (candidates : List AgentSession) (titles : List String) :
    OrderFree modified candidates titles ↔
      ∀ title ∈ titles, Counted (normalize_match_text title) → ¬ Tied candidates (normalize_match_text title) := by
  constructor
  · intro free title member counted tied
    exact tied_differs member counted tied free
  · intro untied orders orders'
    refine (counts_same orders orders').mpr ?_
    have same : ∀ title ∈ titles, matched (orders.labels_by_key (labels_of candidates)) title =
        matched (orders'.labels_by_key (labels_of candidates)) title := by
      intro title member
      have here := orders.labels_same (labels_of candidates)
      have there := orders'.labels_same (labels_of candidates)
      have found := best_none_reordered (normalize_match_text title) (here.symm.trans there)
      rw [matched,matched]
      split
      · rename_i counted
        cases first : best_matching_session_key (normalize_match_text title) (orders.labels_by_key (labels_of candidates)) with
        | none => rw [found.mp first]
        | some key =>
          cases second : best_matching_session_key (normalize_match_text title)
              (orders'.labels_by_key (labels_of candidates)) with
          | none => cases first.symm.trans (found.mpr second)
          | some key' =>
            obtain ⟨score,best⟩ := best_of_found first
            obtain ⟨score',best'⟩ := best_of_found second
            obtain ⟨own,most⟩ := best_iff.mp ((best_reordered here).mp best)
            obtain ⟨own',most'⟩ := best_iff.mp ((best_reordered there).mp best')
            have scores : score' = score := le_antisymm (most _ _ own') (most' _ _ own)
            rw [scores] at own'
            by_contra differ
            exact untied title member counted ⟨key,key',score,fun same => differ (congrArg some same),own,own',most⟩
      · rfl
    rw [List.filterMap_congr same]

/-- A session of an agent in a directory. -/
def session_of (kind : AgentKind) (cwd : String) : AgentSession := ⟨cwd,kind,"app",cwd,cwd,.Idle,none⟩

/-- Two projects in directories of one name, and a window with that name. -/
theorem namesakes_tied : ¬ ∀ modified candidates titles, OrderFree modified candidates titles := by
  intro free
  have label : normalize_match_text "app" = "app" := by decide
  have member : "app" ∈ ["app"] := by simp
  refine tied_differs member ?_ ?_ (free (fun _ => 0) [session_of .Claude "/x/app",session_of .Codex "/y/app"] ["app"])
  · rw [label]
    decide
  · rw [label]
    refine ⟨(.Claude,"/x/app"),(.Codex,"/y/app"),3,by decide,?_,?_,?_⟩
    · exact ⟨"app",⟨_,List.mem_cons_self,by decide,by decide,.inl label.symm⟩,by decide,by decide⟩
    · exact ⟨"app",⟨_,List.mem_cons_of_mem _ List.mem_cons_self,by decide,by decide,.inl label.symm⟩,by decide,by decide⟩
    · rintro other longer ⟨name,⟨session,among,_,_,made⟩,_,rfl⟩
      have only : name = "app" := by
        simp only [List.mem_cons,List.not_mem_nil,or_false] at among
        rcases among with rfl | rfl
        · rcases made with rfl | rfl <;> decide
        · rcases made with rfl | rfl <;> decide
      rw [only]
      decide

end VibeBridge.TitleCounts
