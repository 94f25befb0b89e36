import Mathlib.Data.List.AList

/-!
Finite maps as lists of entries with distinct keys. The order of the entries is
the order in which an iteration meets them, and nothing else depends on it
(`lookup_reordered`). Beside the operations of the association lists: changing
the value of one key in place (`update`), the keys whose entries satisfy a test
(`keysWhere`) and the first such entry (`findEntry`). A map inherits from another
when each of its values goes back to one of the same key (`Inherits`).
-/
universe u v

/-- A finite map from keys to values. -/
abbrev KeyedMap (κ : Type u) (ν : Type v) := AList (fun _ : κ => ν)

namespace KeyedMap
variable {κ : Type u} {ν : Type v} [DecidableEq κ]

/-- The same entries in another order. -/
def Reordered (m n : KeyedMap κ ν) : Prop := m.entries.Perm n.entries

theorem lookup_reordered {m n : KeyedMap κ ν} (same : Reordered m n) (k : κ) : n.lookup k = m.lookup k :=
  (AList.perm_lookup same).symm

theorem lookup_insert (m : KeyedMap κ ν) (k k' : κ) (v : ν) :
    (m.insert k v).lookup k' = if k' = k then some v else m.lookup k' := by
  by_cases same : k' = k
  · subst same; simp [AList.lookup_insert]
  · simp [same,AList.lookup_insert_ne]

theorem lookup_erase (m : KeyedMap κ ν) (k k' : κ) :
    (m.erase k).lookup k' = if k' = k then none else m.lookup k' := by
  by_cases same : k' = k
  · subst same; simp [AList.lookup_erase]
  · simp [same,AList.lookup_erase_ne]

/-- Changes the value of a key, if it has one. -/
def update (m : KeyedMap κ ν) (k : κ) (f : ν → ν) : KeyedMap κ ν :=
  match m.lookup k with
  | some v => m.insert k (f v)
  | none => m

theorem lookup_update (m : KeyedMap κ ν) (k k' : κ) (f : ν → ν) :
    (m.update k f).lookup k' = if k' = k then (m.lookup k).map f else m.lookup k' := by
  unfold update
  cases found : m.lookup k with
  | none =>
    by_cases same : k' = k
    · subst same; simp [found]
    · simp [same]
  | some v => rw [lookup_insert]; rfl

/-- The keys whose entries pass the test, in the order of iteration. -/
def keysWhere (m : KeyedMap κ ν) (test : κ → ν → Bool) : List κ :=
  (m.entries.filter (fun e => test e.1 e.2)).map Sigma.fst

theorem mem_keysWhere {m : KeyedMap κ ν} {test : κ → ν → Bool} {k : κ} :
    k ∈ m.keysWhere test ↔ ∃ v, m.lookup k = some v ∧ test k v = true := by
  simp only [keysWhere,List.mem_map,List.mem_filter]
  constructor
  · rintro ⟨⟨k',v⟩,⟨member,passes⟩,rfl⟩
    exact ⟨v,AList.mem_lookup_iff.mpr member,passes⟩
  · rintro ⟨v,found,passes⟩
    exact ⟨⟨k,v⟩,⟨AList.mem_lookup_iff.mp found,passes⟩,rfl⟩

omit [DecidableEq κ] in
theorem keysWhere_nodup (m : KeyedMap κ ν) (test : κ → ν → Bool) : (m.keysWhere test).Nodup :=
  List.Nodup.sublist ((List.filter_sublist (l := m.entries)).map Sigma.fst) m.nodupKeys

/-- The first entry that passes the test, in the order of iteration. -/
def findEntry (m : KeyedMap κ ν) (test : κ → ν → Bool) : Option (κ × ν) :=
  (m.entries.find? (fun e => test e.1 e.2)).map (fun e => (e.1,e.2))

theorem findEntry_some {m : KeyedMap κ ν} {test : κ → ν → Bool} {e : κ × ν} (found : m.findEntry test = some e) :
    m.lookup e.1 = some e.2 ∧ test e.1 e.2 = true := by
  simp only [findEntry,Option.map_eq_some_iff] at found
  obtain ⟨entry,first,rfl⟩ := found
  exact ⟨AList.mem_lookup_iff.mpr (List.mem_of_find?_eq_some first),by simpa using List.find?_some first⟩

theorem findEntry_none {m : KeyedMap κ ν} {test : κ → ν → Bool} (missing : m.findEntry test = none) {k : κ} {v : ν}
    (found : m.lookup k = some v) : test k v = false := by
  simp only [findEntry,Option.map_eq_none_iff,List.find?_eq_none] at missing
  simpa using missing ⟨k,v⟩ (AList.mem_lookup_iff.mp found)

/-- Where only one key passes the test, the search finds its entry. -/
theorem findEntry_unique {m : KeyedMap κ ν} {test : κ → ν → Bool} {k : κ} {v : ν} (found : m.lookup k = some v)
    (passes : test k v = true) (only : ∀ k' v', m.lookup k' = some v' → test k' v' = true → k' = k) :
    m.findEntry test = some (k,v) := by
  cases search : m.findEntry test with
  | none => rw [findEntry_none search found] at passes; cases passes
  | some e =>
    obtain ⟨stored,holds⟩ := findEntry_some search
    have same := only e.1 e.2 stored holds
    rw [same,found] at stored
    rw [← Option.some.inj stored.symm,← same]

/-- Changing keys one after another changes each of them, and no other key,
    where a second change would change nothing. -/
theorem lookup_update_all (ks : List κ) (f : ν → ν) (idem : ∀ v, f (f v) = f v) (m : KeyedMap κ ν) (k : κ) :
    (ks.foldl (fun m k => m.update k f) m).lookup k = if k ∈ ks then (m.lookup k).map f else m.lookup k := by
  induction ks generalizing m with
  | nil => simp
  | cons first rest ih =>
    rw [List.foldl_cons,ih,lookup_update]
    by_cases same : k = first
    · subst same
      by_cases later : k ∈ rest
      · cases m.lookup k <;> simp [later,idem]
      · simp [later]
    · simp [same]

/-- Changing distinct keys one after another changes each of them, and no other key. -/
theorem lookup_update_each (ks : List κ) (f : ν → ν) (distinct : ks.Nodup) (m : KeyedMap κ ν) (k : κ) :
    (ks.foldl (fun m k => m.update k f) m).lookup k = if k ∈ ks then (m.lookup k).map f else m.lookup k := by
  induction ks generalizing m with
  | nil => simp
  | cons first rest ih =>
    obtain ⟨fresh,distinct⟩ := List.nodup_cons.mp distinct
    rw [List.foldl_cons,ih distinct,lookup_update]
    by_cases same : k = first
    · subst same
      simp [fresh]
    · simp [same]

/-- Brings the entry of a key to the front. -/
def front (k : κ) (m : KeyedMap κ ν) : KeyedMap κ ν :=
  match m.lookup k with
  | some v => m.insert k v
  | none => m

/-- The entries in the opposite order. -/
def reversed (m : KeyedMap κ ν) : KeyedMap κ ν :=
  ⟨m.entries.reverse,(List.perm_nodupKeys (List.reverse_perm m.entries)).mpr m.nodupKeys⟩

theorem reordered_front (k : κ) (m : KeyedMap κ ν) : Reordered m (front k m) := by
  unfold front
  cases found : m.lookup k with
  | none => exact List.Perm.refl _
  | some v =>
    refine List.lookup_ext m.nodupKeys (m.insert k v).nodupKeys ?_
    intro k' v'
    have same := lookup_insert m k k' v
    rw [AList.lookup,AList.lookup] at same
    rw [same]
    by_cases own : k' = k
    · subst own
      rw [if_pos rfl,← found]
      rfl
    · rw [if_neg own]

omit [DecidableEq κ] in
theorem reordered_reversed (m : KeyedMap κ ν) : Reordered m (reversed m) := (List.reverse_perm m.entries).symm

/-- The front is the entry of the key. -/
theorem front_entries {k : κ} {v : ν} {m : KeyedMap κ ν} (found : m.lookup k = some v) :
    ∃ rest, (front k m).entries = ⟨k,v⟩ :: rest := by
  rw [front,found]
  exact ⟨_,AList.entries_insert⟩

/-! ### Values that go back to earlier ones -/

/-- Every value of the second map is related to one of the same key in the first. -/
def Inherits (R : ν → ν → Prop) (m n : KeyedMap κ ν) : Prop :=
  ∀ k v, n.lookup k = some v → ∃ u, m.lookup k = some u ∧ R u v

section
variable {R : ν → ν → Prop} {m n : KeyedMap κ ν}

theorem inherits_refl (refl : ∀ v, R v v) (m : KeyedMap κ ν) : Inherits R m m := fun _ v found => ⟨v,found,refl v⟩

theorem inherits_trans (trans : ∀ {a b c}, R a b → R b c → R a c) {l : KeyedMap κ ν} (first : Inherits R l m)
    (second : Inherits R m n) : Inherits R l n := by
  intro k v found
  obtain ⟨middle,there,later⟩ := second k v found
  obtain ⟨u,there',earlier⟩ := first k middle there
  exact ⟨u,there',trans earlier later⟩

theorem inherits_insert (refl : ∀ v, R v v) {k : κ} {u v : ν} (found : m.lookup k = some u) (related : R u v) :
    Inherits R m (m.insert k v) := by
  intro k' w there
  rw [lookup_insert] at there
  split at there
  · rename_i same
    cases there
    exact ⟨u,by rw [same]; exact found,related⟩
  · exact ⟨w,there,refl w⟩

theorem inherits_erase (refl : ∀ v, R v v) (m : KeyedMap κ ν) (k : κ) : Inherits R m (m.erase k) := by
  intro k' v there
  rw [lookup_erase] at there
  split at there
  · cases there
  · exact ⟨v,there,refl v⟩

end

end KeyedMap
