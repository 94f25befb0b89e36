import Mathlib.Data.List.Nodup

/-!
Dictionaries that keep the order in which their keys came. A key keeps its place
when it gets another value, and a key that is taken out and comes again is the
last. The keys are distinct, by a field of the structure.
-/
universe u v

structure Dict (κ : Type u) (ν : Type v) where
  items : List (κ × ν)
  distinct : (items.map Prod.fst).Nodup

namespace Dict
variable {κ : Type u} {ν : Type v}

instance [DecidableEq κ] [DecidableEq ν] : DecidableEq (Dict κ ν) := fun d d' =>
  decidable_of_iff (d.items = d'.items) (by cases d; cases d'; simp)

/-- The keys, in the order in which they came. -/
def keys (d : Dict κ ν) : List κ := d.items.map Prod.fst

def empty : Dict κ ν := ⟨[],List.nodup_nil⟩

variable [DecidableEq κ]

def get (d : Dict κ ν) (k : κ) : Option ν := (d.items.find? (fun e => e.1 = k)).map Prod.snd

/-- Changes the value of a key in its place, or appends it. -/
def place (k : κ) (v : ν) : List (κ × ν) → List (κ × ν)
  | [] => [(k,v)]
  | e :: rest => if e.1 = k then (k,v) :: rest else e :: place k v rest

theorem place_keys (k : κ) (v : ν) (items : List (κ × ν)) : (place k v items).map Prod.fst =
    if k ∈ items.map Prod.fst then items.map Prod.fst else items.map Prod.fst ++ [k] := by
  induction items with
  | nil => simp [place]
  | cons e rest ih =>
    by_cases same : e.1 = k
    · simp [place,same]
    · rw [place,if_neg same,List.map_cons,ih]
      by_cases later : k ∈ rest.map Prod.fst
      · simp [later]
      · simp [later,Ne.symm same]

def set (d : Dict κ ν) (k : κ) (v : ν) : Dict κ ν where
  items := place k v d.items
  distinct := by
    rw [place_keys]
    split
    · exact d.distinct
    · rename_i absent
      exact List.Nodup.append d.distinct (List.nodup_singleton k) (by simpa using absent)

/-- Takes a key out, if it is there. -/
def pop (d : Dict κ ν) (k : κ) : Dict κ ν where
  items := d.items.filter (fun e => e.1 ≠ k)
  distinct := d.distinct.sublist (List.filter_sublist.map Prod.fst)

/-- Gives a key a value, unless it has one. -/
def setdefault (d : Dict κ ν) (k : κ) (v : ν) : Dict κ ν := if k ∈ d.keys then d else d.set k v

/-! ## What the keys have -/

theorem get_iff {d : Dict κ ν} {k : κ} {v : ν} : d.get k = some v ↔ (k,v) ∈ d.items := by
  obtain ⟨items,distinct⟩ := d
  simp only [get]
  induction items with
  | nil => simp
  | cons e rest ih =>
    have tail := (List.nodup_cons.mp distinct).2
    by_cases same : e.1 = k
    · subst same
      have head := (List.nodup_cons.mp distinct).1
      have absent : (e.1,v) ∉ rest := fun member => head (List.mem_map.mpr ⟨_,member,rfl⟩)
      simp [absent,Prod.ext_iff,eq_comm]
    · rw [List.find?_cons_of_neg (by simpa using same),ih tail]
      simp [Prod.ext_iff,Ne.symm same]

theorem mem_keys {d : Dict κ ν} {k : κ} : k ∈ d.keys ↔ ∃ v, d.get k = some v := by
  simp only [keys,List.mem_map,get_iff]
  constructor
  · rintro ⟨⟨k',v⟩,member,rfl⟩
    exact ⟨v,member⟩
  · rintro ⟨v,member⟩
    exact ⟨(k,v),member,rfl⟩

theorem get_none {d : Dict κ ν} {k : κ} : d.get k = none ↔ k ∉ d.keys := by
  rw [mem_keys,Option.eq_none_iff_forall_ne_some,not_exists]

theorem get_place (k k' : κ) (v : ν) (items : List (κ × ν)) :
    ((place k v items).find? (fun e => e.1 = k')).map Prod.snd =
      if k' = k then some v else (items.find? (fun e => e.1 = k')).map Prod.snd := by
  induction items with
  | nil =>
    by_cases same : k' = k
    · simp [place,same]
    · simp [place,same,Ne.symm same]
  | cons e rest ih =>
    by_cases here : e.1 = k
    · by_cases same : k' = k
      · simp [place,here,same]
      · simp [place,here,same,Ne.symm same]
    · rw [place,if_neg here]
      by_cases found : e.1 = k'
      · subst found
        simp [here]
      · rw [List.find?_cons_of_neg (by simpa using found),List.find?_cons_of_neg (by simpa using found),ih]

theorem get_set (d : Dict κ ν) (k k' : κ) (v : ν) : (d.set k v).get k' = if k' = k then some v else d.get k' :=
  get_place k k' v d.items

theorem mem_set {d : Dict κ ν} {k k' : κ} {v : ν} : k' ∈ (d.set k v).keys ↔ k' = k ∨ k' ∈ d.keys := by
  by_cases same : k' = k
  · simp [mem_keys,get_set,same]
  · simp [mem_keys,get_set,same]

theorem mem_items_set {d : Dict κ ν} {k : κ} {v : ν} {e : κ × ν} (member : e ∈ (d.set k v).items) : e = (k,v) ∨ e ∈ d.items := by
  have found := get_iff.mpr (show (e.1,e.2) ∈ (d.set k v).items from member)
  rw [get_set] at found
  split at found
  · rename_i same
    cases found
    exact .inl (by rw [← same])
  · exact .inr (get_iff.mp found)

theorem get_pop (d : Dict κ ν) (k k' : κ) : (d.pop k).get k' = if k' = k then none else d.get k' := by
  by_cases same : k' = k
  · rw [if_pos same,get_none,keys,pop,List.mem_map]
    rintro ⟨e,member,rfl⟩
    simp [same] at member
  · rw [if_neg same]
    refine Option.ext ?_
    intro v
    rw [get_iff,get_iff]
    simp [pop,same]

theorem mem_pop {d : Dict κ ν} {k k' : κ} : k' ∈ (d.pop k).keys ↔ k' ∈ d.keys ∧ k' ≠ k := by
  by_cases same : k' = k
  · simp [mem_keys,get_pop,same]
  · simp [mem_keys,get_pop,same]

theorem mem_setdefault {d : Dict κ ν} {k k' : κ} {v : ν} : k' ∈ (d.setdefault k v).keys ↔ k' = k ∨ k' ∈ d.keys := by
  unfold setdefault
  split
  · rename_i there
    constructor
    · exact .inr
    · rintro (rfl | member)
      · exact there
      · exact member
  · exact mem_set

theorem get_setdefault (d : Dict κ ν) (k k' : κ) (v : ν) :
    (d.setdefault k v).get k' = if k' = k then some ((d.get k).getD v) else d.get k' := by
  unfold setdefault
  split
  · rename_i there
    obtain ⟨w,found⟩ := mem_keys.mp there
    by_cases same : k' = k
    · simp [same,found]
    · simp [same]
  · rename_i absent
    rw [get_set,get_none.mpr absent]
    rfl

/-! ## Taking out several keys -/

theorem get_pop_all (ks : List κ) (d : Dict κ ν) (k : κ) :
    (ks.foldl pop d).get k = if k ∈ ks then none else d.get k := by
  induction ks generalizing d with
  | nil => simp
  | cons first rest ih =>
    rw [List.foldl_cons,ih,get_pop]
    by_cases later : k ∈ rest
    · simp [later]
    · by_cases same : k = first
      · simp [same]
      · simp [later,same]

theorem mem_pop_all {ks : List κ} {d : Dict κ ν} {k : κ} : k ∈ (ks.foldl pop d).keys ↔ k ∈ d.keys ∧ k ∉ ks := by
  by_cases member : k ∈ ks
  · simp [mem_keys,get_pop_all,member]
  · simp [mem_keys,get_pop_all,member]

/-! ## How many values -/

/-- Setting a key adds its new value, and takes the old one. -/
theorem countP_set (p : ν → Bool) (d : Dict κ ν) (k : κ) (v : ν) :
    (d.set k v).items.countP (fun e => p e.2) + (d.get k).toList.countP p =
      d.items.countP (fun e => p e.2) + [v].countP p := by
  obtain ⟨items,distinct⟩ := d
  change (place k v items).countP _ + ((items.find? (fun e => e.1 = k)).map Prod.snd).toList.countP p = items.countP _ + _
  clear distinct
  induction items with
  | nil => simp [place]
  | cons e rest ih =>
    rw [place,List.find?_cons]
    by_cases here : e.1 = k
    · simp [here,List.countP_cons,Nat.add_comm,Nat.add_left_comm]
    · simp only [here,if_false,decide_false,List.countP_cons,List.countP_nil] at ih ⊢
      omega

theorem countP_pop (p : ν → Bool) (d : Dict κ ν) (k : κ) :
    (d.pop k).items.countP (fun e => p e.2) + (d.get k).toList.countP p = d.items.countP (fun e => p e.2) := by
  obtain ⟨items,distinct⟩ := d
  change (items.filter (fun e => e.1 ≠ k)).countP _ + ((items.find? (fun e => e.1 = k)).map Prod.snd).toList.countP p = items.countP _
  induction items with
  | nil => rfl
  | cons e rest ih =>
    obtain ⟨absent,later⟩ := List.nodup_cons.mp distinct
    by_cases here : e.1 = k
    · -- no later item has the key
      have others : rest.filter (fun e => e.1 ≠ k) = rest := by
        refine List.filter_eq_self.mpr ?_
        intro e' member
        rw [decide_eq_true_eq]
        intro same
        exact absent (by rw [here,← same]; exact List.mem_map_of_mem member)
      rw [List.filter_cons,if_neg (by simpa using here),others,List.find?_cons]
      simp [here,List.countP_cons]
    · have shorter := ih later
      rw [List.filter_cons,if_pos (by simpa using here),List.find?_cons,List.countP_cons,List.countP_cons]
      simp only [here,decide_false]
      omega

end Dict
