import Mathlib.Data.List.Infix

/-!
Blocks in a list, each from an opening marker to the first closing marker after it.
A word that does not overlap itself is found where it was put in (`find_inserted`),
so a list is cut at its blocks in exactly one way (`split_iff`), and where a list
ends with a closed block the cut goes on with what comes after it (`split_append`).
-/
namespace Delimited
universe u
variable {α : Type u} {word l : List α}

/-- No proper part of the word is both its end and its beginning. -/
def Unbordered (word : List α) : Prop := ∀ part, part <:+ word → part <+: word → part = [] ∨ part = word

/-! ## Where two lists meet -/

/-- A word that two lists together begin with is in the first, or goes on in the second. -/
theorem prefix_append_cases {a b : List α} (begins : word <+: a ++ b) :
    word <+: a ∨ ∃ back, back ≠ [] ∧ word = a ++ back ∧ back <+: b := by
  rcases List.prefix_or_prefix_of_prefix begins (List.prefix_append a b) with within | ⟨back,rfl⟩
  · exact .inl within
  · by_cases none : back = []
    · subst none
      rw [List.append_nil]
      exact .inl List.prefix_rfl
    · exact .inr ⟨back,none,rfl,(List.prefix_append_right_inj a).mp begins⟩

/-- A word that begins in a list is in it, or goes on behind it. -/
theorem begins_cases {a b : List α} {n : Nat} (inside : n < a.length) (begins : word <+: (a ++ b).drop n) :
    word <:+: a ∨ ∃ front back, front ≠ [] ∧ back ≠ [] ∧ word = front ++ back ∧ front <:+ a ∧ back <+: b := by
  rw [List.drop_append_of_le_length (by omega)] at begins
  rcases prefix_append_cases begins with within | ⟨back,some_there,whole,more⟩
  · exact .inl (within.isInfix.trans (List.drop_suffix n a).isInfix)
  · exact .inr ⟨a.drop n,back,by simpa using inside,some_there,whole,List.drop_suffix n a,more⟩

/-- Nothing of the word, but its first element, is what the second list begins with. -/
def Cuts (word rest : List α) : Prop := ∀ x, rest.head? = some x → x ∉ word.tail

/-- Nothing of the word, but its last element, is what the first list ends with. -/
def EndsApart (word front : List α) : Prop := ∀ x, front.getLast? = some x → x ∉ word.dropLast

/-- The word does not begin in the first list, and the second comes after it. -/
def Clear (word front rest : List α) : Prop := ∀ n < front.length, ¬ word <+: (front ++ rest).drop n

theorem clear_cuts {front rest : List α} (apart : ¬ word <:+: front) (cuts : Cuts word rest) : Clear word front rest := by
  intro n inside begins
  rcases begins_cases inside begins with within | ⟨part,back,left,right,rfl,-,more⟩
  · exact apart within
  · obtain ⟨x,back,rfl⟩ := List.exists_cons_of_ne_nil right
    obtain ⟨y,part,rfl⟩ := List.exists_cons_of_ne_nil left
    obtain ⟨rest,rfl⟩ := more
    exact cuts x rfl (by simp)

theorem clear_apart {front : List α} (apart : ¬ word <:+: front) (ends : EndsApart word front) (rest : List α) :
    Clear word front rest := by
  intro n inside begins
  rcases begins_cases inside begins with within | ⟨part,back,left,right,rfl,⟨before,rfl⟩,-⟩
  · exact apart within
  · obtain ⟨part,x,rfl⟩ := part.eq_nil_or_concat.resolve_left left
    refine ends x (by simp) ?_
    rw [List.dropLast_append_of_ne_nil right]
    simp

/-- A word that does not begin in the first list, nor is in the second, is not in both together. -/
theorem apart_append {front rest : List α} (clear : Clear word front rest) (apart : ¬ word <:+: rest) :
    ¬ word <:+: front ++ rest := by
  rintro ⟨before,after,same⟩
  have here : word <+: (front ++ rest).drop before.length := by
    rw [← same,List.append_assoc,List.drop_left]
    exact List.prefix_append _ _
  by_cases inside : before.length < front.length
  · exact clear _ inside here
  · rw [List.drop_append,List.drop_of_length_le (by omega),List.nil_append] at here
    exact apart (here.isInfix.trans (List.drop_suffix _ _).isInfix)

/-- In front of a word that does not overlap itself it does not begin. -/
theorem clear_inserted {front : List α} (unbordered : Unbordered word) (apart : ¬ word <:+: front) (rest : List α) :
    Clear word front (word ++ rest) := by
  intro n inside begins
  rcases begins_cases inside begins with within | ⟨part,back,left,right,whole,ends,more⟩
  · exact apart within
  · have size := congrArg List.length whole
    have some_left := List.length_pos_iff.mpr left
    have some_right := List.length_pos_iff.mpr right
    rw [List.length_append] at size
    have within : back <+: word := List.prefix_of_prefix_length_le more (List.prefix_append word rest) (by omega)
    rcases unbordered back ⟨part,whole.symm⟩ within with none | all
    · exact right none
    · have same := congrArg List.length all
      omega

/-! ## The first occurrence -/

variable [DecidableEq α]

/-- Where the first occurrence of a word begins. -/
def find (word : List α) : List α → Option Nat
  | [] => if word.isPrefixOf [] then some 0 else none
  | a :: rest => if word.isPrefixOf (a :: rest) then some 0 else (find word rest).map (· + 1)

theorem find_at_once (here : word <+: l) : find word l = some 0 := by
  cases l with
  | nil => rw [find,if_pos (List.isPrefixOf_iff_prefix.mpr here)]
  | cons a rest => rw [find,if_pos (List.isPrefixOf_iff_prefix.mpr here)]

theorem find_later {a : α} {rest : List α} (apart : ¬ word <+: a :: rest) :
    find word (a :: rest) = (find word rest).map (· + 1) := by
  rw [find,if_neg (fun here => apart (List.isPrefixOf_iff_prefix.mp here))]

theorem find_some_iff {n : Nat} : find word l = some n ↔ word <+: l.drop n ∧ ∀ m < n, ¬ word <+: l.drop m := by
  induction l generalizing n with
  | nil =>
    rw [find]
    simp only [List.drop_nil,List.isPrefixOf_iff_prefix]
    by_cases empty : word <+: []
    · rw [if_pos empty,Option.some_inj]
      exact ⟨fun same => ⟨empty,fun m less => absurd less (by omega)⟩,fun ⟨_,first⟩ => by
        by_contra later
        exact first 0 (by omega) empty⟩
    · rw [if_neg empty]
      exact ⟨nofun,fun found => absurd found.1 empty⟩
  | cons a rest ih =>
    by_cases here : word <+: a :: rest
    · rw [find_at_once here,Option.some_inj]
      refine ⟨fun same => same ▸ ⟨here,fun m less => absurd less (by omega)⟩,fun ⟨_,first⟩ => ?_⟩
      by_contra later
      exact first 0 (by omega) here
    · rw [find_later here,Option.map_eq_some_iff]
      constructor
      · rintro ⟨k,found,rfl⟩
        obtain ⟨there,first⟩ := ih.mp found
        refine ⟨there,fun m less => ?_⟩
        cases m with
        | zero => exact here
        | succ m => exact first m (by omega)
      · rintro ⟨there,first⟩
        cases n with
        | zero => exact absurd there here
        | succ n => exact ⟨n,ih.mpr ⟨there,fun m less => first (m + 1) (by omega)⟩,rfl⟩

theorem find_none_iff : find word l = none ↔ ¬ word <:+: l := by
  induction l with
  | nil =>
    rw [find]
    simp [List.isPrefixOf_iff_prefix]
  | cons a rest ih =>
    by_cases here : word <+: a :: rest
    · rw [find_at_once here]
      exact ⟨nofun,fun apart => absurd here.isInfix apart⟩
    · rw [find_later here,Option.map_eq_none_iff,ih,List.infix_cons_iff]
      exact ⟨fun later => not_or_intro here later,fun apart later => apart (.inr later)⟩

/-- A word that occurs ends within the list. -/
theorem find_bound {n : Nat} (found : find word l = some n) (some_there : word ≠ []) : n + word.length ≤ l.length := by
  have size := (find_some_iff.mp found).1.length_le
  have long := List.length_pos_iff.mpr some_there
  rw [List.length_drop] at size
  omega

theorem find_inserted {front rest : List α} (unbordered : Unbordered word) (apart : ¬ word <:+: front) :
    find word (front ++ (word ++ rest)) = some front.length := by
  rw [find_some_iff,List.drop_left]
  exact ⟨List.prefix_append word rest,clear_inserted unbordered apart rest⟩

/-! ## Blocks -/

/-- The markers of blocks. -/
structure Markers (α : Type u) where
  opening : List α
  closing : List α
  some_there : opening ≠ []
  unbordered : Unbordered opening

variable (m : Markers α)

/-- The text between blocks, marked `false`, and the blocks, marked `true`; the last one need not be closed. -/
def split (data : List α) : List (Bool × List α) :=
  match _found : find m.opening data with
  | none => if data.isEmpty then [] else [(false,data)]
  | some start =>
    (if start = 0 then [] else [(false,data.take start)]) ++
      match find m.closing (data.drop (start + m.opening.length)) with
      | none => [(true,data.drop start)]
      | some stop =>
        let size := m.opening.length + stop + m.closing.length
        (true,(data.drop start).take size) :: split (data.drop (start + size))
termination_by data.length
decreasing_by
  have long := List.length_pos_iff.mpr m.some_there
  have size := find_bound _found m.some_there
  rw [List.length_drop]
  omega

/-! ### What is cut -/

variable {m}

/-- The closing marker at the end is the first one after the opening marker. -/
def Runs (m : Markers α) (body : List α) : Prop := ∀ n < body.length, ¬ m.closing <+: (body ++ m.closing).drop n

theorem runs_find {body : List α} (runs : Runs m body) (rest : List α) :
    find m.closing (body ++ (m.closing ++ rest)) = some body.length := by
  rw [find_some_iff,List.drop_left]
  refine ⟨List.prefix_append _ _,fun n less here => runs n less ?_⟩
  rw [← List.append_assoc,List.drop_append_of_le_length (by simp; omega)] at here
  exact List.prefix_of_prefix_length_le here (List.prefix_append _ _) (by simp; omega)

theorem find_runs {data : List α} {stop : Nat} (found : find m.closing data = some stop) : ∃ body rest,
    data = body ++ (m.closing ++ rest) ∧ body.length = stop ∧ Runs m body := by
  obtain ⟨⟨rest,split⟩,first⟩ := find_some_iff.mp found
  have whole : data = data.take stop ++ (m.closing ++ rest) := by rw [split,List.take_append_drop]
  by_cases inside : stop ≤ data.length
  · refine ⟨data.take stop,rest,whole,List.length_take_of_le inside,fun n less here => first n ?_ ?_⟩
    · rwa [List.length_take_of_le inside] at less
    · rw [whole,← List.append_assoc,List.drop_append_of_le_length (by
        rw [List.length_append]
        omega)]
      exact here.trans (List.prefix_append _ _)
  · have none : data.drop data.length = data.drop stop := by
      rw [List.drop_length,List.drop_of_length_le (by omega)]
    exact absurd ⟨rest,split.trans none.symm⟩ (first data.length (by omega))

/-- The chunk of the text in front of a block. -/
def text_chunk (front : List α) : List (Bool × List α) := if front.isEmpty then [] else [(false,front)]

omit [DecidableEq α] in
theorem text_chunk_take {front : List α} (rest : List α) :
    (if front.length = 0 then [] else [(false,(front ++ rest).take front.length)]) = text_chunk front := by
  rw [text_chunk,List.take_left]
  cases front <;> rfl

omit [DecidableEq α] in
theorem no_opening : ¬ m.opening <:+: [] := by simpa using m.some_there

theorem split_text {data : List α} (apart : ¬ m.opening <:+: data) : split m data = text_chunk data := by
  rw [split]
  split
  · rfl
  · rename_i found
    rw [find_none_iff.mpr apart] at found
    cases found

/-- The turn of the loop that finds an opening marker. -/
theorem split_found {data : List α} {start : Nat} (found : find m.opening data = some start) :
    split m data = (if start = 0 then [] else [(false,data.take start)]) ++
      match find m.closing (data.drop (start + m.opening.length)) with
      | none => [(true,data.drop start)]
      | some stop => (true,(data.drop start).take (m.opening.length + stop + m.closing.length)) ::
          split m (data.drop (start + (m.opening.length + stop + m.closing.length))) := by
  rw [split]
  split
  · rename_i other
    rw [found] at other
    cases other
  · rename_i other
    rw [found,Option.some_inj] at other
    subst other
    rfl

theorem split_unclosed {front block : List α} (apart : ¬ m.opening <:+: front) (unclosed : ¬ m.closing <:+: block) :
    split m (front ++ (m.opening ++ block)) = text_chunk front ++ [(true,m.opening ++ block)] := by
  have after : (front ++ (m.opening ++ block)).drop (front.length + m.opening.length) = block := by
    rw [← List.drop_drop,List.drop_left,List.drop_left]
  rw [split_found (find_inserted m.unbordered apart),after,find_none_iff.mpr unclosed,text_chunk_take]
  simp only [List.drop_left]

theorem split_block {front body : List α} (apart : ¬ m.opening <:+: front) (runs : Runs m body) (rest : List α) :
    split m (front ++ (m.opening ++ (body ++ (m.closing ++ rest)))) =
      text_chunk front ++ (true,m.opening ++ (body ++ m.closing)) :: split m rest := by
  have after : (front ++ (m.opening ++ (body ++ (m.closing ++ rest)))).drop (front.length + m.opening.length) =
      body ++ (m.closing ++ rest) := by rw [← List.drop_drop,List.drop_left,List.drop_left]
  have whole : m.opening ++ (body ++ (m.closing ++ rest)) = (m.opening ++ (body ++ m.closing)) ++ rest := by simp
  have size : m.opening.length + body.length + m.closing.length = (m.opening ++ (body ++ m.closing)).length := by
    simp only [List.length_append]
    omega
  rw [split_found (find_inserted m.unbordered apart),after,runs_find runs rest,text_chunk_take]
  simp only
  rw [← List.drop_drop,List.drop_left,size,whole,List.take_left,List.drop_left]

/-- What a list begins with: a text to its end, a block that is not closed, or one that is. -/
inductive Front (m : Markers α) : List α → Prop
  | text {data : List α} (apart : ¬ m.opening <:+: data) : Front m data
  | unclosed {front block : List α} (apart : ¬ m.opening <:+: front) (unclosed : ¬ m.closing <:+: block) :
      Front m (front ++ (m.opening ++ block))
  | block {front body : List α} (apart : ¬ m.opening <:+: front) (runs : Runs m body) (rest : List α) :
      Front m (front ++ (m.opening ++ (body ++ (m.closing ++ rest))))

theorem front_cases (m : Markers α) (data : List α) : Front m data := by
  cases found : find m.opening data with
  | none => exact .text (find_none_iff.mp found)
  | some start =>
    obtain ⟨⟨after,same⟩,first⟩ := find_some_iff.mp found
    have whole : data = data.take start ++ (m.opening ++ after) := by rw [same,List.take_append_drop]
    have size := find_bound found m.some_there
    have apart : ¬ m.opening <:+: data.take start := by
      intro within
      cases sooner : find m.opening (data.take start) with
      | none => exact find_none_iff.mp sooner within
      | some n =>
        have bound := find_bound sooner m.some_there
        have long := List.length_pos_iff.mpr m.some_there
        rw [List.length_take_of_le (by omega)] at bound
        refine first n (by omega) ?_
        rw [whole,List.drop_append_of_le_length (by rw [List.length_take_of_le (by omega)]; omega)]
        exact (find_some_iff.mp sooner).1.trans (List.prefix_append _ _)
    rw [whole]
    cases ends : find m.closing after with
    | none => exact .unclosed apart (find_none_iff.mp ends)
    | some stop =>
      obtain ⟨body,rest,rfl,_,runs⟩ := find_runs ends
      exact .block apart runs rest

/-- The chunks that a list can be cut into. -/
inductive Delimits (m : Markers α) : List (Bool × List α) → Prop
  | nil : Delimits m []
  | text {chunk : List α} : chunk ≠ [] → ¬ m.opening <:+: chunk → Delimits m [(false,chunk)]
  | unclosed {block : List α} : ¬ m.closing <:+: block → Delimits m [(true,m.opening ++ block)]
  | block {body : List α} {rest : List (Bool × List α)} : Runs m body → Delimits m rest →
      Delimits m ((true,m.opening ++ (body ++ m.closing)) :: rest)
  | between {chunk block : List α} {rest : List (Bool × List α)} : chunk ≠ [] → ¬ m.opening <:+: chunk →
      Delimits m ((true,block) :: rest) → Delimits m ((false,chunk) :: (true,block) :: rest)

omit [DecidableEq α] in
theorem delimits_front {front block : List α} {rest : List (Bool × List α)} (apart : ¬ m.opening <:+: front)
    (delimits : Delimits m ((true,block) :: rest)) : Delimits m (text_chunk front ++ (true,block) :: rest) := by
  cases front with
  | nil => exact delimits
  | cons a front => exact .between (by simp) apart delimits

theorem delimits_split (data : List α) : Delimits m (split m data) ∧ (split m data).flatMap (·.2) = data := by
  cases front_cases m data with
  | text apart =>
    rw [split_text apart]
    cases data with
    | nil => exact ⟨.nil,rfl⟩
    | cons a rest => exact ⟨.text (by simp) apart,by simp [text_chunk]⟩
  | @unclosed front block apart unclosed =>
    rw [split_unclosed apart unclosed]
    refine ⟨delimits_front apart (.unclosed unclosed),?_⟩
    cases front <;> simp [text_chunk]
  | @block front body apart runs rest =>
    have shorter : rest.length < (front ++ (m.opening ++ (body ++ (m.closing ++ rest)))).length := by
      have long := List.length_pos_iff.mpr m.some_there
      simp only [List.length_append]
      omega
    obtain ⟨delimits,same⟩ := delimits_split rest
    rw [split_block apart runs]
    refine ⟨delimits_front apart (.block runs delimits),?_⟩
    cases front <;> simp [text_chunk,same]
termination_by data.length
decreasing_by
  subst_vars
  exact shorter

theorem split_delimits {chunks : List (Bool × List α)} (delimits : Delimits m chunks) :
    split m (chunks.flatMap (·.2)) = chunks := by
  induction delimits with
  | nil => exact split_text no_opening
  | text some_there apart =>
    rw [List.flatMap_singleton,split_text apart,text_chunk,if_neg (by simpa using some_there)]
  | unclosed unclosed =>
    rw [List.flatMap_singleton]
    exact split_unclosed no_opening unclosed
  | @block body rest runs _ ih =>
    have here := split_block no_opening runs (rest.flatMap (·.2))
    rw [ih] at here
    simpa [text_chunk] using here
  | @between chunk block rest some_there apart later ih =>
    rw [List.flatMap_cons]
    have front : text_chunk chunk = [(false,chunk)] := by rw [text_chunk,if_neg (by simpa using some_there)]
    cases later with
    | unclosed unclosed =>
      rw [List.flatMap_singleton,split_unclosed apart unclosed,front]
      rfl
    | @block body _ runs _ =>
      have here := split_block no_opening runs (rest.flatMap (·.2))
      have whole : ((true,m.opening ++ (body ++ m.closing)) :: rest).flatMap (·.2) =
          m.opening ++ (body ++ (m.closing ++ rest.flatMap (·.2))) := by simp
      rw [whole] at ih ⊢
      rw [List.nil_append,ih] at here
      rw [split_block apart runs,front]
      simpa [text_chunk] using here.symm

/-- A list is cut in one way. -/
theorem split_iff {data : List α} {chunks : List (Bool × List α)} :
    split m data = chunks ↔ Delimits m chunks ∧ chunks.flatMap (·.2) = data := by
  constructor
  · rintro rfl
    exact delimits_split data
  · rintro ⟨delimits,rfl⟩
    exact split_delimits delimits

/-! ### The blocks -/

/-- The blocks of a list. -/
def blocks (m : Markers α) (data : List α) : List (List α) := ((split m data).filter (·.1)).map (·.2)

/-- A list in which every block is closed, and that ends with a block. -/
inductive Sealed (m : Markers α) : List α → Prop
  | nil : Sealed m []
  | block {front body rest : List α} : ¬ m.opening <:+: front → Runs m body → Sealed m rest →
      Sealed m (front ++ (m.opening ++ (body ++ (m.closing ++ rest))))

theorem split_append {front : List α} (closed : Sealed m front) (rest : List α) :
    split m (front ++ rest) = split m front ++ split m rest := by
  induction closed with
  | nil =>
    rw [List.nil_append,split_text (no_opening (m := m))]
    rfl
  | @block text body later apart runs _ ih =>
    have whole : text ++ (m.opening ++ (body ++ (m.closing ++ later))) ++ rest =
        text ++ (m.opening ++ (body ++ (m.closing ++ (later ++ rest)))) := by simp
    rw [whole,split_block apart runs,split_block apart runs,ih,List.append_assoc,List.cons_append]

theorem blocks_append {front : List α} (closed : Sealed m front) (rest : List α) :
    blocks m (front ++ rest) = blocks m front ++ blocks m rest := by
  rw [blocks,split_append closed,List.filter_append,List.map_append]
  rfl

theorem blocks_text {data : List α} (apart : ¬ m.opening <:+: data) : blocks m data = [] := by
  rw [blocks,split_text apart,text_chunk]
  split <;> rfl

/-- Elements after which no block begins before the rest does are no part of a block. -/
theorem blocks_after {front rest : List α} (clear : Clear m.opening front rest) :
    blocks m (front ++ rest) = blocks m rest := by
  cases found : find m.opening rest with
  | none =>
    have none : find m.opening (front ++ rest) = none := by
      cases other : find m.opening (front ++ rest) with
      | none => rfl
      | some n =>
        obtain ⟨here,_⟩ := find_some_iff.mp other
        by_cases inside : n < front.length
        · exact absurd here (clear n inside)
        · rw [List.drop_append,List.drop_of_length_le (by omega),List.nil_append] at here
          exact absurd (here.isInfix.trans (List.drop_suffix _ _).isInfix) (find_none_iff.mp found)
    rw [blocks_text (find_none_iff.mp found),blocks_text (find_none_iff.mp none)]
  | some start =>
    obtain ⟨there,first⟩ := find_some_iff.mp found
    have later : find m.opening (front ++ rest) = some (front.length + start) := by
      rw [find_some_iff,← List.drop_drop,List.drop_left]
      refine ⟨there,fun n less => ?_⟩
      by_cases inside : n < front.length
      · exact clear n inside
      · have split : front.length + (n - front.length) = n := by omega
        rw [← split,← List.drop_drop,List.drop_left]
        exact first _ (by omega)
    have shift : ∀ n, (front ++ rest).drop (front.length + start + n) = rest.drop (start + n) := by
      intro n
      rw [Nat.add_assoc,← List.drop_drop,List.drop_left]
    have filter_text : ∀ (start : Nat) (text : List α),
        (if start = 0 then [] else [(false,text)]).filter (fun chunk : Bool × List α => chunk.1) = [] := by
      intro start text
      split <;> rfl
    have shift0 := shift 0
    rw [Nat.add_zero,Nat.add_zero] at shift0
    rw [blocks,blocks,split_found later,split_found found,List.filter_append,List.filter_append,filter_text,filter_text,shift,
      shift0]
    simp only [shift]

/-! ### Blocks that are put in -/

/-- A block with the markers around its body. -/
def Markers.wrap (m : Markers α) (body : List α) : List α := m.opening ++ (body ++ m.closing)

omit [DecidableEq α] in
theorem runs_without {a : α} {more body : List α} (closing : m.closing = a :: more) (without : a ∉ body) : Runs m body := by
  intro n inside here
  rw [List.drop_append_of_le_length (by omega),List.drop_eq_getElem_cons inside,closing,List.cons_append,
    List.cons_prefix_cons] at here
  exact without (here.1 ▸ List.getElem_mem inside)

theorem blocks_wrap {front body : List α} (apart : ¬ m.opening <:+: front) (runs : Runs m body) (rest : List α) :
    blocks m (front ++ (m.wrap body ++ rest)) = m.wrap body :: blocks m rest := by
  have whole : front ++ (m.wrap body ++ rest) = front ++ (m.opening ++ (body ++ (m.closing ++ rest))) := by
    simp [Markers.wrap]
  rw [whole,blocks,split_block apart runs,List.filter_append,text_chunk]
  split <;> rfl

omit [DecidableEq α] in
theorem sealed_wraps {bodies : List (List α)} (runs : ∀ body ∈ bodies, Runs m body) : Sealed m (bodies.flatMap m.wrap) := by
  induction bodies with
  | nil => exact .nil
  | cons body bodies ih =>
    obtain ⟨here,later⟩ := List.forall_mem_cons.mp runs
    have whole : (body :: bodies).flatMap m.wrap = [] ++ (m.opening ++ (body ++ (m.closing ++ bodies.flatMap m.wrap))) := by
      simp [Markers.wrap]
    rw [whole]
    exact .block no_opening here (ih later)

/-- The blocks that are put in after a text are the first ones. -/
theorem blocks_wraps {front : List α} {bodies : List (List α)} (apart : ¬ m.opening <:+: front) (some_there : bodies ≠ [])
    (runs : ∀ body ∈ bodies, Runs m body) (rest : List α) :
    blocks m (front ++ (bodies.flatMap m.wrap ++ rest)) = bodies.map m.wrap ++ blocks m rest := by
  induction bodies generalizing front with
  | nil => exact absurd rfl some_there
  | cons body bodies ih =>
    obtain ⟨here,later⟩ := List.forall_mem_cons.mp runs
    rw [List.flatMap_cons,List.append_assoc,blocks_wrap apart here,List.map_cons,List.cons_append]
    cases bodies with
    | nil => rfl
    | cons other bodies =>
      have rest' := ih no_opening (by simp) later
      rw [List.nil_append] at rest'
      rw [rest']

end Delimited
