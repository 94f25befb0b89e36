import Mathlib.Data.List.Chain

/-!
Lines in a stream: a line goes on until it is broken after one of its elements,
which may depend on the element that follows (a line end of two characters is not
broken in its middle). A stream that is read in chunks is split in more places, at
the ends of the chunks; `group` puts the pieces of each line together again, and
`group_split` says that these are the lines of the whole stream.
-/
namespace VibeBridge.Lines

section
variable {α β : Type}

/-- The first list of a list of lists, extended at its front. -/
def extend (front : List α) : List (List α) → List (List α)
  | [] => [front]
  | line :: lines => (front ++ line) :: lines

variable (breaks : α → Option α → Bool)

/-- The lines of a stream, each with its end; the last one may have none. -/
def split : List α → List (List α)
  | [] => []
  | a :: rest => if breaks a rest.head? then [a] :: split rest else extend [a] (split rest)

/-- A part of a line that is not empty: it is not broken inside. -/
def Piece (line : List α) : Prop := line ≠ [] ∧ line.IsChain (fun a b => breaks a (some b) = false)

/-- The piece finishes its line, if this element follows. -/
def finished (line : List α) (next : Option α) : Bool := line.getLast?.any (fun a => breaks a next)

/-- The pieces of a stream, put together line by line. -/
def group : List (List α) → List (List (List α))
  | [] => []
  | piece :: pieces =>
    if finished breaks piece pieces.flatten.head? then [piece] :: group pieces else extend [piece] (group pieces)

variable {breaks}

theorem extend_flatten (front : List α) (lines : List (List α)) :
    (extend front lines).flatten = front ++ lines.flatten := by
  cases lines <;> simp [extend]

variable (breaks) in
theorem split_flatten (stream : List α) : (split breaks stream).flatten = stream := by
  induction stream with
  | nil => rfl
  | cons a rest ih =>
    by_cases last : breaks a rest.head?
    · rw [split,if_pos last,List.flatten_cons,ih]
      rfl
    · rw [split,if_neg last,extend_flatten,ih]
      rfl

/-- The lines of a stream are pieces. -/
theorem split_piece {stream line : List α} (mem : line ∈ split breaks stream) : Piece breaks line := by
  induction stream generalizing line with
  | nil => simp [split] at mem
  | cons a rest ih =>
    have single : Piece breaks [a] := ⟨by simp,List.isChain_singleton a⟩
    by_cases last : breaks a rest.head?
    · rw [split,if_pos last,List.mem_cons] at mem
      rcases mem with rfl | mem
      · exact single
      · exact ih mem
    · rw [split,if_neg last] at mem
      cases lines : split breaks rest with
      | nil =>
        rw [lines,extend,List.mem_singleton] at mem
        subst mem
        exact single
      | cons first more =>
        rw [lines,extend,List.mem_cons] at mem
        rcases mem with rfl | mem
        · obtain ⟨some_there,chain⟩ := ih (show first ∈ split breaks rest by simp [lines])
          obtain ⟨b,tail,rfl⟩ := List.exists_cons_of_ne_nil some_there
          have flat := split_flatten breaks rest
          rw [lines] at flat
          have next : rest.head? = some b := by rw [← flat]; rfl
          refine ⟨by simp,?_⟩
          rw [next] at last
          exact List.isChain_cons_cons.mpr ⟨by simpa using last,chain⟩
        · exact ih (by simp [lines,mem])

theorem extend_extend (front piece : List α) (lines : List (List α)) :
    extend front (extend piece lines) = extend (front ++ piece) lines := by
  cases lines <;> simp [extend]

/-- A piece in front of a stream is a line of its own, or the front of the first line. -/
theorem split_append {piece : List α} (whole : Piece breaks piece) (rest : List α) :
    split breaks (piece ++ rest) =
      if finished breaks piece rest.head? then piece :: split breaks rest else extend piece (split breaks rest) := by
  obtain ⟨some_there,chain⟩ := whole
  induction piece with
  | nil => exact absurd rfl some_there
  | cons a piece ih =>
    cases piece with
    | nil =>
      rw [List.singleton_append,split]
      rfl
    | cons b piece =>
      obtain ⟨inside,shorter⟩ := List.isChain_cons_cons.mp chain
      have same : finished breaks (a :: b :: piece) rest.head? = finished breaks (b :: piece) rest.head? := by simp [finished]
      have goes_on : ¬ breaks a (b :: piece ++ rest).head? = true := by
        rw [List.cons_append,List.head?_cons,inside]
        decide
      rw [List.cons_append,split,if_neg goes_on,ih (by simp) shorter,same]
      by_cases last : finished breaks (b :: piece) rest.head?
      · rw [if_pos last,if_pos last]
        rfl
      · rw [if_neg last,if_neg last,extend_extend]
        rfl

/-- The pieces of the lines, put together, are the lines. -/
theorem group_split {pieces : List (List α)} (whole : ∀ piece ∈ pieces, Piece breaks piece) :
    (group breaks pieces).map List.flatten = split breaks pieces.flatten := by
  induction pieces with
  | nil => rfl
  | cons piece pieces ih =>
    have rest := ih (fun other mem => whole other (by simp [mem]))
    rw [List.flatten_cons,split_append (whole piece (by simp)),group]
    by_cases last : finished breaks piece pieces.flatten.head?
    · rw [if_pos last,if_pos last,List.map_cons,rest]
      simp
    · rw [if_neg last,if_neg last,← rest]
      cases group breaks pieces <;> simp [extend]

theorem group_flatten (pieces : List (List α)) : (group breaks pieces).flatten = pieces := by
  induction pieces with
  | nil => rfl
  | cons piece pieces ih =>
    by_cases last : finished breaks piece pieces.flatten.head?
    · rw [group,if_pos last,List.flatten_cons,ih]
      rfl
    · rw [group,if_neg last,extend_flatten,ih]
      rfl

/-- All lines but the last are finished. -/
theorem split_finished {stream : List α} {front : List (List α)} {last : List α}
    (lines : split breaks stream = front ++ [last]) : ∀ line ∈ front, ∃ next, finished breaks line next = true := by
  induction stream generalizing front last with
  | nil =>
    have none := congrArg List.length lines
    simp [split] at none
  | cons a rest ih =>
    rw [split] at lines
    split at lines
    · rename_i line_over
      cases front with
      | nil => simp
      | cons line front =>
        rw [List.cons_append,List.cons.injEq] at lines
        obtain ⟨rfl,later⟩ := lines
        intro line member
        rcases List.mem_cons.mp member with rfl | member
        · exact ⟨rest.head?,by simpa [finished] using line_over⟩
        · exact ih later line member
    · cases more : split breaks rest with
      | nil =>
        rw [more,extend] at lines
        cases front with
        | nil => simp
        | cons line front => simp at lines
      | cons first others =>
        rw [more,extend] at lines
        cases front with
        | nil => simp
        | cons line front =>
          obtain ⟨rfl,later⟩ := List.cons.inj (show ([a] ++ first) :: others = line :: (front ++ [last]) from lines)
          have each := ih (show split breaks rest = (first :: front) ++ [last] by rw [more,later]; rfl)
          have some_there : first ≠ [] := (split_piece (show first ∈ split breaks rest by simp [more])).1
          intro line member
          rcases List.mem_cons.mp member with rfl | member
          · obtain ⟨next,line_over⟩ := each first List.mem_cons_self
            refine ⟨next,?_⟩
            rwa [finished,List.getLast?_append_of_ne_nil _ some_there]
          · exact each line (List.mem_cons_of_mem first member)

/-- The pieces make up one line, that this element follows. -/
def Line (breaks : α → Option α → Bool) : List (List α) → Option α → Prop
  | [], _ => False
  | [piece], next => finished breaks piece next = true
  | piece :: more :: rest, next => finished breaks piece more.head? = false ∧ Line breaks (more :: rest) next

/-- Each of the lists makes up one line. -/
def Grouped (breaks : α → Option α → Bool) : List (List (List α)) → Prop
  | [] => True
  | line :: lines => Line breaks line lines.flatten.flatten.head? ∧ Grouped breaks lines

/-- What is grouped are lines, where the last piece is finished. -/
theorem group_grouped {pieces : List (List α)} (some_there : ∀ piece ∈ pieces, piece ≠ [])
    (ended : ∀ piece, pieces.getLast? = some piece → finished breaks piece none = true) : Grouped breaks (group breaks pieces) := by
  induction pieces with
  | nil => trivial
  | cons piece pieces ih =>
    have rest : Grouped breaks (group breaks pieces) := by
      refine ih (fun other member => some_there other (List.mem_cons_of_mem piece member)) ?_
      intro last found
      refine ended last ?_
      rw [List.getLast?_cons,found]
      rfl
    have same : (group breaks pieces).flatten = pieces := group_flatten pieces
    rw [group]
    split
    · rename_i line_over
      refine ⟨?_,rest⟩
      rw [same]
      exact line_over
    · rename_i open_end
      cases lines : group breaks pieces with
      | nil =>
        rw [lines,List.flatten_nil] at same
        rw [← same] at open_end
        exact absurd (ended piece (by rw [← same]; rfl)) open_end
      | cons line lines' =>
        rw [lines] at rest same
        obtain ⟨first,others⟩ := rest
        refine ⟨?_,others⟩
        cases line with
        | nil => exact first.elim
        | cons next more =>
          refine ⟨?_,first⟩
          rw [List.flatten_cons,List.cons_append] at same
          have there : next ≠ [] := some_there next (by rw [← same]; simp)
          obtain ⟨c,tail,rfl⟩ := List.exists_cons_of_ne_nil there
          rw [← same] at open_end
          simpa using open_end

/-! ## Reading in chunks -/

variable (breaks)

/-- The lines of a stream that is read in chunks, each in the pieces that the chunks cut it into. -/
def in_pieces (chunks : List (List α)) : List (List (List α)) := group breaks (chunks.flatMap (split breaks))

/-- What a reader yields that takes each chunk for lines of its own. -/
def read (yields : List α → List β) (chunks : List (List α)) : List β :=
  chunks.flatMap (fun chunk => (split breaks chunk).flatMap yields)

variable {breaks}

theorem pieces_flatten (chunks : List (List α)) :
    (in_pieces breaks chunks).map List.flatten = split breaks chunks.flatten := by
  have whole : ∀ piece ∈ chunks.flatMap (split breaks), Piece breaks piece := by
    intro piece mem
    obtain ⟨chunk,_,here⟩ := List.mem_flatMap.mp mem
    exact split_piece here
  have flat : (chunks.flatMap (split breaks)).flatten = chunks.flatten := by
    induction chunks with
    | nil => rfl
    | cons chunk chunks ih =>
      rw [List.flatMap_cons,List.flatten_append,split_flatten,List.flatten_cons,
        ih (fun piece mem => whole piece (by simp [mem]))]
  rw [in_pieces,group_split whole,flat]

theorem read_pieces (yields : List α → List β) (chunks : List (List α)) :
    read breaks yields chunks = (in_pieces breaks chunks).flatMap (fun line => line.flatMap yields) := by
  have flat : (in_pieces breaks chunks).flatten = chunks.flatMap (split breaks) := group_flatten _
  have through : (in_pieces breaks chunks).flatMap (fun line => line.flatMap yields) =
      ((in_pieces breaks chunks).flatMap id).flatMap yields := by rw [List.flatMap_assoc]; rfl
  rw [through,List.flatMap_id,flat,List.flatMap_assoc]
  rfl

theorem read_lines (yields : List α → List β) (chunks : List (List α)) :
    (split breaks chunks.flatten).flatMap yields =
      (in_pieces breaks chunks).flatMap (fun line => yields line.flatten) := by
  rw [← pieces_flatten,List.flatMap_map]

/-- A reader of chunks reads the lines if every line yields what its pieces yield. -/
theorem read_of_agree {yields : List α → List β} {chunks : List (List α)}
    (agree : ∀ line ∈ in_pieces breaks chunks, line.flatMap yields = yields line.flatten) :
    read breaks yields chunks = (split breaks chunks.flatten).flatMap yields := by
  rw [read_pieces,read_lines]
  exact List.flatMap_congr agree

/-- If all lines but one yield what their pieces yield, that one decides. -/
theorem read_iff_agree {yields : List α → List β} {chunks : List (List α)} {before after : List (List (List α))}
    {line : List (List α)} (lines : in_pieces breaks chunks = before ++ line :: after)
    (earlier : ∀ other ∈ before, other.flatMap yields = yields other.flatten)
    (later : ∀ other ∈ after, other.flatMap yields = yields other.flatten) :
    read breaks yields chunks = (split breaks chunks.flatten).flatMap yields ↔ line.flatMap yields = yields line.flatten := by
  rw [read_pieces,read_lines,lines,List.flatMap_append,List.flatMap_append,List.flatMap_cons,List.flatMap_cons,
    List.flatMap_congr earlier,List.flatMap_congr later,List.append_cancel_left_eq,List.append_cancel_right_eq]

end

end VibeBridge.Lines
