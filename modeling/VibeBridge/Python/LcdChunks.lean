import VibeBridge.Python.LcdPieces

/-!
The adapter on a stream that is cut into chunks. It writes out the front of a line
that has no bar yet, and takes the rest for a line of its own; and it takes a line
that is cut in its line end for two. Neither shows as long as the line, or its rest,
has no part in a table (`Harmless`). Then the chunks give what the whole stream
gives (`fed_in_chunks`): until the next line is there the two may have kept and
written different parts of a line, but together the same (`Behind`).
-/
namespace VibeBridge.Python.Lcd
open VibeBridge.Transducer

/-! ## Lines that are cut -/

/-- The line is followed by the separator that makes it the header of a table. -/
def heads (line : Str) (next : Option Str) : Bool := reply_row line && next.any reply_separator

/-- A line that is cut between the CR and the LF at its end. -/
def end_cut (pieces : List Str) : Bool :=
  pieces.getLast? == some [LF] && pieces.dropLast.getLast?.any (fun piece => piece.getLast? == some CR)

/-- The line from the first of its pieces that has a bar. -/
def from_bar (pieces : List Str) : Str := (pieces.dropWhile barless).flatten

/-- The adapter sees the line as it is, or with no part in a table: if the line is cut in its line end, it is no
    line of a table; if it is cut before its bars and no table is open, neither the line nor its rest heads one. -/
structure Harmless (before : Markdown) (pieces : List Str) (next : Option Str) : Prop where
  line_end : end_cut pieces = true → Closes before pieces.flatten ∧ heads pieces.flatten next = false
  front : is_open before = false → from_bar pieces ≠ pieces.flatten →
    heads pieces.flatten next = false ∧ (end_cut pieces = false → heads (from_bar pieces) next = false)

instance (before : Markdown) (pieces : List Str) (next : Option Str) : Decidable (Harmless before pieces next) :=
  decidable_of_iff ((end_cut pieces = true → Closes before pieces.flatten ∧ heads pieces.flatten next = false) ∧
    (is_open before = false → from_bar pieces ≠ pieces.flatten →
      heads pieces.flatten next = false ∧ (end_cut pieces = false → heads (from_bar pieces) next = false)))
    ⟨fun h => ⟨h.1,h.2⟩,fun h => ⟨h.line_end,h.front⟩⟩

/-- Each line, with what the adapter keeps before it. -/
def AllHarmless (before : Markdown) : List (List Str) → Prop
  | [] => True
  | pieces :: lines =>
    Harmless before pieces (lines.head?.map List.flatten) ∧ AllHarmless (run take_piece before pieces).2 lines

instance decide_harmless (before : Markdown) : (lines : List (List Str)) → Decidable (AllHarmless before lines)
  | [] => .isTrue trivial
  | pieces :: lines =>
    have := decide_harmless (run take_piece before pieces).2 lines
    inferInstanceAs (Decidable (Harmless before pieces (lines.head?.map List.flatten) ∧
      AllHarmless (run take_piece before pieces).2 lines))

/-- How the chunks cut a line. -/
inductive Shape : List Str → Prop
  | whole (front : List Str) (last : Str) (inside : ∀ piece ∈ front, ended piece = false) (line_over : ended last = true) :
    Shape (front ++ [last])
  | cut (front : List Str) (text : Str) (inside : ∀ piece ∈ front, ended piece = false) :
    Shape (front ++ [text ++ [CR],[LF]])

theorem shape_of_line {pieces : List Str} {next : Option Nat} (line : Lines.Line breaks pieces next)
    (whole : ∀ piece ∈ pieces, Lines.Piece breaks piece) : Shape pieces := by
  induction pieces with
  | nil => exact line.elim
  | cons piece pieces ih =>
    cases pieces with
    | nil => exact .whole [] piece (by simp) (ended_of_finished line)
    | cons more rest =>
      obtain ⟨open_end,later⟩ := line
      have shape := ih later (fun other member => whole other (List.mem_cons_of_mem piece member))
      by_cases line_over : ended piece = true
      · -- only a CR before an LF is an end that ends no line
        have last : piece.getLast? = some CR := by
          by_contra other
          rw [finished_of_ended line_over other] at open_end
          cases open_end
        obtain ⟨text,rfl⟩ := List.getLast?_eq_some_iff.mp last
        obtain ⟨some_there,chain⟩ := whole more (by simp)
        obtain ⟨c,tail,rfl⟩ := List.exists_cons_of_ne_nil some_there
        have lf : c = LF := by
          rw [Lines.finished,last,List.head?_cons,Option.any_some,breaks] at open_end
          simpa [is_line_end,CR] using open_end
        subst lf
        have alone : tail = [] := by
          cases tail with
          | nil => rfl
          | cons d tail =>
            have broken := (List.isChain_cons_cons.mp chain).1
            simp [breaks,is_line_end,LF,CR] at broken
        subst alone
        cases rest with
        | nil => exact .cut [] text (by simp)
        | cons other rest =>
          have broken := later.1
          simp [Lines.finished,breaks,is_line_end,LF,CR] at broken
      · have inside : ended piece = false := by simpa using line_over
        generalize more :: rest = pieces at shape ⊢
        cases shape with
        | whole front last inside' line_over' =>
          refine .whole (piece :: front) last ?_ line_over'
          exact List.forall_mem_cons.mpr ⟨inside,inside'⟩
        | cut front text inside' =>
          refine .cut (piece :: front) text ?_
          exact List.forall_mem_cons.mpr ⟨inside,inside'⟩

/-! ## What the two runs have written -/

/-- Two runs before the same next line: they have written and kept the same, or one has written what the other has
    kept, and the next line makes no table of it. -/
def Behind (next : Option Str) (whole chunked : Str × Markdown) : Prop :=
  whole = chunked ∨ (whole.2.table_rows = none ∧ chunked.2.table_rows = none ∧
    whole.1 ++ flushed whole.2 = chunked.1 ++ flushed chunked.2 ∧ next.any reply_separator = false)

theorem behind_after (written : Str) {next : Option Str} {whole chunked : Str × Markdown} (behind : Behind next whole chunked) :
    Behind next (follow (written,{}) (fun _ : Markdown => whole)) (follow (written,{}) (fun _ : Markdown => chunked)) := by
  rcases behind with rfl | ⟨closed,closed',same,no_separator⟩
  · exact .inl rfl
  · refine .inr ⟨closed,closed',?_,no_separator⟩
    simp only [follow_fst,follow_snd,List.append_assoc,same]

theorem separator_of_heads {line : Str} {next : Option Str} (row : reply_row line = true) (none : heads line next = false) :
    next.any reply_separator = false := by
  rwa [heads,row,Bool.true_and] at none

/-- A line of which the front is written out, and the rest taken for a line. -/
theorem behind_front {front rest : Str} {next : Option Str}
    (harmless : front = [] ∨ (heads (front ++ rest) next = false ∧ heads rest next = false)) :
    Behind next (process_complete_line {} (front ++ rest)) (follow (front,{}) (fun after => process_complete_line after rest)) := by
  rcases harmless with rfl | ⟨whole,part⟩
  · exact .inl (follow_nothing _ _).symm
  by_cases row : reply_row (front ++ rest) = true
  · obtain ⟨cells,processed⟩ := process_row row
    rw [processed,follow]
    by_cases row' : reply_row rest = true
    · obtain ⟨cells',processed'⟩ := process_row row'
      rw [processed']
      exact .inr ⟨rfl,rfl,by simp [flushed],separator_of_heads row whole⟩
    · rw [process_plain (by simpa using row')]
      exact .inr ⟨rfl,rfl,by simp [flushed],separator_of_heads row whole⟩
  · rw [process_plain (by simpa using row),follow]
    by_cases row' : reply_row rest = true
    · obtain ⟨cells',processed'⟩ := process_row row'
      rw [processed']
      exact .inr ⟨rfl,rfl,by simp [flushed],separator_of_heads row' part⟩
    · rw [process_plain (by simpa using row')]
      exact .inl rfl

/-- A line that is cut in its line end. -/
theorem behind_cut {front text : Str} {next : Option Str} (none : heads (front ++ (text ++ [CR,LF])) next = false) :
    Behind next (process_complete_line {} (front ++ (text ++ [CR,LF])))
      (follow (follow (front,{}) (fun after => process_complete_line after (text ++ [CR])))
        (fun after => process_complete_line after [LF])) := by
  have lf : Blank [LF] := by
    intro c member
    rw [List.mem_singleton.mp member]
    decide
  have written : follow (follow (front,{}) (fun after => process_complete_line after (text ++ [CR])))
      (fun after => process_complete_line after [LF]) = (front ++ (text ++ [CR,LF]),{}) := by
    by_cases row : reply_row (text ++ [CR]) = true
    · obtain ⟨cells,processed⟩ := process_row row
      simp only [follow,processed]
      rw [process_blank rfl lf]
      simp [flushed]
    · simp only [follow,process_plain (show reply_row (text ++ [CR]) = false by simpa using row)]
      rw [process_blank rfl lf]
      simp [flushed]
  rw [written]
  by_cases row : reply_row (front ++ (text ++ [CR,LF])) = true
  · obtain ⟨cells,processed⟩ := process_row row
    rw [processed]
    exact .inr ⟨rfl,rfl,by simp [flushed],separator_of_heads row none⟩
  · rw [process_plain (by simpa using row)]
    exact .inl rfl

/-! ## One line -/

theorem end_cut_whole {front : List Str} {last : Str} (inside : ∀ piece ∈ front, ended piece = false) :
    end_cut (front ++ [last]) = false := by
  rw [end_cut,List.dropLast_concat]
  cases found : front.getLast? with
  | none => simp
  | some piece =>
    have here := inside piece (List.mem_of_getLast? found)
    have no_cr : piece.getLast? ≠ some CR := by
      intro cr
      rw [ended,cr] at here
      exact absurd here (by decide)
    simp [no_cr]

theorem end_cut_cut (front : List Str) (text : Str) : end_cut (front ++ [text ++ [CR],[LF]]) = true := by
  have split : front ++ [text ++ [CR],[LF]] = (front ++ [text ++ [CR]]) ++ [[LF]] := by simp
  rw [end_cut,split,List.getLast?_concat,List.dropLast_concat,List.getLast?_concat,Option.any_some,List.getLast?_concat]
  decide

theorem barless_heads {line : Str} (no_bar : BAR ∉ line) (next : Option Str) : heads line next = false := by
  have no_row : reply_row line = false := by
    by_contra row
    exact no_bar (reply_row_bar (by simpa using row))
  rw [heads,no_row,Bool.false_and]

theorem from_bar_whole {front : List Str} {last : Str} (bar : BAR ∈ (front ++ [last]).flatten) :
    from_bar (front ++ [last]) = (front.dropWhile barless).flatten ++ last := by
  rw [from_bar,List.dropWhile_append]
  split
  · rename_i empty
    have none_left := List.isEmpty_iff.mp empty
    have in_last : BAR ∈ last := by
      rw [List.flatten_concat,List.mem_append] at bar
      refine bar.resolve_left (fun member => ?_)
      obtain ⟨piece,within,here⟩ := List.mem_flatten.mp member
      have no := List.dropWhile_eq_nil_iff.mp none_left piece within
      exact absurd here (by simpa [barless] using no)
    have stops : ¬ barless last = true := by simpa [barless] using in_last
    rw [none_left,List.dropWhile_cons_of_neg stops]
    simp
  · rw [List.flatten_concat]

/-- A line before which no table is open and no header pending. -/
theorem behind_closed {pieces : List Str} {next : Option Str} (shape : Shape pieces) (harmless : Harmless {} pieces next) :
    Behind next (process_complete_line {} pieces.flatten) (run take_piece {} pieces) := by
  cases shape with
  | whole front last inside line_over =>
    have line : (front ++ [last]).flatten =
        (front.takeWhile barless).flatten ++ ((front.dropWhile barless).flatten ++ last) := by
      rw [List.flatten_concat,← List.append_assoc,← List.flatten_append,List.takeWhile_append_dropWhile]
    rw [take_closed inside line_over,line]
    refine behind_front ?_
    rw [← line]
    by_cases bar : BAR ∈ (front ++ [last]).flatten
    · rw [← from_bar_whole bar]
      by_cases same : from_bar (front ++ [last]) = (front ++ [last]).flatten
      · left
        rw [from_bar_whole bar,line] at same
        exact List.append_left_eq_self.mp same.symm
      · obtain ⟨whole,part⟩ := harmless.front rfl same
        exact .inr ⟨whole,part (end_cut_whole inside)⟩
    · refine .inr ⟨barless_heads bar next,barless_heads (fun member => bar ?_) next⟩
      rw [line]
      exact List.mem_append.mpr (.inr member)
  | cut front text inside =>
    have line_over := ended_cr text
    have line : (front ++ [text ++ [CR],[LF]]).flatten =
        (front.takeWhile barless).flatten ++ ((front.dropWhile barless).flatten ++ text ++ [CR,LF]) := by
      rw [← List.append_assoc,← List.append_assoc,← List.flatten_append,List.takeWhile_append_dropWhile]
      simp
    rw [take_lf rfl inside,take_closed inside line_over,line,← List.append_assoc _ text [CR]]
    refine behind_cut ?_
    rw [← line]
    exact (harmless.line_end (end_cut_cut front text)).2

/-- A line that closes what is open. -/
theorem behind_open {self : Markdown} (nothing_held : self.partial_line = []) {pieces : List Str} {next : Option Str}
    (shape : Shape pieces) (closes : Closes self pieces.flatten) (harmless : Harmless self pieces next) :
    ∃ chunked, run take_piece self pieces = follow (flushed self,{}) (fun _ : Markdown => chunked) ∧
      Behind next (process_complete_line {} pieces.flatten) chunked := by
  by_cases opened : is_open self = true
  · cases shape with
    | whole front last inside line_over =>
      refine ⟨process_complete_line {} (front ++ [last]).flatten,?_,.inl rfl⟩
      rw [take_open nothing_held opened inside line_over,← List.flatten_concat,process_closing nothing_held closes]
      rfl
    | cut front text inside =>
      have line_over := ended_cr text
      have line : (front ++ [text ++ [CR],[LF]]).flatten = front.flatten ++ text ++ [CR,LF] := by simp
      have closes' : Closes self (front.flatten ++ text ++ [CR]) := by
        rw [line] at closes
        rw [Closes,reply_row_ending (.inl rfl) (.inr rfl),reply_separator_ending (.inl rfl) (.inr rfl)]
        exact closes
      refine ⟨follow (process_complete_line {} (front.flatten ++ text ++ [CR]))
        (fun after => process_complete_line after [LF]),?_,?_⟩
      · rw [take_lf nothing_held inside,take_open nothing_held opened inside line_over,← List.append_assoc,
          process_closing nothing_held closes',follow_assoc]
        rfl
      · have none := (harmless.line_end (end_cut_cut front text)).2
        rw [line] at none ⊢
        have cut := behind_cut (show heads ([] ++ (front.flatten ++ text ++ [CR,LF])) next = false from none)
        rw [follow_nothing] at cut
        exact cut
  · obtain rfl := not_open (by simpa using opened) nothing_held
    exact ⟨run take_piece {} pieces,(follow_nothing _ _).symm,behind_closed shape harmless⟩

/-- Whatever the two runs have kept, a harmless line leaves them so. -/
theorem behind_step {whole chunked : Str × Markdown} (nothing_held : whole.2.partial_line = [])
    (nothing_held' : chunked.2.partial_line = []) {pieces : List Str} {next : Option Str} (shape : Shape pieces)
    (behind : Behind (some pieces.flatten) whole chunked) (harmless : Harmless chunked.2 pieces next) :
    Behind next (follow whole (fun self => process_complete_line self pieces.flatten))
      (follow chunked (fun self => run take_piece self pieces)) := by
  obtain ⟨written,self⟩ := whole
  obtain ⟨written',self'⟩ := chunked
  have closing : Closes self pieces.flatten → Closes self' pieces.flatten → written ++ flushed self = written' ++ flushed self' →
      Behind next (follow (written,self) (fun self => process_complete_line self pieces.flatten))
        (follow (written',self') (fun self => run take_piece self pieces)) := by
    intro closes closes' same
    obtain ⟨taken,run_taken,behind⟩ := behind_open nothing_held' shape closes' harmless
    have after := behind_after (written ++ flushed self) behind
    have left : follow (written,self) (fun self => process_complete_line self pieces.flatten) =
        follow (written ++ flushed self,{}) (fun _ : Markdown => process_complete_line {} pieces.flatten) := by
      simp only [follow,process_closing nothing_held closes,List.append_assoc]
    have right : follow (written',self') (fun self => run take_piece self pieces) =
        follow (written ++ flushed self,{}) (fun _ : Markdown => taken) := by
      simp only [follow,run_taken,← List.append_assoc,same]
    rw [left,right]
    exact after
  rcases behind with same | ⟨closed,closed',same,no_separator⟩
  · cases same
    by_cases closes : Closes self pieces.flatten
    · exact closing closes closes rfl
    · have opened : is_open self = true := by
        by_contra shut
        obtain rfl := not_open (by simpa using shut) nothing_held
        exact closes ⟨by simp,by simp⟩
      cases shape with
      | whole front last inside line_over =>
        left
        simp only [follow,take_open nothing_held opened inside line_over,List.flatten_concat]
      | cut front text inside => exact absurd (harmless.line_end (end_cut_cut front text)).1 closes
  · have plain : reply_separator pieces.flatten = false := by simpa using no_separator
    exact closing ⟨by simp [show self.table_rows = none from closed],fun _ _ => plain⟩
      ⟨by simp [show self'.table_rows = none from closed'],fun _ _ => plain⟩ same

/-! ## All lines -/

theorem shape_held {self : Markdown} (nothing_held : self.partial_line = []) {pieces : List Str} (shape : Shape pieces) :
    (run take_piece self pieces).2.partial_line = [] := by
  cases shape with
  | whole front last inside line_over => exact taken_held nothing_held inside line_over
  | cut front text inside =>
    rw [take_lf nothing_held inside,follow_snd,process_held]
    exact taken_held nothing_held inside (ended_cr text)

/-- The two runs write the same of all lines, or one has kept what the other has written. -/
theorem behind_run {lines : List (List Str)} (shapes : ∀ pieces ∈ lines, Shape pieces) {whole chunked : Str × Markdown}
    (nothing_held : whole.2.partial_line = []) (nothing_held' : chunked.2.partial_line = [])
    (behind : Behind (lines.head?.map List.flatten) whole chunked) (harmless : AllHarmless chunked.2 lines) :
    Behind none (follow whole (fun self => run (fun self pieces => process_complete_line self pieces.flatten) self lines))
      (follow chunked (fun self => run (run take_piece) self lines)) := by
  induction lines generalizing whole chunked with
  | nil =>
    have idle : ∀ start : Str × Markdown, follow start (fun self => (([] : Str),self)) = start := follow_idle
    rw [show (fun self => run (fun self (pieces : List Str) => process_complete_line self pieces.flatten) self []) =
      (fun self => (([] : Str),self)) from rfl,show (fun self => run (run take_piece) self []) = (fun self => (([] : Str),self)) from rfl,
      idle,idle]
    exact behind
  | cons pieces lines ih =>
    obtain ⟨here,later⟩ := harmless
    have shape := shapes pieces List.mem_cons_self
    have next := behind_step nothing_held nothing_held' shape behind here
    have held : (follow whole (fun self => process_complete_line self pieces.flatten)).2.partial_line = [] :=
      (process_held _ _).trans nothing_held
    have held' : (follow chunked (fun self => run take_piece self pieces)).2.partial_line = [] := shape_held nothing_held' shape
    have after := ih (fun other member => shapes other (List.mem_cons_of_mem pieces member)) held held' next later
    rw [follow_assoc,follow_assoc] at after
    exact after

/-! ## A stream that ends in a blank line -/

/-- The text ends in a blank line. -/
def EndsBlank (text : Str) : Prop := ∃ line, (splitlines text).getLast? = some line ∧ Blank line ∧ ends_line line = true


theorem blank_part {text part : Str} (blank : Blank text) (within : part.Sublist text) : Blank part :=
  fun c member => blank c (within.mem member)

/-- After a blank line, however it is cut, nothing is kept. -/
theorem shape_blank {self : Markdown} (nothing_held : self.partial_line = []) {pieces : List Str} (shape : Shape pieces)
    (blank : Blank pieces.flatten) : (run take_piece self pieces).2 = {} := by
  cases shape with
  | whole front last inside line_over =>
    by_cases opened : is_open self = true
    · rw [take_open nothing_held opened inside line_over,process_blank nothing_held]
      rwa [List.flatten_concat] at blank
    · obtain rfl := not_open (by simpa using opened) nothing_held
      rw [take_closed inside line_over,follow_snd,process_blank rfl]
      refine blank_part blank ?_
      have split := congrArg List.flatten (List.takeWhile_append_dropWhile (p := barless) (l := front))
      rw [List.flatten_append] at split
      rw [List.flatten_concat,← split]
      exact (List.sublist_append_right _ _).append (List.Sublist.refl last)
  | cut front text inside =>
    rw [take_lf nothing_held inside,follow_snd,process_blank (taken_held nothing_held inside (ended_cr text))]
    refine blank_part blank ?_
    simp

theorem run_held {self : Markdown} (nothing_held : self.partial_line = []) {lines : List (List Str)}
    (shapes : ∀ pieces ∈ lines, Shape pieces) : (run (run take_piece) self lines).2.partial_line = [] := by
  induction lines generalizing self with
  | nil => exact nothing_held
  | cons pieces lines ih =>
    exact ih (shape_held nothing_held (shapes pieces List.mem_cons_self))
      (fun other member => shapes other (List.mem_cons_of_mem pieces member))

/-- What the two runs have written is the same in the end. -/
theorem lines_agree {lines : List (List Str)} (shapes : ∀ pieces ∈ lines, Shape pieces) (harmless : AllHarmless {} lines)
    {last : List Str} (ends : lines.getLast? = some last) (blank : Blank last.flatten) :
    (run (fun self pieces => process_complete_line self pieces.flatten) {} lines).1 = (run (run take_piece) {} lines).1 := by
  obtain ⟨front,rfl⟩ := List.getLast?_eq_some_iff.mp ends
  have start : Behind ((front ++ [last]).head?.map List.flatten) (([] : Str),{}) (([] : Str),{}) := .inl rfl
  have nothing_held : ((([] : Str),({} : Markdown)).2).partial_line = [] := rfl
  have behind := behind_run shapes nothing_held nothing_held start harmless
  rw [follow_nothing,follow_nothing] at behind
  have closed : (run (fun self pieces => process_complete_line self pieces.flatten) {} (front ++ [last])).2 = {} := by
    have held : (run (fun self (pieces : List Str) => process_complete_line self pieces.flatten) {} front).2.partial_line = [] :=
      run_keeps (P := fun self => self.partial_line = []) (fun self pieces held => (process_held self _).trans held) rfl front
    rw [run_append,follow_snd,run_singleton,process_blank held blank]
  have closed' : (run (run take_piece) {} (front ++ [last])).2 = {} := by
    have held : (run (run take_piece) {} front).2.partial_line = [] :=
      run_held rfl (fun pieces member => shapes pieces (List.mem_append_left [last] member))
    rw [run_append,follow_snd,run_singleton]
    exact shape_blank held (shapes last (by simp)) blank
  rcases behind with same | ⟨_,_,same,_⟩
  · rw [same]
  · rw [closed,closed'] at same
    exact List.append_cancel_right same

/-- The lines of some texts, in the pieces that the texts cut them into. -/
def cut_lines (texts : List Str) : List (List Str) := Lines.in_pieces breaks texts

theorem ends_hard {text : Str} (ends : EndsBlank text) : ends_line text = true := by
  obtain ⟨line,last,_,hard⟩ := ends
  obtain ⟨front,lines⟩ := List.getLast?_eq_some_iff.mp last
  have some_there : line ≠ [] := splitlines_some (show line ∈ splitlines text by rw [lines]; simp)
  have whole := splitlines_flatten text
  rw [lines,List.flatten_concat] at whole
  rw [← whole,ends_line_append _ some_there]
  exact hard

/-- The cut lines are lines, if the text ends in the end of one. -/
theorem cut_lines_shapes {texts : List Str} {front : List Str} {last : Str} (split : texts = front ++ [last])
    (hard : ends_line last = true) : ∀ pieces ∈ cut_lines texts, Shape pieces := by
  have pieces_of : ∀ piece ∈ texts.flatMap splitlines, Lines.Piece breaks piece := by
    intro piece member
    obtain ⟨text,_,here⟩ := List.mem_flatMap.mp member
    exact Lines.split_piece here
  have grouped : Lines.Grouped breaks (cut_lines texts) := by
    refine Lines.group_grouped (fun piece member => (pieces_of piece member).1) ?_
    intro piece found
    have some_there : last ≠ [] := by
      rintro rfl
      cases hard
    have last_line : piece.getLast? = last.getLast? := by
      have whole := splitlines_flatten last
      obtain ⟨front',final,lines⟩ : ∃ front' final, splitlines last = front' ++ [final] := by
        rcases List.eq_nil_or_concat (splitlines last) with empty | ⟨front',final,lines⟩
        · rw [empty] at whole
          exact absurd whole.symm some_there
        · exact ⟨front',final,by rw [lines,List.concat_eq_append]⟩
      have final_there : final ≠ [] := splitlines_some (show final ∈ splitlines last by rw [lines]; simp)
      change (texts.flatMap splitlines).getLast? = some piece at found
      rw [split,List.flatMap_append,List.flatMap_singleton,lines,← List.append_assoc,List.getLast?_concat] at found
      cases found
      rw [lines,List.flatten_concat] at whole
      rw [← whole,List.getLast?_append_of_ne_nil _ final_there]
    rw [Lines.finished,last_line]
    rw [ends_line,Bool.or_eq_true,beq_iff_eq,beq_iff_eq] at hard
    rcases hard with ends | ends <;> rw [ends] <;> decide
  have flat : (cut_lines texts).flatten = texts.flatMap splitlines := Lines.group_flatten _
  intro pieces member
  have line : ∃ next, Lines.Line breaks pieces next := by
    clear flat
    generalize cut_lines texts = lines at grouped member
    induction lines with
    | nil => cases member
    | cons first lines ih =>
      obtain ⟨here,later⟩ := grouped
      rcases List.mem_cons.mp member with rfl | member
      · exact ⟨_,here⟩
      · exact ih later member
  obtain ⟨next,line⟩ := line
  refine shape_of_line line (fun piece within => pieces_of piece ?_)
  rw [← flat]
  exact List.mem_flatten.mpr ⟨pieces,member,within⟩

/-- The tables are rendered in chunks as in one text. -/
theorem rendered_in_chunks {texts : List Str} (some_there : ∀ text ∈ texts, text ≠ []) (ends : EndsBlank texts.flatten)
    (harmless : AllHarmless {} (cut_lines texts)) :
    (run render_live_markdown {} texts).1 = (render_live_markdown {} texts.flatten).1 := by
  have hard := ends_hard ends
  obtain ⟨front,last,split⟩ : ∃ front last, texts = front ++ [last] := by
    rcases List.eq_nil_or_concat texts with rfl | ⟨front,last,split⟩
    · cases hard
    · exact ⟨front,last,by rw [split,List.concat_eq_append]⟩
  have hard_last : ends_line last = true := by
    have whole := hard
    rw [split,List.flatten_concat,ends_line_append _ (some_there last (by rw [split]; simp))] at whole
    exact whole
  have shapes := cut_lines_shapes split hard_last
  obtain ⟨line,last_line,blank,ends_hard⟩ := ends
  have lines : (cut_lines texts).map List.flatten = splitlines texts.flatten := Lines.pieces_flatten texts
  obtain ⟨pieces,ends,rfl⟩ : ∃ pieces, (cut_lines texts).getLast? = some pieces ∧ pieces.flatten = line := by
    rw [← lines,List.getLast?_map] at last_line
    exact Option.map_eq_some_iff.mp last_line
  have chunked : (run render_live_markdown {} texts).1 = (run (run take_piece) {} (cut_lines texts)).1 := by
    rw [split,render_ended front hard_last,← split,← run_flatten]
    exact congrArg (fun pieces => (run take_piece {} pieces).1) (Lines.group_flatten (texts.flatMap splitlines)).symm
  have whole : (render_live_markdown {} texts.flatten).1 =
      (run (fun self pieces => process_complete_line self pieces.flatten) {} (cut_lines texts)).1 := by
    have all_ended : ∀ line ∈ splitlines texts.flatten, ended line = true := by
      obtain ⟨before,found⟩ := List.getLast?_eq_some_iff.mp last_line
      intro line member
      rw [found] at member
      rcases List.mem_append.mp member with earlier | here
      · obtain ⟨next,line_over⟩ := Lines.split_finished found line earlier
        exact ended_of_finished line_over
      · rw [List.mem_singleton.mp here]
        exact ended_of_ends_line ends_hard
    have one := render_ended [] hard
    rw [List.nil_append,run_singleton,List.flatMap_singleton] at one
    rw [one,take_all_ended rfl all_ended,process_lines,← lines,run_map]
  rw [chunked,whole]
  exact (lines_agree shapes harmless ends blank).symm

end VibeBridge.Python.Lcd
