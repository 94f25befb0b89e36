import VibeBridge.Python.LcdColors

/-!
The rendering of tables as a machine on the pieces in which the chunks cut the lines
(`render_pieces`). The adapter holds back the last piece of a chunk or writes it out
at once; a piece that it holds back although its line is over is all that it owes.
-/
namespace VibeBridge.Python.Lcd
open VibeBridge.Transducer

/-! ## Lines of a text -/

/-- The piece has the end of its line. -/
def ended (piece : Str) : Bool := piece.getLast?.any is_line_end

theorem ended_of_finished {piece : Str} {next : Option Nat} (line_over : Lines.finished breaks piece next = true) :
    ended piece = true := by
  rw [Lines.finished] at line_over
  rw [ended]
  cases last : piece.getLast? with
  | none => simp [last] at line_over
  | some c =>
    simp only [last,Option.any_some,breaks,Bool.and_eq_true] at line_over ⊢
    exact line_over.1

theorem finished_of_ended {piece : Str} (line_over : ended piece = true) (other : piece.getLast? ≠ some CR) (next : Option Nat) :
    Lines.finished breaks piece next = true := by
  rw [ended] at line_over
  rw [Lines.finished]
  cases last : piece.getLast? with
  | none => simp [last] at line_over
  | some c =>
    have no_cr : c ≠ CR := fun same => other (by rw [last,same])
    simp only [last,Option.any_some,breaks] at line_over ⊢
    simp [line_over,no_cr]

theorem ended_of_ends_line {line : Str} (hard : ends_line line = true) : ended line = true := by
  rw [ends_line,Bool.or_eq_true,beq_iff_eq,beq_iff_eq] at hard
  rw [ended]
  rcases hard with last | last <;> rw [last] <;> decide

theorem ended_append (front : Str) {piece : Str} (some_there : piece ≠ []) : ended (front ++ piece) = ended piece := by
  rw [ended,ended,List.getLast?_append_of_ne_nil _ some_there]

theorem ends_line_append (front : Str) {piece : Str} (some_there : piece ≠ []) :
    ends_line (front ++ piece) = ends_line piece := by
  rw [ends_line,ends_line,List.getLast?_append_of_ne_nil _ some_there]

theorem splitlines_flatten (text : Str) : (splitlines text).flatten = text := Lines.split_flatten breaks text

theorem splitlines_some {text line : Str} (member : line ∈ splitlines text) : line ≠ [] := (Lines.split_piece member).1

/-! ## What a line changes -/

theorem process_held (self : Markdown) (line : Str) : (process_complete_line self line).2.partial_line = self.partial_line := by
  obtain ⟨header,rows,held⟩ := self
  rw [process_complete_line]
  split
  · rfl
  · cases rows with
    | some rows =>
      simp only [process_reply_line]
      cases parse_markdown_table_row (strip_ansi line) <;> rfl
    | none =>
      cases header with
      | some header =>
        simp only [process_reply_line]
        cases parse_markdown_table_row (strip_ansi line) <;> split <;> rfl
      | none =>
        simp only [process_reply_line]
        cases parse_markdown_table_row (strip_ansi line) <;> rfl

theorem not_open {self : Markdown} (closed : is_open self = false) (nothing_held : self.partial_line = []) : self = {} := by
  obtain ⟨header,rows,held⟩ := self
  cases nothing_held
  cases header with
  | some header => simp [is_open] at closed
  | none =>
    cases rows with
    | some rows => simp [is_open] at closed
    | none => rfl

theorem same_held {self : Markdown} (nothing_held : self.partial_line = []) : { self with partial_line := [] } = self := by
  obtain ⟨header,rows,held⟩ := self
  cases nothing_held
  rfl

/-! ## Pieces -/

/-- The adapter on a piece of a line. -/
def take_piece (self : Markdown) (piece : Str) : Str × Markdown :=
  let line := self.partial_line ++ piece
  let self := { self with partial_line := [] }
  if ended piece then process_complete_line self line
  else if is_open self || decide (BAR ∈ line) then ([],{ self with partial_line := line })
  else (line,self)

/-- What the adapter owes: a line that is over, and held back since it ends in no CR and no LF. -/
def settle (self : Markdown) : Str × Markdown :=
  if ended self.partial_line then process_complete_line { self with partial_line := [] } self.partial_line else ([],self)

/-- What may be held back. -/
def Held (self : Markdown) : Prop := self.partial_line = [] ∨
  (Lines.Piece breaks self.partial_line ∧ ends_line self.partial_line = false ∧
    (is_open self = true ∨ BAR ∈ self.partial_line))

theorem settle_nothing {self : Markdown} (nothing_held : self.partial_line = []) : settle self = ([],self) := by
  rw [settle,nothing_held]
  rfl

theorem take_ended {self : Markdown} (nothing_held : self.partial_line = []) {piece : Str} (line_over : ended piece = true) :
    take_piece self piece = process_complete_line self piece := by
  simp only [take_piece,nothing_held,List.nil_append,line_over,if_true,same_held nothing_held]

theorem take_all_ended {self : Markdown} (nothing_held : self.partial_line = []) {pieces : List Str}
    (line_over : ∀ piece ∈ pieces, ended piece = true) : run take_piece self pieces = process_lines self pieces := by
  rw [process_lines]
  induction pieces generalizing self with
  | nil => rfl
  | cons piece pieces ih =>
    rw [run,run,take_ended nothing_held (line_over piece List.mem_cons_self)]
    exact follow_congr (ih ((process_held self piece).trans nothing_held)
      (fun other member => line_over other (List.mem_cons_of_mem piece member)))

theorem process_lines_held {self : Markdown} (nothing_held : self.partial_line = []) (lines : List Str) :
    (process_lines self lines).2.partial_line = [] :=
  run_keeps (P := fun self => self.partial_line = []) (fun self line held => (process_held self line).trans held)
    nothing_held lines

/-- A last piece that is held back is owed if its line is over, and one that is written out is no line of a table. -/
theorem take_last {self : Markdown} (nothing_held : self.partial_line = []) (last : Str) :
    follow (if is_open self || decide (BAR ∈ strip_sgr last) then ([],{ self with partial_line := last }) else (last,self)) settle =
      take_piece self last := by
  have same : take_piece self last = if ended last then process_complete_line self last
      else if is_open self || decide (BAR ∈ last) then ([],{ self with partial_line := last }) else (last,self) := by
    simp only [take_piece,nothing_held,List.nil_append,same_held nothing_held]
  rw [same]
  simp only [bar_strip_sgr]
  by_cases kept : (is_open self || decide (BAR ∈ last)) = true
  · rw [if_pos kept,follow_nothing,settle]
    simp only [same_held nothing_held]
  · rw [if_neg kept]
    rw [Bool.or_eq_true,not_or,Bool.not_eq_true,decide_eq_true_eq] at kept
    obtain ⟨closed,no_bar⟩ := kept
    obtain rfl := not_open closed nothing_held
    have plain : reply_row last = false := by
      by_contra row
      exact no_bar (reply_row_bar (by simpa using row))
    rw [process_plain plain,ite_self]
    exact (follow_congr (settle_nothing rfl)).trans (follow_idle _)

/-- The adapter takes the pieces of what it held back and of the chunk, but may owe the last. -/
theorem render_takes (self : Markdown) (text : Str) : follow (render_live_markdown self text) settle =
    run take_piece { self with partial_line := [] } (splitlines (self.partial_line ++ text)) := by
  have start : ({ self with partial_line := [] } : Markdown).partial_line = [] := rfl
  rw [render_live_markdown]
  generalize ({ self with partial_line := [] } : Markdown) = self' at start ⊢
  rcases List.eq_nil_or_concat (splitlines (self.partial_line ++ text)) with empty | ⟨front,last,lines⟩
  · simp only [empty]
    exact follow_congr (settle_nothing start)
  rw [List.concat_eq_append] at lines
  have line_over : ∀ line ∈ front, ended line = true := by
    intro line member
    obtain ⟨next,finished⟩ := Lines.split_finished lines line member
    exact ended_of_finished finished
  have some_there : last ≠ [] := splitlines_some (show last ∈ splitlines (self.partial_line ++ text) by rw [lines]; simp)
  have held := process_lines_held start front
  have taken := take_all_ended start line_over
  simp only [lines,List.getLast?_concat,Option.any_some]
  cases hard : ends_line last with
  | true =>
    have all : ∀ line ∈ front ++ [last], ended line = true := by
      intro line member
      rcases List.mem_append.mp member with earlier | here
      · exact line_over line earlier
      · rw [List.mem_singleton.mp here]
        exact ended_of_ends_line hard
    simp only [Bool.not_true]
    rw [take_all_ended start all]
    exact (follow_congr (settle_nothing (process_lines_held start _))).trans (follow_idle _)
  | false =>
    have tail : (front ++ [last]).getLastD [] = last := by simp
    simp only [Bool.not_false,if_true,List.dropLast_concat,tail,List.isEmpty_iff,if_neg some_there]
    rw [run_append,taken]
    simp only [run_singleton]
    generalize process_lines self' front = written at held ⊢
    obtain ⟨out,after⟩ := written
    have rest := congrArg (fun written => follow (out,after) (fun _ => written)) (take_last held last)
    refine Eq.trans ?_ rest
    split <;> simp [follow]

/-- Where the adapter starts with what it held back, that is the front of the first piece. -/
theorem take_held {self : Markdown} (held : Held self) (text : Str) :
    run take_piece { self with partial_line := [] } (splitlines (self.partial_line ++ text)) =
      follow (settle self) (fun after => run take_piece after (splitlines text)) := by
  rcases held with nothing_held | ⟨piece,soft,kept⟩
  · rw [nothing_held,List.nil_append,settle_nothing nothing_held,follow_nothing,same_held nothing_held]
  rw [splitlines,Lines.split_append piece]
  by_cases line_over : ended self.partial_line = true
  · have no_cr : self.partial_line.getLast? ≠ some CR := by
      intro last
      rw [ends_line,last] at soft
      simp at soft
    rw [if_pos (finished_of_ended line_over no_cr _),run,settle,if_pos line_over]
    congr 1
    exact take_ended rfl line_over
  · have open_end : ¬ Lines.finished breaks self.partial_line text.head? = true := fun finished => line_over (ended_of_finished finished)
    rw [if_neg open_end,settle,if_neg line_over,follow_nothing]
    change run take_piece _ (Lines.extend self.partial_line (splitlines text)) = run take_piece self (splitlines text)
    cases pieces : splitlines text with
    | nil =>
      have again : (is_open { self with partial_line := [] } || decide (BAR ∈ self.partial_line)) = true := by
        rw [Bool.or_eq_true,decide_eq_true_eq]
        exact kept
      rw [Lines.extend,run_singleton,run]
      simp only [take_piece,List.nil_append,if_neg line_over,again,if_true]
    | cons first more =>
      have some_there : first ≠ [] := splitlines_some (show first ∈ splitlines text by simp [pieces])
      have same : take_piece { self with partial_line := [] } (self.partial_line ++ first) = take_piece self first := by
        simp only [take_piece,List.nil_append,ended_append self.partial_line some_there]
      rw [Lines.extend,run,run,same]

theorem held_kept (self : Markdown) (text : Str) : Held (render_live_markdown self text).2 := by
  have start : ({ self with partial_line := [] } : Markdown).partial_line = [] := rfl
  rw [render_live_markdown]
  generalize ({ self with partial_line := [] } : Markdown) = self' at start ⊢
  rcases List.eq_nil_or_concat (splitlines (self.partial_line ++ text)) with empty | ⟨front,last,lines⟩
  · simp only [empty]
    exact .inl start
  rw [List.concat_eq_append] at lines
  have piece : Lines.Piece breaks last :=
    Lines.split_piece (show last ∈ splitlines (self.partial_line ++ text) by rw [lines]; simp)
  simp only [lines,List.getLast?_concat,Option.any_some]
  cases hard : ends_line last with
  | true => exact .inl (process_lines_held start _)
  | false =>
    have tail : (front ++ [last]).getLastD [] = last := by simp
    have held := process_lines_held start front
    simp only [Bool.not_false,if_true,List.dropLast_concat,tail,List.isEmpty_iff,if_neg piece.1]
    split
    · rename_i kept
      rw [Bool.or_eq_true,decide_eq_true_eq,bar_strip_sgr] at kept
      exact .inr ⟨piece,hard,kept⟩
    · exact .inl held

/-- A chunk that ends in a CR or an LF leaves nothing to hold back. -/
theorem hard_end (self : Markdown) {text : Str} (hard : ends_line text = true) :
    (render_live_markdown self text).2.partial_line = [] := by
  have start : ({ self with partial_line := [] } : Markdown).partial_line = [] := rfl
  have some_there : text ≠ [] := by
    rintro rfl
    cases hard
  rw [render_live_markdown]
  generalize ({ self with partial_line := [] } : Markdown) = self' at start ⊢
  rcases List.eq_nil_or_concat (splitlines (self.partial_line ++ text)) with empty | ⟨front,last,lines⟩
  · simp only [empty]
    exact start
  rw [List.concat_eq_append] at lines
  have last_there : last ≠ [] := splitlines_some (show last ∈ splitlines (self.partial_line ++ text) by rw [lines]; simp)
  have whole := splitlines_flatten (self.partial_line ++ text)
  rw [lines,List.flatten_concat] at whole
  have hard' : ends_line last = true := by
    rw [← ends_line_append front.flatten last_there,whole,ends_line_append _ some_there]
    exact hard
  simp only [lines,List.getLast?_concat,Option.any_some,hard']
  exact process_lines_held start _

/-- A run over chunks is one over the pieces that they cut the lines into. -/
theorem render_pieces (texts : List Str) :
    follow (run render_live_markdown {} texts) settle = run take_piece {} (texts.flatMap splitlines) := by
  have start : Held {} := .inl rfl
  rw [run_owing (fun self text _ => held_kept self text) (fun self text held => (render_takes self text).trans (take_held held text)) start,
    settle_nothing rfl,follow_nothing]

/-- Nothing is owed after chunks of which the last ends in a CR or an LF. -/
theorem render_ended (front : List Str) {last : Str} (hard : ends_line last = true) :
    run render_live_markdown {} (front ++ [last]) = run take_piece {} ((front ++ [last]).flatMap splitlines) := by
  have nothing_held : (run render_live_markdown {} (front ++ [last])).2.partial_line = [] := by
    rw [run_append,follow_snd,run_singleton]
    exact hard_end _ hard
  rw [← render_pieces,follow_congr (settle_nothing nothing_held)]
  exact (follow_idle _).symm

/-! ## The pieces of a line -/

/-- What is held back stays held back. -/
theorem take_front {self : Markdown} {front : List Str} (inside : ∀ piece ∈ front, ended piece = false)
    (kept : is_open self = true ∨ BAR ∈ self.partial_line) :
    run take_piece self front = ([],{ self with partial_line := self.partial_line ++ front.flatten }) := by
  induction front generalizing self with
  | nil => simp [run]
  | cons piece front ih =>
    have again : (is_open { self with partial_line := [] } || decide (BAR ∈ self.partial_line ++ piece)) = true := by
      rw [Bool.or_eq_true,decide_eq_true_eq,List.mem_append]
      exact kept.imp_right .inl
    have first : take_piece self piece = ([],{ self with partial_line := self.partial_line ++ piece }) := by
      simp only [take_piece,inside piece List.mem_cons_self,again,if_true,Bool.false_eq_true,if_false]
    have next : is_open { self with partial_line := self.partial_line ++ piece } = true ∨ BAR ∈ self.partial_line ++ piece :=
      kept.imp_right (fun here => List.mem_append.mpr (.inl here))
    rw [run,first,follow_nothing,ih (fun other member => inside other (List.mem_cons_of_mem piece member)) next]
    simp

/-- The piece has no bar. -/
def barless (piece : Str) : Bool := decide (BAR ∉ piece)

/-- Where no table is open, the pieces before the first bar are written out. -/
theorem take_front_closed {front : List Str} (inside : ∀ piece ∈ front, ended piece = false) :
    run take_piece {} front = ((front.takeWhile barless).flatten,{ partial_line := (front.dropWhile barless).flatten }) := by
  induction front with
  | nil => rfl
  | cons piece front ih =>
    have later : ∀ other ∈ front, ended other = false := fun other member => inside other (List.mem_cons_of_mem piece member)
    have here := inside piece List.mem_cons_self
    by_cases bar : BAR ∈ piece
    · have no : barless piece = false := by simpa [barless] using bar
      have first : take_piece {} piece = ([],{ partial_line := piece }) := by
        simp [take_piece,here,bar]
      rw [run,first,follow_nothing,take_front later (.inr bar),List.takeWhile_cons,List.dropWhile_cons,no]
      rfl
    · have yes : barless piece = true := by simpa [barless] using bar
      have first : take_piece {} piece = (piece,{}) := by
        simp [take_piece,here,bar,is_open]
      rw [run,first,follow,ih later,List.takeWhile_cons,List.dropWhile_cons,yes]
      rfl

theorem take_open {self : Markdown} (nothing_held : self.partial_line = []) (opened : is_open self = true) {front : List Str}
    (inside : ∀ piece ∈ front, ended piece = false) {last : Str} (line_over : ended last = true) :
    run take_piece self (front ++ [last]) = process_complete_line self (front.flatten ++ last) := by
  rw [run_append,take_front inside (.inl opened),follow_nothing,run_singleton]
  simp only [take_piece,line_over,if_true,nothing_held,List.nil_append,same_held nothing_held]

theorem take_closed {front : List Str} (inside : ∀ piece ∈ front, ended piece = false) {last : Str} (line_over : ended last = true) :
    run take_piece {} (front ++ [last]) = follow ((front.takeWhile barless).flatten,{})
      (fun after => process_complete_line after ((front.dropWhile barless).flatten ++ last)) := by
  rw [run_append,take_front_closed inside,follow,follow,run_singleton]
  simp only [take_piece,line_over,if_true]

/-- After a line that is over nothing is held back. -/
theorem taken_held {self : Markdown} (nothing_held : self.partial_line = []) {front : List Str}
    (inside : ∀ piece ∈ front, ended piece = false) {last : Str} (line_over : ended last = true) :
    (run take_piece self (front ++ [last])).2.partial_line = [] := by
  by_cases opened : is_open self = true
  · rw [take_open nothing_held opened inside line_over,process_held]
    exact nothing_held
  · obtain rfl := not_open (by simpa using opened) nothing_held
    rw [take_closed inside line_over,follow_snd,process_held]

theorem ended_cr (text : Str) : ended (text ++ [CR]) = true := (ended_append text (by simp)).trans (by decide)

/-- The LF that is left of a line end is taken for a blank line. -/
theorem take_lf {self : Markdown} (nothing_held : self.partial_line = []) {front : List Str} {text : Str}
    (inside : ∀ piece ∈ front, ended piece = false) :
    run take_piece self (front ++ [text ++ [CR],[LF]]) =
      follow (run take_piece self (front ++ [text ++ [CR]])) (fun after => process_complete_line after [LF]) := by
  rw [show front ++ [text ++ [CR],[LF]] = (front ++ [text ++ [CR]]) ++ [[LF]] by simp,run_append]
  exact follow_congr ((run_singleton _ _ _).trans (take_ended (taken_held nothing_held inside (ended_cr text)) (by decide)))

end VibeBridge.Python.Lcd
