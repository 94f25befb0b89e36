import VibeBridge.Python.LcdOutputAdapter

/-!
What the adapter sees in a line. A row has a bar. Whether a line ends in a CR or in
a CR and an LF makes no difference to what it is taken for, and a blank line is
nothing but the end of a table.
-/
namespace VibeBridge.Python.Lcd
open VibeBridge.Substitution

/-! ## Bars -/

theorem strip_sublist (text : Str) : (strip text).Sublist text := Words.trim_sublist text

theorem strip_ansi_sublist (text : Str) : (strip_ansi text).Sublist text := substitute_from_sublist 0 text

theorem strip_line_ending_sublist (line : Str) : (strip_line_ending line).1.Sublist line := by
  rw [strip_line_ending]
  split
  · exact List.take_sublist _ _
  · split
    · exact List.dropLast_sublist _
    · exact List.Sublist.refl _

theorem strip_bullet_sublist (body : Str) : (strip_bullet body).Sublist body := by
  rw [strip_bullet]
  split
  · exact List.dropWhile_sublist _
  · exact List.Sublist.refl _

/-- A row has a bar. -/
theorem row_bar {line : Str} (row : (parse_markdown_table_row line).isSome = true) : BAR ∈ line := by
  by_contra none
  have body : BAR ∉ strip_bullet (strip (strip_line_ending line).1) := by
    intro member
    exact none ((strip_line_ending_sublist line).mem ((strip_sublist _).mem ((strip_bullet_sublist _).mem member)))
  rw [parse_markdown_table_row,if_pos body] at row
  cases row

theorem SGR_RE_some {text params : Str} {length : Nat} (found : SGR_RE text = some (params,length)) :
    ∃ rest, text = ESC :: 0x5b :: (params ++ 0x6d :: rest) ∧ params.all is_param = true ∧ length = params.length + 3 := by
  match text with
  | [] => cases found
  | [esc] => cases found
  | esc :: bracket :: rest =>
    simp only [SGR_RE] at found
    split at found
    · rename_i match_here
      obtain ⟨rfl,rfl,final⟩ := match_here
      obtain ⟨rfl,rfl⟩ := Prod.mk.inj (Option.some.inj found)
      obtain ⟨more,last⟩ := List.head?_eq_some_iff.mp final
      refine ⟨more,?_,List.all_takeWhile,rfl⟩
      rw [← last,List.takeWhile_append_dropWhile]
    · cases found

/-- A bar is in no color sequence. -/
theorem bar_strip_sgr (text : Str) : BAR ∈ strip_sgr text ↔ BAR ∈ text := by
  constructor
  · exact fun member => (substitute_from_sublist 0 text).mem member
  · intro member
    refine mem_substitute_from ?_ 0 text (by simpa using member)
    intro suffix params length found
    obtain ⟨rest,rfl,all_params,rfl⟩ := SGR_RE_some found
    refine ⟨by omega,?_⟩
    have whole : (ESC :: 0x5b :: (params ++ 0x6d :: rest)).take (params.length + 3) = ESC :: 0x5b :: (params ++ [0x6d]) := by
      rw [List.take_succ_cons,List.take_succ_cons,show params.length + 1 = (params ++ [0x6d]).length by simp]
      rw [show params ++ 0x6d :: rest = (params ++ [0x6d]) ++ rest by simp,List.take_left]
    rw [whole]
    simp only [List.mem_cons,List.mem_append,not_or]
    refine ⟨by decide,by decide,?_,by decide,List.not_mem_nil⟩
    intro inside
    exact absurd (List.all_eq_true.mp all_params BAR inside) (by decide)

/-! ## The end of a line -/

/-- A line end that is a CR, or a CR and an LF. -/
def Ending (ending : Str) : Prop := ending = [CR] ∨ ending = [CR,LF]

theorem ending_space {ending : Str} (ends : Ending ending) : ∀ c ∈ ending, is_space c = true := by
  rcases ends with rfl | rfl <;> decide

/-- A control sequence does not reach into the end of a line. -/
theorem control_end_append {ending : Str} (ends : Ending ending) (bell : Bool) (text : Str) :
    control_end bell (text ++ ending) = control_end bell text := by
  induction text with
  | nil => rcases ends with rfl | rfl <;> cases bell <;> rfl
  | cons c rest ih =>
    cases rest with
    | nil =>
      obtain ⟨more,rfl⟩ : ∃ more, ending = CR :: more := by
        rcases ends with rfl | rfl
        · exact ⟨[],rfl⟩
        · exact ⟨[LF],rfl⟩
      have ended : control_end bell (CR :: more) = none := ih
      have no_end : ¬ (c = ESC ∧ CR = 0x5c) := by
        rintro ⟨_,wrong⟩
        exact absurd wrong (by decide)
      rw [List.singleton_append,control_end,control_end,if_neg no_end,ended]
      rfl
    | cons d rest =>
      rw [List.cons_append,List.cons_append,control_end,control_end,← List.cons_append,ih]

theorem head_dropWhile_append {p : Nat → Bool} {ending : Str} (ends : Ending ending) (outside : p CR = false) (text : Str) :
    ((text ++ ending).dropWhile p).head? = ((text.dropWhile p).head?).or (some CR) := by
  have first : (ending.dropWhile p).head? = some CR := by
    rcases ends with rfl | rfl <;> rw [List.dropWhile_cons_of_neg (by simp [outside])] <;> rfl
  rw [List.dropWhile_append]
  split
  · rename_i empty
    rw [List.isEmpty_iff.mp empty,first]
    rfl
  · rename_i some_there
    cases found : text.dropWhile p with
    | nil => simp [found] at some_there
    | cons c rest => rfl

theorem takeWhile_append_end {p : Nat → Bool} {ending : Str} (ends : Ending ending) (outside : p CR = false) (text : Str) :
    (text ++ ending).takeWhile p = text.takeWhile p := by
  have nothing : ending.takeWhile p = [] := by
    rcases ends with rfl | rfl <;> rw [List.takeWhile_cons_of_neg (by simp [outside])]
  rw [List.takeWhile_append]
  split
  · rename_i whole
    rw [nothing,List.append_nil,List.IsPrefix.eq_of_length (List.takeWhile_prefix p) whole]
  · rfl

theorem ANSI_RE_append {ending : Str} (ends : Ending ending) {text : Str} (some_there : text ≠ []) :
    ANSI_RE (text ++ ending) = ANSI_RE text := by
  cases text with
  | nil => exact absurd rfl some_there
  | cons esc rest =>
    cases rest with
    | nil =>
      rcases ends with rfl | rfl <;> simp [ANSI_RE,CR]
    | cons kind rest =>
      have outside : (fun c => c == 0x3f || is_param c) CR = false := by decide
      simp only [List.cons_append,ANSI_RE]
      rw [control_end_append ends,control_end_append ends,takeWhile_append_end ends outside,head_dropWhile_append ends outside]
      cases (rest.dropWhile (fun c => c == 0x3f || is_param c)).head? with
      | some final => rfl
      | none => simp [CR]

theorem control_end_bounded {bell : Bool} {text : Str} {length : Nat} (found : control_end bell text = some length) :
    length ≤ text.length := by
  induction text generalizing length with
  | nil => cases found
  | cons c rest ih =>
    cases rest with
    | nil =>
      rw [control_end] at found
      split at found
      · cases found
        simp
      · cases found
    | cons d rest =>
      rw [control_end] at found
      split at found
      · cases found
        simp
      · split at found
        · cases found
          simp
        · obtain ⟨less,within,rfl⟩ := Option.map_eq_some_iff.mp found
          have shorter := ih within
          rw [List.length_cons]
          omega

theorem ANSI_RE_bounded {text : Str} {captured : Unit} {length : Nat} (found : ANSI_RE text = some (captured,length)) :
    length ≤ text.length := by
  match text with
  | [] => cases found
  | [esc] => cases found
  | esc :: kind :: rest =>
    simp only [ANSI_RE] at found
    split at found
    · cases found
    · split at found
      · cases final : (rest.dropWhile (fun c => c == 0x3f || is_param c)).head? with
        | none =>
          rw [final] at found
          cases found
        | some last =>
          rw [final] at found
          simp only at found
          split at found
          · cases found
            obtain ⟨more,split⟩ := List.head?_eq_some_iff.mp final
            have whole := congrArg List.length (List.takeWhile_append_dropWhile (p := fun c => c == 0x3f || is_param c) (l := rest))
            rw [split,List.length_append,List.length_cons] at whole
            simp only [List.length_cons]
            omega
          · cases found
      · have control : ∀ bell, (control_end bell rest).map (fun length => ((),length + 2)) = some (captured,length) →
            length ≤ (esc :: kind :: rest).length := by
          intro bell ended
          obtain ⟨less,within,same⟩ := Option.map_eq_some_iff.mp ended
          cases same
          have fits := control_end_bounded within
          simp only [List.length_cons]
          omega
        split at found
        · exact control true found
        · split at found
          · exact control false found
          · cases found

theorem strip_ansi_append {ending : Str} (ends : Ending ending) (text : Str) :
    strip_ansi (text ++ ending) = strip_ansi text ++ ending := by
  have alone : strip_ansi ending = ending := by rcases ends with rfl | rfl <;> decide
  rw [strip_ansi,substitute_append (fun suffix _ some_there => ANSI_RE_append ends some_there)
    (fun suffix captured length => ANSI_RE_bounded)]
  exact congrArg (strip_ansi text ++ ·) alone

theorem strip_line_ending_append {ending : Str} (ends : Ending ending) (text : Str) :
    (strip_line_ending (text ++ ending)).1 = text := by
  rcases ends with rfl | rfl
  · have other : [CR,LF].isSuffixOf (text ++ [CR]) = false := by
      rw [← Bool.not_eq_true,List.isSuffixOf_iff_suffix]
      intro suffix
      have last := suffix.getLast (by simp)
      simp [CR,LF] at last
    rw [strip_line_ending,other]
    simp
  · have both : [CR,LF].isSuffixOf (text ++ [CR,LF]) = true := List.isSuffixOf_iff_suffix.mpr (List.suffix_append _ _)
    rw [strip_line_ending,both]
    simp

theorem strip_append {ending : Str} (ends : Ending ending) (text : Str) : strip (text ++ ending) = strip text :=
  Words.trim_end (ending_space ends) text

/-- A text without a character is in a line with this character at its end exactly if it is in the line without it. -/
theorem infix_concat {word : Str} {c : Nat} (apart : c ∉ word) (some_there : word ≠ []) (text : Str) :
    word <:+: text ++ [c] ↔ word <:+: text := by
  rw [List.infix_concat_iff]
  constructor
  · rintro (suffix | inside)
    · obtain ⟨before,split⟩ := suffix
      have last := congrArg List.getLast? split
      rw [List.getLast?_append_of_ne_nil _ some_there,List.getLast?_concat] at last
      exact absurd (List.mem_of_getLast? last) apart
    · exact inside
  · exact .inr

theorem infix_append {ending word : Str} (ends : Ending ending) (cr : CR ∉ word) (lf : LF ∉ word) (some_there : word ≠ [])
    (text : Str) : word <:+: text ++ ending ↔ word <:+: text := by
  rcases ends with rfl | rfl
  · exact infix_concat cr some_there text
  · have split : text ++ [CR,LF] = (text ++ [CR]) ++ [LF] := by simp
    rw [split,infix_concat lf some_there,infix_concat cr some_there]

/-! ## What a line is taken for -/

/-- A row that no user or system has written. -/
def reply_row (line : Str) : Bool := !is_non_reply_line line && (parse_markdown_table_row (strip_ansi line)).isSome

/-- The separator under the header of a table. -/
def reply_separator (line : Str) : Bool := !is_non_reply_line line && is_markdown_table_separator line

theorem reply_row_bar {line : Str} (row : reply_row line = true) : BAR ∈ line := by
  rw [reply_row,Bool.and_eq_true] at row
  exact (strip_ansi_sublist line).mem (row_bar row.2)

theorem non_reply_append {ending : Str} (ends : Ending ending) (text : Str) :
    is_non_reply_line (text ++ ending) = is_non_reply_line text := by
  have inverse : str "\x1b[7m" <:+: text ++ ending ↔ str "\x1b[7m" <:+: text :=
    infix_append ends (by decide) (by decide) (by decide) text
  simp only [is_non_reply_line,inverse,strip_ansi_append ends,strip_append ends]

variable {ending ending' : Str} (ends : Ending ending) (ends' : Ending ending')
include ends ends'

theorem row_ending (text : Str) :
    parse_markdown_table_row (strip_ansi (text ++ ending)) = parse_markdown_table_row (strip_ansi (text ++ ending')) := by
  rw [strip_ansi_append ends,strip_ansi_append ends',parse_markdown_table_row,parse_markdown_table_row,
    strip_line_ending_append ends,strip_line_ending_append ends']

theorem reply_row_ending (text : Str) : reply_row (text ++ ending) = reply_row (text ++ ending') := by
  rw [reply_row,reply_row,row_ending ends ends',non_reply_append ends,non_reply_append ends']

theorem reply_separator_ending (text : Str) : reply_separator (text ++ ending) = reply_separator (text ++ ending') := by
  have cells : parse_markdown_table_row (text ++ ending) = parse_markdown_table_row (text ++ ending') := by
    rw [parse_markdown_table_row,parse_markdown_table_row,strip_line_ending_append ends,strip_line_ending_append ends']
  rw [reply_separator,reply_separator,non_reply_append ends,non_reply_append ends',is_markdown_table_separator,
    is_markdown_table_separator,cells,strip_ansi_append ends,strip_ansi_append ends',strip_line_ending_append ends,
    strip_line_ending_append ends']

omit ends ends'

/-! ## Blank lines -/

def Blank (line : Str) : Prop := ∀ c ∈ line, is_space c = true

theorem blank_row {line : Str} (blank : Blank line) : reply_row line = false := by
  by_contra row
  rw [Bool.not_eq_false] at row
  exact absurd (blank BAR (reply_row_bar row)) (by decide)

theorem blank_separator {line : Str} (blank : Blank line) : reply_separator line = false := by
  have nothing : strip (strip_line_ending (strip_ansi line)).1 = [] := by
    refine Words.trim_seps (fun c member => blank c ?_)
    exact (strip_ansi_sublist line).mem ((strip_line_ending_sublist _).mem member)
  have no_cells : parse_markdown_table_row line = none := by
    cases row : parse_markdown_table_row line with
    | none => rfl
    | some cells => exact absurd (blank BAR (row_bar (by rw [row]; rfl))) (by decide)
  rw [reply_separator,is_markdown_table_separator,nothing,no_cells]
  simp

/-! ## Complete lines -/

/-- Where no table is open and no header pending, a line is written out, unless it is a row. -/
theorem process_plain {line : Str} (plain : reply_row line = false) : process_complete_line {} line = (line,{}) := by
  rw [process_complete_line]
  split
  · rfl
  · rename_i reply
    rw [reply_row,Bool.not_eq_true _ |>.mp reply] at plain
    simp only [process_reply_line]
    cases row : parse_markdown_table_row (strip_ansi line) with
    | none => rfl
    | some cells => simp [row] at plain

/-- A row is a line of a reply, and it has cells. -/
theorem row_parsed {line : Str} (row : reply_row line = true) :
    ¬ is_non_reply_line line = true ∧ ∃ cells, parse_markdown_table_row (strip_ansi line) = some cells := by
  rw [reply_row,Bool.and_eq_true] at row
  obtain ⟨reply,is_row⟩ := row
  exact ⟨by simpa using reply,Option.isSome_iff_exists.mp is_row⟩

theorem process_row {line : Str} (row : reply_row line = true) :
    ∃ cells, process_complete_line {} line = ([],{ pending_table_header := some (cells,line) }) := by
  obtain ⟨reply,cells,found⟩ := row_parsed row
  refine ⟨cells,?_⟩
  rw [process_complete_line,if_neg reply]
  simp only [process_reply_line,found]

/-- The line ends the table that is open, or shows that the pending row heads none. -/
def Closes (self : Markdown) (line : Str) : Prop :=
  (self.table_rows.isSome = true → reply_row line = false) ∧
    (self.table_rows = none → self.pending_table_header.isSome = true → reply_separator line = false)

instance (self : Markdown) (line : Str) : Decidable (Closes self line) :=
  decidable_of_iff ((self.table_rows.isSome = true → reply_row line = false) ∧
    (self.table_rows.isNone = true → self.pending_table_header.isSome = true → reply_separator line = false))
    (by rw [Closes,Option.isNone_iff_eq_none])

/-- Such a line is written after what was kept. -/
theorem process_closing {self : Markdown} (nothing_held : self.partial_line = []) {line : Str} (closes : Closes self line) :
    process_complete_line self line = Transducer.follow (flushed self,{}) (fun after => process_complete_line after line) := by
  obtain ⟨header,rows,held⟩ := self
  cases nothing_held
  obtain ⟨no_row,no_separator⟩ := closes
  by_cases non_reply : is_non_reply_line line = true
  · simp only [process_complete_line,non_reply,if_true,Transducer.follow]
    rfl
  · have reply : is_non_reply_line line = false := by simpa using non_reply
    simp only [process_complete_line,reply,Transducer.follow]
    cases rows with
    | some rows =>
      have none := no_row rfl
      simp only [reply_row,reply,Bool.not_false,Bool.true_and,Option.isSome_eq_false_iff,Option.isNone_iff_eq_none] at none
      simp only [none]
      rfl
    | none =>
      cases header with
      | some header =>
        obtain ⟨cells,original⟩ := header
        have none := no_separator rfl rfl
        simp only [reply_separator,reply,Bool.not_false,Bool.true_and] at none
        simp only [none]
        rfl
      | none => rfl

theorem blank_closes (self : Markdown) {line : Str} (blank : Blank line) : Closes self line :=
  ⟨fun _ => blank_row blank,fun _ _ => blank_separator blank⟩

/-- After a blank line nothing is kept. -/
theorem process_blank {self : Markdown} (nothing_held : self.partial_line = []) {line : Str} (blank : Blank line) :
    process_complete_line self line = (flushed self ++ line,{}) := by
  rw [process_closing nothing_held (blank_closes self blank),Transducer.follow,process_plain (blank_row blank)]

end VibeBridge.Python.Lcd
