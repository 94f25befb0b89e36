import VibeBridge.Python.LcdPieces

/-!
The lines that the rendering of tables recognises as tables, and the others. A
table is a row, a separator after it and all the rows after that. Lines that end in
an LF are shown in as many lines as they are, and those outside tables as they are
(`lines_balanced`): what is not shown yet is a row that may head a table, or the
last table.
-/
namespace VibeBridge.Python.Lcd
open VibeBridge.Transducer

/-! ## Lines -/

/-- A line with its LF, the only line end in it. -/
def LfLine (line : Str) : Prop := ∃ text, line = text ++ [LF] ∧ ∀ c ∈ text, is_line_end c = false

theorem lf_line_piece {line : Str} (lf_line : LfLine line) : Lines.Piece breaks line := by
  obtain ⟨text,rfl,inside⟩ := lf_line
  refine ⟨by simp,?_⟩
  induction text with
  | nil => exact List.isChain_singleton LF
  | cons c text ih =>
    have rest := ih (fun d member => inside d (List.mem_cons_of_mem c member))
    obtain ⟨d,more,shape⟩ := List.exists_cons_of_ne_nil (show text ++ [LF] ≠ [] by simp)
    rw [shape] at rest
    rw [List.cons_append,shape]
    refine List.isChain_cons_cons.mpr ⟨?_,rest⟩
    rw [breaks,inside c List.mem_cons_self]
    rfl

theorem lf_line_finished {line : Str} (lf_line : LfLine line) (next : Option Nat) : Lines.finished breaks line next = true := by
  obtain ⟨text,rfl,_⟩ := lf_line
  rw [Lines.finished,List.getLast?_concat]
  rfl

/-- The lines are what the text is split into. -/
theorem splitlines_lf {lines : List Str} (lf_lines : ∀ line ∈ lines, LfLine line) : splitlines lines.flatten = lines := by
  induction lines with
  | nil => rfl
  | cons line lines ih =>
    have first := lf_lines line List.mem_cons_self
    have rest := ih (fun other member => lf_lines other (List.mem_cons_of_mem line member))
    rw [splitlines] at rest ⊢
    rw [List.flatten_cons,Lines.split_append (lf_line_piece first),if_pos (lf_line_finished first _),rest]

theorem lf_line_ends {line : Str} (lf_line : LfLine line) : ends_line line = true := by
  obtain ⟨text,rfl,_⟩ := lf_line
  rw [ends_line,List.getLast?_concat]
  rfl

/-- Whole lines are processed one after the other. -/
theorem render_lf {self : Markdown} (nothing_held : self.partial_line = []) {lines : List Str}
    (lf_lines : ∀ line ∈ lines, LfLine line) : render_live_markdown self lines.flatten = process_lines self lines := by
  have whole : (lines.getLast?.any (fun line => !ends_line line)) = false := by
    cases last : lines.getLast? with
    | none => rfl
    | some line => rw [Option.any_some,lf_line_ends (lf_lines line (List.mem_of_getLast? last))]; rfl
  simp only [render_live_markdown,nothing_held,List.nil_append,splitlines_lf lf_lines,whole]
  rw [same_held nothing_held]
  rfl

theorem render_all_lf {self : Markdown} (nothing_held : self.partial_line = []) {pieces : List (List Str)}
    (lf_lines : ∀ piece ∈ pieces, ∀ line ∈ piece, LfLine line) :
    run render_live_markdown self (pieces.map List.flatten) = process_lines self pieces.flatten := by
  induction pieces generalizing self with
  | nil => rfl
  | cons piece pieces ih =>
    have first := render_lf nothing_held (lf_lines piece List.mem_cons_self)
    rw [List.map_cons,run,first,List.flatten_cons]
    show _ = run process_complete_line self (piece ++ pieces.flatten)
    rw [run_append]
    refine follow_congr (ih (process_lines_held nothing_held piece) ?_)
    exact fun other member => lf_lines other (List.mem_cons_of_mem piece member)

/-! ## Blocks -/

/-- A line outside a table, or a table: its header, its separator and its other rows. -/
inductive Block
  | line (text : Str)
  | table (header separator : Str) (rows : List Str)

/-- The blocks of lines. -/
def blocks : List Str → List Block
  | header :: separator :: rest =>
    if reply_row header ∧ reply_separator separator then
      .table header separator (rest.takeWhile reply_row) :: blocks (rest.dropWhile reply_row)
    else .line header :: blocks (separator :: rest)
  | [line] => [.line line]
  | [] => []
termination_by lines => lines.length
decreasing_by
  · have shorter := (List.dropWhile_sublist reply_row (l := rest)).length_le
    simp only [List.length_cons]
    omega
  · simp

def Block.lines : Block → List Str
  | .line text => [text]
  | .table header separator rows => header :: separator :: rows

/-- No line is lost. -/
theorem blocks_lines (lines : List Str) : (blocks lines).flatMap Block.lines = lines := by
  fun_induction blocks lines with
  | case1 header separator rest heads ih =>
    rw [List.flatMap_cons,ih,Block.lines,List.cons_append,List.cons_append,List.takeWhile_append_dropWhile]
  | case2 header separator rest plain ih =>
    rw [List.flatMap_cons,ih]
    rfl
  | case3 line => rfl
  | case4 => rfl

/-- The cells of a row. -/
def cells (line : Str) : List Str := (parse_markdown_table_row (strip_ansi line)).getD []

/-- What is shown of a block: a line outside a table as it is. -/
def Block.shown : Block → Str
  | .line text => text
  | .table header _ rows => render_lcd_table ((header :: rows).map cells)

/-- What is kept of a block that is not shown yet. -/
def Block.kept : Block → Markdown
  | .line text => { pending_table_header := some (cells text,text) }
  | .table header _ rows => { table_rows := some ((header :: rows).map cells) }

theorem flushed_kept (block : Block) : flushed block.kept = block.shown := by
  cases block with
  | line text => rfl
  | table header separator rows => exact List.append_nil _

theorem kept_nothing (block : Block) : block.kept.partial_line = [] := by
  cases block <;> rfl

/-! ### What is done with a line -/

theorem process_pending {line : Str} (row : reply_row line = true) :
    process_complete_line {} line = ([],(Block.line line).kept) := by
  obtain ⟨reply,found,parsed⟩ := row_parsed row
  rw [process_complete_line,if_neg reply]
  simp only [process_reply_line,parsed,Block.kept,cells]
  rfl

theorem process_separator {header separator : Str} (separates : reply_separator separator = true) :
    process_complete_line (Block.line header).kept separator = ([],(Block.table header separator []).kept) := by
  rw [reply_separator,Bool.and_eq_true] at separates
  obtain ⟨reply,is_separator⟩ := separates
  rw [process_complete_line,if_neg (by simpa using reply)]
  simp only [Block.kept,is_separator,if_true]
  rfl

theorem process_next_row {header separator line : Str} {rows : List Str} (row : reply_row line = true) :
    process_complete_line (Block.table header separator rows).kept line =
      ([],(Block.table header separator (rows ++ [line])).kept) := by
  obtain ⟨reply,found,parsed⟩ := row_parsed row
  have own : cells line = found := by rw [cells,parsed]; rfl
  rw [process_complete_line,if_neg reply]
  simp only [Block.kept,parsed,← List.cons_append,List.map_append,own,List.map_singleton]

theorem run_rows {header separator : Str} {rows more : List Str} (are_rows : ∀ line ∈ more, reply_row line = true) :
    run process_complete_line (Block.table header separator rows).kept more =
      ([],(Block.table header separator (rows ++ more)).kept) := by
  induction more generalizing rows with
  | nil => rw [List.append_nil]; rfl
  | cons line more ih =>
    rw [run,process_next_row (are_rows line List.mem_cons_self),follow_nothing,
      ih (fun other member => are_rows other (List.mem_cons_of_mem line member)),List.append_assoc]
    rfl

/-- A line that ends a block is taken as if it came first. -/
theorem run_closing {block : Block} {line : Str} (closes : Closes block.kept line) (rest : List Str) :
    run process_complete_line block.kept (line :: rest) =
      follow (block.shown,{}) (fun after => run process_complete_line after (line :: rest)) := by
  rw [run,process_closing (kept_nothing block) closes,flushed_kept,follow_assoc]
  rfl

/-- A line that heads no table is shown before the lines after it. -/
theorem run_line {line : Str} {rest : List Str} {next : Str}
    (plain : ¬ (reply_row line = true ∧ reply_separator next = true)) :
    run process_complete_line {} (line :: next :: rest) =
      follow (line,{}) (fun after => run process_complete_line after (next :: rest)) := by
  rw [run]
  by_cases row : reply_row line = true
  · rw [process_pending row,follow_nothing]
    refine run_closing ⟨fun opened => ?_,fun _ _ => ?_⟩ rest
    · cases opened
    · exact Bool.not_eq_true _ |>.mp (fun separates => plain ⟨row,separates⟩)
  · rw [process_plain (by simpa using row)]

/-! ## What is shown of the blocks -/

/-- The blocks are shown, but for the last one, which may be kept. -/
def Shows (lines : List Str) (result : Str × Markdown) : Prop :=
  ∃ (done : List Block) (last : Option Block), blocks lines = done ++ last.toList ∧ result.1 = done.flatMap Block.shown ∧
    result.2 = (last.map Block.kept).getD {}

theorem shows_next {block : Block} {lines rest : List Str} (first : blocks lines = block :: blocks rest)
    (shows : Shows rest (run process_complete_line {} rest)) :
    Shows lines (follow (block.shown,{}) (fun after => run process_complete_line after rest)) := by
  obtain ⟨done,last,split,shown,kept⟩ := shows
  exact ⟨block :: done,last,by rw [first,split]; rfl,by rw [follow_fst,shown]; rfl,kept⟩

theorem run_shows (lines : List Str) : Shows lines (run process_complete_line {} lines) := by
  fun_induction blocks lines with
  | case1 header separator rest heads ih =>
    have first : blocks (header :: separator :: rest) =
        .table header separator (rest.takeWhile reply_row) :: blocks (rest.dropWhile reply_row) := by
      rw [blocks,if_pos heads]
    have are_rows : ∀ line ∈ rest.takeWhile reply_row, reply_row line = true := fun line member => List.mem_takeWhile_imp member
    rw [run,process_pending heads.1,follow_nothing,run,process_separator heads.2,follow_nothing]
    conv in run process_complete_line _ rest => rw [← List.takeWhile_append_dropWhile (p := reply_row) (l := rest)]
    rw [run_append,run_rows are_rows,follow_nothing,List.nil_append]
    cases left : rest.dropWhile reply_row with
    | nil =>
      rw [left] at first
      exact ⟨[],some _,by rw [first,blocks]; rfl,rfl,rfl⟩
    | cons line more =>
      rw [left] at first ih
      have ends : reply_row line = false := by
        have head := List.head?_dropWhile_not reply_row rest
        rw [left] at head
        simpa using head
      rw [run_closing ⟨fun _ => ends,fun closed => by cases closed⟩]
      exact shows_next first ih
  | case2 header separator rest plain ih =>
    rw [run_line plain]
    exact shows_next (blocks.eq_1 _ _ _ |>.trans (if_neg plain)) ih
  | case3 line =>
    rw [run_singleton]
    by_cases row : reply_row line = true
    · rw [process_pending row]
      exact ⟨[],some (.line line),by rw [blocks]; rfl,rfl,rfl⟩
    · rw [process_plain (by simpa using row)]
      exact ⟨[.line line],none,by rw [blocks]; rfl,by simp [Block.shown],rfl⟩
  | case4 => exact ⟨[],none,by rw [blocks]; rfl,rfl,rfl⟩

/-! ## Line ends -/

theorem strip_lf_line {line : Str} (lf_line : LfLine line) : LF ∉ (strip_line_ending (strip_ansi line)).1 := by
  obtain ⟨text,rfl,inside⟩ := lf_line
  have free : LF ∉ text := fun member => absurd (inside LF member) (by decide)
  have carriage : CR ∉ text ++ [LF] := by
    intro member
    rcases List.mem_append.mp member with here | ending
    · exact absurd (inside CR here) (by decide)
    · exact absurd (List.mem_singleton.mp ending) (by decide)
  obtain ⟨front,ending,same,of_text,of_end⟩ := List.sublist_append_iff.mp (strip_ansi_sublist (text ++ [LF]))
  have front_free : LF ∉ front := fun member => free (of_text.mem member)
  have no_carriage : CR ∉ strip_ansi (text ++ [LF]) := fun member => carriage ((strip_ansi_sublist _).mem member)
  rcases List.sublist_singleton.mp of_end with rfl | rfl
  · rw [List.append_nil] at same
    rw [same]
    exact fun member => front_free ((strip_line_ending_sublist front).mem member)
  · rw [same] at no_carriage ⊢
    have no_both : ¬ [CR,LF].isSuffixOf (front ++ [LF]) = true := by
      intro suffix
      exact no_carriage ((List.isSuffixOf_iff_suffix.mp suffix).mem (by simp))
    rw [strip_line_ending,if_neg no_both,if_pos (.inl List.getLast?_concat),List.dropLast_concat]
    exact front_free

/-- The cells of a row have only characters of the row before its end. -/
theorem cell_mem {line : Str} {found : List Str} (row : parse_markdown_table_row line = some found) {cell : Str}
    (member : cell ∈ found) {c : Nat} (inside : c ∈ cell) : c ∈ (strip_line_ending line).1 := by
  have first : ∀ body : Str, (if body.head? = some BAR then body.drop 1 else body).Sublist body := by
    intro body
    split
    · exact List.drop_sublist 1 body
    · exact List.Sublist.refl body
  have last : ∀ body : Str, (if body.getLast? = some BAR then body.dropLast else body).Sublist body := by
    intro body
    split
    · exact List.dropLast_sublist body
    · exact List.Sublist.refl body
  simp only [parse_markdown_table_row,Option.ite_none_left_eq_some,Option.ite_none_right_eq_some,Option.some_inj] at row
  obtain ⟨_,_,rfl⟩ := row
  obtain ⟨piece,of_body,rfl⟩ := List.mem_map.mp member
  have whole := Words.intercalate_mem [BAR] of_body ((strip_sublist piece).mem inside)
  rw [List.intercalate_splitOn] at whole
  exact (((last _).trans (first _)).trans ((strip_bullet_sublist _).trans (strip_sublist _))).mem whole

theorem cells_free {line : Str} (lf_line : LfLine line) : ∀ cell ∈ cells line, LF ∉ cell := by
  intro cell member inside
  rw [cells] at member
  cases row : parse_markdown_table_row (strip_ansi line) with
  | none =>
    rw [row] at member
    cases member
  | some found =>
    rw [row] at member
    exact strip_lf_line lf_line (cell_mem row member inside)

theorem lf_line_count {line : Str} (lf_line : LfLine line) : line.count LF = 1 := by
  obtain ⟨text,rfl,inside⟩ := lf_line
  have free : LF ∉ text := fun member => absurd (inside LF member) (by decide)
  rw [List.count_append,List.count_eq_zero_of_not_mem free]
  rfl

theorem lf_lines_count {lines : List Str} (lf_lines : ∀ line ∈ lines, LfLine line) : lines.flatten.count LF = lines.length := by
  induction lines with
  | nil => rfl
  | cons line lines ih =>
    rw [List.flatten_cons,List.count_append,lf_line_count (lf_lines line List.mem_cons_self),
      ih (fun other member => lf_lines other (List.mem_cons_of_mem line member)),List.length_cons,Nat.add_comm]

/-- Lines that are put together have one end less than there are lines. -/
theorem intercalate_count {lines : List Str} (some_there : lines ≠ []) (free : ∀ line ∈ lines, LF ∉ line) :
    ([LF].intercalate lines).count LF + 1 = lines.length := by
  induction lines with
  | nil => exact absurd rfl some_there
  | cons line lines ih =>
    have first := List.count_eq_zero_of_not_mem (free line List.mem_cons_self)
    by_cases last : lines = []
    · subst last
      rw [List.intercalate_singleton,first]
      rfl
    · have rest := ih last (fun other member => free other (List.mem_cons_of_mem line member))
      rw [List.intercalate_cons_of_ne_nil last,List.count_append,List.count_append,first,List.length_cons,← rest]
      simp
      omega

/-- A row of a table has no characters but those of its cells and blanks. -/
theorem rendered_row_free {row : List Str} (free : ∀ cell ∈ row, LF ∉ cell) (widths : List Nat) :
    LF ∉ rstrip ([0x20,0x20].intercalate (List.zipWith pad_lcd_text row widths)) := by
  intro member
  have within : LF ∈ [0x20,0x20].intercalate (List.zipWith pad_lcd_text row widths) := by
    rw [rstrip,List.mem_reverse] at member
    exact List.mem_reverse.mp ((List.dropWhile_sublist _).mem member)
  rcases Words.mem_intercalate within with blank | ⟨padded,of_row,inside⟩
  · revert blank
    decide
  · obtain ⟨i,bound,rfl⟩ := List.mem_iff_getElem.mp of_row
    rw [List.getElem_zipWith,pad_lcd_text] at inside
    rcases List.mem_append.mp inside with cell | filling
    · exact free _ (List.getElem_mem _) cell
    · exact absurd (List.eq_of_mem_replicate filling) (by decide)

/-- A table is shown in as many lines as it has rows, and one for its separator. -/
theorem render_count {rows : List (List Str)} (some_there : rows ≠ []) (free : ∀ row ∈ rows, ∀ cell ∈ row, LF ∉ cell) :
    (render_lcd_table rows).count LF = rows.length + 1 := by
  rw [render_lcd_table,if_neg (by simpa using some_there)]
  simp only
  generalize maximum (rows.map (·.length)) = col_count
  generalize columns : rows.map (fun row => row ++ List.replicate (col_count - row.length) []) = padded
  generalize (List.range col_count).map (fun col => maximum (padded.map (fun row => lcd_text_width (row.getD col [])))) = widths
  have padded_free : ∀ row ∈ padded, ∀ cell ∈ row, LF ∉ cell := by
    rw [← columns]
    intro row member cell inside
    obtain ⟨row,own,rfl⟩ := List.mem_map.mp member
    rcases List.mem_append.mp inside with here | filling
    · exact free row own cell here
    · rw [List.eq_of_mem_replicate filling]
      exact List.not_mem_nil
  generalize rendering : padded.map (fun row => rstrip ([0x20,0x20].intercalate (List.zipWith pad_lcd_text row widths))) =
    rendered
  have rendered_free : ∀ line ∈ rendered, LF ∉ line := by
    rw [← rendering]
    intro line member
    obtain ⟨row,own,rfl⟩ := List.mem_map.mp member
    exact rendered_row_free (padded_free row own) widths
  have size : rendered.length = rows.length := by rw [← rendering,← columns,List.length_map,List.length_map]
  have with_separator : ∀ line ∈ rendered.take 1 ++ [] :: rendered.drop 1, LF ∉ line := by
    intro line member
    rcases List.mem_append.mp member with first | later
    · exact rendered_free line (List.mem_of_mem_take first)
    · rcases List.mem_cons.mp later with rfl | rest
      · exact List.not_mem_nil
      · exact rendered_free line (List.mem_of_mem_drop rest)
  have ends := intercalate_count (by simp) with_separator
  rw [List.count_append,List.length_append,List.length_cons,List.length_take,List.length_drop,size] at *
  have rows_there := List.length_pos_iff.mpr some_there
  rw [List.count_singleton_self]
  omega

/-! ## The balance -/

/-- The lines that are kept: a pending header, or the rows and the separator of the table that is open. -/
def held_lines (self : Markdown) : Nat :=
  (self.table_rows.map (fun rows => rows.length + 1)).getD 0 + (if self.pending_table_header.isSome then 1 else 0)

theorem shown_count {block : Block} (lf_lines : ∀ line ∈ block.lines, LfLine line) :
    block.shown.count LF = block.lines.length := by
  cases block with
  | line text => exact lf_line_count (lf_lines text (List.mem_singleton_self text))
  | table header separator rows =>
    have free : ∀ row ∈ (header :: rows).map cells, ∀ cell ∈ row, LF ∉ cell := by
      intro row member
      obtain ⟨line,own,rfl⟩ := List.mem_map.mp member
      refine cells_free (lf_lines line ?_)
      rcases List.mem_cons.mp own with rfl | later
      · exact List.mem_cons_self
      · exact List.mem_cons_of_mem header (List.mem_cons_of_mem separator later)
    rw [Block.shown,render_count (by simp) free]
    simp [Block.lines]

theorem kept_count (last : Option Block) :
    held_lines ((last.map Block.kept).getD {}) = (last.toList.flatMap Block.lines).length := by
  match last with
  | none => rfl
  | some (.line text) => rfl
  | some (.table header separator rows) => simp [held_lines,Block.kept,Block.lines]

theorem shows_count {lines : List Str} (lf_lines : ∀ line ∈ lines, LfLine line) {result : Str × Markdown}
    (shows : Shows lines result) : result.1.count LF + held_lines result.2 = lines.length := by
  obtain ⟨done,last,split,shown,kept⟩ := shows
  have whole := blocks_lines lines
  rw [split,List.flatMap_append] at whole
  have each : ∀ (ready : List Block), (∀ block ∈ ready, ∀ line ∈ block.lines, LfLine line) →
      (ready.flatMap Block.shown).count LF = (ready.flatMap Block.lines).length := by
    intro ready all
    induction ready with
    | nil => rfl
    | cons block ready ih =>
      rw [List.flatMap_cons,List.flatMap_cons,List.count_append,List.length_append,shown_count (all block List.mem_cons_self),
        ih (fun other member => all other (List.mem_cons_of_mem block member))]
  have done_lines : ∀ block ∈ done, ∀ line ∈ block.lines, LfLine line := by
    intro block member line own
    refine lf_lines line ?_
    rw [← whole]
    exact List.mem_append_left _ (List.mem_flatMap.mpr ⟨block,member,own⟩)
  rw [shown,kept,each done done_lines,kept_count,← List.length_append,whole]

/-- Whole lines are shown in as many lines as they are, but for those that are kept, and a line outside a table as it
    is. -/
theorem lines_balanced {pieces : List (List Str)} (lf_lines : ∀ piece ∈ pieces, ∀ line ∈ piece, LfLine line) :
    (run render_live_markdown {} (pieces.map List.flatten)).1.count LF +
        held_lines (run render_live_markdown {} (pieces.map List.flatten)).2 = (pieces.map List.flatten).flatten.count LF ∧
      Shows pieces.flatten (run render_live_markdown {} (pieces.map List.flatten)) := by
  have all : ∀ line ∈ pieces.flatten, LfLine line := by
    intro line member
    obtain ⟨piece,own,inside⟩ := List.mem_flatten.mp member
    exact lf_lines piece own line inside
  have start : ({} : Markdown).partial_line = [] := rfl
  rw [render_all_lf start lf_lines,← List.flatten_flatten,lf_lines_count all]
  exact ⟨shows_count all (run_shows _),run_shows _⟩

/-- A table, a line after it and a row that may head another table. -/
def two_pieces : List (List Str) :=
  [[str "|a|b|\n",str "|-|-|\n"],[str "|c|d|\n",str "end\n",str "|e|f|\n"]]

theorem lines_balanced_table :
    (run render_live_markdown {} (two_pieces.map List.flatten)).1.count LF +
        held_lines (run render_live_markdown {} (two_pieces.map List.flatten)).2 = 5 ∧
      Shows two_pieces.flatten (run render_live_markdown {} (two_pieces.map List.flatten)) := by
  refine lines_balanced ?_
  have ends : ∀ text : Str, (∀ c ∈ text, is_line_end c = false) → LfLine (text ++ [LF]) := fun text inside => ⟨text,rfl,inside⟩
  intro piece member line own
  simp only [two_pieces,List.mem_cons,List.not_mem_nil,or_false] at member
  rcases member with rfl | rfl <;> simp only [List.mem_cons,List.not_mem_nil,or_false] at own
  · rcases own with rfl | rfl
    · exact ends (str "|a|b|") (by decide)
    · exact ends (str "|-|-|") (by decide)
  · rcases own with rfl | rfl | rfl
    · exact ends (str "|c|d|") (by decide)
    · exact ends (str "end") (by decide)
    · exact ends (str "|e|f|") (by decide)

end VibeBridge.Python.Lcd
