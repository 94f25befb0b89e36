import VibeBridge.Python.SendMarkdown

/-!
Which bytes of a chunk the script keeps. Everything that it looks for is below the
surrogates, so the surrogates of a line are those of what is rendered of it, but for
those in links (`filter_texts`). Every line of a chunk is in one passage
(`chunk_passages_lines`).
-/
namespace VibeBridge.Python.SendMarkdown
open Words VibeBridge.Substitution VibeBridge.Python.Lcd

/-! ## Characters that the script does not look for -/

/-- Only surrogates and what is above them. -/
def High (q : Nat → Bool) : Prop := ∀ c, q c = true → 0xd800 ≤ c

variable {q : Nat → Bool}

theorem high_low (high : High q) {c : Nat} (low : c < 0xd800) : q c = false := by
  by_contra there
  have above := high c (by simpa using there)
  omega

theorem filter_low (high : High q) {text : Str} (low : ∀ c ∈ text, c < 0xd800) : text.filter q = [] :=
  List.filter_eq_nil_iff.mpr (fun c member => by simp [high_low high (low c member)])

theorem space_low {c : Nat} (space : is_space c = true) : c < 0xd800 := by
  simp only [is_space,Bool.or_eq_true,Bool.and_eq_true,decide_eq_true_eq,beq_iff_eq] at space
  omega

theorem filter_strip (high : High q) (text : Str) : (strip text).filter q = text.filter q :=
  filter_trim (fun _ space => high_low high (space_low space)) text

/-- A line is what is left of it, and its end. -/
theorem line_ending_split (line : Str) : (strip_line_ending line).1 ++ (strip_line_ending line).2 = line ∧
    ∀ c ∈ (strip_line_ending line).2, c = CR ∨ c = LF := by
  rw [strip_line_ending]
  split
  · rename_i both
    obtain ⟨front,rfl⟩ := List.isSuffixOf_iff_suffix.mp both
    refine ⟨by simp,fun c member => ?_⟩
    simpa using member
  · split
    · rename_i single
      obtain ⟨front,last,rfl⟩ : ∃ front last, line = front ++ [last] := by
        rcases line.eq_nil_or_concat with rfl | ⟨front,last,rfl⟩
        · simp at single
        · exact ⟨front,last,List.concat_eq_append⟩
      simp only [List.getLast?_concat,Option.some.injEq] at single
      refine ⟨by simp,fun c member => ?_⟩
      obtain rfl : c = last := by simpa using member
      exact single.symm
    · exact ⟨List.append_nil line,fun c member => by cases member⟩

theorem filter_ending (high : High q) (line : Str) : (strip_line_ending line).2.filter q = [] := by
  refine filter_low high (fun c member => ?_)
  rcases (line_ending_split line).2 c member with rfl | rfl <;> decide

theorem filter_body (high : High q) (line : Str) : (strip (strip_line_ending line).1).filter q = line.filter q := by
  have whole := congrArg (List.filter q) (line_ending_split line).1
  rw [List.filter_append,filter_ending high,List.append_nil] at whole
  rw [filter_strip high,whole]

/-! ## What is rendered of a line -/

theorem filter_fence_label (high : High q) {line : Str} (fence : is_fence line = true) :
    (fence_label line).filter q = line.filter q := by
  have code : (str "Code: ").filter q = [] ∧ (str "Code:").filter q = [] :=
    ⟨filter_low high (by decide),filter_low high (by decide)⟩
  have marks : ∀ mark ∈ [str "```",str "~~~"], mark.isPrefixOf (line.dropWhile is_space) = true →
      (line.dropWhile is_space).filter q = ((line.dropWhile is_space).drop 3).filter q := by
    intro mark member front
    have low : ∀ mark ∈ [str "```",str "~~~"], mark.length = 3 ∧ ∀ c ∈ mark, c < 0xd800 := by decide
    obtain ⟨three,low⟩ := low mark member
    obtain ⟨rest,split⟩ := List.isPrefixOf_iff_prefix.mp front
    rw [← split,List.filter_append,filter_low high low,List.nil_append,← three,List.drop_left]
  have indented : (line.dropWhile is_space).filter q = line.filter q :=
    filter_dropWhile (fun _ space => high_low high (space_low space)) line
  have lang : (strip ((line.dropWhile is_space).drop 3)).filter q = line.filter q := by
    rw [filter_strip high,← indented]
    simp only [is_fence,Bool.or_eq_true] at fence
    rcases fence with ticks | tildes
    · exact (marks _ (by simp) ticks).symm
    · exact (marks _ (by simp) tildes).symm
  rw [fence_label,List.filter_append,filter_ending high,List.append_nil]
  split
  · rename_i empty
    rw [List.isEmpty_iff.mp empty] at lang
    rw [code.2,← lang]
    rfl
  · rw [List.filter_append,code.1,lang,List.nil_append]

theorem blank_low {c : Nat} (blank : is_blank c = true) : c < 0xd800 := by
  simp only [is_blank,Bool.or_eq_true,beq_iff_eq] at blank
  omega

theorem mark_low {c : Nat} (mark : (is_blank c || c == 0x23) = true) : c < 0xd800 := by
  simp only [is_blank,Bool.or_eq_true,beq_iff_eq] at mark
  omega

theorem filter_title (high : High q) {text title : Str} (heads : heading_title text = some title) :
    title.filter q = text.filter q := by
  obtain ⟨_,found⟩ := Option.ite_none_right_eq_some.mp heads
  cases found
  have hash : ∀ c, (c == 0x23) = true → q c = false := fun c same => high_low high (by simp at same; omega)
  have mark : ∀ c, (is_blank c || c == 0x23) = true → q c = false := fun c same => high_low high (mark_low same)
  have title : ((text.dropWhile (· == 0x23)).dropWhile is_blank).filter q = text.filter q := by
    rw [filter_dropWhile (fun c same => high_low high (blank_low same)),filter_dropWhile hash]
  have short := filter_dropWhile_end mark ((text.dropWhile (· == 0x23)).dropWhile is_blank)
  split
  · -- all of the title are marks, of which the first is taken
    rename_i empty
    rw [List.isEmpty_iff.mp empty] at short
    rw [← title,← short]
    refine List.filter_eq_nil_iff.mpr (fun c member there => ?_)
    have inside : c ∈ ((text.dropWhile (· == 0x23)).dropWhile is_blank).filter q :=
      List.mem_filter.mpr ⟨List.mem_of_mem_take member,there⟩
    rw [← short] at inside
    cases inside
  · rw [short,title]

theorem filter_heading (high : High q) {line title : Str}
    (heads : heading_title (strip (strip_line_ending line).1) = some title) :
    (heading_text line title).filter q = line.filter q := by
  have front : (str "== ").filter q = [] := filter_low high (by decide)
  have back : (str " ==").filter q = [] := filter_low high (by decide)
  rw [heading_text,List.filter_append,List.filter_append,List.filter_append,filter_ending high,filter_title high heads,
    filter_body high,front,back,List.append_nil,List.append_nil,List.nil_append]

/-! ### Tables -/

theorem filter_row (high : High q) {line : Str} {cells : List Str} (row : parse_table_row line = some cells) :
    cells.flatMap (List.filter q) = line.filter q := by
  have bar : q BAR = false := high_low high (by decide)
  have first : ∀ body : Str, (if body.head? = some BAR then body.drop 1 else body).filter q = body.filter q := by
    intro body
    split
    · rename_i front
      obtain ⟨rest,rfl⟩ := List.head?_eq_some_iff.mp front
      simp [bar]
    · rfl
  have last : ∀ body : Str, (if body.getLast? = some BAR then body.dropLast else body).filter q = body.filter q := by
    intro body
    split
    · rename_i back
      obtain ⟨rest,rfl⟩ := List.getLast?_eq_some_iff.mp back
      simp [bar]
    · rfl
  simp only [parse_table_row,Option.ite_none_left_eq_some,Option.ite_none_right_eq_some,Option.some_inj] at row
  obtain ⟨_,_,rfl⟩ := row
  rw [List.flatMap_map]
  simp only [filter_strip high]
  have separator : [BAR].filter q = [] := by simp [bar]
  rw [← filter_intercalate separator,List.intercalate_splitOn,last,first,filter_body high]

theorem separator_cell_mem {cell : Str} (separates : is_separator_cell cell = true) : ∀ c ∈ cell, c = 0x3a ∨ c = 0x2d := by
  have first : ∀ cell : Str, ∀ c ∈ cell, c = 0x3a ∨ c ∈ (if cell.head? = some 0x3a then cell.drop 1 else cell) := by
    intro cell c member
    split
    · rename_i front
      obtain ⟨rest,rfl⟩ := List.head?_eq_some_iff.mp front
      simpa using member
    · exact .inr member
  have last : ∀ cell : Str, ∀ c ∈ cell, c = 0x3a ∨ c ∈ (if cell.getLast? = some 0x3a then cell.dropLast else cell) := by
    intro cell c member
    split
    · rename_i back
      obtain ⟨rest,rfl⟩ := List.getLast?_eq_some_iff.mp back
      simpa [or_comm] using member
    · exact .inr member
  intro c member
  simp only [is_separator_cell,Bool.and_eq_true,List.all_eq_true,beq_iff_eq] at separates
  rcases first cell c member with colon | inside
  · exact .inl colon
  · exact (last _ c inside).imp_right (separates.2 c)

/-- No such character is in a line that separates. -/
theorem filter_separator (high : High q) {line : Str} (separates : is_table_separator line = true) : line.filter q = [] := by
  rw [is_table_separator] at separates
  cases row : parse_table_row line with
  | none =>
    rw [row] at separates
    cases separates
  | some cells =>
    rw [row] at separates
    rw [← filter_row high row,List.flatMap_eq_nil_iff]
    intro cell member
    have marks := separator_cell_mem (List.all_eq_true.mp separates cell member)
    refine filter_low high (fun c inside => ?_)
    by_cases blank : c = 0x20
    · omega
    · have mark := marks c (List.mem_filter.mpr ⟨inside,by simpa using blank⟩)
      omega

/-- The characters of the rows that a table is rendered from, but for what fills them up. -/
theorem filter_cells (high : High q) (row : List Str) (widths : List Nat) (wide : row.length ≤ widths.length) :
    (List.zipWith (fun cell width => str " " ++ ljust cell width ++ str " ") row widths).flatMap (List.filter q) =
      row.flatMap (List.filter q) := by
  have blank : q 0x20 = false := high_low high (by decide)
  induction row generalizing widths with
  | nil => rfl
  | cons cell row ih =>
    cases widths with
    | nil => simp at wide
    | cons width widths =>
      rw [List.zipWith_cons_cons,List.flatMap_cons,List.flatMap_cons,ih widths (by simpa using wide)]
      have one : (str " ").filter q = [] := filter_low high (by decide)
      rw [List.filter_append,List.filter_append,one,ljust,List.filter_append,List.filter_replicate_of_neg (by simp [blank])]
      simp

theorem filter_table_row (high : High q) (row : List Str) (widths : List Nat) (wide : row.length ≤ widths.length) :
    (table_row widths row).filter q = row.flatMap (List.filter q) := by
  have bar : (str "|").filter q = [] := filter_low high (by decide)
  rw [table_row,List.filter_append,List.filter_append,bar,filter_intercalate bar,filter_cells high row widths wide]
  simp

theorem filter_border (high : High q) (widths : List Nat) : (table_border widths).filter q = [] := by
  have corner : (str "+").filter q = [] := filter_low high (by decide)
  have dash : q 0x2d = false := high_low high (by decide)
  rw [table_border,List.filter_append,List.filter_append,corner,filter_intercalate corner,List.flatMap_map]
  simp [dash]

theorem le_foldl_max (numbers : List Nat) (start : Nat) :
    start ≤ numbers.foldl max start ∧ ∀ n ∈ numbers, n ≤ numbers.foldl max start := by
  induction numbers generalizing start with
  | nil => exact ⟨le_rfl,fun n member => by cases member⟩
  | cons first numbers ih =>
    obtain ⟨above,others⟩ := ih (max start first)
    refine ⟨(le_max_left start first).trans above,fun n member => ?_⟩
    rcases List.mem_cons.mp member with rfl | later
    · exact (le_max_right start n).trans above
    · exact others n later

theorem filter_table (high : High q) (rows : List (List Str)) :
    (render_markdown_table rows).filter q = rows.flatMap (fun row => row.flatMap (List.filter q)) := by
  rw [render_markdown_table]
  split
  · rename_i empty
    rw [List.isEmpty_iff.mp empty]
    rfl
  · have short : ∀ row ∈ rows, row.length ≤ maximum (rows.map (·.length)) :=
      fun row member => (le_foldl_max _ 0).2 _ (List.mem_map_of_mem member)
    simp only
    generalize maximum (rows.map (·.length)) = col_count at short ⊢
    generalize columns : (List.range col_count).map (fun col => maximum ((rows.map (fun row =>
      row ++ List.replicate (col_count - row.length) [])).map (fun row => (row.getD col []).length))) = widths
    have width : widths.length = col_count := by rw [← columns,List.length_map,List.length_range]
    have shown : ∀ row ∈ rows, (table_row widths (row ++ List.replicate (col_count - row.length) [])).filter q =
        row.flatMap (List.filter q) := by
      intro row member
      have wide := short row member
      rw [filter_table_row high _ _ (by simp; omega),List.flatMap_append]
      simp
    have line_end : [LF].filter q = [] := filter_low high (by decide)
    rw [List.filter_append,line_end,List.append_nil,filter_intercalate line_end]
    simp only [List.flatMap_append,List.flatMap_cons,List.flatMap_nil,filter_border high,List.nil_append,List.append_nil]
    rw [← List.flatMap_append,List.take_append_drop,List.map_map,List.flatMap_map]
    exact List.flatMap_congr shown

/-! ### Images -/

theorem image_matched {text : Str} {link : Link} {length : Nat} (found : MARKDOWN_IMAGE_RE text = some (link,length)) :
    0 < length ∧ link.matched = text.take length := by
  rw [MARKDOWN_IMAGE_RE.eq_def] at found
  cases text with
  | nil => cases found
  | cons bang text =>
    cases text with
    | nil => cases found
    | cons bracket rest =>
      simp only at found
      split at found
      · obtain ⟨_,found⟩ := Option.ite_none_right_eq_some.mp found
        cases found
        exact ⟨by omega,rfl⟩
      · cases found

theorem fullmatch_matched {text : Str} {link : Link} (found : fullmatch_image text = some link) : link.matched = text := by
  rw [fullmatch_image] at found
  cases first : MARKDOWN_IMAGE_RE text with
  | none =>
    rw [first] at found
    cases found
  | some hit =>
    obtain ⟨whole,length⟩ := hit
    rw [first] at found
    obtain ⟨full,same⟩ := Option.ite_none_right_eq_some.mp found
    cases same
    rw [(image_matched first).2,full,List.take_length]

/-- A plain line is its texts and its links. -/
theorem segments_line (line : Str) : (segments MARKDOWN_IMAGE_RE line).1.flatMap (fun segment => segment.1 ++ segment.2.matched) ++
    (segments MARKDOWN_IMAGE_RE line).2 = line :=
  segments_whole (fun _ _ _ => image_matched) line

/-! ## Passages -/

/-- What the passages of a text are read from. -/
def Passage.Reads : Passage → Prop
  | .opening line => is_fence line = true
  | .closing _ => True
  | .fenced _ => True
  | .heading line title => heading_title (strip (strip_line_ending line).1) = some title
  | .table header separator rows =>
    (∀ line ∈ header :: rows, (parse_table_row line).isSome) ∧ is_table_separator separator = true
  | .image line link => fullmatch_image (strip (strip_line_ending line).1) = some link
  | .plain _ => True

theorem line_passage_reads (line : Str) : (line_passage line).Reads ∧ (line_passage line).lines = [line] := by
  rw [line_passage]
  cases found : fullmatch_image (strip (strip_line_ending line).1) with
  | some link => exact ⟨found,rfl⟩
  | none => exact ⟨trivial,rfl⟩

/-- A passage has the line that begins it, and lines that come after it. -/
theorem next_passage_reads (line : Str) (rest : List Str) :
    (next_passage line rest).Reads ∧ ∃ front, (next_passage line rest).lines = line :: front ∧ front <+: rest := by
  have alone : (line_passage line).Reads ∧ ∃ front, (line_passage line).lines = line :: front ∧ front <+: rest :=
    ⟨(line_passage_reads line).1,[],(line_passage_reads line).2,List.nil_prefix⟩
  rw [next_passage.eq_def]
  cases heads : heading_title (strip (strip_line_ending line).1) with
  | some title => exact ⟨heads,[],rfl,List.nil_prefix⟩
  | none =>
    cases rest with
    | nil => exact alone
    | cons separator more =>
      by_cases table : is_markdown_table_header line separator = true
      · simp only [if_pos table]
        rw [is_markdown_table_header,Bool.and_eq_true] at table
        refine ⟨⟨List.forall_mem_cons.mpr ⟨table.1,fun row member => List.mem_takeWhile_imp (p := fun line => (parse_table_row line).isSome) member⟩,table.2⟩,
          separator :: table_rows more,rfl,List.cons_prefix_cons.mpr ⟨rfl,List.takeWhile_prefix _⟩⟩
      · simp only [if_neg table]
        exact alone

theorem passages_from_reads (skipped : Nat) (in_fence : Bool) (lines : List Str) :
    (∀ passage ∈ passages_from skipped in_fence lines, passage.Reads) ∧
      (passages_from skipped in_fence lines).flatMap Passage.lines = lines.drop skipped := by
  induction lines generalizing skipped in_fence with
  | nil => cases skipped <;> simp [passages_from]
  | cons line rest ih =>
    cases skipped with
    | succ skipped => exact ih skipped in_fence
    | zero =>
      rw [passages_from]
      by_cases fence : is_fence line = true
      · simp only [if_pos fence]
        obtain ⟨reads,whole⟩ := ih 0 (!in_fence)
        cases in_fence with
        | true => exact ⟨List.forall_mem_cons.mpr ⟨trivial,reads⟩,congrArg (line :: ·) whole⟩
        | false => exact ⟨List.forall_mem_cons.mpr ⟨fence,reads⟩,congrArg (line :: ·) whole⟩
      · simp only [if_neg fence]
        cases in_fence with
        | true =>
          obtain ⟨reads,whole⟩ := ih 0 true
          exact ⟨List.forall_mem_cons.mpr ⟨trivial,reads⟩,congrArg (line :: ·) whole⟩
        | false =>
          obtain ⟨here,front,taken,more,split⟩ := next_passage_reads line rest
          obtain ⟨reads,whole⟩ := ih ((next_passage line rest).lines.length - 1) false
          have left : rest.drop ((next_passage line rest).lines.length - 1) = more := by
            rw [taken,List.length_cons,Nat.add_sub_cancel,← split,List.drop_left]
          refine ⟨List.forall_mem_cons.mpr ⟨here,reads⟩,?_⟩
          simp only [Bool.false_eq_true,if_false]
          rw [List.flatMap_cons,whole,left,taken,List.cons_append,split,List.drop_zero]

theorem chunk_passages_reads (chunk : List UInt8) : ∀ passage ∈ chunk_passages chunk, passage.Reads :=
  (passages_from_reads 0 false _).1

/-- Every line of a chunk is in one passage. -/
theorem chunk_passages_lines (chunk : List UInt8) :
    (chunk_passages chunk).flatMap Passage.lines = splitlines (decode chunk) := (passages_from_reads 0 false _).2

/-! ## What a passage is rendered from -/

/-- The texts that are encoded for a passage. -/
def Passage.texts : Passage → List Str
  | .opening line => [fence_label line]
  | .closing _ => []
  | .fenced line => [str "  " ++ line]
  | .heading line title => [heading_text line title]
  | .table header _ rows => [render_markdown_table (table_cells (header :: rows))]
  | .image _ _ => []
  | .plain line => (segments MARKDOWN_IMAGE_RE line).1.map (·.1) ++ [(segments MARKDOWN_IMAGE_RE line).2]

/-- The links whose images are rendered. -/
def Passage.links : Passage → List Link
  | .image _ link => [link]
  | .plain line => (segments MARKDOWN_IMAGE_RE line).1.map (·.2)
  | _ => []

/-- The lines that are rendered: all but the fence that closes. -/
def Passage.rendered : Passage → List Str
  | .closing _ => []
  | passage => passage.lines

/-- The lines of a passage that is encoded without the handler. -/
def Passage.strict : Passage → List Str
  | .heading line _ => [line]
  | .table header separator rows => header :: separator :: rows
  | _ => []

/-- The texts between links and the links together are the line. -/
theorem filter_segments (segments : List (Str × Link)) :
    ((segments.map (·.1)).flatMap (List.filter q)).Sublist
        ((segments.flatMap (fun segment => segment.1 ++ segment.2.matched)).filter q) ∧
      ((segments.map (·.1)).flatMap (List.filter q)).length +
          ((segments.map (·.2)).flatMap (fun link => link.matched.filter q)).length =
        ((segments.flatMap (fun segment => segment.1 ++ segment.2.matched)).filter q).length := by
  induction segments with
  | nil => exact ⟨List.Sublist.refl _,rfl⟩
  | cons segment segments ih =>
    obtain ⟨part,count⟩ := ih
    simp only [List.map_cons,List.flatMap_cons,List.filter_append,List.length_append,List.append_assoc]
    refine ⟨(List.Sublist.refl _).append (part.trans (List.sublist_append_right _ _)),?_⟩
    omega

theorem filter_table_cells (high : High q) {lines : List Str} (rows : ∀ line ∈ lines, (parse_table_row line).isSome) :
    (table_cells lines).flatMap (fun row => row.flatMap (List.filter q)) = lines.flatMap (List.filter q) := by
  induction lines with
  | nil => rfl
  | cons line lines ih =>
    obtain ⟨here,later⟩ := List.forall_mem_cons.mp rows
    obtain ⟨cells,row⟩ := Option.isSome_iff_exists.mp here
    rw [table_cells] at ih ⊢
    rw [List.filterMap_cons_some row,List.flatMap_cons,List.flatMap_cons,filter_row high row,ih later]

/-- What is rendered of a passage has the characters of its lines, but for those in links. -/
theorem filter_texts (high : High q) {passage : Passage} (reads : passage.Reads) :
    (passage.texts.flatMap (List.filter q)).Sublist (passage.rendered.flatMap (List.filter q)) ∧
      (passage.texts.flatMap (List.filter q)).length + (passage.links.flatMap (fun link => link.matched.filter q)).length =
        (passage.rendered.flatMap (List.filter q)).length := by
  have same : ∀ {texts rendered : List Str}, texts.flatMap (List.filter q) = rendered.flatMap (List.filter q) →
      (texts.flatMap (List.filter q)).Sublist (rendered.flatMap (List.filter q)) ∧
        (texts.flatMap (List.filter q)).length + 0 = (rendered.flatMap (List.filter q)).length :=
    fun equal => ⟨equal ▸ List.Sublist.refl _,congrArg List.length equal⟩
  cases passage with
  | opening line => exact same (congrArg (· ++ []) (filter_fence_label high reads))
  | closing line => exact same rfl
  | fenced line =>
    have two : (str "  ").filter q = [] := filter_low high (by decide)
    refine same (congrArg (· ++ []) ?_)
    rw [List.filter_append,two,List.nil_append]
  | heading line title => exact same (congrArg (· ++ []) (filter_heading high reads))
  | table header separator rows =>
    refine same ?_
    show (render_markdown_table (table_cells (header :: rows))).filter q ++ [] =
      header.filter q ++ (separator.filter q ++ rows.flatMap (List.filter q))
    rw [filter_table high,filter_table_cells high reads.1,filter_separator high reads.2]
    simp
  | image line link =>
    have whole : link.matched.filter q = line.filter q := by rw [fullmatch_matched reads,filter_body high]
    refine ⟨List.nil_sublist _,?_⟩
    show 0 + (link.matched.filter q ++ []).length = (line.filter q ++ []).length
    rw [whole,Nat.zero_add]
  | plain line =>
    obtain ⟨part,count⟩ := filter_segments (q := q) (segments MARKDOWN_IMAGE_RE line).1
    have whole := congrArg (List.filter q) (segments_line line)
    rw [List.filter_append] at whole
    simp only [Passage.texts,Passage.links,Passage.rendered,Passage.lines,List.flatMap_append,List.flatMap_singleton,
      List.length_append,← whole]
    refine ⟨part.append (List.Sublist.refl _),?_⟩
    rw [Nat.add_right_comm]
    exact congrArg (· + _) count

end VibeBridge.Python.SendMarkdown
