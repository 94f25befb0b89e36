import VibeBridge.Python.KittyStream
import VibeBridge.Python.MarkdownRendering

/-!
Blocks in a Markdown text. Rendering a text neither makes a Kitty block nor takes
one away: a text in which no block starts is rendered to texts in which none starts,
also where they meet (`parts_blocks`). So the blocks of a stream are those of the
rendered stream, in their order, with those of the images that were put in between
(`stream_keeps_blocks`).
-/
namespace VibeBridge.Python.SendMarkdown
open VibeBridge.Substitution VibeBridge.Text VibeBridge.Base64 VibeBridge.Python.Lcd Delimited

/-! ## Where a block starts -/

/-- `KITTY_START`, as characters. -/
def START : Str := [0x1b,0x5f,0x47]

/-- No block starts in the text. -/
def Free (text : Str) : Prop := ¬ START <:+: text

theorem free_within {part text : Str} (within : part <:+: text) (free : Free text) : Free part :=
  fun start => free (start.trans within)

theorem free_nil : Free [] := by simp [Free,START]

/-- A text that begins with a character that cuts is put behind another. -/
theorem free_append_cut {a b : Str} (free : Free a) (free' : Free b) (cuts : Cuts START b) : Free (a ++ b) :=
  apart_append (clear_cuts free cuts) free'

/-- A text is put behind another that ends apart. -/
theorem free_append_apart {a b : Str} (free : Free a) (free' : Free b) (apart : EndsApart START a) : Free (a ++ b) :=
  apart_append (clear_apart free apart b) free'

theorem free_without {text : Str} (without : 0x1b ∉ text) : Free text :=
  fun start => without (start.subset (by decide))

/-! ## Bytes -/

/-- The characters that there are. -/
def Bounded (text : Str) : Prop := ∀ c ∈ text, c ≤ 0x10ffff

theorem high_bytes {c : Nat} (high : 0x80 ≤ c) (bounded : c ≤ 0x10ffff) : ∀ byte ∈ encode_char c, 0x80 ≤ byte.toNat := by
  rw [encode_char,if_neg (by omega)]
  split_ifs
  all_goals
    simp only [List.forall_mem_cons,List.not_mem_nil,false_imp_iff,implies_true,and_true,UInt8.toNat_ofNat']
    omega

theorem start_begins {word text : Str} (low : ∀ c ∈ word, c < 0x80) (bounded : Bounded text)
    (begins : word.map UInt8.ofNat <+: encode text) : word <+: text := by
  induction word generalizing text with
  | nil => exact List.nil_prefix
  | cons a word ih =>
    obtain ⟨small,later⟩ := List.forall_mem_cons.mp low
    cases text with
    | nil => simp [encode] at begins
    | cons c text =>
      obtain ⟨here,others⟩ := List.forall_mem_cons.mp bounded
      by_cases ascii : c < 0x80
      · have one : encode (c :: text) = UInt8.ofNat c :: encode text := by
          show encode_char c ++ encode text = _
          rw [encode_char,if_pos ascii]
          rfl
        rw [one,List.map_cons,List.cons_prefix_cons] at begins
        have back := congrArg UInt8.toNat begins.1
        rw [UInt8.toNat_ofNat',UInt8.toNat_ofNat',Nat.mod_eq_of_lt (by omega),Nat.mod_eq_of_lt (by omega)] at back
        exact List.cons_prefix_cons.mpr ⟨back,ih later others begins.2⟩
      · obtain ⟨first,rest,split⟩ := List.exists_cons_of_length_pos (encode_char_length c)
        have high := high_bytes (by omega) here first (by rw [split]; exact List.mem_cons_self)
        have more : encode (c :: text) = first :: (rest ++ encode text) := by
          show encode_char c ++ encode text = _
          rw [split,List.cons_append]
        rw [more,List.map_cons,List.cons_prefix_cons] at begins
        rw [← begins.1,UInt8.toNat_ofNat',Nat.mod_eq_of_lt (by omega)] at high
        omega

theorem start_bytes : KITTY_START = START.map UInt8.ofNat ∧ encode START = KITTY_START := by decide

theorem skip_bytes {front rest : List UInt8} (high : ∀ byte ∈ front, 0x80 ≤ byte.toNat)
    (start : KITTY_START <:+: front ++ rest) : KITTY_START <:+: rest := by
  induction front with
  | nil => exact start
  | cons byte front ih =>
    obtain ⟨here,later⟩ := List.forall_mem_cons.mp high
    rcases List.infix_cons_iff.mp start with begins | within
    · obtain ⟨rfl,-⟩ := List.cons_prefix_cons.mp begins
      exact absurd here (by decide)
    · exact ih later within

/-- A block starts in the bytes of a text where it starts in the text. -/
theorem free_encode {text : Str} (free : Free text) (bounded : Bounded text) : ¬ KITTY_START <:+: encode text := by
  intro start
  induction text with
  | nil => simp [encode,KITTY_START] at start
  | cons c text ih =>
    obtain ⟨here,others⟩ := List.forall_mem_cons.mp bounded
    have later : ¬ KITTY_START <:+: encode text := ih (free_within (List.suffix_cons c text).isInfix free) others
    by_cases ascii : c < 0x80
    · have one : encode (c :: text) = UInt8.ofNat c :: encode text := by
        show encode_char c ++ encode text = _
        rw [encode_char,if_pos ascii]
        rfl
      have begins : KITTY_START <+: encode (c :: text) := by
        rw [one] at start ⊢
        exact (List.infix_cons_iff.mp start).resolve_right later
      rw [start_bytes.1] at begins
      exact free (start_begins (by decide) bounded begins).isInfix
    · exact later (skip_bytes (high_bytes (by omega) here) start)

theorem encode_infix {part text : Str} (within : part <:+: text) : encode part <:+: encode text := by
  obtain ⟨before,after,rfl⟩ := within
  exact ⟨encode before,encode after,by simp [encode]⟩

theorem decode_free {chunk : List UInt8} (plain : ¬ KITTY_START <:+: chunk) : Free (decode chunk) := by
  intro start
  have there := encode_infix start
  rw [start_bytes.2,encode_decode] at there
  exact plain there

theorem utf8_char_bound {bytes : List UInt8} {c length : Nat} (read : utf8_char bytes = some (c,length)) : c ≤ 0x10ffff := by
  cases bytes with
  | nil => cases read
  | cons b0 rest =>
    have bound := b0.toNat_lt
    rw [utf8_char.eq_def] at read
    simp only at read
    split at read
    · cases read
      omega
    · split at read
      · cases rest with
        | nil => cases read
        | cons b1 rest =>
          obtain ⟨_,found⟩ := Option.ite_none_right_eq_some.mp read
          have bound1 := b1.toNat_lt
          obtain ⟨rfl,rfl⟩ := Prod.mk.inj (Option.some.inj found)
          omega
      · split at read
        · cases rest with
          | nil => cases read
          | cons b1 rest =>
            cases rest with
            | nil => cases read
            | cons b2 rest =>
              obtain ⟨_,found⟩ := Option.ite_none_right_eq_some.mp read
              have bound1 := b1.toNat_lt
              have bound2 := b2.toNat_lt
              obtain ⟨rfl,rfl⟩ := Prod.mk.inj (Option.some.inj found)
              omega
        · split at read
          · cases rest with
            | nil => cases read
            | cons b1 rest =>
              cases rest with
              | nil => cases read
              | cons b2 rest =>
                cases rest with
                | nil => cases read
                | cons b3 rest =>
                  obtain ⟨limits,found⟩ := Option.ite_none_right_eq_some.mp read
                  obtain ⟨rfl,rfl⟩ := Prod.mk.inj (Option.some.inj found)
                  exact limits.2.2.2.2
          · cases read

theorem decode_from_bounded (skipped : Nat) (bytes : List UInt8) : Bounded (decode_from skipped bytes) := by
  induction bytes generalizing skipped with
  | nil => cases skipped <;> exact fun c member => by cases member
  | cons byte rest ih =>
    cases skipped with
    | succ skipped => exact ih skipped
    | zero =>
      rw [decode_from]
      cases read : utf8_char (byte :: rest) with
      | none =>
        have bound := byte.toNat_lt
        exact List.forall_mem_cons.mpr ⟨by omega,ih 0⟩
      | some found => exact List.forall_mem_cons.mpr ⟨utf8_char_bound read,ih _⟩

/-! ## The texts of a passage -/

theorem strip_within (text : Str) : strip text <:+: text :=
  Words.trim_infix text

theorem strip_ending_within (line : Str) : (strip_line_ending line).1 <:+: line ∧ (strip_line_ending line).2 <:+: line := by
  have whole := (line_ending_split line).1
  exact ⟨⟨[],_,by simpa using whole⟩,⟨_,[],by simpa using whole⟩⟩

theorem body_within (line : Str) : strip (strip_line_ending line).1 <:+: line :=
  (strip_within _).trans (strip_ending_within line).1

theorem title_within {text title : Str} (heads : heading_title text = some title) : title <:+: text := by
  obtain ⟨_,found⟩ := Option.ite_none_right_eq_some.mp heads
  cases found
  have rest : (text.dropWhile (· == 0x23)).dropWhile is_blank <:+: text :=
    ((List.dropWhile_suffix _).trans (List.dropWhile_suffix _)).isInfix
  split
  · exact (List.take_prefix _ _).isInfix.trans rest
  · refine List.IsInfix.trans (List.IsPrefix.isInfix ?_) rest
    rw [← List.reverse_suffix,List.reverse_reverse]
    exact List.dropWhile_suffix _

theorem infix_intercalate (sep : List Nat) {l : Str} {ls : List Str} (member : l ∈ ls) : l <:+: sep.intercalate ls := by
  induction ls with
  | nil => cases member
  | cons first rest ih =>
    cases rest with
    | nil =>
      rw [List.mem_singleton.mp member,List.intercalate_singleton]
    | cons other rest =>
      rw [List.intercalate_cons_cons]
      rcases List.mem_cons.mp member with rfl | later
      · exact ⟨[],sep ++ sep.intercalate (other :: rest),by simp⟩
      · exact (ih later).trans (List.suffix_append _ _).isInfix

theorem cell_within {line : Str} {cells : List Str} (row : parse_table_row line = some cells) {cell : Str}
    (member : cell ∈ cells) : cell <:+: line := by
  simp only [parse_table_row,Option.ite_none_left_eq_some,Option.ite_none_right_eq_some,Option.some_inj] at row
  obtain ⟨_,_,rfl⟩ := row
  obtain ⟨piece,within,rfl⟩ := List.mem_map.mp member
  have there := infix_intercalate [BAR] within
  rw [List.intercalate_splitOn] at there
  refine (strip_within piece).trans (there.trans (List.IsInfix.trans ?_ (body_within line)))
  have first : ∀ body : Str, (if body.head? = some BAR then body.drop 1 else body) <:+: body := by
    intro body
    split
    · exact (List.drop_suffix 1 body).isInfix
    · exact List.infix_rfl
  have last : ∀ body : Str, (if body.getLast? = some BAR then body.dropLast else body) <:+: body := by
    intro body
    split
    · exact (List.dropLast_prefix body).isInfix
    · exact List.infix_rfl
  exact (last _).trans (first _)

/-- Texts with a character between them that is in no start. -/
theorem free_intercalate {c : Nat} (cut : c ∉ START.tail) (apart : c ∉ START.dropLast) {texts : List Str}
    (free : ∀ text ∈ texts, Free text) : Free ([c].intercalate texts) := by
  have single : Free [c] := free_without (by
    rintro member
    obtain rfl := List.mem_singleton.mp member
    exact absurd apart (by decide))
  induction texts with
  | nil => exact free_nil
  | cons text rest ih =>
    obtain ⟨here,later⟩ := List.forall_mem_cons.mp free
    cases rest with
    | nil => rwa [List.intercalate_singleton]
    | cons other rest =>
      rw [List.intercalate_cons_cons,List.append_assoc]
      refine free_append_cut here (free_append_apart single (ih later) (fun d last => ?_)) (fun d first => ?_)
      · cases last
        exact apart
      · cases first
        exact cut

theorem mem_zipWith {α β γ : Type} {f : α → β → γ} {as : List α} {bs : List β} {x : γ} (member : x ∈ List.zipWith f as bs) :
    ∃ a ∈ as, ∃ b ∈ bs, x = f a b := by
  induction as generalizing bs with
  | nil => cases member
  | cons a as ih =>
    cases bs with
    | nil => cases member
    | cons b bs =>
      rcases List.mem_cons.mp member with rfl | later
      · exact ⟨a,List.mem_cons_self,b,List.mem_cons_self,rfl⟩
      · obtain ⟨a',there,b',there',same⟩ := ih later
        exact ⟨a',List.mem_cons_of_mem _ there,b',List.mem_cons_of_mem _ there',same⟩

theorem free_row (widths : List Nat) {row : List Str} (free : ∀ cell ∈ row, Free cell) : Free (table_row widths row) := by
  have bar : ∀ text : Str, Free text → Free (str "|" ++ text) := fun text own =>
    free_append_apart (free_without (by decide)) own (fun c last => by cases last; decide)
  have filled : ∀ (cell : Str) (width : Nat), Free cell → Free (str " " ++ ljust cell width ++ str " ") := by
    intro cell width own
    rw [List.append_assoc,ljust,List.append_assoc]
    refine free_append_apart (free_without (by decide)) (free_append_cut own (free_without ?_) (fun c first => ?_))
      (fun c last => by cases last; decide)
    · intro member
      rcases List.mem_append.mp member with blank | blank
      · exact absurd (List.eq_of_mem_replicate blank) (by decide)
      · exact absurd blank (by decide)
    · cases count : width - cell.length with
      | zero =>
        rw [count] at first
        cases first
        decide
      | succ n =>
        rw [count] at first
        cases first
        decide
  rw [table_row,List.append_assoc]
  refine bar _ (free_append_cut (free_intercalate (by decide) (by decide) (fun text member => ?_)) (free_without (by decide))
    (fun c first => by cases first; decide))
  obtain ⟨cell,own,width,_,rfl⟩ := mem_zipWith member
  exact filled cell width (free cell own)

theorem free_border (widths : List Nat) : Free (table_border widths) := by
  refine free_without (fun member => ?_)
  rw [table_border,List.append_assoc,List.mem_append,List.mem_append] at member
  rcases member with corner | inside | corner
  · exact absurd corner (by decide)
  · rcases Words.mem_intercalate inside with corner | ⟨dashes,there,own⟩
    · exact absurd corner (by decide)
    · obtain ⟨width,_,rfl⟩ := List.mem_map.mp there
      exact absurd (List.eq_of_mem_replicate own) (by decide)
  · exact absurd corner (by decide)

theorem free_table {rows : List (List Str)} (free : ∀ row ∈ rows, ∀ cell ∈ row, Free cell) : Free (render_markdown_table rows) := by
  rw [render_markdown_table]
  split
  · exact free_nil
  · simp only
    generalize maximum (rows.map (·.length)) = col_count
    generalize (List.range col_count).map (fun col => maximum ((rows.map (fun row =>
      row ++ List.replicate (col_count - row.length) [])).map (fun row => (row.getD col []).length))) = widths
    refine free_append_cut (free_intercalate (by decide) (by decide) (fun text member => ?_)) (free_without (by decide))
      (fun c first => by cases first; decide)
    have either : text = table_border widths ∨
        text ∈ (rows.map (fun row => row ++ List.replicate (col_count - row.length) [])).map (table_row widths) := by
      simp only [List.mem_append,List.mem_cons,List.not_mem_nil,or_false] at member
      rcases member with (rfl | taken | rfl | left) | rfl
      · exact .inl rfl
      · exact .inr (List.mem_of_mem_take taken)
      · exact .inl rfl
      · exact .inr (List.mem_of_mem_drop left)
      · exact .inl rfl
    rcases either with rfl | shown
    · exact free_border _
    · obtain ⟨padded,there,rfl⟩ := List.mem_map.mp shown
      obtain ⟨row,own,rfl⟩ := List.mem_map.mp there
      refine free_row _ (fun cell within => ?_)
      rcases List.mem_append.mp within with within | empty
      · exact free row own cell within
      · rw [List.eq_of_mem_replicate empty]
        exact free_nil

theorem free_ending {text line : Str} (free : Free text) : Free (text ++ (strip_line_ending line).2) := by
  have ends := (line_ending_split line).2
  refine free_append_cut free (free_without (fun member => ?_)) (fun c first => ?_)
  · rcases ends _ member with wrong | wrong <;> exact absurd wrong (by decide)
  · rcases ends c (List.mem_of_mem_head? first) with rfl | rfl <;> decide

/-- No block starts in the texts of a passage if none starts in its lines. -/
theorem texts_free {passage : Passage} (reads : passage.Reads) (free : ∀ line ∈ passage.lines, Free line) :
    ∀ text ∈ passage.texts, Free text := by
  have blank : ∀ {front text : Str}, 0x1b ∉ front → EndsApart START front → Free text →
      Free (front ++ text) := fun without apart own => free_append_apart (free_without without) own apart
  cases passage with
  | opening line =>
    have own := free line List.mem_cons_self
    refine List.forall_mem_singleton.mpr (free_ending ?_)
    split
    · exact free_without (by decide)
    · exact blank (by decide) (fun c last => by cases last; decide)
        (free_within ((strip_within _).trans ((List.drop_suffix _ _).trans (List.dropWhile_suffix _)).isInfix) own)
  | closing line => exact fun text member => by cases member
  | fenced line =>
    exact List.forall_mem_singleton.mpr (blank (by decide) (fun c last => by cases last; decide) (free line List.mem_cons_self))
  | heading line title =>
    have own := free_within ((title_within reads).trans (body_within line)) (free line List.mem_cons_self)
    refine List.forall_mem_singleton.mpr (free_ending (free_append_cut ?_ (free_without (by decide)) (fun c first => by
      cases first
      decide)))
    exact blank (by decide) (fun c last => by cases last; decide) own
  | table header separator rows =>
    refine List.forall_mem_singleton.mpr (free_table (fun row member cell within => ?_))
    obtain ⟨line,own,parsed⟩ := List.mem_filterMap.mp member
    refine free_within (cell_within parsed within) (free line ?_)
    rcases List.mem_cons.mp own with rfl | later
    · exact List.mem_cons_self
    · exact List.mem_cons_of_mem _ (List.mem_cons_of_mem _ later)
  | image line link => exact fun text member => by cases member
  | plain line =>
    have own := free line List.mem_cons_self
    have whole := segments_line line
    intro text member
    refine free_within ?_ own
    rw [← whole]
    rcases List.mem_append.mp member with front | last
    · obtain ⟨segment,within,rfl⟩ := List.mem_map.mp front
      have there := List.infix_of_mem_flatten (List.mem_map_of_mem (f := fun segment : Str × Link => segment.1 ++ segment.2.matched) within)
      rw [← List.flatMap_def] at there
      exact (List.prefix_append _ _).isInfix.trans (there.trans (List.prefix_append _ _).isInfix)
    · rw [List.mem_singleton.mp last]
      exact (List.suffix_append _ _).isInfix

theorem bounded_iff {text : Str} : Bounded text ↔ text.filter (fun c => decide (0x10ffff < c)) = [] := by
  simp [Bounded,List.filter_eq_nil_iff]

theorem texts_bounded {passage : Passage} (reads : passage.Reads) (bounded : ∀ line ∈ passage.lines, Bounded line) :
    ∀ text ∈ passage.texts, Bounded text := by
  have beyond : High (fun c => decide (0x10ffff < c)) := fun c large => by
    have := of_decide_eq_true large
    omega
  have none : passage.rendered.flatMap (List.filter (fun c => decide (0x10ffff < c))) = [] :=
    List.flatMap_eq_nil_iff.mpr (fun line member => bounded_iff.mp (bounded line (rendered_lines member)))
  have part := (filter_texts beyond reads).1
  rw [none,List.sublist_nil,List.flatMap_eq_nil_iff] at part
  exact fun text member => bounded_iff.mpr (part text member)

/-! ## Parts -/

/-- The text ends with its line. -/
def EndsLine (text : Str) : Prop := ∃ c, text.getLast? = some c ∧ (c = CR ∨ c = LF)

theorem ends_line_apart {text : Str} (ends : EndsLine text) : EndsApart START text := by
  obtain ⟨d,last,either⟩ := ends
  intro c same
  rw [last] at same
  cases same
  rcases either with rfl | rfl <;> decide

theorem ends_line_suffix {front text : Str} (ends : EndsLine (front ++ text)) : text = [] ∨ EndsLine text := by
  cases text with
  | nil => exact .inl rfl
  | cons c rest =>
    obtain ⟨d,last,either⟩ := ends
    rw [List.getLast?_append_of_ne_nil _ (by simp)] at last
    exact .inr ⟨d,last,either⟩

theorem ends_line_append {front text : Str} (ends : EndsLine text) : EndsLine (front ++ text) := by
  obtain ⟨c,last,either⟩ := ends
  refine ⟨c,?_,either⟩
  rw [List.getLast?_append,last]
  rfl

/-- Bytes that a callback may return: blocks that are closed, and a text in which none starts; no start goes on before them,
    and none goes on after them. -/
structure Contained (bytes : List UInt8) : Prop where
  begins : bytes ≠ [] ∧ Cuts KITTY_START bytes
  ends : ∃ front text, bytes = front ++ text ∧ Sealed KITTY front ∧ ¬ KITTY_START <:+: text ∧ EndsApart KITTY_START text

theorem contained_blocks {bytes : List UInt8} (contained : Contained bytes) (rest : List UInt8) :
    blocks KITTY (bytes ++ rest) = blocks KITTY bytes ++ blocks KITTY rest := by
  obtain ⟨front,text,rfl,closed,free,apart⟩ := contained.ends
  rw [List.append_assoc,blocks_append closed,blocks_append closed,blocks_after (m := KITTY) (clear_apart free apart rest),
    blocks_text (m := KITTY) free,
    List.append_nil]

/-- The images among parts. -/
def Part.image_blocks : Part → List (List UInt8)
  | .text _ => []
  | .image bytes => blocks KITTY bytes

/-- Parts in which no text goes on in another one: a text has its line's end, or is the last, or in front of an image. -/
inductive Parted : List Part → Prop
  | nil : Parted []
  | last {text : Str} : Free text → Bounded text → Parted [.text text]
  | line {text : Str} {rest : List Part} : Free text → Bounded text → text = [] ∨ EndsLine text → Parted rest →
      Parted (.text text :: rest)
  | before {text : Str} {bytes : List UInt8} {rest : List Part} : Free text → Bounded text → Parted (.image bytes :: rest) →
      Parted (.text text :: .image bytes :: rest)
  | image {bytes : List UInt8} {rest : List Part} : Contained bytes → Parted rest → Parted (.image bytes :: rest)

theorem cuts_append {front rest : List UInt8} (some_there : front ≠ []) (cuts : Cuts KITTY_START front) :
    Cuts KITTY_START (front ++ rest) := by
  obtain ⟨byte,front,rfl⟩ := List.exists_cons_of_ne_nil some_there
  exact cuts

theorem bounded_append {a b : Str} (bounded : Bounded a) (bounded' : Bounded b) : Bounded (a ++ b) :=
  fun c member => (List.mem_append.mp member).elim (bounded c) (bounded' c)

/-- The blocks of parts, after a text that ends with its line, are those of the images. -/
theorem parts_blocks_after {parts : List Part} (parted : Parted parts) {rest : List UInt8} (cuts : Cuts KITTY_START rest)
    {text : Str} (free : Free text) (bounded : Bounded text) (ends : text = [] ∨ EndsLine text) :
    blocks KITTY (encode text ++ (parts.flatMap Part.bytes ++ rest)) = parts.flatMap Part.image_blocks ++ blocks KITTY rest := by
  have apart : ∀ {text : Str}, text = [] ∨ EndsLine text → EndsApart START text := by
    rintro text (rfl | ends)
    · exact fun c last => by cases last
    · exact ends_line_apart ends
  induction parted generalizing text with
  | nil => exact blocks_after (clear_cuts (free_encode free bounded) cuts)
  | @last other free' bounded' =>
    have joined : encode text ++ ([Part.text other].flatMap Part.bytes ++ rest) = encode (text ++ other) ++ rest := by
      simp [encode,Part.bytes]
    rw [joined]
    exact blocks_after (clear_cuts (free_encode (free_append_apart free free' (apart ends)) (bounded_append bounded bounded')) cuts)
  | @line other later free' bounded' ends' _ ih =>
    have joined : encode text ++ ((Part.text other :: later).flatMap Part.bytes ++ rest) =
        encode (text ++ other) ++ (later.flatMap Part.bytes ++ rest) := by
      simp [encode,Part.bytes]
    rw [joined]
    refine ih (free_append_apart free free' (apart ends)) (bounded_append bounded bounded') ?_
    rcases ends' with rfl | ends'
    · rwa [List.append_nil]
    · exact .inr (ends_line_append ends')
  | @before other bytes later free' bounded' parted ih =>
    have joined : encode text ++ ((Part.text other :: .image bytes :: later).flatMap Part.bytes ++ rest) =
        encode (text ++ other) ++ (bytes ++ (later.flatMap Part.bytes ++ rest)) := by
      simp [encode,Part.bytes]
    obtain ⟨contained,_⟩ : Contained bytes ∧ Parted later := by
      cases parted with
      | image contained parted => exact ⟨contained,parted⟩
    have here := ih free_nil (fun c member => by cases member) (.inl rfl)
    have bytes_there : encode [] ++ ((Part.image bytes :: later).flatMap Part.bytes ++ rest) =
        bytes ++ (later.flatMap Part.bytes ++ rest) := by
      simp [encode,Part.bytes]
    rw [bytes_there] at here
    rw [joined,blocks_after (clear_cuts (free_encode (free_append_apart free free' (apart ends)) (bounded_append bounded bounded'))
      (cuts_append contained.begins.1 contained.begins.2)),here]
    rfl
  | @image bytes later contained _ ih =>
    have here := ih free_nil (fun c member => by cases member) (.inl rfl)
    have none : encode [] ++ (later.flatMap Part.bytes ++ rest) = later.flatMap Part.bytes ++ rest := rfl
    have joined : (Part.image bytes :: later).flatMap Part.bytes ++ rest = bytes ++ (later.flatMap Part.bytes ++ rest) := by
      simp [Part.bytes]
    rw [none] at here
    rw [joined,blocks_after (clear_cuts (free_encode free bounded) (cuts_append contained.begins.1 contained.begins.2)),
      contained_blocks contained,here,List.flatMap_cons,List.append_assoc]
    rfl

/-- The blocks of parts are those of the images. -/
theorem parts_blocks {parts : List Part} (parted : Parted parts) {rest : List UInt8} (cuts : Cuts KITTY_START rest) :
    blocks KITTY (parts.flatMap Part.bytes ++ rest) = parts.flatMap Part.image_blocks ++ blocks KITTY rest :=
  parts_blocks_after parted cuts free_nil (fun c member => by cases member) (.inl rfl)

/-! ## The parts of a chunk -/

theorem ending_ends {line : Str} (ends : EndsLine line) : EndsLine (strip_line_ending line).2 := by
  have whole := (line_ending_split line).1
  rw [← whole] at ends
  refine (ends_line_suffix ends).resolve_left (fun none => ?_)
  rw [whole] at ends
  obtain ⟨c,last,either⟩ := ends
  rw [strip_line_ending] at none
  split at none
  · cases none
  · rw [if_pos (by rcases either with rfl | rfl <;> simp [last])] at none
    have size := congrArg List.length none
    rw [List.length_drop,List.length_nil] at size
    cases line with
    | nil => cases last
    | cons a rest =>
      rw [List.length_cons] at size
      omega

theorem table_ends (rows : List (List Str)) : render_markdown_table rows = [] ∨ EndsLine (render_markdown_table rows) := by
  rw [render_markdown_table]
  split
  · exact .inl rfl
  · exact .inr (ends_line_append ⟨LF,rfl,.inr rfl⟩)

section
variable {σ ε : Type} {render_image : RenderImage σ ε}

/-- What the callback returns is contained. -/
def ReturnsContained (render_image : RenderImage σ ε) : Prop :=
  ∀ target s bytes s', render_image target s = .ok (bytes,s') → Contained bytes

theorem segments_parted (contained : ReturnsContained render_image) {segments : List (Str × Link)}
    (escaped : ∀ text ∈ segments.map (·.1), Escaped text) (free : ∀ text ∈ segments.map (·.1), Free text)
    (bounded : ∀ text ∈ segments.map (·.1), Bounded text) {s s' : σ} {parts later : List Part}
    (rendered : render_segments render_image segments s = .ok (parts,s')) (parted : Parted later) : Parted (parts ++ later) := by
  induction segments generalizing s parts with
  | nil =>
    cases rendered
    exact parted
  | cons segment segments ih =>
    obtain ⟨text,link⟩ := segment
    obtain ⟨here,others⟩ := List.forall_mem_cons.mp escaped
    obtain ⟨free_here,frees⟩ := List.forall_mem_cons.mp free
    obtain ⟨bounded_here,boundeds⟩ := List.forall_mem_cons.mp bounded
    obtain ⟨bytes,between,rest,called,more,rfl⟩ := (render_segments_cons here link segments s s' parts).mp rendered
    exact .before free_here bounded_here (.image (contained _ _ _ _ called) (ih others frees boundeds more))

/-- The parts of a passage, in front of those of others if its lines end. -/
theorem passage_parted (contained : ReturnsContained render_image) {passage : Passage} (reads : passage.Reads)
    (escaped : ∀ line ∈ passage.lines, Escaped line) (free : ∀ line ∈ passage.lines, Free line)
    (bounded : ∀ line ∈ passage.lines, Bounded line) {s s' : σ} {parts later : List Part}
    (rendered : render_passage render_image passage s = .ok (parts,s')) (parted : Parted later)
    (ends : later = [] ∨ ∀ line ∈ passage.lines, EndsLine line) : Parted (parts ++ later) := by
  have written := texts_escaped reads escaped
  have frees := texts_free reads free
  have boundeds := texts_bounded reads bounded
  have single : ∀ {text : Str}, passage.texts = [text] → (later = [] ∨ text = [] ∨ EndsLine text) →
      Parted ([.text text] ++ later) := by
    intro text only stops
    rw [only] at frees boundeds
    have own := frees text List.mem_cons_self
    have own' := boundeds text List.mem_cons_self
    rcases stops with rfl | stops
    · exact .last own own'
    · exact .line own own' stops parted
  have strict : ∀ {text : Str}, passage.texts = [text] → (later = [] ∨ text = [] ∨ EndsLine text) →
      (do return ([← append_strict text],s) : Except (Raised ε) (List Part × σ)) = .ok (parts,s') → Parted (parts ++ later) := by
    intro text only stops appended
    obtain ⟨part,encoded,same⟩ := bind_ok.mp appended
    rw [only] at written
    obtain ⟨-,rfl⟩ := (append_strict_iff (written text List.mem_cons_self)).mp encoded
    cases same
    exact single only stops
  cases passage with
  | opening line =>
    rw [render_passage,append_escaped_ok (written _ List.mem_cons_self)] at rendered
    cases rendered
    exact single rfl (ends.imp_right (fun all => .inr (ends_line_append (ending_ends (all line List.mem_cons_self)))))
  | closing line =>
    cases rendered
    exact parted
  | fenced line =>
    rw [render_passage,append_escaped_ok (written _ List.mem_cons_self)] at rendered
    cases rendered
    exact single rfl (ends.imp_right (fun all => .inr (ends_line_append (all line List.mem_cons_self))))
  | heading line title =>
    exact strict rfl (ends.imp_right (fun all => .inr (ends_line_append (ending_ends (all line List.mem_cons_self))))) rendered
  | table header separator rows => exact strict rfl (.inr (table_ends _)) rendered
  | image line link =>
    simp only [render_passage,bind_ok,Prod.exists,append_image_iff] at rendered
    obtain ⟨_,between,⟨bytes,called,rfl⟩,same⟩ := rendered
    cases same
    exact .image (contained _ _ _ _ called) parted
  | plain line =>
    obtain ⟨front,between,rfl⟩ := (render_plain_iff written s s' parts).mp rendered
    have inside : ∀ {text : Str}, text ∈ (segments MARKDOWN_IMAGE_RE line).1.map (·.1) → text ∈ (Passage.plain line).texts :=
      fun member => List.mem_append_left _ member
    have last : (segments MARKDOWN_IMAGE_RE line).2 ∈ (Passage.plain line).texts := List.mem_append_right _ List.mem_cons_self
    rw [List.append_assoc]
    refine segments_parted contained (fun text member => written text (inside member))
      (fun text member => frees text (inside member)) (fun text member => boundeds text (inside member)) between ?_
    rcases ends with rfl | all
    · exact .last (frees _ last) (boundeds _ last)
    · have line_ends := all line List.mem_cons_self
      rw [← segments_line line] at line_ends
      exact .line (frees _ last) (boundeds _ last) (ends_line_suffix line_ends) parted

theorem lines_some (passage : Passage) : passage.lines ≠ [] := by
  cases passage <;> exact List.cons_ne_nil _ _

theorem passages_parted (contained : ReturnsContained render_image) {passages : List Passage}
    (reads : ∀ passage ∈ passages, passage.Reads) (escaped : ∀ passage ∈ passages, ∀ line ∈ passage.lines, Escaped line)
    (free : ∀ line ∈ passages.flatMap Passage.lines, Free line) (bounded : ∀ line ∈ passages.flatMap Passage.lines, Bounded line)
    (ends : ∀ line ∈ (passages.flatMap Passage.lines).dropLast, EndsLine line) {s s' : σ} {parts : List Part}
    (rendered : render_passages render_image passages s = .ok (parts,s')) : Parted parts := by
  induction passages generalizing s parts with
  | nil =>
    cases rendered
    exact .nil
  | cons passage rest ih =>
    obtain ⟨reads_here,reads_later⟩ := List.forall_mem_cons.mp reads
    obtain ⟨here,later⟩ := List.forall_mem_cons.mp escaped
    obtain ⟨first,between,others,one,more,rfl⟩ := (render_passages_cons passage rest s s' parts).mp rendered
    rw [List.flatMap_cons] at free bounded ends
    have free_later : ∀ line ∈ rest.flatMap Passage.lines, Free line := fun line own => free line (List.mem_append_right _ own)
    have bounded_later : ∀ line ∈ rest.flatMap Passage.lines, Bounded line :=
      fun line own => bounded line (List.mem_append_right _ own)
    have own_lines : ∀ {line : Str}, line ∈ passage.lines → line ∈ passage.lines ++ rest.flatMap Passage.lines :=
      fun own => List.mem_append_left _ own
    cases rest with
    | nil =>
      cases more
      exact passage_parted contained reads_here here (fun line own => free line (own_lines own))
        (fun line own => bounded line (own_lines own)) one .nil (.inl rfl)
    | cons other rest =>
      have some_there : (other :: rest).flatMap Passage.lines ≠ [] := by
        rw [List.flatMap_cons]
        exact fun none => lines_some other (List.append_eq_nil_iff.mp none).1
      rw [List.dropLast_append_of_ne_nil some_there] at ends
      exact passage_parted contained reads_here here (fun line own => free line (own_lines own))
        (fun line own => bounded line (own_lines own)) one
        (ih reads_later later free_later bounded_later (fun line own => ends line (List.mem_append_right _ own)) more)
        (.inr (fun line own => ends line (List.mem_append_left _ own)))

theorem passage_imageless {passage : Passage} (reads : passage.Reads) (escaped : ∀ line ∈ passage.lines, Escaped line)
    (none : passage.links = []) {s s' : σ} {parts : List Part}
    (rendered : render_passage render_image passage s = .ok (parts,s')) : parts.flatMap Part.image_blocks = [] := by
  have written := texts_escaped reads escaped
  have strict : ∀ {text : Str}, Escaped text →
      (do return ([← append_strict text],s) : Except (Raised ε) (List Part × σ)) = .ok (parts,s') →
        parts.flatMap Part.image_blocks = [] := by
    intro text escaped appended
    obtain ⟨part,encoded,same⟩ := bind_ok.mp appended
    obtain ⟨-,rfl⟩ := (append_strict_iff escaped).mp encoded
    cases same
    rfl
  cases passage with
  | opening line =>
    rw [render_passage,append_escaped_ok (written _ List.mem_cons_self)] at rendered
    cases rendered
    rfl
  | closing line =>
    cases rendered
    rfl
  | fenced line =>
    rw [render_passage,append_escaped_ok (written _ List.mem_cons_self)] at rendered
    cases rendered
    rfl
  | heading line title => exact strict (written _ List.mem_cons_self) rendered
  | table header separator rows => exact strict (written _ List.mem_cons_self) rendered
  | image line link => cases none
  | plain line =>
    obtain ⟨front,between,rfl⟩ := (render_plain_iff written s s' parts).mp rendered
    rw [List.map_eq_nil_iff.mp none] at between
    cases between
    rfl

theorem passages_imageless {passages : List Passage} (reads : ∀ passage ∈ passages, passage.Reads)
    (escaped : ∀ passage ∈ passages, ∀ line ∈ passage.lines, Escaped line) (none : ∀ passage ∈ passages, passage.links = [])
    {s s' : σ} {parts : List Part} (rendered : render_passages render_image passages s = .ok (parts,s')) :
    parts.flatMap Part.image_blocks = [] := by
  induction passages generalizing s parts with
  | nil =>
    cases rendered
    rfl
  | cons passage rest ih =>
    obtain ⟨reads_here,reads_later⟩ := List.forall_mem_cons.mp reads
    obtain ⟨here,later⟩ := List.forall_mem_cons.mp escaped
    obtain ⟨linkless,linkless_later⟩ := List.forall_mem_cons.mp none
    obtain ⟨first,between,others,one,more,rfl⟩ := (render_passages_cons passage rest s s' parts).mp rendered
    rw [List.flatMap_append,passage_imageless reads_here here linkless one,ih reads_later later linkless_later more]
    rfl

/-! ## A stream -/

/-- Every line of a chunk ends with CR or LF, but for the last. -/
def PlainLines (chunk : List UInt8) : Prop := ∀ line ∈ (splitlines (decode chunk)).dropLast, EndsLine line

/-- No image is in a chunk. -/
def Imageless (chunk : List UInt8) : Prop := ∀ passage ∈ chunk_passages chunk, passage.links = []

/-- A rendered chunk has the blocks of its images, and no others. -/
theorem chunk_blocks (contained : ReturnsContained render_image) {chunk : List UInt8} (free : ¬ KITTY_START <:+: chunk)
    (plain : PlainLines chunk) {s s' : σ} {out : List UInt8} (rendered : render_text_chunk chunk render_image s = .ok (out,s')) :
    ∃ images, (Imageless chunk → images = []) ∧ ∀ rest, Cuts KITTY_START rest →
      blocks KITTY (out ++ rest) = images ++ blocks KITTY rest := by
  obtain ⟨parts,passed,rfl⟩ := (render_text_chunk_ok chunk s s' out).mp rendered
  have reads := chunk_passages_reads chunk
  have escaped := chunk_lines_escaped chunk
  have inside : ∀ {line : Str}, line ∈ (chunk_passages chunk).flatMap Passage.lines → line <:+: decode chunk := by
    intro line member
    rw [chunk_passages_lines] at member
    have there := List.infix_of_mem_flatten member
    rwa [splitlines,Lines.split_flatten] at there
  have parted := passages_parted contained reads escaped (fun line own => free_within (inside own) (decode_free free))
    (fun line own c member => decode_from_bounded 0 chunk c ((inside own).subset member))
    (by rwa [chunk_passages_lines]) passed
  exact ⟨_,fun none => passages_imageless reads escaped none passed,fun rest cuts => parts_blocks parted cuts⟩

theorem render_chunks_cons (chunk : Bool × List UInt8) (rest : List (Bool × List UInt8)) (s s' : σ) (out : List UInt8) :
    render_chunks render_image (chunk :: rest) s = .ok (out,s') ↔ ∃ first between later,
      render_chunk render_image chunk s = .ok (first,between) ∧
        render_chunks render_image rest between = .ok (later,s') ∧ out = first ++ later := by
  simp only [render_chunks,bind_ok,Prod.exists]
  constructor
  · rintro ⟨first,between,here,later,_,rendered,same⟩
    cases same
    exact ⟨first,between,later,here,rendered,rfl⟩
  · rintro ⟨first,between,later,here,rendered,rfl⟩
    exact ⟨first,between,here,later,s',rendered,rfl⟩

/-- The blocks among chunks. -/
def kitty_blocks (chunks : List (Bool × List UInt8)) : List (List UInt8) := (chunks.filter (·.1)).map (·.2)

/-- The blocks of chunks are those of what they are rendered to, but for images. -/
theorem render_chunks_blocks (contained : ReturnsContained render_image) {chunks : List (Bool × List UInt8)}
    (delimits : Delimits KITTY chunks) (plain : ∀ chunk, (false,chunk) ∈ chunks → PlainLines chunk) {s s' : σ} {out : List UInt8}
    (rendered : render_chunks render_image chunks s = .ok (out,s')) :
    (kitty_blocks chunks).Sublist (blocks KITTY out) ∧
      ((∀ chunk, (false,chunk) ∈ chunks → Imageless chunk) → blocks KITTY out = kitty_blocks chunks) ∧
        ∀ block rest, chunks = (true,block) :: rest → Cuts KITTY_START out := by
  have starts : ∀ rest : List UInt8, Cuts KITTY_START (KITTY_START ++ rest) := fun rest byte first => by
    cases first
    decide
  induction delimits generalizing s out with
  | nil =>
    cases rendered
    exact ⟨by simp [kitty_blocks],fun _ => blocks_text (m := KITTY) no_opening,fun _ _ other => by cases other⟩
  | @text chunk _ free =>
    obtain ⟨first,between,later,here,more,rfl⟩ := (render_chunks_cons _ [] s s' out).mp rendered
    cases more
    obtain ⟨images,none,same⟩ := chunk_blocks contained free (plain chunk List.mem_cons_self) here
    have all := same [] (fun byte last => by cases last)
    rw [blocks_text (m := KITTY) no_opening,List.append_nil images] at all
    refine ⟨by simp [kitty_blocks],fun imageless => ?_,fun _ _ other => by cases other⟩
    rw [all,none (imageless chunk List.mem_cons_self)]
    rfl
  | @unclosed block open_block =>
    obtain ⟨first,between,later,here,more,rfl⟩ := (render_chunks_cons _ [] s s' out).mp rendered
    cases more
    cases here
    have alone := split_unclosed (m := KITTY) no_opening open_block
    have same : blocks KITTY (KITTY.opening ++ block ++ []) = [KITTY.opening ++ block] := by
      rw [List.append_nil,← List.nil_append (KITTY.opening ++ block),Delimited.blocks,alone]
      rfl
    rw [same]
    exact ⟨List.Sublist.refl _,fun _ => rfl,fun _ _ _ => by rw [List.append_nil]; exact starts block⟩
  | @block body rest runs _ ih =>
    obtain ⟨first,between,later,here,more,rfl⟩ := (render_chunks_cons _ rest s s' out).mp rendered
    cases here
    obtain ⟨part,same,_⟩ := ih (fun chunk own => plain chunk (List.mem_cons_of_mem _ own)) more
    have front := blocks_wrap (m := KITTY) no_opening runs later
    rw [List.nil_append] at front
    rw [show KITTY.opening ++ (body ++ KITTY.closing) = KITTY.wrap body from rfl,front]
    refine ⟨part.cons_cons _,fun imageless => ?_,fun _ _ _ => ?_⟩
    · rw [same (fun chunk own => imageless chunk (List.mem_cons_of_mem _ own))]
      rfl
    · rw [Markers.wrap,List.append_assoc]
      exact starts _
  | @between chunk block rest _ free _ ih =>
    obtain ⟨first,between,later,here,more,rfl⟩ := (render_chunks_cons _ _ s s' out).mp rendered
    obtain ⟨part,same,cuts⟩ := ih (fun chunk own => plain chunk (List.mem_cons_of_mem _ own)) more
    obtain ⟨images,none,all⟩ := chunk_blocks contained free (plain chunk List.mem_cons_self) here
    rw [all later (cuts block rest rfl)]
    refine ⟨part.trans (List.sublist_append_right _ _),fun imageless => ?_,fun _ _ other => by cases other⟩
    rw [none (imageless chunk List.mem_cons_self),same (fun chunk own => imageless chunk (List.mem_cons_of_mem _ own))]
    rfl

/-- A rendered stream has the blocks of the stream, each as it was and in their order; without images it has no others. -/
theorem stream_keeps_blocks (contained : ReturnsContained render_image) {data out : List UInt8} {s s' : σ}
    (plain : ∀ chunk, (false,chunk) ∈ split_preserving_kitty_blocks data → PlainLines chunk)
    (rendered : render_markdown_stream data render_image s = .ok (out,s')) :
    (kitty_blocks (split_preserving_kitty_blocks data)).Sublist (kitty_blocks (split_preserving_kitty_blocks out)) ∧
      ((∀ chunk, (false,chunk) ∈ split_preserving_kitty_blocks data → Imageless chunk) →
        kitty_blocks (split_preserving_kitty_blocks out) = kitty_blocks (split_preserving_kitty_blocks data)) := by
  obtain ⟨part,same,_⟩ := render_chunks_blocks contained (split_iff (m := KITTY).mp rfl).1 plain rendered
  exact ⟨part,same⟩

end

/-! ## The images of links -/

/-- The image that a link leads to, resized and as PNG, and the cells that it takes. -/
structure LoadedImage where
  png : List UInt8
  cols : Nat
  rows : Nat

/-- `ImageAdapter`. Finding, reading and resizing the image of a link is an argument; it gives the image or a warning. -/
structure ImageAdapter where
  chunk_size : Nat
  advance_cursor : Bool
  load : Str → Except Str LoadedImage

def warning_text (message : Str) : Str := str "[image skipped: " ++ message ++ str "]" ++ [CR,LF]

def warning_bytes (message : Str) : Except UnicodeEncodeError (List UInt8) := encode_strict (warning_text message)

/-- `render_markdown_image`; the state is `_next_image_id`. -/
def ImageAdapter.render_markdown_image (adapter : ImageAdapter) : RenderImage Nat UnicodeEncodeError := fun raw_target next_image_id =>
  match adapter.load raw_target with
  | .error message => do return (← warning_bytes message,next_image_id)
  | .ok image =>
    let data := build_kitty_png_sequence image.png ⟨image.cols,image.rows,next_image_id,next_image_id⟩ adapter.chunk_size
    .ok (if adapter.advance_cursor then data ++ (List.replicate (max 1 image.rows) [0x0d,0x0a]).flatten else data,next_image_id + 1)

theorem warning_shape (message : Str) : ∃ inner, encode (warning_text message) = 0x5b :: (inner ++ [0x0d,0x0a]) := by
  have first : warning_text message = 0x5b :: ((str "image skipped: " ++ message ++ str "]") ++ [CR,LF]) := by
    simp [warning_text,str]
  have opens : encode_char 0x5b = [0x5b] := by decide
  have ends : [CR,LF].flatMap encode_char = [0x0d,0x0a] := by decide
  refine ⟨encode (str "image skipped: " ++ message ++ str "]"),?_⟩
  rw [first,encode,List.flatMap_cons,opens,List.flatMap_append,ends]
  rfl

theorem warning_contained {message : Str} (plain : 0x1b ∉ message) (bounded : Bounded message) :
    Contained (encode (warning_text message)) := by
  obtain ⟨inner,shape⟩ := warning_shape message
  have without : 0x1b ∉ warning_text message := by
    simp only [warning_text,List.mem_append,not_or]
    exact ⟨⟨⟨by decide,plain⟩,by decide⟩,by decide⟩
  have all : Bounded (warning_text message) := by
    have marks : (∀ c ∈ str "[image skipped: ", c ≤ 0x10ffff) ∧ (∀ c ∈ str "]", c ≤ 0x10ffff) ∧ ∀ c ∈ [CR,LF], c ≤ 0x10ffff := by
      decide
    exact bounded_append (bounded_append (bounded_append marks.1 bounded) marks.2.1) marks.2.2
  have free := free_encode (free_without without) all
  rw [shape] at free ⊢
  refine ⟨⟨List.cons_ne_nil _ _,fun byte first => ?_⟩,[],_,rfl,.nil,free,fun byte last => ?_⟩
  · cases first
    decide
  · rw [← List.cons_append,List.getLast?_append] at last
    cases last
    decide

/-- The sequence of an image is made of closed blocks, and it starts with an escape. -/
theorem sequence_closed (placement : Placement) {png : List UInt8} (some_png : png ≠ []) {chunk_size : Nat} (positive : 0 < chunk_size) :
    Delimited.Sealed KITTY (kitty_sequence (markdown_control placement) png chunk_size) ∧
      ∃ rest, kitty_sequence (markdown_control placement) png chunk_size = 0x1b :: rest := by
  have announces := markdown_announces placement
  have some_there : image_bodies (markdown_control placement) png chunk_size ≠ [] := (bodies_some some_png positive).2
  obtain ⟨body,bodies,split⟩ := List.exists_cons_of_ne_nil some_there
  have sequence : kitty_sequence (markdown_control placement) png chunk_size = _ := kitty_sequence_wraps png chunk_size
  have closed := sealed_wraps (bodies_run announces png chunk_size)
  rw [← sequence] at closed
  refine ⟨closed,[0x5f,0x47] ++ (body ++ KITTY_END) ++ bodies.flatMap KITTY.wrap,?_⟩
  rw [sequence,split]
  rfl

/-- What the adapter returns is contained, if its warnings have no escape and images are not empty. -/
theorem adapter_contained {adapter : ImageAdapter} (positive : 0 < adapter.chunk_size)
    (warnings : ∀ target message, adapter.load target = .error message → 0x1b ∉ message ∧ Bounded message)
    (images : ∀ target image, adapter.load target = .ok image → image.png ≠ []) :
    ReturnsContained adapter.render_markdown_image := by
  intro target next bytes next' returned
  rw [ImageAdapter.render_markdown_image] at returned
  cases loaded : adapter.load target with
  | error message =>
    rw [loaded] at returned
    obtain ⟨encoded,written,same⟩ := bind_ok.mp returned
    cases same
    obtain ⟨plain,bounded⟩ := warnings target message loaded
    rw [warning_bytes,encode_strict] at written
    split at written
    · cases written
    · cases written
      exact warning_contained plain bounded
  | ok image =>
    rw [loaded] at returned
    cases returned
    obtain ⟨closed,rest,sequence⟩ := sequence_closed ⟨image.cols,image.rows,next,next⟩ (images target image loaded) positive
    have start : ∀ rest : List UInt8, (0x1b :: rest) ≠ [] ∧ Cuts KITTY_START (0x1b :: rest) :=
      fun rest => ⟨List.cons_ne_nil _ _,fun byte first => by cases first; decide⟩
    have line_ends : ∀ byte ∈ (List.replicate (max 1 image.rows) [0x0d,0x0a]).flatten, byte = 0x0d ∨ byte = (0x0a : UInt8) := by
      intro byte member
      obtain ⟨pair,own,inside⟩ := List.mem_flatten.mp member
      rw [List.eq_of_mem_replicate own] at inside
      simpa using inside
    split
    · refine ⟨?_,_,_,rfl,closed,fun within => ?_,fun byte last => ?_⟩
      · show _ ++ _ ≠ [] ∧ Cuts KITTY_START (_ ++ _)
        rw [build_kitty_png_sequence,sequence]
        exact start _
      · rcases line_ends 0x1b (within.subset (by decide)) with wrong | wrong <;> exact absurd wrong (by decide)
      · rcases line_ends byte (List.mem_of_getLast? last) with rfl | rfl <;> decide
    · refine ⟨?_,_,[],(List.append_nil _).symm,closed,no_opening (m := KITTY),fun byte last => by cases last⟩
      rw [build_kitty_png_sequence,sequence]
      exact start _

/-- An adapter that finds one image. -/
def one_image : ImageAdapter where
  chunk_size := 4
  advance_cursor := false
  load target := if target = str "x" then .ok ⟨[0x89],1,1⟩ else .error (str "no image")

/-- A text, a block, and a link to the image. -/
def block_and_link : List (Bool × List UInt8) :=
  [(false,[0x61,0x0a]),(true,KITTY.wrap [0x62]),(false,encode (str "![](x)"))]

theorem block_and_link_split : split_preserving_kitty_blocks (block_and_link.flatMap (·.2)) = block_and_link :=
  split_delimits (.between (by decide) (by decide) (.block (runs_without (a := 0x1b) rfl (by decide))
    (.text (by decide) (by decide))))

/-- The block is kept, and the image comes after it. -/
theorem stream_keeps_blocks_one : (kitty_blocks (split_preserving_kitty_blocks (block_and_link.flatMap (·.2)))).Sublist
    (kitty_blocks (split_preserving_kitty_blocks ([0x61,0x0a] ++ KITTY.wrap [0x62] ++ build_kitty_png_sequence [0x89] ⟨1,1,1,1⟩ 4))) := by
  have contained : ReturnsContained one_image.render_markdown_image := by
    refine adapter_contained (by decide) (fun target message none => ?_) (fun target image found => ?_)
    · simp only [one_image] at none
      split at none
      · cases none
      · cases none
        exact ⟨by decide,by unfold Bounded; decide⟩
    · simp only [one_image] at found
      split at found
      · cases found
        decide
      · cases found
  have rendered : render_markdown_stream (block_and_link.flatMap (·.2)) one_image.render_markdown_image 1 =
      .ok ([0x61,0x0a] ++ KITTY.wrap [0x62] ++ build_kitty_png_sequence [0x89] ⟨1,1,1,1⟩ 4,2) := by
    rw [render_markdown_stream,block_and_link_split]
    rfl
  refine (stream_keeps_blocks contained (fun chunk member => ?_) rendered).1
  rw [block_and_link_split] at member
  simp only [block_and_link,List.mem_cons,Prod.mk.injEq,List.not_mem_nil,or_false,true_and,false_and,false_or,reduceCtorEq] at member
  rcases member with rfl | rfl
  · exact fun line own => by cases own
  · exact fun line own => by cases own

end VibeBridge.Python.SendMarkdown
