import VibeBridge.Python.LcdLines

/-!
The remapping of colors does not see how its input is cut (`colored_additive`). What
it holds back is the beginning of a color sequence at the end of the text, so no
sequence that it remaps goes on in the next chunk.
-/
namespace VibeBridge.Python.Lcd
open VibeBridge.Substitution VibeBridge.Transducer

/-! ## Incomplete sequences -/

theorem incomplete_cons {tail : Str} (incomplete : is_incomplete_sgr tail = true) :
    ∃ rest, tail = ESC :: rest ∧ ESC ∉ rest ∧ ∀ c ∈ rest, c = 0x5b ∨ is_param c = true := by
  match tail with
  | [] => cases incomplete
  | [esc] =>
    simp only [is_incomplete_sgr,Bool.and_true,beq_iff_eq] at incomplete
    exact ⟨[],by rw [incomplete],List.not_mem_nil,by simp⟩
  | esc :: c :: more =>
    simp only [is_incomplete_sgr,Bool.and_eq_true,Bool.or_eq_true,beq_iff_eq,List.all_eq_true] at incomplete
    obtain ⟨rfl,first,params⟩ := incomplete
    have all : ∀ d ∈ c :: more, d = 0x5b ∨ is_param d = true := by
      intro d member
      rcases List.mem_cons.mp member with rfl | later
      · exact first
      · exact .inr (params d later)
    refine ⟨c :: more,rfl,?_,all⟩
    intro inside
    exact absurd (all ESC inside) (by decide)

/-- The beginning of an incomplete sequence is one. -/
theorem incomplete_front {front rest : Str} (some_there : front ≠ []) (incomplete : is_incomplete_sgr (front ++ rest) = true) :
    is_incomplete_sgr front = true := by
  match front with
  | [] => exact absurd rfl some_there
  | [esc] =>
    cases rest with
    | nil => exact incomplete
    | cons c more =>
      simp only [List.cons_append,is_incomplete_sgr,Bool.and_eq_true] at incomplete ⊢
      exact ⟨incomplete.1,trivial⟩
  | esc :: c :: more =>
    simp only [List.cons_append,is_incomplete_sgr,Bool.and_eq_true,List.all_append] at incomplete ⊢
    exact ⟨incomplete.1,incomplete.2.1,incomplete.2.2.1⟩

/-- An incomplete sequence is no sequence. -/
theorem incomplete_unmatched {tail : Str} (incomplete : is_incomplete_sgr tail = true) : SGR_RE tail = none := by
  cases found : SGR_RE tail with
  | none => rfl
  | some hit =>
    obtain ⟨params,length⟩ := hit
    obtain ⟨rest,rfl,_,_⟩ := SGR_RE_some found
    obtain ⟨after,same,_,params'⟩ := incomplete_cons incomplete
    cases same
    exact absurd (params' 0x6d (by simp)) (by decide)

/-- A sequence that begins in a text ends in it, unless the text leaves it incomplete. -/
theorem SGR_RE_append {front rest : Str} (some_there : front ≠ [])
    (apart : is_incomplete_sgr front = false ∨ rest = [] ∨ rest.head? = some ESC) : SGR_RE (front ++ rest) = SGR_RE front := by
  match front with
  | [] => exact absurd rfl some_there
  | [esc] =>
    cases rest with
    | nil => rfl
    | cons c more =>
      have no_match : ¬ (esc = ESC ∧ c = 0x5b ∧ (more.dropWhile is_param).head? = some 0x6d) := by
        rintro ⟨rfl,rfl,_⟩
        rcases apart with complete | empty | escape
        · exact absurd complete (by decide)
        · cases empty
        · cases escape
      simp only [List.cons_append,List.nil_append,SGR_RE]
      exact if_neg no_match
  | esc :: bracket :: params =>
    simp only [List.cons_append,SGR_RE]
    by_cases begins : esc = ESC ∧ bracket = 0x5b
    · obtain ⟨rfl,rfl⟩ := begins
      by_cases all : params.all is_param = true
      · have incomplete : is_incomplete_sgr (ESC :: 0x5b :: params) = true := by
          simp only [is_incomplete_sgr,Bool.and_eq_true]
          exact ⟨by decide,by decide,all⟩
        have open_end : (rest.dropWhile is_param).head? ≠ some 0x6d := by
          rcases apart with complete | empty | escape
          · rw [incomplete] at complete
            cases complete
          · rw [empty]
            simp
          · obtain ⟨more,rfl⟩ := List.head?_eq_some_iff.mp escape
            rw [List.dropWhile_cons_of_neg (by decide),List.head?_cons]
            exact fun same => absurd (Option.some.inj same) (by decide)
        have skipped : (params ++ rest).dropWhile is_param = rest.dropWhile is_param :=
          List.dropWhile_append_of_pos (List.all_eq_true.mp all)
        have none_left : params.dropWhile is_param = [] := List.dropWhile_eq_nil_iff.mpr (List.all_eq_true.mp all)
        rw [skipped,none_left,if_neg (by simpa using open_end),if_neg (by simp)]
      · have some_left : params.dropWhile is_param ≠ [] := by
          intro empty
          exact all (List.all_eq_true.mpr (List.dropWhile_eq_nil_iff.mp empty))
        obtain ⟨final,more,left⟩ := List.exists_cons_of_ne_nil some_left
        have not_whole : ¬ (params.takeWhile is_param).length = params.length := by
          intro whole
          have both := congrArg List.length (List.takeWhile_append_dropWhile (p := is_param) (l := params))
          rw [left,List.length_append,List.length_cons] at both
          omega
        rw [List.dropWhile_append,List.takeWhile_append,if_neg not_whole,left]
        simp
    · rw [if_neg (fun all => begins ⟨all.1,all.2.1⟩),if_neg (fun all => begins ⟨all.1,all.2.1⟩)]

theorem SGR_RE_bounded {text params : Str} {length : Nat} (found : SGR_RE text = some (params,length)) :
    length ≤ text.length := by
  obtain ⟨rest,rfl,_,rfl⟩ := SGR_RE_some found
  simp only [List.length_cons,List.length_append]
  omega

/-! ## What is held back -/

theorem split_at_escape_at (front : Str) {after : Str} (last : ESC ∉ after) :
    split_at_escape (front ++ ESC :: after) = (front,ESC :: after) := by
  have escape : ESC ∈ front ++ ESC :: after := by simp
  have back : ((front ++ ESC :: after).reverse.takeWhile (· ≠ ESC)).reverse = after := by
    have turned : (front ++ ESC :: after).reverse = after.reverse ++ (ESC :: front.reverse) := by simp
    rw [turned,List.takeWhile_append_of_pos]
    · simp
    · intro c member
      have other : c ≠ ESC := fun same => last (same ▸ List.mem_reverse.mp member)
      simpa using other
  rw [split_at_escape,if_pos escape]
  simp only [back]
  simp

/-- An incomplete sequence at the end is held back. -/
theorem split_incomplete (front : Str) {tail : Str} (incomplete : is_incomplete_sgr tail = true) :
    split_incomplete_sgr_tail (front ++ tail) = (front,tail) := by
  have unmatched := incomplete_unmatched incomplete
  obtain ⟨rest,rfl,last,_⟩ := incomplete_cons incomplete
  rw [split_incomplete_sgr_tail,split_at_escape_at front last]
  simp only [unmatched,incomplete]
  rfl

/-- Where no such sequence is at the end, nothing is held back. -/
theorem split_complete {text : Str} (complete : ∀ tail, tail <:+ text → is_incomplete_sgr tail = false) :
    split_incomplete_sgr_tail text = (text,[]) := by
  by_cases escape : ESC ∈ text
  · obtain ⟨front,after,split,last⟩ : ∃ front after, text = front ++ ESC :: after ∧ ESC ∉ after := by
      obtain ⟨before,later,found,first⟩ := List.eq_append_cons_of_mem (List.mem_reverse.mpr escape)
      refine ⟨later.reverse,before.reverse,?_,by simpa using first⟩
      have turned := congrArg List.reverse found
      simpa using turned
    have tail := complete (ESC :: after) (by rw [split]; exact List.suffix_append _ _)
    rw [split_incomplete_sgr_tail]
    conv_lhs => rw [split,split_at_escape_at front last]
    rw [← split]
    simp only [tail]
    split
    · rfl
    · split
      · rfl
      · rfl
  · rw [split_incomplete_sgr_tail,split_at_escape,if_neg escape]
    rfl

theorem split_cases (text : Str) : (∃ front tail, text = front ++ tail ∧ is_incomplete_sgr tail = true) ∨
    ∀ tail, tail <:+ text → is_incomplete_sgr tail = false := by
  by_cases found : ∃ tail, tail <:+ text ∧ is_incomplete_sgr tail = true
  · obtain ⟨tail,⟨front,split⟩,incomplete⟩ := found
    exact .inl ⟨front,tail,split.symm,incomplete⟩
  · refine .inr (fun tail within => ?_)
    by_contra incomplete
    exact found ⟨tail,within,by simpa using incomplete⟩

/-- What is held back of a text, and what of the end that was held back and more text. -/
theorem split_more (text more : Str) : split_incomplete_sgr_tail (text ++ more) =
    ((split_incomplete_sgr_tail text).1 ++ (split_incomplete_sgr_tail ((split_incomplete_sgr_tail text).2 ++ more)).1,
      (split_incomplete_sgr_tail ((split_incomplete_sgr_tail text).2 ++ more)).2) := by
  rcases split_cases text with ⟨front,held,rfl,incomplete⟩ | complete
  · rw [split_incomplete front incomplete]
    simp only
    rcases split_cases (held ++ more) with ⟨front',held',split,incomplete'⟩ | complete'
    · rw [split,split_incomplete front' incomplete',List.append_assoc,split,← List.append_assoc,
        split_incomplete (front ++ front') incomplete']
    · rw [split_complete complete',List.append_assoc]
      refine split_complete (fun tail within => ?_)
      rcases List.suffix_or_suffix_of_suffix within (List.suffix_append front (held ++ more)) with inside | ⟨before,rfl⟩
      · exact complete' tail inside
      · -- the escape that was held back would not be the first character of the sequence
        obtain ⟨rest,rfl,_,_⟩ := incomplete_cons incomplete
        by_contra incomplete'
        obtain ⟨after,same,last,_⟩ := incomplete_cons (by simpa using incomplete')
        cases before with
        | nil =>
          have held := complete' _ (List.suffix_refl _)
          rw [List.nil_append,held] at incomplete'
          exact incomplete' rfl
        | cons c before =>
          refine last ?_
          rw [← (List.cons.inj same).2]
          simp
  · rw [split_complete complete]
    simp only [List.nil_append]
    rcases split_cases more with ⟨front',held',rfl,incomplete'⟩ | complete'
    · rw [split_incomplete front' incomplete',← List.append_assoc,split_incomplete (text ++ front') incomplete']
    · rw [split_complete complete']
      refine split_complete (fun tail within => ?_)
      rcases List.suffix_or_suffix_of_suffix within (List.suffix_append text more) with inside | ⟨before,rfl⟩
      · exact complete' tail inside
      · by_contra incomplete
        have front : before <:+ text := by
          obtain ⟨start,split⟩ := within
          rw [← List.append_assoc] at split
          exact ⟨start,List.append_cancel_right split⟩
        by_cases empty : before = []
        · subst empty
          exact incomplete (complete' _ (List.suffix_refl _))
        · have wrong := incomplete_front empty (by simpa using incomplete)
          rw [complete before front] at wrong
          cases wrong

/-- Nothing is held back of an end that was held back. -/
theorem split_held (text : Str) :
    split_incomplete_sgr_tail (split_incomplete_sgr_tail text).2 = ([],(split_incomplete_sgr_tail text).2) := by
  rcases split_cases text with ⟨front,tail,rfl,incomplete⟩ | complete
  · rw [split_incomplete front incomplete]
    exact split_incomplete [] incomplete
  · rw [split_complete complete]
    rfl

/-- No color sequence goes on in the next chunk. -/
theorem substitute_more (remap : Str → Str) (text more : Str) :
    substitute SGR_RE remap ((split_incomplete_sgr_tail text).1 ++
        (split_incomplete_sgr_tail ((split_incomplete_sgr_tail text).2 ++ more)).1) =
      substitute SGR_RE remap (split_incomplete_sgr_tail text).1 ++
        substitute SGR_RE remap (split_incomplete_sgr_tail ((split_incomplete_sgr_tail text).2 ++ more)).1 := by
  refine substitute_append (fun suffix within some_there => SGR_RE_append some_there ?_)
    (fun suffix params length => SGR_RE_bounded)
  rcases split_cases text with ⟨front,held,rfl,incomplete⟩ | complete
  · rw [split_incomplete front incomplete]
    simp only
    obtain ⟨rest,rfl,_,_⟩ := incomplete_cons incomplete
    right
    rcases split_cases (ESC :: rest ++ more) with ⟨front',held',split,incomplete'⟩ | complete'
    · rw [split,split_incomplete front' incomplete']
      cases front' with
      | nil => exact .inl rfl
      | cons c front' =>
        rw [List.cons_append,List.cons_append,List.cons.injEq] at split
        exact .inr (by rw [← split.1]; rfl)
    · rw [split_complete complete']
      exact .inr rfl
  · rw [split_complete complete] at within
    exact .inl (complete suffix within)

/-! ## Both remappings -/

/-- What is held back cannot be used yet. -/
def Colors.Settled (self : Colors) : Prop :=
  split_incomplete_sgr_tail self.theme_tail = ([],self.theme_tail) ∧
    split_incomplete_sgr_tail self.compat_tail = ([],self.compat_tail)

theorem substitute_empty (remap : Str → Str) : substitute SGR_RE remap [] = [] := rfl

/-- Without a special case for an empty text. -/
theorem apply_terminal_compat_eq (self : Colors) (text : Str) : apply_terminal_compat self text =
    (substitute SGR_RE remap_sgr_for_lcd_terminal (split_incomplete_sgr_tail (self.compat_tail ++ text)).1,
      { self with compat_tail := (split_incomplete_sgr_tail (self.compat_tail ++ text)).2 }) := by
  rw [apply_terminal_compat]
  by_cases empty : (split_incomplete_sgr_tail (self.compat_tail ++ text)).1 = []
  · simp only [empty]
    rfl
  · simp only [List.isEmpty_iff,if_neg empty]

/-- The colors that a text begins with, if it is the first that is written. -/
def opening (theme_started : Bool) (body : Str) : Str :=
  if body.isEmpty || theme_started then [] else rgb_sgr 38 GRUVBOX_DEFAULT_FG ++ rgb_sgr 48 GRUVBOX_DARK_BG

theorem apply_gruvbox_theme_eq (self : Colors) (text : Str) : apply_gruvbox_theme self text =
    (opening self.theme_started (split_incomplete_sgr_tail (self.theme_tail ++ text)).1 ++
        substitute SGR_RE remap_sgr_to_gruvbox (split_incomplete_sgr_tail (self.theme_tail ++ text)).1,
      { self with theme_tail := (split_incomplete_sgr_tail (self.theme_tail ++ text)).2,
                  theme_started := self.theme_started || !(split_incomplete_sgr_tail (self.theme_tail ++ text)).1.isEmpty }) := by
  obtain ⟨started,tail,compat_tail⟩ := self
  rw [apply_gruvbox_theme,opening]
  by_cases empty : (split_incomplete_sgr_tail (tail ++ text)).1 = []
  · simp only [empty]
    simp [substitute_empty]
  · have some_there : (split_incomplete_sgr_tail (tail ++ text)).1.isEmpty = false := by simpa using empty
    simp only [some_there]
    cases started <;> simp

/-- The remapping of the theme. -/
def apply_colors (theme : Str) (self : Colors) (text : Str) : Str × Colors :=
  if theme = str "gruvbox" then apply_gruvbox_theme self text else apply_terminal_compat self text

theorem settled_kept (theme : Str) (self : Colors) (text : Str) (settled : self.Settled) :
    (apply_colors theme self text).2.Settled := by
  rw [apply_colors]
  split
  · rw [apply_gruvbox_theme_eq]
    exact ⟨split_held _,settled.2⟩
  · rw [apply_terminal_compat_eq]
    exact ⟨settled.1,split_held _⟩

theorem colored_nothing (theme : Str) (self : Colors) (settled : self.Settled) : apply_colors theme self [] = ([],self) := by
  obtain ⟨theme_settled,compat_settled⟩ := settled
  rw [apply_colors]
  split
  · rw [apply_gruvbox_theme_eq,List.append_nil,theme_settled,opening]
    simp [substitute_empty]
  · rw [apply_terminal_compat_eq,List.append_nil,compat_settled,substitute_empty]

theorem colored_joins (theme : Str) (self : Colors) (text more : Str) :
    follow (apply_colors theme self text) (fun after => apply_colors theme after more) = apply_colors theme self (text ++ more) := by
  rw [apply_colors]
  simp only [apply_colors]
  split
  · simp only [apply_gruvbox_theme_eq,follow]
    have split := split_more (self.theme_tail ++ text) more
    have remapped := substitute_more remap_sgr_to_gruvbox (self.theme_tail ++ text) more
    rw [List.append_assoc] at split
    rw [split]
    simp only [remapped]
    -- the theme begins with the first body that is not empty
    cases (split_incomplete_sgr_tail (self.theme_tail ++ text)).1 with
    | nil => simp [opening,substitute_empty]
    | cons c body => simp [opening]
  · simp only [apply_terminal_compat_eq,follow]
    have split := split_more (self.compat_tail ++ text) more
    have remapped := substitute_more remap_sgr_for_lcd_terminal (self.compat_tail ++ text) more
    rw [List.append_assoc] at split
    rw [split]
    simp only [remapped]

/-- The remapping of colors does not see how its input is cut. -/
theorem colored_additive (theme : Str) {self : Colors} (settled : self.Settled) (texts : List Str) :
    run (apply_colors theme) self texts = apply_colors theme self texts.flatten :=
  run_additive (fun self text => settled_kept theme self text) (fun self => colored_nothing theme self)
    (fun self text more _ => colored_joins theme self text more) settled texts

/-! ## The remapping for the terminal by itself -/

theorem incomplete_suffix_unmatched {tail suffix : Str} (incomplete : is_incomplete_sgr tail = true) (within : suffix <:+ tail) :
    SGR_RE suffix = none := by
  obtain ⟨rest,rfl,last,_⟩ := incomplete_cons incomplete
  cases found : SGR_RE suffix with
  | none => rfl
  | some hit =>
    obtain ⟨params,length⟩ := hit
    obtain ⟨more,rfl,_,_⟩ := SGR_RE_some found
    rcases List.suffix_cons_iff.mp within with whole | inside
    · rw [whole,incomplete_unmatched incomplete] at found
      cases found
    · exact absurd (inside.subset List.mem_cons_self) last

/-- Substitution leaves what is held back as it is, and no sequence reaches into it. -/
theorem substitute_held (remap : Str → Str) (text : Str) :
    text = (split_incomplete_sgr_tail text).1 ++ (split_incomplete_sgr_tail text).2 ∧
      substitute SGR_RE remap text =
        substitute SGR_RE remap (split_incomplete_sgr_tail text).1 ++ (split_incomplete_sgr_tail text).2 := by
  rcases split_cases text with ⟨front,tail,rfl,incomplete⟩ | complete
  · rw [split_incomplete front incomplete]
    have alone : substitute SGR_RE remap tail = tail :=
      substitute_unmatched (fun suffix within => incomplete_suffix_unmatched incomplete within)
    have escape : tail.head? = some ESC := by
      obtain ⟨rest,rfl,_⟩ := incomplete_cons incomplete
      rfl
    refine ⟨rfl,?_⟩
    rw [substitute_append (fun suffix _ some_there => SGR_RE_append some_there (.inr (.inr escape)))
      (fun suffix params length => SGR_RE_bounded),alone]
  · rw [split_complete complete]
    exact ⟨(List.append_nil text).symm,(List.append_nil _).symm⟩

theorem apply_colors_compat : apply_colors [] = apply_terminal_compat := by
  funext self text
  exact if_neg (by decide)

/-- The pieces of a text, one after the other, are remapped as the text in front of what is held back at its end;
    with that, as the whole text. -/
theorem compat_streams (texts : List Str) : ∃ body, texts.flatten = body ++ (run apply_terminal_compat {} texts).2.compat_tail ∧
    (run apply_terminal_compat {} texts).1 = substitute SGR_RE remap_sgr_for_lcd_terminal body ∧
    (run apply_terminal_compat {} texts).1 ++ (run apply_terminal_compat {} texts).2.compat_tail =
      substitute SGR_RE remap_sgr_for_lcd_terminal texts.flatten := by
  have fresh : ({} : Colors).Settled := ⟨rfl,rfl⟩
  have at_once := colored_additive [] fresh texts
  rw [apply_colors_compat,apply_terminal_compat_eq] at at_once
  obtain ⟨split,held⟩ := substitute_held remap_sgr_for_lcd_terminal texts.flatten
  refine ⟨(split_incomplete_sgr_tail texts.flatten).1,?_,?_,?_⟩
  · rw [at_once]
    exact split
  · rw [at_once]
    rfl
  · rw [at_once]
    exact held.symm

end VibeBridge.Python.Lcd
