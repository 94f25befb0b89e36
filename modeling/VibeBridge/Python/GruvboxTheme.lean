import Mathlib.Algebra.Ring.Nat
import VibeBridge.Python.SgrAttributes

/-!
The theme of the LCD. The remapping replaces every color that it knows by one of the
theme; what it does not know it writes as it is, and that may take what comes after
it as the operands of a color. The colors that are written are those of the
theme exactly when nothing is taken so, or only what is a color of the theme by chance
(`themed_iff`).
-/
namespace VibeBridge.Python.Lcd
open VibeBridge.Substitution

/-! ## Reading what is written -/

/-- The colors of the foreground and of the background take operands. -/
def introduces (code : Nat) : Bool := code == 38 || code == 48

/-- The attributes of numbers: a color is one together with its operands. -/
def color_attributes : List Nat → List Attribute
  | [] => []
  | code :: rest =>
    if introduces code then
      match rest with
      | 5 :: index :: more => ⟨code,[5,index]⟩ :: color_attributes more
      | 2 :: red :: green :: blue :: more => ⟨code,[2,red,green,blue]⟩ :: color_attributes more
      | rest => ⟨code,[]⟩ :: color_attributes rest
    else ⟨code,[]⟩ :: color_attributes rest

/-- The basic and the bright colors, reverse video and its end. -/
def is_basic (code : Nat) : Bool :=
  code == 7 || code == 27 || (30 ≤ code && code ≤ 37) || (40 ≤ code && code ≤ 47) || (90 ≤ code && code ≤ 97) ||
    (100 ≤ code && code ≤ 107)

/-- The colors of the theme. -/
def THEME : List Rgb := GRUVBOX_PALETTE ++ GRUVBOX_ANSI ++ [GRUVBOX_DEFAULT_FG,GRUVBOX_DARK_BG,GRUVBOX_SOFT_BG]

/-- An attribute that the theme allows: no color, or one of its own. -/
inductive Themed : Attribute → Prop
  | plain {code : Nat} (other : is_basic code = false) : Themed ⟨code,[]⟩
  | color {code red green blue : Nat} (known : (red,green,blue) ∈ THEME) : Themed ⟨code,[2,red,green,blue]⟩

/-- Every attribute of every color sequence in a text is one that the theme allows. -/
def ThemedText (text : Str) : Prop :=
  ∀ raw ∈ captures SGR_RE text, ∀ a ∈ color_attributes ((parts raw).map number), Themed a

/-! ## What the remapping makes of parameters -/

/-- What stands for a parameter: a color of the theme, the reset with both colors of it, or the number itself. -/
inductive Param
  | color (code : Nat) (rgb : Rgb)
  | reset
  | plain (code : Nat)
  deriving DecidableEq

/-- The numbers that are written for it. -/
def Param.codes : Param → List Nat
  | .color code rgb => [code,2,rgb.1,rgb.2.1,rgb.2.2]
  | .reset => [0,38,2,235,219,178,48,2,40,40,40]
  | .plain code => [code]

/-- What the parameters are to the remapping; 7 and 27 are left out. -/
def kept_params : List Nat → List Param
  | [] => []
  | code :: rest =>
    if code = 0 then .reset :: kept_params rest
    else if code = 39 then .color 38 GRUVBOX_DEFAULT_FG :: kept_params rest
    else if code = 49 then .color 48 GRUVBOX_DARK_BG :: kept_params rest
    else if code = 7 ∨ code = 27 then kept_params rest
    else if 30 ≤ code ∧ code ≤ 37 then .color 38 (gruvbox_ansi (code - 30)) :: kept_params rest
    else if 90 ≤ code ∧ code ≤ 97 then .color 38 (gruvbox_ansi (code - 90 + 8)) :: kept_params rest
    else if 40 ≤ code ∧ code ≤ 47 then .color 48 GRUVBOX_SOFT_BG :: kept_params rest
    else if 100 ≤ code ∧ code ≤ 107 then .color 48 GRUVBOX_SOFT_BG :: kept_params rest
    else if code = 38 ∨ code = 48 then
      match rest with
      | 2 :: r :: g :: b :: more => .color code (if code = 38 then nearest_gruvbox (r,g,b) else GRUVBOX_SOFT_BG) :: kept_params more
      | 5 :: idx :: more =>
        let rgb := if idx ≤ 15 then gruvbox_ansi idx else nearest_gruvbox (xterm_256_rgb idx)
        .color code (if code = 38 then rgb else GRUVBOX_SOFT_BG) :: kept_params more
      | rest => .plain code :: kept_params rest
    else .plain code :: kept_params rest

theorem gruvbox_params_kept (params : List Nat) :
    gruvbox_params params = ((kept_params params).flatMap Param.codes).map decimal := by
  have first : ∀ param params', ((param :: params').flatMap Param.codes).map decimal =
      param.codes.map decimal ++ (params'.flatMap Param.codes).map decimal := by
    intro param params'
    rw [List.flatMap_cons,List.map_append]
  fun_induction kept_params params with
  | case1 => rfl
  | case2 rest ih =>
    rw [gruvbox_params.eq_def,first,← ih]
    rfl
  | case3 rest _ ih =>
    rw [gruvbox_params.eq_def,first,← ih]
    rfl
  | case4 rest _ _ ih =>
    rw [gruvbox_params.eq_def,first,← ih]
    rfl
  | case5 code rest reset fg bg reverse ih =>
    rw [gruvbox_params.eq_def]
    simp only [reset,fg,bg,reverse,if_true,if_false,ih]
  | case6 code rest reset fg bg reverse basic ih =>
    rw [gruvbox_params.eq_def,first,← ih]
    simp only [reset,fg,bg,reverse,basic,and_self,if_true,if_false]
    rfl
  | case7 code rest reset fg bg reverse basic bright ih =>
    rw [gruvbox_params.eq_def,first,← ih]
    simp only [reset,fg,bg,reverse,basic,bright,and_self,if_true,if_false]
    rfl
  | case8 code rest reset fg bg reverse basic bright ground ih =>
    rw [gruvbox_params.eq_def,first,← ih]
    simp only [reset,fg,bg,reverse,basic,bright,ground,and_self,if_true,if_false]
    rfl
  | case9 code rest reset fg bg reverse basic bright ground bright_ground ih =>
    rw [gruvbox_params.eq_def,first,← ih]
    simp only [reset,fg,bg,reverse,basic,bright,ground,bright_ground,and_self,if_true,if_false]
    rfl
  | case10 code reset fg bg reverse basic bright ground bright_ground introducer r g b more ih =>
    rw [gruvbox_params.eq_def,first,← ih]
    simp only [reset,fg,bg,reverse,basic,bright,ground,bright_ground,introducer,if_true,if_false]
    rfl
  | case11 code reset fg bg reverse basic bright ground bright_ground introducer index more rgb ih =>
    rw [gruvbox_params.eq_def,first,← ih]
    simp only [reset,fg,bg,reverse,basic,bright,ground,bright_ground,introducer,if_true,if_false]
    rfl
  | case12 code reset fg bg reverse basic bright ground bright_ground introducer rest not_direct not_indexed ih =>
    rw [gruvbox_params.eq_def,first,← ih]
    simp only [reset,fg,bg,reverse,basic,bright,ground,bright_ground,introducer,if_true,if_false]
    rfl
  | case13 code rest reset fg bg reverse basic bright ground bright_ground other ih =>
    rw [gruvbox_params.eq_def,first,← ih]
    simp only [reset,fg,bg,reverse,basic,bright,ground,bright_ground,other,if_false]
    rfl

/-! ### Colors of the theme -/

theorem nearest_known (rgb : Rgb) : nearest_gruvbox rgb ∈ GRUVBOX_PALETTE := by
  have kept : ∀ (colors : List Rgb) (best : Rgb), (∀ color ∈ colors, color ∈ GRUVBOX_PALETTE) → best ∈ GRUVBOX_PALETTE →
      colors.foldl (fun best color => if distance color rgb < distance best rgb then color else best) best ∈ GRUVBOX_PALETTE := by
    intro colors
    induction colors with
    | nil => exact fun best _ known => known
    | cons color colors ih =>
      intro best all known
      rw [List.foldl_cons]
      refine ih _ (fun other member => all other (List.mem_cons_of_mem color member)) ?_
      split
      · exact all color List.mem_cons_self
      · exact known
  exact kept _ _ (fun color member => List.mem_of_mem_drop member) (by decide)

theorem ansi_known (index : Nat) : gruvbox_ansi index ∈ GRUVBOX_ANSI := by
  rw [gruvbox_ansi,List.getD_eq_getElem?_getD]
  cases found : GRUVBOX_ANSI[index]? with
  | none => decide
  | some rgb => exact List.mem_of_getElem? found

theorem palette_theme {rgb : Rgb} (known : rgb ∈ GRUVBOX_PALETTE) : rgb ∈ THEME := by
  simp [THEME,known]

theorem ansi_theme {rgb : Rgb} (known : rgb ∈ GRUVBOX_ANSI) : rgb ∈ THEME := by
  simp [THEME,known]

/-- A parameter that is a color is one of the theme. -/
def Param.Known : Param → Prop
  | .color code rgb => introduces code = true ∧ rgb ∈ THEME
  | _ => True

theorem kept_known (params : List Nat) : ∀ param ∈ kept_params params, param.Known := by
  have foreground : GRUVBOX_DEFAULT_FG ∈ THEME := by decide
  have background : GRUVBOX_DARK_BG ∈ THEME ∧ GRUVBOX_SOFT_BG ∈ THEME := by decide
  fun_induction kept_params params with
  | case1 => simp
  | case2 rest ih => exact List.forall_mem_cons.mpr ⟨trivial,ih⟩
  | case3 rest _ ih => exact List.forall_mem_cons.mpr ⟨⟨rfl,foreground⟩,ih⟩
  | case4 rest _ _ ih => exact List.forall_mem_cons.mpr ⟨⟨rfl,background.1⟩,ih⟩
  | case5 code rest reset fg bg reverse ih => exact ih
  | case6 code rest reset fg bg reverse basic ih =>
    exact List.forall_mem_cons.mpr ⟨⟨rfl,ansi_theme (ansi_known _)⟩,ih⟩
  | case7 code rest reset fg bg reverse basic bright ih =>
    exact List.forall_mem_cons.mpr ⟨⟨rfl,ansi_theme (ansi_known _)⟩,ih⟩
  | case8 code rest reset fg bg reverse basic bright ground ih => exact List.forall_mem_cons.mpr ⟨⟨rfl,background.2⟩,ih⟩
  | case9 code rest reset fg bg reverse basic bright ground bright_ground ih =>
    exact List.forall_mem_cons.mpr ⟨⟨rfl,background.2⟩,ih⟩
  | case10 code reset fg bg reverse basic bright ground bright_ground introducer r g b more ih =>
    refine List.forall_mem_cons.mpr ⟨⟨by simpa [introduces] using introducer,?_⟩,ih⟩
    split
    · exact palette_theme (nearest_known _)
    · exact background.2
  | case11 code reset fg bg reverse basic bright ground bright_ground introducer index more rgb ih =>
    refine List.forall_mem_cons.mpr ⟨⟨by simpa [introduces] using introducer,?_⟩,ih⟩
    split
    · show (if index ≤ 15 then gruvbox_ansi index else nearest_gruvbox (xterm_256_rgb index)) ∈ THEME
      split
      · exact ansi_theme (ansi_known _)
      · exact palette_theme (nearest_known _)
    · exact background.2
  | case12 code reset fg bg reverse basic bright ground bright_ground introducer rest not_direct not_indexed ih =>
    exact List.forall_mem_cons.mpr ⟨trivial,ih⟩
  | case13 code rest reset fg bg reverse basic bright ground bright_ground other ih =>
    exact List.forall_mem_cons.mpr ⟨trivial,ih⟩

/-! ## When only colors of the theme are written -/

/-- How many numbers are written for a parameter. -/
def Param.size : Param → Nat
  | .color _ _ => 5
  | .reset => 11
  | .plain _ => 1

/-- What comes after a color without operands begins with what is read as its operands: a 5 and anything, or a 2 and
    three numbers. -/
def Taken : List Param → Prop
  | .plain 5 :: rest => rest ≠ []
  | .plain 2 :: rest => 3 ≤ (rest.map Param.size).sum
  | _ => False

/-- Parameters for which only colors of the theme are written. A color without operands takes none from those
    after it, or takes numbers that are a color of the theme by chance. The last of them may be the number that a
    color begins with; the rest of it is then numbers by themselves. -/
inductive InTheme : List Param → Prop
  | done : InTheme []
  | color {code : Nat} {rgb : Rgb} {rest : List Param} (later : InTheme rest) : InTheme (.color code rgb :: rest)
  | reset {rest : List Param} (later : InTheme rest) : InTheme (.reset :: rest)
  | plain {code : Nat} {rest : List Param} (other : introduces code = false) (not_basic : is_basic code = false)
      (later : InTheme rest) : InTheme (.plain code :: rest)
  | alone {code : Nat} {rest : List Param} (color : introduces code = true) (untaken : ¬ Taken rest) (later : InTheme rest) :
      InTheme (.plain code :: rest)
  | by_chance {code red green blue : Nat} {rest : List Param} (color : introduces code = true)
      (known : (red,green,blue) ∈ THEME) (later : InTheme rest) :
      InTheme (.plain code :: .plain 2 :: .plain red :: .plain green :: .plain blue :: rest)
  | cut {code red green blue : Nat} {rgb : Rgb} {rest : List Param} (color : introduces code = true)
      (known : (red,green,blue) ∈ THEME)
      (later : InTheme (.plain 2 :: .plain rgb.1 :: .plain rgb.2.1 :: .plain rgb.2.2 :: rest)) :
      InTheme (.plain code :: .plain 2 :: .plain red :: .plain green :: .color blue rgb :: rest)

theorem codes_length (param : Param) : param.codes.length = param.size := by
  cases param <;> rfl

theorem codes_sum (params : List Param) : (params.flatMap Param.codes).length = (params.map Param.size).sum := by
  rw [List.length_flatMap,List.map_congr_left (fun param _ => codes_length param)]

theorem introducer_basic {code : Nat} (color : introduces code = true) : is_basic code = false := by
  simp only [introduces,Bool.or_eq_true,beq_iff_eq] at color
  rcases color with rfl | rfl <;> decide

/-- The attributes of numbers that begin with a color without operands. -/
theorem color_attributes_alone {code : Nat} {codes : List Nat} (untaken : ¬ Takes codes) :
    color_attributes (code :: codes) = ⟨code,[]⟩ :: color_attributes codes := by
  rw [color_attributes.eq_def]
  simp only
  split
  · split
    · exact absurd takes_indexed untaken
    · exact absurd takes_direct untaken
    · rfl
  · rfl

theorem color_attributes_other {code : Nat} (codes : List Nat) (other : introduces code = false) :
    color_attributes (code :: codes) = ⟨code,[]⟩ :: color_attributes codes := by
  rw [color_attributes.eq_def]
  simp only
  rw [if_neg (by simp [other])]

theorem color_attributes_direct {code : Nat} (red green blue : Nat) (codes : List Nat) (color : introduces code = true) :
    color_attributes (code :: 2 :: red :: green :: blue :: codes) = ⟨code,[2,red,green,blue]⟩ :: color_attributes codes := by
  rw [color_attributes.eq_def]
  simp only
  rw [if_pos color]

theorem color_attributes_indexed {code : Nat} (index : Nat) (codes : List Nat) (color : introduces code = true) :
    color_attributes (code :: 5 :: index :: codes) = ⟨code,[5,index]⟩ :: color_attributes codes := by
  rw [color_attributes.eq_def]
  simp only
  rw [if_pos color]

theorem codes_nil {params : List Param} : params.flatMap Param.codes ≠ [] ↔ params ≠ [] := by
  cases params with
  | nil => simp
  | cons param rest => cases param <;> simp [Param.codes]

theorem taken_iff {params : List Param} (known : ∀ param ∈ params, param.Known) :
    Taken params ↔ Takes (params.flatMap Param.codes) := by
  rw [takes_iff]
  cases params with
  | nil => simp [Taken]
  | cons param rest =>
    cases param with
    | reset => simp [Taken,Param.codes]
    | color code rgb =>
      have color := (known _ List.mem_cons_self).1
      simp only [introduces,Bool.or_eq_true,beq_iff_eq] at color
      simp only [Taken,Param.codes,List.flatMap_cons,List.cons_append,List.cons.injEq,false_iff,not_or]
      constructor <;> rintro ⟨_,⟨same,_⟩,_⟩ <;> omega
    | plain code =>
      rw [List.flatMap_cons]
      show _ ↔ (∃ codes, code :: rest.flatMap Param.codes = 5 :: codes ∧ codes ≠ []) ∨
        ∃ codes, code :: rest.flatMap Param.codes = 2 :: codes ∧ 3 ≤ codes.length
      by_cases indexed : code = 5
      · subst indexed
        constructor
        · intro some_there
          exact .inl ⟨_,rfl,codes_nil.mpr some_there⟩
        · rintro (⟨codes,same,written⟩ | ⟨codes,same,_⟩) <;> cases same
          exact codes_nil.mp written
      · by_cases direct : code = 2
        · subst direct
          simp [Taken,← codes_sum]
        · simp [Taken,indexed,direct]

/-- Such parameters write only what the theme allows. -/
theorem in_theme_themed {params : List Param} (in_theme : InTheme params) (known : ∀ param ∈ params, param.Known) :
    ∀ a ∈ color_attributes (params.flatMap Param.codes), Themed a := by
  induction in_theme with
  | done => simp [color_attributes]
  | @color code rgb rest later ih =>
    obtain ⟨⟨color,own⟩,others⟩ := List.forall_mem_cons.mp known
    rw [List.flatMap_cons]
    show ∀ a ∈ color_attributes (code :: 2 :: rgb.1 :: rgb.2.1 :: rgb.2.2 :: rest.flatMap Param.codes), Themed a
    rw [color_attributes_direct _ _ _ _ color]
    exact List.forall_mem_cons.mpr ⟨.color own,ih others⟩
  | @reset rest later ih =>
    obtain ⟨_,others⟩ := List.forall_mem_cons.mp known
    rw [List.flatMap_cons]
    show ∀ a ∈ color_attributes (0 :: 38 :: 2 :: 235 :: 219 :: 178 :: 48 :: 2 :: 40 :: 40 :: 40 :: rest.flatMap Param.codes), Themed a
    rw [color_attributes_other _ (by decide),color_attributes_direct _ _ _ _ (by decide),color_attributes_direct _ _ _ _ (by decide)]
    simp only [List.forall_mem_cons]
    exact ⟨.plain (by decide),.color (by decide),.color (by decide),ih others⟩
  | @plain code rest other not_basic later ih =>
    obtain ⟨_,others⟩ := List.forall_mem_cons.mp known
    rw [List.flatMap_cons]
    show ∀ a ∈ color_attributes (code :: rest.flatMap Param.codes), Themed a
    rw [color_attributes_other _ other]
    exact List.forall_mem_cons.mpr ⟨.plain not_basic,ih others⟩
  | @alone code rest color untaken later ih =>
    obtain ⟨_,others⟩ := List.forall_mem_cons.mp known
    rw [List.flatMap_cons]
    show ∀ a ∈ color_attributes (code :: rest.flatMap Param.codes), Themed a
    rw [color_attributes_alone (fun takes => untaken ((taken_iff others).mpr takes))]
    exact List.forall_mem_cons.mpr ⟨.plain (introducer_basic color),ih others⟩
  | @by_chance code red green blue rest color own later ih =>
    show ∀ a ∈ color_attributes (code :: 2 :: red :: green :: blue :: rest.flatMap Param.codes), Themed a
    rw [color_attributes_direct _ _ _ _ color]
    exact List.forall_mem_cons.mpr ⟨.color own,ih (fun param member => known param (by simp [member]))⟩
  | @cut code red green blue rgb rest color own later ih =>
    show ∀ a ∈ color_attributes (code :: 2 :: red :: green :: blue :: 2 :: rgb.1 :: rgb.2.1 :: rgb.2.2 ::
      rest.flatMap Param.codes), Themed a
    rw [color_attributes_direct _ _ _ _ color]
    refine List.forall_mem_cons.mpr ⟨.color own,ih ?_⟩
    simp only [List.forall_mem_cons]
    exact ⟨trivial,trivial,trivial,trivial,fun param member => known param (by simp [member])⟩

@[simp] theorem themed_plain {code : Nat} : Themed ⟨code,[]⟩ ↔ is_basic code = false := by
  constructor
  · intro themed
    cases themed with
    | plain other => exact other
  · exact .plain

@[simp] theorem themed_direct {code red green blue : Nat} : Themed ⟨code,[2,red,green,blue]⟩ ↔ (red,green,blue) ∈ THEME := by
  constructor
  · intro themed
    cases themed with
    | color known => exact known
  · exact .color

@[simp] theorem themed_indexed {code index : Nat} : ¬ Themed ⟨code,[5,index]⟩ := by
  intro themed
  cases themed

/-- No color of the theme begins with numbers that are written one after the other, but for its last one. -/
theorem theme_apart : ∀ rgb ∈ THEME, introduces rgb.1 = false ∧ rgb.1 ≠ 0 ∧ ¬ (introduces rgb.2.1 = true ∧ rgb.2.2 = 2) ∧
    ¬ (rgb.2.1 = 0 ∧ rgb.2.2 = 38) ∧ rgb.2.2 ≠ 0 := by
  decide

/-- Numbers that are taken and that the theme allows are a color of it by chance. -/
theorem taken_themed {code : Nat} {rest : List Param} (color : introduces code = true) (known : ∀ param ∈ rest, param.Known)
    (taken : Taken rest) (themed : ∀ a ∈ color_attributes (code :: rest.flatMap Param.codes), Themed a) :
    ∃ red green blue, (red,green,blue) ∈ THEME ∧
      ((∃ others, rest = .plain 2 :: .plain red :: .plain green :: .plain blue :: others ∧
        ∀ a ∈ color_attributes (others.flatMap Param.codes), Themed a) ∨
      ∃ rgb others, rest = .plain 2 :: .plain red :: .plain green :: .color blue rgb :: others ∧
        ∀ a ∈ color_attributes (2 :: rgb.1 :: rgb.2.1 :: rgb.2.2 :: others.flatMap Param.codes), Themed a) := by
  have direct : ∀ {red green blue codes}, rest.flatMap Param.codes = 2 :: red :: green :: blue :: codes →
      (red,green,blue) ∈ THEME ∧ ∀ a ∈ color_attributes codes, Themed a := by
    intro red green blue codes written
    rw [written,color_attributes_direct _ _ _ _ color,List.forall_mem_cons,themed_direct] at themed
    exact themed
  rcases (takes_iff.mp ((taken_iff known).mp taken)) with ⟨codes,written,some_there⟩ | ⟨codes,written,enough⟩
  · obtain ⟨index,codes,rfl⟩ := List.exists_cons_of_ne_nil some_there
    rw [written,color_attributes_indexed _ _ color,List.forall_mem_cons] at themed
    exact absurd themed.1 themed_indexed
  · cases rest with
    | nil => cases written
    | cons first rest =>
      cases first with
      | reset => cases written
      | color other rgb =>
        cases written
        exact absurd (known _ List.mem_cons_self).1 (by decide)
      | plain other =>
        cases written
        cases rest with
        | nil => simp at enough
        | cons second rest =>
          cases second with
          | reset => exact absurd rfl (theme_apart _ (direct rfl).1).2.1
          | color other rgb =>
            have colored := (known (.color other rgb) (by simp)).1
            rw [(theme_apart _ (direct rfl).1).1] at colored
            cases colored
          | plain red =>
            cases rest with
            | nil => simp [Param.codes] at enough
            | cons third rest =>
              cases third with
              | reset => exact absurd ⟨rfl,rfl⟩ (theme_apart _ (direct rfl).1).2.2.2.1
              | color other rgb =>
                have colored := (known (.color other rgb) (by simp)).1
                exact absurd ⟨colored,rfl⟩ (theme_apart _ (direct rfl).1).2.2.1
              | plain green =>
                cases rest with
                | nil => simp [Param.codes] at enough
                | cons fourth rest =>
                  cases fourth with
                  | reset => exact absurd rfl (theme_apart _ (direct rfl).1).2.2.2.2
                  | color blue rgb =>
                    obtain ⟨found,later⟩ := direct rfl
                    exact ⟨red,green,blue,found,.inr ⟨rgb,rest,rfl,later⟩⟩
                  | plain blue =>
                    obtain ⟨found,later⟩ := direct rfl
                    exact ⟨red,green,blue,found,.inl ⟨rest,rfl,later⟩⟩

theorem themed_in_theme {params : List Param} (known : ∀ param ∈ params, param.Known)
    (themed : ∀ a ∈ color_attributes (params.flatMap Param.codes), Themed a) : InTheme params := by
  induction size : (params.map Param.size).sum using Nat.strong_induction_on generalizing params with
  | _ n ih =>
    subst size
    cases params with
    | nil => exact .done
    | cons param rest =>
      obtain ⟨own,others⟩ := List.forall_mem_cons.mp known
      cases param with
      | color code rgb =>
        have written : (Param.color code rgb :: rest).flatMap Param.codes =
          code :: 2 :: rgb.1 :: rgb.2.1 :: rgb.2.2 :: rest.flatMap Param.codes := rfl
        rw [written,color_attributes_direct _ _ _ _ own.1,List.forall_mem_cons] at themed
        exact .color (ih _ (by simp [Param.size]) others themed.2 rfl)
      | reset =>
        have written : (Param.reset :: rest).flatMap Param.codes =
          0 :: 38 :: 2 :: 235 :: 219 :: 178 :: 48 :: 2 :: 40 :: 40 :: 40 :: rest.flatMap Param.codes := rfl
        rw [written,color_attributes_other _ (by decide),color_attributes_direct _ _ _ _ (by decide),
          color_attributes_direct _ _ _ _ (by decide)] at themed
        simp only [List.forall_mem_cons] at themed
        exact .reset (ih _ (by simp [Param.size]) others themed.2.2.2 rfl)
      | plain code =>
        have written : (Param.plain code :: rest).flatMap Param.codes = code :: rest.flatMap Param.codes := rfl
        rw [written] at themed
        cases color : introduces code with
        | false =>
          rw [color_attributes_other _ color,List.forall_mem_cons,themed_plain] at themed
          exact .plain color themed.1 (ih _ (by simp [Param.size]) others themed.2 rfl)
        | true =>
          by_cases taken : Taken rest
          · obtain ⟨red,green,blue,found,⟨more,rfl,later⟩ | ⟨rgb,more,rfl,later⟩⟩ := taken_themed color others taken themed
            · have known' : ∀ param ∈ more, param.Known := fun param member => others param (by simp [member])
              exact .by_chance color found (ih _ (by simp [Param.size]; omega) known' later rfl)
            · have known' : ∀ param ∈ Param.plain 2 :: .plain rgb.1 :: .plain rgb.2.1 :: .plain rgb.2.2 :: more, param.Known := by
                simp only [List.forall_mem_cons]
                exact ⟨trivial,trivial,trivial,trivial,fun param member => others param (by simp [member])⟩
              exact .cut color found (ih _ (by simp [Param.size]) known' later rfl)
          · rw [color_attributes_alone (fun takes => taken ((taken_iff others).mpr takes)),List.forall_mem_cons] at themed
            exact .alone color taken (ih _ (by simp [Param.size]) others themed.2 rfl)

/-! ## The texts -/

/-- A color sequence of numbers. -/
def sequence (codes : List Nat) : Str := [ESC,0x5b] ++ written codes ++ [0x6d]

theorem SGR_RE_sequence (codes : List Nat) (rest : Str) :
    SGR_RE (sequence codes ++ rest) = some (written codes,(sequence codes).length) := by
  have front : (written codes ++ 0x6d :: rest).takeWhile is_param = written codes := by
    rw [List.takeWhile_append_of_pos (written_params codes)]
    simp [is_param]
  have back : (written codes ++ 0x6d :: rest).dropWhile is_param = 0x6d :: rest := by
    rw [List.dropWhile_append_of_pos (written_params codes)]
    rfl
  have shape : sequence codes ++ rest = ESC :: 0x5b :: (written codes ++ 0x6d :: rest) := by simp [sequence]
  rw [shape]
  simp only [SGR_RE,front,back]
  simp [sequence]

theorem captures_sequence (codes : List Nat) (rest : Str) :
    captures SGR_RE (sequence codes ++ rest) = written codes :: captures SGR_RE rest :=
  captures_match (by simp [sequence]) (SGR_RE_sequence codes rest)

theorem codes_written {codes : List Nat} (some_there : codes ≠ []) : (parts (written codes)).map number = codes := by
  rw [← numbers_parameters,parameters_written some_there,numbers_bare]

/-- What is written for no parameters: the reset and both colors of the theme. -/
theorem remap_empty : ThemedText (remap_sgr_to_gruvbox []) := by
  have text : remap_sgr_to_gruvbox [] = sequence [0] ++ (sequence [38,2,235,219,178] ++ (sequence [48,2,40,40,40] ++ [])) := by
    decide
  rw [ThemedText,text]
  simp only [captures_sequence]
  intro raw member a own
  rcases List.mem_cons.mp member with rfl | member
  · rw [codes_written (by decide)] at own
    rw [List.mem_singleton.mp (show a ∈ [⟨0,[]⟩] from own)]
    exact .plain (by decide)
  · rcases List.mem_cons.mp member with rfl | member
    · rw [codes_written (by decide)] at own
      rw [List.mem_singleton.mp (show a ∈ [⟨38,[2,235,219,178]⟩] from own)]
      exact .color (by decide)
    · rcases List.mem_cons.mp member with rfl | none
      · rw [codes_written (by decide)] at own
        rw [List.mem_singleton.mp (show a ∈ [⟨48,[2,40,40,40]⟩] from own)]
        exact .color (by decide)
      · cases none

theorem remap_sequence {raw : Str} (some_there : raw ≠ []) : remap_sgr_to_gruvbox raw =
    if kept_params (parse_sgr_params raw) = [] then []
    else sequence ((kept_params (parse_sgr_params raw)).flatMap Param.codes) := by
  have filled : raw.isEmpty = false := by simpa using some_there
  rw [remap_sgr_to_gruvbox,filled]
  simp only [gruvbox_params_kept,List.isEmpty_iff,List.map_eq_nil_iff]
  by_cases none : kept_params (parse_sgr_params raw) = []
  · rw [if_pos none,none]
    rfl
  · rw [if_neg none]
    simp only [codes_nil.mpr none,if_false]
    rfl

/-- The text of a sequence whose parameters are remapped has only colors of the theme exactly when they write
    no others. -/
theorem themed_iff (raw : Str) : ThemedText (remap_sgr_to_gruvbox raw) ↔ InTheme (kept_params (parse_sgr_params raw)) := by
  by_cases empty : raw = []
  · subst empty
    exact ⟨fun _ => .reset .done,fun _ => remap_empty⟩
  · rw [remap_sequence empty]
    by_cases none : kept_params (parse_sgr_params raw) = []
    · rw [if_pos none,none]
      exact ⟨fun _ => .done,fun _ raw member => by cases member⟩
    · have read : captures SGR_RE (sequence ((kept_params (parse_sgr_params raw)).flatMap Param.codes)) =
          [written ((kept_params (parse_sgr_params raw)).flatMap Param.codes)] := by
        have whole := captures_sequence ((kept_params (parse_sgr_params raw)).flatMap Param.codes) []
        rwa [List.append_nil] at whole
      rw [if_neg none,ThemedText,read]
      simp only [List.forall_mem_singleton,codes_written (codes_nil.mpr none)]
      exact ⟨themed_in_theme (kept_known _),fun in_theme => in_theme_themed in_theme (kept_known _)⟩

/-- A color without its operands takes those of the color that stands for a basic one. -/
theorem theme_broken : remap_sgr_to_gruvbox (str "48;2;40") = str "\x1b[48;2;48;2;60;56;54m" ∧
    ¬ ThemedText (remap_sgr_to_gruvbox (str "48;2;40")) := by
  have text : remap_sgr_to_gruvbox (str "48;2;40") = str "\x1b[48;2;48;2;60;56;54m" := by
    decide +kernel
  refine ⟨text,fun themed => ?_⟩
  rw [text] at themed
  have color := themed (str "48;2;48;2;60;56;54") (by decide +kernel) ⟨48,[2,48,2,60]⟩ (by decide +kernel)
  rw [themed_direct] at color
  revert color
  decide

end VibeBridge.Python.Lcd
