import VibeBridge.Python.LcdText
import VibeBridge.Suffixes

/-!
The attributes that a color sequence sets. A parameter is an attribute with its
sub-parameters, and a color takes its operands from the parameters after it when
it has none itself. The remapping for the LCD goes over the numbers instead and
replaces each 7 and each 27: the attributes of what it writes are the ones that
it should write exactly when no number of a color is one of these, and when no
color becomes one only because the other numbers are read one by one
(`remap_keeps_attributes_iff`).
-/
namespace VibeBridge.Python.Lcd

/-! ## Attributes -/

/-- A number with the numbers that belong to it. -/
structure Attribute where
  code : Nat
  operands : List Nat
  deriving DecidableEq

/-- The colors of the foreground, of the background and of the underline. -/
def is_color (code : Nat) : Bool := code == 38 || code == 48 || code == 58

/-- The operands of a color: of a table or of its three parts. -/
inductive Complete : List Nat → Prop
  | indexed (index : Nat) : Complete [5,index]
  | direct (red green blue : Nat) : Complete [2,red,green,blue]

/-- The attributes of parameters that have their sub-parameters with them. -/
def attributes : List Attribute → List Attribute
  | [] => []
  | param :: rest =>
    if param.operands = [] ∧ is_color param.code then
      match rest with
      | ⟨5,[]⟩ :: ⟨index,[]⟩ :: more => ⟨param.code,[5,index]⟩ :: attributes more
      | ⟨2,[]⟩ :: ⟨red,[]⟩ :: ⟨green,[]⟩ :: ⟨blue,[]⟩ :: more => ⟨param.code,[2,red,green,blue]⟩ :: attributes more
      | rest => param :: attributes rest
    else param :: attributes rest

/-- The numbers of attributes in their order. -/
def numbers (found : List Attribute) : List Nat := found.flatMap (fun a => a.code :: a.operands)

/-- Numbers as parameters without sub-parameters. -/
def bare (codes : List Nat) : List Attribute := codes.map (fun code => ⟨code,[]⟩)

theorem numbers_cons (a : Attribute) (found : List Attribute) :
    numbers (a :: found) = a.code :: a.operands ++ numbers found := rfl

theorem numbers_append (found more : List Attribute) : numbers (found ++ more) = numbers found ++ numbers more :=
  List.flatMap_append

theorem numbers_bare (codes : List Nat) : numbers (bare codes) = codes := by
  induction codes with
  | nil => rfl
  | cons code codes ih =>
    show code :: numbers (bare codes) = code :: codes
    rw [ih]

/-- No number is lost when parameters are read. -/
theorem numbers_attributes (params : List Attribute) : numbers (attributes params) = numbers params := by
  fun_induction attributes params with
  | case1 => rfl
  | case2 param color index more ih => simp only [numbers_cons,ih,color.1,List.nil_append,List.cons_append]
  | case3 param color red green blue more ih => simp only [numbers_cons,ih,color.1,List.nil_append,List.cons_append]
  | case4 param rest color not_indexed not_direct ih => rw [numbers_cons,ih,numbers_cons]
  | case5 param rest other ih => rw [numbers_cons,ih,numbers_cons]

/-! ### Numbers that are read one by one -/

/-- Numbers that begin with the operands of a color. -/
def Takes (codes : List Nat) : Prop := ∃ operands more, Complete operands ∧ codes = operands ++ more

theorem complete_unique {operands operands' more more' : List Nat} (complete : Complete operands)
    (complete' : Complete operands') (same : operands ++ more = operands' ++ more') : operands = operands' ∧ more = more' := by
  cases complete <;> cases complete' <;> cases same <;> exact ⟨rfl,rfl⟩

theorem takes_indexed {index : Nat} {more : List Nat} : Takes (5 :: index :: more) := ⟨[5,index],more,.indexed index,rfl⟩

theorem takes_direct {red green blue : Nat} {more : List Nat} : Takes (2 :: red :: green :: blue :: more) :=
  ⟨[2,red,green,blue],more,.direct red green blue,rfl⟩

theorem bare_cons {codes : List Nat} {code : Nat} {more : List Attribute} (shape : bare codes = ⟨code,[]⟩ :: more) :
    ∃ rest, codes = code :: rest ∧ bare rest = more := by
  obtain ⟨first,rest,rfl,same,tail⟩ := List.map_eq_cons_iff.mp shape
  cases same
  exact ⟨rest,rfl,tail⟩

/-- Without operands after it a color is read as it is. -/
theorem attributes_untaken {code : Nat} {codes : List Nat} (untaken : is_color code = true → ¬ Takes codes) :
    attributes (bare (code :: codes)) = ⟨code,[]⟩ :: attributes (bare codes) := by
  show attributes (⟨code,[]⟩ :: bare codes) = _
  by_cases color : is_color code = true
  · rw [attributes,ite_self]
    · intro index more shape
      obtain ⟨_,rfl,first⟩ := bare_cons shape
      obtain ⟨_,rfl,_⟩ := bare_cons first
      exact untaken color takes_indexed
    · intro red green blue more shape
      obtain ⟨_,rfl,first⟩ := bare_cons shape
      obtain ⟨_,rfl,second⟩ := bare_cons first
      obtain ⟨_,rfl,third⟩ := bare_cons second
      obtain ⟨_,rfl,_⟩ := bare_cons third
      exact untaken color takes_direct
  · have other : ¬ ((⟨code,[]⟩ : Attribute).operands = [] ∧ is_color code = true) := fun both => color both.2
    rw [attributes.eq_def]
    exact if_neg other

/-- The attribute that comes first, and what is left. -/
theorem attributes_bare_cons (code : Nat) (codes : List Nat) : ∃ operands more,
    attributes (bare (code :: codes)) = ⟨code,operands⟩ :: attributes (bare more) ∧ codes = operands ++ more ∧
      ((operands = [] ∧ (is_color code = true → ¬ Takes codes)) ∨ (is_color code = true ∧ Complete operands)) := by
  by_cases taken : is_color code = true ∧ Takes codes
  · obtain ⟨color,operands,more,complete,rfl⟩ := taken
    refine ⟨operands,more,?_,rfl,.inr ⟨color,complete⟩⟩
    cases complete <;> exact if_pos ⟨rfl,color⟩
  · have untaken : is_color code = true → ¬ Takes codes := fun color takes => taken ⟨color,takes⟩
    exact ⟨[],codes,attributes_untaken untaken,rfl,.inl ⟨rfl,untaken⟩⟩

/-- The attribute is read as it stands when its numbers come before the others. -/
def Stands (a : Attribute) (after : List Nat) : Prop :=
  (a.operands = [] ∧ (is_color a.code = true → ¬ Takes after)) ∨ (is_color a.code = true ∧ Complete a.operands)

theorem reads_cons {a : Attribute} {found : List Attribute} : attributes (bare (numbers (a :: found))) = a :: found ↔
    Stands a (numbers found) ∧ attributes (bare (numbers found)) = found := by
  obtain ⟨operands,more,first,split,shape⟩ := attributes_bare_cons a.code (a.operands ++ numbers found)
  rw [numbers_cons,List.cons_append,first]
  constructor
  · intro same
    obtain ⟨here,rest⟩ := List.cons.inj same
    have own : a.operands = operands := by rw [← here]
    rw [own] at split
    have left : numbers found = more := List.append_cancel_left split
    rw [← left] at rest
    refine ⟨?_,rest⟩
    rw [own,left] at shape
    rcases shape with ⟨none,untaken⟩ | complete
    · rw [none] at untaken
      exact .inl ⟨own.trans none,by rw [left]; exact untaken⟩
    · exact .inr (by rw [own]; exact complete)
  · rintro ⟨stands,rest⟩
    have own : operands = a.operands ∧ more = numbers found := by
      rcases stands with ⟨none,untaken⟩ | ⟨color,complete⟩
      · rw [none,List.nil_append] at split shape
        rcases shape with ⟨empty,_⟩ | ⟨color,complete⟩
        · rw [empty,List.nil_append] at split
          exact ⟨empty.trans none.symm,split.symm⟩
        · exact absurd ⟨operands,more,complete,split⟩ (untaken color)
      · rcases shape with ⟨_,untaken⟩ | ⟨_,complete'⟩
        · exact absurd ⟨a.operands,numbers found,complete,rfl⟩ (untaken color)
        · exact complete_unique complete' complete split.symm
    rw [own.1,own.2,rest]

/-! ## What is replaced -/

/-- What stands for an attribute: reverse video is a foreground and a background. -/
def replaced (a : Attribute) : List Attribute :=
  if a = ⟨7,[]⟩ then [⟨38,[2,249,245,215]⟩,⟨48,[2,80,73,69]⟩]
  else if a = ⟨27,[]⟩ then [⟨39,[]⟩,⟨49,[]⟩]
  else [a]

/-- The numbers that the remapping writes for a number. -/
def remapped (code : Nat) : List Nat :=
  if code = 7 then [38,2,249,245,215,48,2,80,73,69] else if code = 27 then [39,49] else [code]

theorem remapped_spared {code : Nat} (not_reverse : code ≠ 7) (not_end : code ≠ 27) : remapped code = [code] := by
  rw [remapped,if_neg not_reverse,if_neg not_end]

theorem mem_remapped {code other : Nat} (member : other ∈ remapped code) : other ≠ 7 ∧ other ≠ 27 := by
  rw [remapped] at member
  split at member
  · revert other
    decide
  · split at member
    · revert other
      decide
    · rename_i not_reverse not_end
      rw [List.mem_singleton.mp member]
      exact ⟨not_reverse,not_end⟩

/-- Neither number is written. -/
theorem remapped_none (codes : List Nat) : 7 ∉ codes.flatMap remapped ∧ 27 ∉ codes.flatMap remapped := by
  constructor <;> intro member <;> obtain ⟨code,_,here⟩ := List.mem_flatMap.mp member
  · exact (mem_remapped here).1 rfl
  · exact (mem_remapped here).2 rfl

theorem flatMap_spared {codes : List Nat} (spared : 7 ∉ codes ∧ 27 ∉ codes) : codes.flatMap remapped = codes := by
  induction codes with
  | nil => rfl
  | cons code codes ih =>
    obtain ⟨reverse,ends⟩ := spared
    rw [List.flatMap_cons,remapped_spared (by rintro rfl; simp at reverse) (by rintro rfl; simp at ends),
      ih ⟨fun member => reverse (List.mem_cons_of_mem code member),fun member => ends (List.mem_cons_of_mem code member)⟩]
    rfl

theorem replaced_operands {a : Attribute} (operands : a.operands ≠ []) : replaced a = [a] := by
  rw [replaced,if_neg (by rintro rfl; exact operands rfl),if_neg (by rintro rfl; exact operands rfl)]

theorem numbers_replaced_bare (code : Nat) : numbers (replaced ⟨code,[]⟩) = remapped code := by
  by_cases reverse : code = 7
  · subst reverse
    rfl
  · by_cases ends : code = 27
    · subst ends
      rfl
    · rw [remapped_spared reverse ends,replaced,if_neg (by simpa using reverse),if_neg (by simpa using ends)]
      rfl

/-- No number that belongs to another is one of those that are replaced. -/
def Spared (a : Attribute) : Prop := a.operands = [] ∨ (7 ∉ a.code :: a.operands ∧ 27 ∉ a.code :: a.operands)

theorem numbers_replaced {found : List Attribute} (spared : ∀ a ∈ found, Spared a) :
    numbers (found.flatMap replaced) = (numbers found).flatMap remapped := by
  induction found with
  | nil => rfl
  | cons a found ih =>
    rw [List.flatMap_cons,numbers_append,ih (fun b member => spared b (List.mem_cons_of_mem a member)),numbers_cons,
      List.flatMap_append]
    congr 1
    by_cases none : a.operands = []
    · obtain ⟨code,operands⟩ := a
      cases none
      rw [numbers_replaced_bare]
      simp
    · have others := (spared a List.mem_cons_self).resolve_left none
      rw [replaced_operands none,flatMap_spared others]
      simp [numbers]

theorem spared_of_numbers {found : List Attribute} (reverse : 7 ∉ numbers (found.flatMap replaced))
    (ends : 27 ∉ numbers (found.flatMap replaced)) : ∀ a ∈ found, Spared a := by
  intro a member
  by_cases none : a.operands = []
  · exact .inl none
  · have inside : ∀ code ∈ a.code :: a.operands, code ∈ numbers (found.flatMap replaced) := by
      intro code own
      refine List.mem_flatMap.mpr ⟨a,List.mem_flatMap.mpr ⟨a,member,?_⟩,own⟩
      rw [replaced_operands none]
      exact List.mem_singleton_self a
    exact .inr ⟨fun own => reverse (inside 7 own),fun own => ends (inside 27 own)⟩

/-! ### What stands for numbers of which some are read as 0 -/

/-- A number, or 0 in its place. -/
def Reads (read code : Nat) : Prop := read = code ∨ read = 0

theorem remapped_length (code : Nat) : 1 ≤ (remapped code).length := by
  rw [remapped]
  split
  · decide
  · split <;> simp

theorem remapped_shorter {read code : Nat} (reads : Reads read code) : (remapped read).length ≤ (remapped code).length := by
  rcases reads with rfl | rfl
  · exact Nat.le_refl _
  · exact remapped_length code

theorem remapped_zero {read code : Nat} (reads : Reads read code) (same : remapped read = remapped code) : read = code := by
  rcases reads with same' | rfl
  · exact same'
  · by_cases reverse : code = 7
    · subst reverse
      cases same
    · by_cases ends : code = 27
      · subst ends
        cases same
      · rw [remapped_spared reverse ends] at same
        exact List.singleton_injective same

theorem remapped_all_shorter {read codes : List Nat} (reads : List.Forall₂ Reads read codes) :
    (read.flatMap remapped).length ≤ (codes.flatMap remapped).length := by
  induction reads with
  | nil => exact Nat.le_refl _
  | cons first rest ih =>
    rw [List.flatMap_cons,List.flatMap_cons,List.length_append,List.length_append]
    exact Nat.add_le_add (remapped_shorter first) ih

/-- Nothing else is written only when nothing is read as 0. -/
theorem remapped_injective {read codes : List Nat} (reads : List.Forall₂ Reads read codes)
    (same : read.flatMap remapped = codes.flatMap remapped) : read = codes := by
  induction reads with
  | nil => rfl
  | @cons one code read codes first rest ih =>
    rw [List.flatMap_cons,List.flatMap_cons] at same
    have lengths := congrArg List.length same
    rw [List.length_append,List.length_append] at lengths
    have short := remapped_shorter first
    have shorter := remapped_all_shorter rest
    obtain ⟨here,others⟩ := List.append_inj same (by omega)
    rw [remapped_zero first here,ih others]

/-! ### Colors that the numbers complete -/

/-- When 7 and 27 are replaced, the numbers begin with the operands of a color. -/
def Completing : List Nat → Prop
  | 5 :: rest => rest ≠ []
  | 2 :: rest => 3 ≤ rest.length ∨ 7 ∈ rest ∨ (27 ∈ rest ∧ 2 ≤ rest.length)
  | _ => False

theorem takes_iff {codes : List Nat} :
    Takes codes ↔ (∃ rest, codes = 5 :: rest ∧ rest ≠ []) ∨ ∃ rest, codes = 2 :: rest ∧ 3 ≤ rest.length := by
  constructor
  · rintro ⟨operands,more,complete,rfl⟩
    cases complete with
    | indexed index => exact .inl ⟨index :: more,rfl,List.cons_ne_nil _ _⟩
    | direct red green blue => exact .inr ⟨red :: green :: blue :: more,rfl,by simp⟩
  · rintro (⟨rest,rfl,some_there⟩ | ⟨rest,rfl,enough⟩)
    · obtain ⟨index,more,rfl⟩ := List.exists_cons_of_ne_nil some_there
      exact takes_indexed
    · match rest with
      | red :: green :: blue :: more => exact takes_direct
      | [] | [_] | [_,_] => simp at enough

theorem flatMap_remapped_length (codes : List Nat) :
    (codes.flatMap remapped).length = codes.length + 9 * codes.count 7 + codes.count 27 := by
  induction codes with
  | nil => rfl
  | cons code codes ih =>
    rw [List.flatMap_cons,List.length_append,ih,List.length_cons,List.count_cons,List.count_cons]
    by_cases reverse : code = 7
    · subst reverse
      simp [remapped]
      omega
    · by_cases ends : code = 27
      · subst ends
        simp [remapped]
        omega
      · rw [remapped_spared reverse ends]
        simp [reverse,ends]
        omega

theorem remapped_enough (codes : List Nat) :
    3 ≤ (codes.flatMap remapped).length ↔ 3 ≤ codes.length ∨ 7 ∈ codes ∨ (27 ∈ codes ∧ 2 ≤ codes.length) := by
  have few : codes.count 27 ≤ codes.length := List.count_le_length
  rw [flatMap_remapped_length,← List.count_pos_iff,← List.count_pos_iff]
  omega

theorem takes_remapped (codes : List Nat) : Takes (codes.flatMap remapped) ↔ Completing codes := by
  match codes with
  | [] => simp [takes_iff,Completing]
  | code :: rest =>
    by_cases reverse : code = 7
    · subst reverse
      simp [takes_iff,Completing,remapped]
    · by_cases ends : code = 27
      · subst ends
        simp [takes_iff,Completing,remapped]
      · rw [List.flatMap_cons,remapped_spared reverse ends,List.singleton_append,takes_iff]
        by_cases indexed : code = 5
        · subst indexed
          have some_there : rest.flatMap remapped = [] ↔ rest = [] := by
            rw [← List.length_eq_zero_iff,flatMap_remapped_length,← List.length_eq_zero_iff]
            have few : rest.count 7 ≤ rest.length := List.count_le_length
            have few' : rest.count 27 ≤ rest.length := List.count_le_length
            omega
          simp [Completing,some_there]
        · by_cases direct : code = 2
          · subst direct
            simp [Completing,← remapped_enough]
          · simp [Completing,indexed,direct]

/-! ## When the attributes are kept -/

/-- An attribute that the remapping leaves as it is, or replaces as a whole. The numbers are those after it. -/
def Kept (a : Attribute) (after : List Nat) : Prop :=
  (a.operands = [] ∧ (is_color a.code = true → ¬ Completing after)) ∨
    (is_color a.code = true ∧ Complete a.operands ∧ 7 ∉ a.operands ∧ 27 ∉ a.operands)

theorem reads_replaced {a : Attribute} {found : List Attribute} :
    attributes (bare (numbers (replaced a ++ found))) = replaced a ++ found ↔
      Stands a (numbers found) ∧ attributes (bare (numbers found)) = found := by
  by_cases reverse : a = ⟨7,[]⟩
  · subst reverse
    have foreground : ∀ after, Stands ⟨38,[2,249,245,215]⟩ after := fun _ => .inr ⟨rfl,.direct 249 245 215⟩
    have background : ∀ after, Stands ⟨48,[2,80,73,69]⟩ after := fun _ => .inr ⟨rfl,.direct 80 73 69⟩
    have stands : ∀ after, Stands ⟨7,[]⟩ after := fun _ => .inl ⟨rfl,fun color => absurd color (by decide)⟩
    show attributes (bare (numbers (⟨38,[2,249,245,215]⟩ :: ⟨48,[2,80,73,69]⟩ :: found))) = _ ↔ _
    rw [show replaced ⟨7,[]⟩ ++ found = ⟨38,[2,249,245,215]⟩ :: ⟨48,[2,80,73,69]⟩ :: found from rfl,reads_cons,reads_cons]
    simp only [foreground,background,stands,true_and]
  · by_cases ends : a = ⟨27,[]⟩
    · subst ends
      have stands : ∀ code after, is_color code = false → Stands ⟨code,[]⟩ after :=
        fun _ _ other => .inl ⟨rfl,fun color => absurd color (by rw [other]; decide)⟩
      show attributes (bare (numbers (⟨39,[]⟩ :: ⟨49,[]⟩ :: found))) = _ ↔ _
      rw [show replaced ⟨27,[]⟩ ++ found = ⟨39,[]⟩ :: ⟨49,[]⟩ :: found from rfl,reads_cons,reads_cons]
      simp only [stands 39 _ rfl,stands 49 _ rfl,stands 27 _ rfl,true_and]
    · rw [replaced,if_neg reverse,if_neg ends,List.singleton_append,reads_cons]

theorem reads_all_replaced (found : List Attribute) :
    attributes (bare (numbers (found.flatMap replaced))) = found.flatMap replaced ↔
      ∀ before a after, found = before ++ a :: after → Stands a (numbers (after.flatMap replaced)) := by
  induction found with
  | nil => exact ⟨fun _ before a after whole => by simp at whole,fun _ => rfl⟩
  | cons a found ih => rw [List.flatMap_cons,reads_replaced,ih,Suffixes.everywhere_cons]

/-- The numbers that are written have the attributes that they should have exactly when no number is read as
    another one and every attribute is kept. -/
theorem remapped_attributes {read : List Nat} {found : List Attribute} (reads : List.Forall₂ Reads read (numbers found)) :
    attributes (bare (read.flatMap remapped)) = found.flatMap replaced ↔
      read = numbers found ∧ ∀ before a after, found = before ++ a :: after → Kept a (numbers after) := by
  constructor
  · intro written
    have same : numbers (found.flatMap replaced) = read.flatMap remapped := by
      rw [← written,numbers_attributes,numbers_bare]
    have spared : ∀ a ∈ found, Spared a := by
      refine spared_of_numbers ?_ ?_
      · rw [same]
        exact (remapped_none read).1
      · rw [same]
        exact (remapped_none read).2
    rw [← same] at written
    have stands := (reads_all_replaced found).mp written
    rw [numbers_replaced spared] at same
    refine ⟨remapped_injective reads same.symm,?_⟩
    rintro before a after rfl
    have here := stands before a after rfl
    rw [numbers_replaced (fun b member => spared b (by simp [member]))] at here
    rcases here with ⟨none,untaken⟩ | ⟨color,complete⟩
    · exact .inl ⟨none,fun color completing => untaken color ((takes_remapped _).mpr completing)⟩
    · rcases spared a (by simp) with none | ⟨reverse,ends⟩
      · rw [none] at complete
        cases complete
      · exact .inr ⟨color,complete,fun own => reverse (List.mem_cons_of_mem _ own),
          fun own => ends (List.mem_cons_of_mem _ own)⟩
  · rintro ⟨rfl,kept⟩
    have spared : ∀ a ∈ found, Spared a := by
      intro a member
      obtain ⟨before,after,rfl⟩ := List.append_of_mem member
      rcases kept before a after rfl with ⟨none,_⟩ | ⟨color,complete,reverse,ends⟩
      · exact .inl none
      · refine .inr ⟨fun own => ?_,fun own => ?_⟩
        · rcases List.mem_cons.mp own with code | operand
          · rw [← code] at color
            cases color
          · exact reverse operand
        · rcases List.mem_cons.mp own with code | operand
          · rw [← code] at color
            cases color
          · exact ends operand
    rw [← numbers_replaced spared,reads_all_replaced]
    rintro before a after rfl
    rw [numbers_replaced (fun b member => spared b (by simp [member]))]
    rcases kept before a after rfl with ⟨none,untaken⟩ | ⟨color,complete,_⟩
    · exact .inl ⟨none,fun color takes => untaken color ((takes_remapped _).mp takes)⟩
    · exact .inr ⟨color,complete⟩

/-! ## Color sequences -/

/-- The number that digits stand for; no digits stand for 0. -/
def number (part : Str) : Nat := part.foldl (fun n c => n * 10 + (c - 0x30)) 0

/-- The numbers of a parameter: its own and those of its sub-parameters. -/
def parameter : List Nat → Attribute
  | [] => ⟨0,[]⟩
  | code :: operands => ⟨code,operands⟩

/-- The parameters between the semicolons, each with what stands between its colons. -/
def parameters (raw : Str) : List Attribute :=
  (raw.splitOn 0x3b).map (fun param => parameter ((param.splitOn 0x3a).map number))

def sgr_attributes (raw : Str) : List Attribute := attributes (parameters raw)

/-- The attributes of a text that is a color sequence. -/
def read_sgr (text : Str) : Option (List Attribute) :=
  match SGR_RE text with
  | some (raw,length) => if length = text.length then some (sgr_attributes raw) else none
  | none => none

/-- The texts of the numbers. -/
def parts (raw : Str) : List Str := (raw.splitOn 0x3b).flatMap (·.splitOn 0x3a)

theorem parts_cons (c : Nat) (raw : Str) :
    parts (c :: raw) = if c = 0x3b ∨ c = 0x3a then [] :: parts raw else (parts raw).modifyHead (List.cons c) := by
  obtain ⟨param,params,split⟩ := List.exists_cons_of_ne_nil (List.splitOn_ne_nil 0x3b raw)
  obtain ⟨first,rest,split'⟩ := List.exists_cons_of_ne_nil (List.splitOn_ne_nil 0x3a param)
  by_cases semicolon : c = 0x3b
  · rw [if_pos (.inl semicolon),parts,List.splitOn_cons_eq_if_modifyHead,if_pos (by simpa using semicolon),List.flatMap_cons]
    rfl
  · rw [parts,List.splitOn_cons_eq_if_modifyHead,if_neg (by simpa using semicolon),parts,split]
    simp only [List.modifyHead_cons,List.flatMap_cons]
    rw [List.splitOn_cons_eq_if_modifyHead,split']
    by_cases colon : c = 0x3a
    · rw [if_pos (by simpa using colon),if_pos (.inr colon)]
      rfl
    · rw [if_neg (by simpa using colon),if_neg (by simp [semicolon,colon])]
      rfl

theorem colons_split (raw : Str) : (raw.map (fun c => if c = 0x3a then 0x3b else c)).splitOn 0x3b = parts raw := by
  induction raw with
  | nil => rfl
  | cons c raw ih =>
    rw [List.map_cons,List.splitOn_cons_eq_if_modifyHead,ih,parts_cons]
    by_cases colon : c = 0x3a
    · simp [colon]
    · by_cases semicolon : c = 0x3b <;> simp [colon,semicolon]

theorem numbers_parameters (raw : Str) : numbers (parameters raw) = (parts raw).map number := by
  rw [parameters,parts,numbers,List.flatMap_map,List.map_flatMap]
  congr 1
  funext param
  obtain ⟨first,rest,split⟩ := List.exists_cons_of_ne_nil (List.splitOn_ne_nil 0x3a param)
  rw [split]
  rfl

theorem number_decimal (n : Nat) : number (decimal n) = n := by
  rw [number,decimal,List.foldl_map]
  have digits : (Nat.toDigits 10 n).foldl (fun m c => 10 * m + (c.toNat - '0'.toNat)) 0 = n := Nat.ofDigitChars_ten_toDigits
  simpa [Nat.mul_comm] using digits

theorem decimal_digits {n c : Nat} (member : c ∈ decimal n) : 0x30 ≤ c ∧ c ≤ 0x39 := by
  obtain ⟨digit,own,rfl⟩ := List.mem_map.mp member
  exact Char.isDigit_iff_toNat.mp (Nat.isDigit_of_mem_toDigits (by decide) (by decide) own)

/-- What the remapping writes, as the texts of numbers. -/
def written (codes : List Nat) : Str := [0x3b].intercalate (codes.map decimal)

theorem decimal_params (n : Nat) : ∀ c ∈ decimal n, is_param c = true := by
  intro c member
  obtain ⟨low,high⟩ := decimal_digits member
  simp [is_param,low,high]

theorem written_params (codes : List Nat) : ∀ c ∈ written codes, is_param c = true := by
  intro c member
  rcases Words.mem_intercalate member with separator | ⟨text,number,digit⟩
  · rw [List.mem_singleton.mp separator]
    rfl
  · obtain ⟨code,_,rfl⟩ := List.mem_map.mp number
    exact decimal_params code c digit

theorem parameters_written {codes : List Nat} (some_there : codes ≠ []) : parameters (written codes) = bare codes := by
  have apart : ∀ text ∈ codes.map decimal, 0x3b ∉ text := by
    intro text member own
    obtain ⟨n,_,rfl⟩ := List.mem_map.mp member
    exact absurd (decimal_digits own).2 (by decide)
  rw [parameters,written,List.splitOn_intercalate 0x3b apart (by simpa using some_there),List.map_map]
  refine List.map_congr_left (fun n _ => ?_)
  have whole : (decimal n).splitOn 0x3a = [decimal n] := by
    refine List.splitOn_eq_singleton (fun own => ?_)
    exact absurd (decimal_digits own).2 (by decide)
  simp only [Function.comp_apply,whole,List.map_cons,List.map_nil,number_decimal]
  rfl

/-- A color sequence of numbers has the attributes of its numbers. -/
theorem read_written {codes : List Nat} (some_there : codes ≠ []) :
    read_sgr ([ESC,0x5b] ++ written codes ++ [0x6d]) = some (attributes (bare codes)) := by
  have front : (written codes ++ [0x6d]).takeWhile is_param = written codes := by
    rw [List.takeWhile_append_of_pos (written_params codes)]
    simp [is_param]
  have back : (written codes ++ [0x6d]).dropWhile is_param = [0x6d] := by
    rw [List.dropWhile_append_of_pos (written_params codes)]
    rfl
  have found : SGR_RE ([ESC,0x5b] ++ written codes ++ [0x6d]) = some (written codes,(written codes).length + 3) := by
    show SGR_RE (ESC :: 0x5b :: (written codes ++ [0x6d])) = _
    simp only [SGR_RE,front,back]
    rfl
  rw [read_sgr,found]
  simp only [List.length_append,List.length_cons,List.length_nil,sgr_attributes,parameters_written some_there]
  exact if_pos (by omega)

theorem remap_written (raw : Str) : remap_sgr_for_lcd_terminal raw =
    [ESC,0x5b] ++ written ((parse_sgr_params raw).flatMap remapped) ++ [0x6d] := by
  have each : ∀ code, (if code = 7 then rgb_params 38 (249,245,215) ++ rgb_params 48 (80,73,69)
      else if code = 27 then [decimal 39,decimal 49] else [decimal code]) = (remapped code).map decimal := by
    intro code
    rw [remapped]
    split
    · rfl
    · split <;> rfl
  rw [remap_sgr_for_lcd_terminal,written,List.map_flatMap]
  simp only [each]

theorem parsed_reads (raw : Str) : List.Forall₂ Reads (parse_sgr_params raw) (numbers (sgr_attributes raw)) := by
  rw [sgr_attributes,numbers_attributes,numbers_parameters,parse_sgr_params,colons_split]
  generalize parts raw = texts
  induction texts with
  | nil => exact .nil
  | cons part texts ih =>
    refine .cons ?_ ih
    rw [parse_param]
    split
    · exact .inr rfl
    · exact .inl rfl

/-- Every number is read. -/
theorem parsed_same (raw : Str) : parse_sgr_params raw = numbers (sgr_attributes raw) ↔
    ∀ part ∈ parts raw, part.length ≤ 4300 ∨ number part = 0 := by
  rw [sgr_attributes,numbers_attributes,numbers_parameters,parse_sgr_params,colons_split,List.map_inj_left]
  refine forall₂_congr (fun part _ => ?_)
  rw [parse_param]
  split
  · rename_i long
    exact ⟨fun same => .inr same.symm,fun either => (either.resolve_left (by omega)).symm⟩
  · rename_i short
    exact ⟨fun _ => .inl (by omega),fun _ => rfl⟩

/-- The remapping for the LCD keeps all attributes but reverse video, which it replaces, exactly when it reads every
    number and every attribute is kept. -/
theorem remap_keeps_attributes_iff (raw : Str) :
    read_sgr (remap_sgr_for_lcd_terminal raw) = some ((sgr_attributes raw).flatMap replaced) ↔
      (∀ part ∈ parts raw, part.length ≤ 4300 ∨ number part = 0) ∧
        ∀ before a after, sgr_attributes raw = before ++ a :: after → Kept a (numbers after) := by
  have some_there : (parse_sgr_params raw).flatMap remapped ≠ [] := by
    rw [parse_sgr_params]
    obtain ⟨first,rest,split⟩ :=
      List.exists_cons_of_ne_nil (List.splitOn_ne_nil 0x3b (raw.map (fun c => if c = 0x3a then 0x3b else c)))
    rw [split,List.map_cons,List.flatMap_cons]
    refine List.append_ne_nil_of_left_ne_nil (List.ne_nil_of_length_pos ?_) _
    exact remapped_length _
  rw [remap_written,read_written some_there,Option.some_inj,remapped_attributes (parsed_reads raw),parsed_same]

/-- White of the table of colors. -/
theorem remap_breaks_color : ¬ ∀ text raw length, SGR_RE text = some (raw,length) →
    read_sgr (remap_sgr_for_lcd_terminal raw) = some ((sgr_attributes raw).flatMap replaced) := by
  intro all
  have wrong := all (str "\x1b[38;5;7m") (str "38;5;7") 9 (by decide)
  revert wrong
  decide

end VibeBridge.Python.Lcd
