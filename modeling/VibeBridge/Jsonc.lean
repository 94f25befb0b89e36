import Mathlib.Data.List.TakeWhile

/-!
The tokens of JSON with comments: string literals, comments, and the characters
outside of both. A literal ends at the first quote that is not escaped, a comment
at the end of its line or at the first `*/`, and both may lack their end. Every
text is read in exactly one way (`reads_exists`, `reads_unique`), and what is left
when the comments are taken out is read as the other tokens (`reads_kept`): where a
slash stands before a comment, they are not two tokens.
-/
namespace Jsonc

inductive Token
  | char (c : Char)
  | literal (text : List Char)
  | comment (text : List Char)

def Token.text : Token → List Char
  | .char c => [c]
  | .literal text => text
  | .comment text => text

def Token.is_comment : Token → Bool
  | .comment _ => true
  | _ => false

/-- The text of some tokens. -/
def written (tokens : List Token) : List Char := tokens.flatMap Token.text

/-- The tokens that are no comments. -/
def kept (tokens : List Token) : List Token := tokens.filter (fun token => !token.is_comment)

/-- The literals among some tokens, in their order. -/
def literals (tokens : List Token) : List (List Char) := tokens.filterMap fun token =>
  match token with
  | .literal text => some text
  | _ => none

/-- What follows the quote that opens a literal, up to the one that closes it. -/
inductive Body : List Char → Prop
  | close : Body ['"']
  | escape (c : Char) {rest : List Char} : Body rest → Body ('\\' :: c :: rest)
  | char {c : Char} {rest : List Char} : c ≠ '"' → c ≠ '\\' → Body rest → Body (c :: rest)

/-- What follows the quote of a literal that is not closed. -/
inductive Open : List Char → Prop
  | nil : Open []
  | backslash : Open ['\\']
  | escape (c : Char) {rest : List Char} : Open rest → Open ('\\' :: c :: rest)
  | char {c : Char} {rest : List Char} : c ≠ '"' → c ≠ '\\' → Open rest → Open (c :: rest)

/-- The end of a comment begins here. -/
def Ends (c : Char) (rest : List Char) : Prop := c = '*' ∧ rest.head? = some '/'

/-- What follows the beginning of a comment, up to its end. -/
inductive Closes : List Char → Prop
  | close : Closes ['*','/']
  | char {c : Char} {rest : List Char} : ¬ Ends c rest → Closes rest → Closes (c :: rest)

/-- What follows the beginning of a comment that does not end. -/
inductive Unclosed : List Char → Prop
  | nil : Unclosed []
  | char {c : Char} {rest : List Char} : ¬ Ends c rest → Unclosed rest → Unclosed (c :: rest)

/-- A comment begins here. -/
def Opens (c : Char) (rest : List Char) : Prop := c = '/' ∧ (rest.head? = some '/' ∨ rest.head? = some '*')

/-- A text and its tokens. The newline at the end of a comment is not part of it. -/
inductive Reads : List Char → List Token → Prop
  | nil : Reads [] []
  | char {c : Char} {rest : List Char} {tokens : List Token} :
      c ≠ '"' → ¬ Opens c rest → Reads rest tokens → Reads (c :: rest) (.char c :: tokens)
  | literal {body rest : List Char} {tokens : List Token} :
      Body body → Reads rest tokens → Reads ('"' :: (body ++ rest)) (.literal ('"' :: body) :: tokens)
  | open_literal {body : List Char} : Open body → Reads ('"' :: body) [.literal ('"' :: body)]
  | line {body rest : List Char} {tokens : List Token} :
      '\n' ∉ body → (∀ c, rest.head? = some c → c = '\n') → Reads rest tokens →
        Reads ('/' :: '/' :: (body ++ rest)) (.comment ('/' :: '/' :: body) :: tokens)
  | block {body rest : List Char} {tokens : List Token} :
      Closes body → Reads rest tokens → Reads ('/' :: '*' :: (body ++ rest)) (.comment ('/' :: '*' :: body) :: tokens)
  | open_block {body : List Char} : Unclosed body → Reads ('/' :: '*' :: body) [.comment ('/' :: '*' :: body)]

variable {text body body' rest rest' : List Char} {tokens tokens' : List Token} {c : Char}

/-! ## Every text is read -/

theorem literal_exists : ∀ text : List Char, Open text ∨ ∃ body rest, text = body ++ rest ∧ Body body
  | [] => .inl .nil
  | [c] => by
    by_cases quote : c = '"'
    · exact .inr ⟨['"'],[],by rw [quote]; rfl,.close⟩
    · by_cases slash : c = '\\'
      · exact .inl (slash ▸ .backslash)
      · exact .inl (.char quote slash .nil)
  | c :: d :: rest => by
    by_cases quote : c = '"'
    · exact .inr ⟨['"'],d :: rest,by rw [quote]; rfl,.close⟩
    · by_cases slash : c = '\\'
      · subst slash
        rcases literal_exists rest with endless | ⟨body,after,rfl,closed⟩
        · exact .inl (.escape d endless)
        · exact .inr ⟨'\\' :: d :: body,after,rfl,.escape d closed⟩
      · rcases literal_exists (d :: rest) with endless | ⟨body,after,split,closed⟩
        · exact .inl (.char quote slash endless)
        · exact .inr ⟨c :: body,after,by rw [split]; rfl,.char quote slash closed⟩

theorem closes_some (closed : Closes body) : body ≠ [] := by
  cases closed <;> simp

theorem block_exists (text : List Char) : Unclosed text ∨ ∃ body rest, text = body ++ rest ∧ Closes body := by
  induction text with
  | nil => exact .inl .nil
  | cons c text ih =>
    by_cases ends : Ends c text
    · obtain ⟨rfl,slash⟩ := ends
      obtain ⟨rest,rfl⟩ := List.head?_eq_some_iff.mp slash
      exact .inr ⟨['*','/'],rest,rfl,.close⟩
    · rcases ih with endless | ⟨body,rest,rfl,closed⟩
      · exact .inl (.char ends endless)
      · refine .inr ⟨c :: body,rest,rfl,.char ?_ closed⟩
        rintro ⟨star,slash⟩
        obtain ⟨more,rfl⟩ := List.head?_eq_some_iff.mp slash
        exact ends ⟨star,rfl⟩

/-- A line ends before its first newline. -/
theorem line_exists (text : List Char) : ∃ body rest, text = body ++ rest ∧ '\n' ∉ body ∧ ∀ c, rest.head? = some c → c = '\n' := by
  refine ⟨text.takeWhile (· ≠ '\n'),text.dropWhile (· ≠ '\n'),List.takeWhile_append_dropWhile.symm,?_,?_⟩
  · intro member
    have other := List.mem_takeWhile_imp member
    simp at other
  · intro c first
    have stopped := List.head?_dropWhile_not (fun c => decide (c ≠ '\n')) text
    rw [first] at stopped
    simpa using stopped

/-- Every text is read. -/
theorem reads_exists (text : List Char) : ∃ tokens, Reads text tokens := by
  induction size : text.length using Nat.strong_induction_on generalizing text with
  | _ n ih =>
    have shorter (rest : List Char) (less : rest.length < n) : ∃ tokens, Reads rest tokens := ih rest.length less rest rfl
    cases text with
    | nil => exact ⟨[],.nil⟩
    | cons c rest =>
      rw [List.length_cons] at size
      by_cases quote : c = '"'
      · subst quote
        rcases literal_exists rest with endless | ⟨body,after,rfl,closed⟩
        · exact ⟨_,.open_literal endless⟩
        · obtain ⟨tokens,reads⟩ := shorter after (by rw [List.length_append] at size; omega)
          exact ⟨_,.literal closed reads⟩
      · by_cases opens : Opens c rest
        · obtain ⟨rfl,slash | star⟩ := opens
          · obtain ⟨more,rfl⟩ := List.head?_eq_some_iff.mp slash
            obtain ⟨body,after,rfl,whole,ends⟩ := line_exists more
            obtain ⟨tokens,reads⟩ := shorter after (by simp only [List.length_cons,List.length_append] at size; omega)
            exact ⟨_,.line whole ends reads⟩
          · obtain ⟨more,rfl⟩ := List.head?_eq_some_iff.mp star
            rcases block_exists more with endless | ⟨body,after,rfl,closed⟩
            · exact ⟨_,.open_block endless⟩
            · obtain ⟨tokens,reads⟩ := shorter after (by simp only [List.length_cons,List.length_append] at size; omega)
              exact ⟨_,.block closed reads⟩
        · obtain ⟨tokens,reads⟩ := shorter rest (by omega)
          exact ⟨_,.char quote opens reads⟩

/-! ## It is read in one way -/

theorem body_unique (closed : Body body) (closed' : Body body') (same : body ++ rest = body' ++ rest') : body = body' := by
  induction closed generalizing body' with
  | close =>
    cases closed' with
    | close => rfl
    | escape c closed' => cases same
    | char quote slash closed' =>
      cases same
      exact absurd rfl quote
  | escape c closed ih =>
    cases closed' with
    | close => cases same
    | escape d closed' =>
      obtain ⟨_,tail⟩ := List.cons_eq_cons.mp same
      obtain ⟨rfl,after⟩ := List.cons_eq_cons.mp tail
      rw [ih closed' after]
    | char quote slash closed' =>
      obtain ⟨rfl,_⟩ := List.cons_eq_cons.mp same
      exact absurd rfl slash
  | char quote slash closed ih =>
    cases closed' with
    | close =>
      cases same
      exact absurd rfl quote
    | escape d closed' =>
      obtain ⟨rfl,_⟩ := List.cons_eq_cons.mp same
      exact absurd rfl slash
    | char quote' slash' closed' =>
      obtain ⟨rfl,tail⟩ := List.cons_eq_cons.mp same
      rw [ih closed' tail]

theorem open_endless (endless : Open text) (closed : Body body) : text ≠ body ++ rest := by
  intro same
  induction closed generalizing text with
  | close =>
    cases endless with
    | nil | backslash | escape => cases same
    | char quote slash endless =>
      cases same
      exact quote rfl
  | escape c closed ih =>
    cases endless with
    | nil | backslash => cases same
    | escape d endless =>
      obtain ⟨_,tail⟩ := List.cons_eq_cons.mp same
      exact ih endless (List.cons_eq_cons.mp tail).2
    | char quote slash endless =>
      cases same
      exact slash rfl
  | char quote slash closed ih =>
    cases endless with
    | nil => cases same
    | backslash | escape =>
      obtain ⟨rfl,_⟩ := List.cons_eq_cons.mp same
      exact slash rfl
    | char quote' slash' endless => exact ih endless (List.cons_eq_cons.mp same).2

/-- Where a comment goes on after an asterisk, no slash comes next. -/
theorem star_slash (goes_on : ¬ Ends '*' body) (closed : Closes body) : body ++ rest ≠ '/' :: rest' := by
  intro same
  cases body with
  | nil => exact closes_some closed rfl
  | cons c body =>
    cases same
    exact goes_on ⟨rfl,rfl⟩

theorem closes_unique (closed : Closes body) (closed' : Closes body') (same : body ++ rest = body' ++ rest') : body = body' := by
  induction closed generalizing body' with
  | close =>
    cases closed' with
    | close => rfl
    | char goes_on closed' =>
      obtain ⟨rfl,tail⟩ := List.cons_eq_cons.mp same
      exact absurd tail.symm (star_slash goes_on closed')
  | char goes_on closed ih =>
    cases closed' with
    | close =>
      obtain ⟨rfl,tail⟩ := List.cons_eq_cons.mp same
      exact absurd tail (star_slash goes_on closed)
    | char goes_on' closed' =>
      obtain ⟨rfl,tail⟩ := List.cons_eq_cons.mp same
      rw [ih closed' tail]

theorem unclosed_endless (endless : Unclosed text) (closed : Closes body) : text ≠ body ++ rest := by
  intro same
  induction closed generalizing text with
  | close =>
    cases endless with
    | nil => cases same
    | char goes_on endless =>
      cases same
      exact goes_on ⟨rfl,rfl⟩
  | char goes_on closed ih =>
    cases endless with
    | nil => cases same
    | char goes_on' endless => exact ih endless (List.cons_eq_cons.mp same).2

theorem line_unique (whole : '\n' ∉ body) (ends : ∀ c, rest.head? = some c → c = '\n') :
    (body ++ rest).takeWhile (· ≠ '\n') = body := by
  have inside : ∀ c ∈ body, decide (c ≠ '\n') = true := by
    intro c member
    rw [decide_eq_true_eq]
    rintro rfl
    exact whole member
  rw [List.takeWhile_append_of_pos inside]
  cases rest with
  | nil => simp
  | cons c rest =>
    obtain rfl := ends c rfl
    simp

/-- The first token of a text, by how the text begins. -/
theorem reads_char (quote : c ≠ '"') (shut : ¬ Opens c rest) (reads : Reads (c :: rest) tokens) :
    ∃ later, tokens = .char c :: later ∧ Reads rest later := by
  cases reads with
  | char _ _ later => exact ⟨_,rfl,later⟩
  | literal | open_literal => exact absurd rfl quote
  | line => exact absurd ⟨rfl,.inl rfl⟩ shut
  | block | open_block => exact absurd ⟨rfl,.inr rfl⟩ shut

theorem reads_quote (reads : Reads ('"' :: text) tokens) :
    (Open text ∧ tokens = [.literal ('"' :: text)]) ∨ ∃ body rest later, text = body ++ rest ∧ Body body ∧
      tokens = .literal ('"' :: body) :: later ∧ Reads rest later := by
  cases reads with
  | char quote _ _ => exact absurd rfl quote
  | literal closed later => exact .inr ⟨_,_,_,rfl,closed,rfl,later⟩
  | open_literal endless => exact .inl ⟨endless,rfl⟩

theorem reads_line (reads : Reads ('/' :: '/' :: text) tokens) : ∃ body rest later, text = body ++ rest ∧ '\n' ∉ body ∧
    (∀ c, rest.head? = some c → c = '\n') ∧ tokens = .comment ('/' :: '/' :: body) :: later ∧ Reads rest later := by
  cases reads with
  | char _ shut _ => exact absurd ⟨rfl,.inl rfl⟩ shut
  | line whole ends later => exact ⟨_,_,_,rfl,whole,ends,rfl,later⟩

theorem reads_block (reads : Reads ('/' :: '*' :: text) tokens) :
    (Unclosed text ∧ tokens = [.comment ('/' :: '*' :: text)]) ∨ ∃ body rest later, text = body ++ rest ∧ Closes body ∧
      tokens = .comment ('/' :: '*' :: body) :: later ∧ Reads rest later := by
  cases reads with
  | char _ shut _ => exact absurd ⟨rfl,.inr rfl⟩ shut
  | block closed later => exact .inr ⟨_,_,_,rfl,closed,rfl,later⟩
  | open_block endless => exact .inl ⟨endless,rfl⟩

/-- A text has one row of tokens. -/
theorem reads_unique (reads : Reads text tokens) (reads' : Reads text tokens') : tokens = tokens' := by
  induction reads generalizing tokens' with
  | nil =>
    cases reads'
    rfl
  | char quote shut reads ih =>
    obtain ⟨later,rfl,later_reads⟩ := reads_char quote shut reads'
    rw [ih later_reads]
  | literal closed reads ih =>
    rcases reads_quote reads' with ⟨endless,_⟩ | ⟨body,rest,later,split,closed',rfl,later_reads⟩
    · exact absurd rfl (open_endless endless closed)
    · obtain rfl := body_unique closed closed' split
      obtain rfl := List.append_cancel_left split
      rw [ih later_reads]
  | open_literal endless =>
    rcases reads_quote reads' with ⟨_,rfl⟩ | ⟨body,rest,later,split,closed,_⟩
    · rfl
    · exact absurd split (open_endless endless closed)
  | line whole ends reads ih =>
    obtain ⟨body,rest,later,split,whole',ends',rfl,later_reads⟩ := reads_line reads'
    obtain rfl := (line_unique whole ends).symm.trans (Eq.trans (by rw [split]) (line_unique whole' ends'))
    obtain rfl := List.append_cancel_left split
    rw [ih later_reads]
  | block closed reads ih =>
    rcases reads_block reads' with ⟨endless,_⟩ | ⟨body,rest,later,split,closed',rfl,later_reads⟩
    · exact absurd rfl (unclosed_endless endless closed)
    · obtain rfl := closes_unique closed closed' split
      obtain rfl := List.append_cancel_left split
      rw [ih later_reads]
  | open_block endless =>
    rcases reads_block reads' with ⟨_,rfl⟩ | ⟨body,rest,later,split,closed,_⟩
    · rfl
    · exact absurd split (unclosed_endless endless closed)

/-! ## Without the comments -/

theorem written_cons (token : Token) (tokens : List Token) : written (token :: tokens) = token.text ++ written tokens :=
  List.flatMap_cons

/-- The tokens are the text. -/
theorem reads_written (reads : Reads text tokens) : written tokens = text := by
  induction reads with
  | nil => rfl
  | char _ _ _ ih | literal _ _ ih | line _ _ _ ih | block _ _ ih => rw [written_cons,ih]; rfl
  | open_literal _ | open_block _ => rw [written_cons]; exact List.append_nil _

/-- Where no comment can begin, the text without its comments begins as the text does. -/
theorem kept_first (reads : Reads text tokens) (other : text.head? ≠ some '/') : (written (kept tokens)).head? = text.head? := by
  cases reads with
  | nil | char | literal | open_literal => rfl
  | line | block | open_block => exact absurd rfl other

theorem kept_cons_comment (body : List Char) (tokens : List Token) : kept (.comment body :: tokens) = kept tokens := rfl

/-- Without its comments a text is read as the other tokens. -/
theorem reads_kept (reads : Reads text tokens) : Reads (written (kept tokens)) (kept tokens) := by
  induction reads with
  | nil => exact .nil
  | char quote shut reads ih =>
    refine .char quote ?_ ih
    rintro ⟨rfl,opens⟩
    have first := kept_first reads (fun slash => shut ⟨rfl,.inl slash⟩)
    refine shut ⟨rfl,?_⟩
    rw [← first]
    exact opens
  | literal closed reads ih => exact .literal closed ih
  | open_literal endless =>
    change Reads (written [_]) [_]
    rw [reads_written (.open_literal endless)]
    exact .open_literal endless
  | line _ _ _ ih | block _ _ ih =>
    rw [kept_cons_comment]
    exact ih
  | open_block _ => exact .nil

theorem kept_literals (tokens : List Token) : literals (kept tokens) = literals tokens := by
  induction tokens with
  | nil => rfl
  | cons token tokens ih =>
    cases token with
    | comment text => exact ih
    | char c => exact ih
    | literal text => exact congrArg (text :: ·) ih

theorem kept_kept (tokens : List Token) : kept (kept tokens) = kept tokens := by
  rw [kept,kept,List.filter_filter]
  simp only [Bool.and_self]

/-- A slash among the tokens opens no comment. -/
theorem reads_shut {before after : List Token} (reads : Reads text (before ++ .char c :: after)) : ¬ Opens c (written after) := by
  induction before generalizing text with
  | nil =>
    cases reads with
    | char quote shut later => rwa [reads_written later]
  | cons token before ih =>
    rw [List.cons_append] at reads
    generalize all : before ++ .char c :: after = others at reads
    have some_there : others ≠ [] := by
      rw [← all]
      exact List.append_ne_nil_of_right_ne_nil _ (List.cons_ne_nil _ _)
    cases reads with
    | char _ _ later | literal _ later | line _ _ later | block _ later =>
      rw [← all] at later
      exact ih later
    | open_literal | open_block => exact absurd rfl some_there

end Jsonc
