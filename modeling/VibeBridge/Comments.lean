import VibeBridge.Jsonc
import VibeBridge.TerminalProfiles

/-!
Settings without their comments. The stripper leaves out the comments of a text
and nothing else (`strip_reads`), so the string literals stay as they are, and
there is nothing to strip a second time (`strip_jsonc_comments_correct`).
-/
namespace VibeBridge.TerminalProfiles
open Jsonc

variable {text body rest : List Char} {tokens : List Token} {c : Char}

/-! ## The places of the loop -/

theorem strip_char (quote : c ≠ '"') (shut : ¬ Opens c rest) : strip_from .outside (c :: rest) = c :: strip_from .outside rest := by
  rw [strip_from,if_neg quote]
  · rintro more rfl rfl
    exact shut ⟨rfl,.inl rfl⟩
  · rintro more rfl rfl
    exact shut ⟨rfl,.inr rfl⟩

theorem strip_quote (text : List Char) : strip_from .outside ('"' :: text) = '"' :: strip_from (.string false) text := by
  rw [strip_from,if_pos rfl]
  · rintro more same
    cases same
  · rintro more same
    cases same

theorem strip_escape (c : Char) (rest : List Char) :
    strip_from (.string false) ('\\' :: c :: rest) = '\\' :: c :: strip_from (.string false) rest := by
  rw [strip_from,if_neg (by decide),if_pos rfl,strip_from,if_pos rfl]

theorem strip_literal (quote : c ≠ '"') (slash : c ≠ '\\') :
    strip_from (.string false) (c :: rest) = c :: strip_from (.string false) rest := by
  rw [strip_from,if_neg (by decide),if_neg slash,if_neg quote]

theorem strip_body (closed : Body body) : strip_from (.string false) (body ++ rest) = body ++ strip_from .outside rest := by
  induction closed with
  | close => rfl
  | escape c closed ih => rw [List.cons_append,List.cons_append,strip_escape,ih,List.cons_append,List.cons_append]
  | char quote slash closed ih => rw [List.cons_append,strip_literal quote slash,ih,List.cons_append]

theorem strip_open (endless : Open body) : strip_from (.string false) body = body := by
  induction endless with
  | nil | backslash => rfl
  | escape c endless ih => rw [strip_escape,ih]
  | char quote slash endless ih => rw [strip_literal quote slash,ih]

theorem strip_line (whole : '\n' ∉ body) (ends : ∀ c, rest.head? = some c → c = '\n') :
    strip_from .line (body ++ rest) = strip_from .outside rest := by
  induction body with
  | nil =>
    cases rest with
    | nil => rfl
    | cons c rest =>
      obtain rfl := ends c rfl
      have shut : ¬ Opens '\n' rest := fun opens => absurd opens.1 (by decide)
      rw [List.nil_append,strip_from,if_pos rfl,strip_char (by decide) shut]
  | cons c body ih =>
    rw [List.mem_cons,not_or] at whole
    rw [List.cons_append,strip_from,if_neg (Ne.symm whole.1),ih whole.2]

theorem strip_closes (closed : Closes body) {prev : Char} (goes_on : ¬ Ends prev body) :
    strip_from (.block prev) (body ++ rest) = strip_from .outside rest := by
  induction closed generalizing prev with
  | close =>
    have first : ¬ (prev = '*' ∧ '*' = '/') := fun both => absurd both.2 (by decide)
    rw [List.cons_append,strip_from,if_neg first,List.cons_append,strip_from,if_pos ⟨rfl,rfl⟩]
    rfl
  | char goes_on' closed ih =>
    rw [List.cons_append,strip_from,if_neg ?_,ih goes_on']
    rintro ⟨star,rfl⟩
    exact goes_on ⟨star,rfl⟩

theorem strip_unclosed (endless : Unclosed body) {prev : Char} (goes_on : ¬ Ends prev body) :
    strip_from (.block prev) body = [] := by
  induction endless generalizing prev with
  | nil => rfl
  | char goes_on' endless ih =>
    rw [strip_from,if_neg ?_,ih goes_on']
    rintro ⟨star,rfl⟩
    exact goes_on ⟨star,rfl⟩

/-! ## Whole texts -/

/-- The comments are left out, and nothing else. -/
theorem strip_reads (reads : Reads text tokens) : strip_from .outside text = written (kept tokens) := by
  have fresh (body : List Char) : ¬ Ends '\x00' body := fun ends => absurd ends.1 (by decide)
  induction reads with
  | nil => rfl
  | char quote shut reads ih =>
    rw [strip_char quote shut,ih]
    rfl
  | literal closed reads ih =>
    rw [strip_quote,strip_body closed,ih]
    rfl
  | open_literal endless =>
    rw [strip_quote,strip_open endless]
    exact (List.append_nil _).symm
  | line whole ends reads ih =>
    rw [strip_from,strip_line whole ends,ih]
    rfl
  | block closed reads ih =>
    rw [strip_from,strip_closes closed (fresh _),ih]
    rfl
  | open_block endless =>
    rw [strip_from,strip_unclosed endless (fresh _)]
    rfl

theorem strip_jsonc_reads {input : String} (reads : Reads input.toList tokens) :
    (strip_jsonc_comments input).toList = written (kept tokens) := by
  rw [strip_jsonc_comments,String.toList_ofList,strip_reads reads]

theorem strip_uncommented_reads {input : String} (reads : Reads input.toList tokens) (none : kept tokens = tokens) :
    strip_jsonc_comments input = input := by
  apply String.toList_inj.mp
  rw [strip_jsonc_reads reads,none,reads_written reads]

/-- A text has one row of tokens, and so has what is stripped of it: those of the text that are no comments, the
    literals among them in their order. No slash among them opens a comment; a text without comments stays, and so does
    what was stripped. -/
theorem strip_jsonc_comments_correct (input : String) : ∃ tokens,
    (∀ others, Reads input.toList others ↔ others = tokens) ∧
      (∀ others, Reads (strip_jsonc_comments input).toList others ↔ others = kept tokens) ∧
      literals (kept tokens) = literals tokens ∧
      ((∀ token ∈ tokens, token.is_comment = false) → strip_jsonc_comments input = input) ∧
      (∀ before c after, kept tokens = before ++ .char c :: after → ¬ Opens c (written after)) ∧
      strip_jsonc_comments (strip_jsonc_comments input) = strip_jsonc_comments input := by
  obtain ⟨tokens,reads⟩ := reads_exists input.toList
  have stripped : Reads (strip_jsonc_comments input).toList (kept tokens) := by
    rw [strip_jsonc_reads reads]
    exact reads_kept reads
  refine ⟨tokens,?_,?_,kept_literals tokens,?_,?_,strip_uncommented_reads stripped (kept_kept tokens)⟩
  · intro others
    exact ⟨fun other => reads_unique other reads,fun same => same ▸ reads⟩
  · intro others
    exact ⟨fun other => reads_unique other stripped,fun same => same ▸ stripped⟩
  · intro none
    have all : kept tokens = tokens := List.filter_eq_self.mpr (fun token member => by rw [none token member]; rfl)
    exact strip_uncommented_reads reads all
  · intro before c after split
    rw [split] at stripped
    exact reads_shut stripped

example : strip_jsonc_comments "[\"a//b\", /* \" */ 1] // c" = "[\"a//b\",  1] " := by decide

end VibeBridge.TerminalProfiles
