import VibeBridge.Python.LcdChunks

/-!
The whole adapter on a stream of bytes that is cut into chunks. The decoder, the
replacement of characters, the remapping of colors and the encoding do not see the
cuts, wherever they are; the rendering of tables is what decides (`fed_in_chunks`).
-/
namespace VibeBridge.Python.Lcd
open VibeBridge.Transducer

/-- The decoder gives the same text however its bytes are cut. -/
structure IncrementalDecoder.Incremental (decoder : IncrementalDecoder) : Prop where
  nothing : ∀ state, decoder.decode state [] = ([],state)
  joins : ∀ state data more,
    follow (decoder.decode state data) (fun after => decoder.decode after more) = decoder.decode state (data ++ more)

theorem encode_append (text more : Str) : encode (text ++ more) = encode text ++ encode more := List.flatMap_append

theorem translate_append (text more : Str) : translate (text ++ more) = translate text ++ translate more :=
  List.flatMap_append

theorem translate_flatten (texts : List Str) : (texts.map translate).flatten = translate texts.flatten := by
  induction texts with
  | nil => rfl
  | cons text texts ih => rw [List.map_cons,List.flatten_cons,ih,List.flatten_cons,translate_append]

/-- No character is replaced by nothing. -/
theorem translate_some {text : Str} (some_there : text ≠ []) : translate text ≠ [] := by
  obtain ⟨c,rest,rfl⟩ := List.exists_cons_of_ne_nil some_there
  have replaced : ∀ entry ∈ LCD_CHAR_REPLACEMENTS, str entry.2 ≠ [] := by decide
  intro nothing
  rw [translate,List.flatMap_cons,List.append_eq_nil_iff] at nothing
  obtain ⟨first,_⟩ := nothing
  split at first
  · rename_i entry replacement found
    exact replaced (entry,replacement) (List.mem_of_find?_eq_some found) first
  · cases first

/-- The texts of the chunks that are decoded to any, with their characters replaced. -/
def texts_from (decoder : IncrementalDecoder) (state : decoder.State) (chunks : List (List UInt8)) : List Str :=
  ((outputs decoder.decode state chunks).filter (fun text => !text.isEmpty)).map translate

def texts (decoder : IncrementalDecoder) (chunks : List (List UInt8)) : List Str := texts_from decoder decoder.start chunks

/-- The text of a stream. -/
def text_of (decoder : IncrementalDecoder) (data : List UInt8) : Str := translate (decoder.decode decoder.start data).1

theorem texts_there (decoder : IncrementalDecoder) (chunks : List (List UInt8)) : ∀ text ∈ texts decoder chunks, text ≠ [] := by
  intro text member
  obtain ⟨decoded,found,rfl⟩ := List.mem_map.mp member
  rw [List.mem_filter] at found
  exact translate_some (by simpa using found.2)

theorem texts_flatten {decoder : IncrementalDecoder} (incremental : decoder.Incremental) (chunks : List (List UInt8)) :
    (texts decoder chunks).flatten = text_of decoder chunks.flatten := by
  have whole : run decoder.decode decoder.start chunks = decoder.decode decoder.start chunks.flatten :=
    run_additive (P := fun _ => True) (fun _ _ _ => trivial) (fun state _ => incremental.nothing state)
      (fun state data more _ => incremental.joins state data more) trivial chunks
  rw [texts,texts_from,translate_flatten,List.flatten_filter_not_isEmpty,outputs_flatten,whole,text_of]

/-- A run of the adapter is one of the rendering, and then one of the remapping. -/
theorem feed_all_texts {decoder : IncrementalDecoder} (self : LcdOutputAdapter decoder) (chunks : List (List UInt8)) :
    (self.feed_all chunks).1 = encode (run (apply_colors self.theme) self.colors
      (outputs render_live_markdown self.markdown (texts_from decoder self.decoder_state chunks))).1 := by
  rw [LcdOutputAdapter.feed_all]
  induction chunks generalizing self with
  | nil => rfl
  | cons data chunks ih =>
    obtain ⟨state,markdown,theme,colors⟩ := self
    rw [run,follow_fst,ih]
    cases text : (decoder.decode state data).1 with
    | nil =>
      have fed : LcdOutputAdapter.feed ⟨state,markdown,theme,colors⟩ data =
          ([],⟨(decoder.decode state data).2,markdown,theme,colors⟩) := by
        simp only [LcdOutputAdapter.feed,text]
        rfl
      have next : texts_from decoder state (data :: chunks) = texts_from decoder (decoder.decode state data).2 chunks := by
        rw [texts_from,outputs,text]
        rfl
      rw [fed,next,List.nil_append]
    | cons c rest =>
      have next : texts_from decoder state (data :: chunks) =
          translate (c :: rest) :: texts_from decoder (decoder.decode state data).2 chunks := by
        rw [texts_from,outputs,text]
        rfl
      have fed : LcdOutputAdapter.feed ⟨state,markdown,theme,colors⟩ data =
          (encode (apply_colors theme colors (render_live_markdown markdown (translate (c :: rest))).1).1,
            ⟨(decoder.decode state data).2,(render_live_markdown markdown (translate (c :: rest))).2,theme,
              (apply_colors theme colors (render_live_markdown markdown (translate (c :: rest))).1).2⟩) := by
        simp only [LcdOutputAdapter.feed,text]
        rfl
      rw [fed,next,outputs,run,follow_fst,encode_append]

/-- The adapter gives the same however a stream that ends in a blank line is cut, as long as no line that is cut has
    another part in a table than the adapter sees. -/
theorem fed_in_chunks {decoder : IncrementalDecoder} (incremental : decoder.Incremental) (theme : Option Str)
    (chunks : List (List UInt8)) (ends : EndsBlank (text_of decoder chunks.flatten))
    (harmless : AllHarmless {} (cut_lines (texts decoder chunks))) :
    ((LcdOutputAdapter.new decoder theme).feed_all chunks).1 = ((LcdOutputAdapter.new decoder theme).feed chunks.flatten).1 := by
  have settled : (LcdOutputAdapter.new decoder theme).colors.Settled := ⟨rfl,rfl⟩
  have flat := texts_flatten incremental chunks
  have some_text : text_of decoder chunks.flatten ≠ [] := by
    intro empty
    obtain ⟨line,last,_⟩ := ends
    rw [empty] at last
    cases last
  have one : texts decoder [chunks.flatten] = [text_of decoder chunks.flatten] := by
    have decoded : (decoder.decode decoder.start chunks.flatten).1 ≠ [] := by
      intro empty
      rw [text_of,empty] at some_text
      exact some_text rfl
    rw [texts,texts_from,outputs,outputs,List.filter_cons_of_pos (by simpa using decoded)]
    rfl
  have fed : ((LcdOutputAdapter.new decoder theme).feed chunks.flatten).1 =
      ((LcdOutputAdapter.new decoder theme).feed_all [chunks.flatten]).1 := by
    rw [LcdOutputAdapter.feed_all,run_singleton]
  have rendered : (run render_live_markdown {} (texts decoder chunks)).1 =
      (run render_live_markdown {} (texts decoder [chunks.flatten])).1 := by
    have ends' := ends
    rw [← flat] at ends'
    rw [rendered_in_chunks (texts_there decoder chunks) ends' harmless,one,run_singleton,flat]
  rw [fed,feed_all_texts,feed_all_texts,colored_additive _ settled,colored_additive _ settled,outputs_flatten,outputs_flatten]
  exact congrArg (fun text => encode (apply_colors _ _ text).1) rendered

def bytes (text : String) : List UInt8 := text.toList.map (fun c => UInt8.ofNat c.toNat)

/-- The decoder on bytes that each stand alone. -/
def single_bytes : IncrementalDecoder where
  State := Unit
  start := ()
  decode _ data := (data.map (fun byte => if byte < 0x80 then byte.toNat else 0xdc00 + byte.toNat),())

theorem single_bytes_incremental : single_bytes.Incremental where
  nothing _ := rfl
  joins _ data more := by
    rw [follow]
    simp only [single_bytes,List.map_append]

/-- Cut in the separator, in a row of the open table, in an escape sequence and in the last line end but one. -/
theorem table_in_chunks :
    ((LcdOutputAdapter.new single_bytes none).feed_all
        (["|a|b|\n|-","--|---|\n|1|","2|\n\nx","\x1b[3","1m\r","\n\n"].map bytes)).1 =
      ((LcdOutputAdapter.new single_bytes none).feed
        (["|a|b|\n|-","--|---|\n|1|","2|\n\nx","\x1b[3","1m\r","\n\n"].map bytes).flatten).1 :=
  fed_in_chunks single_bytes_incremental none _ ⟨[LF],by decide +kernel,by simp [Blank,is_space,LF],by decide⟩ (by decide +kernel)

/-- The line of the user is cut before its first bar, and its rest is rendered as the header of a table. -/
theorem prompt_rendered :
    single_bytes.Incremental ∧ EndsBlank (text_of single_bytes (["> ","|a|b|\n|---|---|\n\n"].map bytes).flatten) ∧
    ((LcdOutputAdapter.new single_bytes none).feed_all (["> ","|a|b|\n|---|---|\n\n"].map bytes)).1 = bytes "> a  b\n\n\n" ∧
    ((LcdOutputAdapter.new single_bytes none).feed (["> ","|a|b|\n|---|---|\n\n"].map bytes).flatten).1 =
      bytes "> |a|b|\n|---|---|\n\n" :=
  ⟨single_bytes_incremental,⟨[LF],by decide +kernel,by simp [Blank,is_space,LF],by decide⟩,by decide +kernel,by decide +kernel⟩

end VibeBridge.Python.Lcd
