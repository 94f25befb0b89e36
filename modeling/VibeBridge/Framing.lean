import Mathlib.Data.List.Basic

/-!
Values sent as frames on a stream, and a reader that starts over at the next
element whenever it is interrupted. What it delivers is what was sent exactly
when every interruption falls between two frames (`received_iff`).
-/
namespace VibeBridge

/-- How values lie on a stream as frames. -/
structure Framing (α β : Type) where
  wire : β → List α
  /-- The values that a frame can carry. -/
  Carried : β → Prop
  /-- The frame at the front of a stream: what it reads as, if it is well formed,
      and its length; nothing when it is not all there. -/
  next : List α → Option (Option β × Nat)
  takes : ∀ {stream read length}, next stream = some (read, length) → 0 < length ∧ length ≤ stream.length
  reads : ∀ {stream value length}, next stream = some (some value, length) →
    Carried value ∧ (wire value).length ≤ length
  whole : ∀ {value} rest, Carried value → next (wire value ++ rest) = some (some value, (wire value).length)

namespace Framing
variable {α β : Type} (framing : Framing α β)

/-- What at most `fuel` frames from the front of a stream read as. -/
def framesFrom : Nat → List α → List β
  | 0, _ => []
  | fuel + 1, stream =>
    match framing.next stream with
    | none => []
    | some (read, length) => read.toList ++ framesFrom fuel (stream.drop length)

/-- What the whole frames at the front of a stream read as. -/
def frames (stream : List α) : List β := framesFrom framing stream.length stream

/-- What a reader delivers that is interrupted between the runs of a stream: an
    unfinished frame at the end of a run is lost. -/
def received (runs : List (List α)) : List β := runs.flatMap (frames framing)

variable {framing}

theorem framesFrom_enough {fuel : Nat} {stream : List α} (enough : stream.length ≤ fuel) :
    framesFrom framing fuel stream = frames framing stream := by
  rw [frames]
  -- one step consumes elements, so that the fuel that is left is enough again
  have all : ∀ size fuel (stream : List α), stream.length ≤ size → size ≤ fuel →
      framesFrom framing fuel stream = framesFrom framing size stream := by
    intro size
    induction size with
    | zero =>
      intro fuel stream short more
      cases fuel with
      | zero => rfl
      | succ fuel =>
        cases front : framing.next stream with
        | none => simp only [framesFrom,front]
        | some frame =>
          obtain ⟨read,length⟩ := frame
          have := framing.takes front
          omega
    | succ size ih =>
      intro fuel stream short more
      obtain ⟨fuel,rfl⟩ : ∃ less, fuel = less + 1 := ⟨fuel - 1,by omega⟩
      cases front : framing.next stream with
      | none => simp only [framesFrom,front]
      | some frame =>
        obtain ⟨read,length⟩ := frame
        have taken := framing.takes front
        simp only [framesFrom,front]
        rw [ih fuel (stream.drop length) (by rw [List.length_drop]; omega) (by omega)]
  exact all stream.length fuel stream (Nat.le_refl _) enough

theorem frames_none {stream : List α} (unfinished : framing.next stream = none) : frames framing stream = [] := by
  rw [frames]
  cases stream.length with
  | zero => rfl
  | succ fuel => simp only [framesFrom,unfinished]

theorem frames_next {stream : List α} {read : Option β} {length : Nat}
    (front : framing.next stream = some (read, length)) :
    frames framing stream = read.toList ++ frames framing (stream.drop length) := by
  have taken := framing.takes front
  obtain ⟨fuel,size⟩ : ∃ fuel, stream.length = fuel + 1 := ⟨stream.length - 1,by omega⟩
  rw [frames,size,framesFrom,front]
  show read.toList ++ framesFrom framing fuel (stream.drop length) = _
  rw [framesFrom_enough (by rw [List.length_drop]; omega)]

variable (framing) in
/-- Induction along the frames at the front of a stream. -/
theorem frames_induction {P : List α → Prop} (unfinished : ∀ stream, framing.next stream = none → P stream)
    (frame : ∀ stream read length, framing.next stream = some (read, length) → P (stream.drop length) → P stream)
    (stream : List α) : P stream := by
  induction size : stream.length using Nat.strongRecOn generalizing stream with
  | _ size ih =>
    cases front : framing.next stream with
    | none => exact unfinished stream front
    | some value =>
      obtain ⟨read,length⟩ := value
      have taken := framing.takes front
      refine frame stream read length front (ih _ ?_ _ rfl)
      rw [List.length_drop]
      omega

theorem frames_carried {stream : List α} {value : β} (mem : value ∈ frames framing stream) :
    framing.Carried value := by
  induction stream using frames_induction framing with
  | unfinished stream none => simp [frames_none none] at mem
  | frame stream read length front ih =>
    rw [frames_next front,List.mem_append] at mem
    rcases mem with here | later
    · obtain rfl := Option.mem_toList.mp here
      exact (framing.reads front).1
    · exact ih later

variable (framing) in
/-- The frames of what is read fit into the stream. -/
theorem frames_fit (stream : List α) :
    ((frames framing stream).flatMap framing.wire).length ≤ stream.length := by
  induction stream using frames_induction framing with
  | unfinished stream none => simp [frames_none none]
  | frame stream read length front ih =>
    have taken := framing.takes front
    rw [List.length_drop] at ih
    rw [frames_next front,List.flatMap_append,List.length_append]
    cases read with
    | none =>
      simp only [Option.toList_none,List.flatMap_nil,List.length_nil]
      omega
    | some value =>
      have fits := (framing.reads front).2
      simp only [Option.toList_some,List.flatMap_cons,List.flatMap_nil,List.append_nil]
      omega

/-- What is sent in frames reads as what was sent. -/
theorem frames_sent {sent : List β} (carried : ∀ value ∈ sent, framing.Carried value) :
    frames framing (sent.flatMap framing.wire) = sent := by
  induction sent with
  | nil => rfl
  | cons value sent ih =>
    rw [List.flatMap_cons,frames_next (framing.whole _ (carried value (by simp))),List.drop_left,
      ih (fun other mem => carried other (by simp [mem]))]
    rfl

/-! ## Interruptions -/

variable (framing) in
theorem received_fit (runs : List (List α)) :
    ((received framing runs).flatMap framing.wire).length ≤ runs.flatten.length := by
  induction runs with
  | nil => simp [received]
  | cons run runs ih =>
    have fit := frames_fit framing run
    rw [received,List.flatMap_cons,List.flatMap_append,List.length_append,List.flatten_cons,List.length_append]
    exact Nat.add_le_add fit ih

/-- A reader that delivers all that was sent was interrupted between frames only. -/
theorem received_between {runs : List (List α)} {sent : List β} (stream : runs.flatten = sent.flatMap framing.wire)
    (delivered : received framing runs = sent) {before after : List (List α)} (split : runs = before ++ after) :
    ∃ count, before.flatten = (sent.take count).flatMap framing.wire := by
  subst split
  have parts : received framing before ++ received framing after = sent := by
    rw [← delivered,received,received,received,List.flatMap_append]
  have first := received_fit framing before
  have second := received_fit framing after
  have taken : sent.take (received framing before).length = received framing before := by
    rw [← parts,List.take_left]
  refine ⟨(received framing before).length,?_⟩
  rw [taken]
  rw [← parts,List.flatten_append,List.flatMap_append] at stream
  have sizes := congrArg List.length stream
  rw [List.length_append,List.length_append] at sizes
  exact (List.append_inj stream (by omega)).1

/-- A reader that is interrupted between frames only delivers all that was sent. -/
theorem received_of_between {runs : List (List α)} {sent : List β} (carried : ∀ value ∈ sent, framing.Carried value)
    (stream : runs.flatten = sent.flatMap framing.wire)
    (between : ∀ before after, runs = before ++ after →
      ∃ count, before.flatten = (sent.take count).flatMap framing.wire) : received framing runs = sent := by
  induction runs generalizing sent with
  | nil =>
    rw [List.flatten_nil] at stream
    rw [← frames_sent carried,← stream]
    rfl
  | cons run runs ih =>
    obtain ⟨count,front⟩ := between [run] runs rfl
    simp only [List.flatten_cons,List.flatten_nil,List.append_nil] at front
    have pieces : sent.flatMap framing.wire =
        (sent.take count).flatMap framing.wire ++ (sent.drop count).flatMap framing.wire := by
      rw [← List.flatMap_append,List.take_append_drop]
    have rest : runs.flatten = (sent.drop count).flatMap framing.wire := by
      rw [List.flatten_cons,pieces,front] at stream
      exact List.append_cancel_left stream
    have here : frames framing run = sent.take count := by
      rw [front,frames_sent (fun value mem => carried value (List.mem_of_mem_take mem))]
    have later : received framing runs = sent.drop count := by
      refine ih (fun value mem => carried value (List.mem_of_mem_drop mem)) rest ?_
      intro before after split
      obtain ⟨upto,long⟩ := between (run :: before) after (by rw [split]; rfl)
      rw [List.flatten_cons,front] at long
      by_cases further : count ≤ upto
      · have cut : sent.take upto = sent.take count ++ (sent.drop count).take (upto - count) := by
          rw [← List.take_add,Nat.add_sub_cancel' further]
        rw [cut,List.flatMap_append] at long
        exact ⟨upto - count,List.append_cancel_left long⟩
      · -- the later cut would lie before the earlier one, so nothing lies between them
        have cut : sent.take count = sent.take upto ++ (sent.drop upto).take (count - upto) := by
          rw [← List.take_add,Nat.add_sub_cancel' (by omega)]
        have sizes := congrArg List.length long
        rw [cut,List.flatMap_append,List.length_append,List.length_append] at sizes
        have none : before.flatten.length = 0 := by omega
        exact ⟨0,by rw [List.length_eq_zero_iff.mp none]; rfl⟩
    rw [received,List.flatMap_cons,here]
    show _ ++ received framing runs = _
    rw [later,List.take_append_drop]

/-- An interrupted reader delivers what was sent exactly when the frames can
    carry it and every interruption falls between two of them. -/
theorem received_iff {runs : List (List α)} {sent : List β} (stream : runs.flatten = sent.flatMap framing.wire) :
    received framing runs = sent ↔ (∀ value ∈ sent, framing.Carried value) ∧
      ∀ before after, runs = before ++ after → ∃ count, before.flatten = (sent.take count).flatMap framing.wire := by
  constructor
  · intro delivered
    refine ⟨?_,fun before after split => received_between stream delivered split⟩
    intro value mem
    rw [← delivered,received,List.mem_flatMap] at mem
    obtain ⟨run,_,here⟩ := mem
    exact frames_carried here
  · rintro ⟨carried,between⟩
    exact received_of_between carried stream between

end Framing

end VibeBridge
