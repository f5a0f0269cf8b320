/-
This file parses a symbol stream into length-prefixed frames.
-/

import Mathlib.Data.List.Basic

namespace AppSvr.Framing

variable {Symbol : Type*}

/-- A format reads the declared frame length from a fixed header. -/
structure Format (Symbol : Type*) where
  headerSize : Nat
  declared : List Symbol → Nat
  accepted : Nat → Bool
  header_local : ∀ front back, headerSize ≤ front.length → declared (front ++ back) = declared front
  accepted_header : ∀ length, accepted length = true → headerSize ≤ length
  header_positive : 0 < headerSize

/-- The head of a stream is incomplete, malformed, or a whole frame. -/
inductive Head (Symbol : Type*) where
  | incomplete
  | malformed
  | frame (packet rest : List Symbol)

namespace Format

variable (format : Format Symbol)

variable (stream : List Symbol)

/-- The header is read only when all of its symbols are present. -/
def head : Head Symbol :=
  if stream.length < format.headerSize then .incomplete
  else if format.accepted (format.declared stream) = false then .malformed
  else if stream.length < format.declared stream then .incomplete
  else .frame (stream.take (format.declared stream)) (stream.drop (format.declared stream))

/-- A packet is a frame when its own header declares its accepted length. -/
def IsFrame (packet : List Symbol) : Prop :=
  format.headerSize ≤ packet.length ∧ format.declared packet = packet.length ∧
    format.accepted packet.length = true

instance (packet : List Symbol) : Decidable (format.IsFrame packet) :=
  inferInstanceAs (Decidable (_ ∧ _ ∧ _))

/-- The header at the front of the stream declares a refused length. -/
def Malformed : Prop :=
  format.headerSize ≤ stream.length ∧ format.accepted (format.declared stream) = false

/-- No frame and no refused header stands at the front of the stream. -/
def Incomplete : Prop :=
  stream.length < format.headerSize ∨
    format.accepted (format.declared stream) = true ∧ stream.length < format.declared stream

/-- The left-to-right parse ends at a refused header or in an incomplete frame. -/
structure Parses (stream : List Symbol) (packets : List (List Symbol)) (rest : List Symbol) :
    Prop where
  splits : stream = packets.flatten ++ rest
  frames : ∀ packet ∈ packets, format.IsFrame packet
  stopped : format.Malformed rest ∨ format.Incomplete rest

end Format

variable {format : Format Symbol}

/-- An incomplete head is exactly an incomplete stream. -/
theorem head_incomplete_iff (stream : List Symbol) :
    format.head stream = .incomplete ↔ format.Incomplete stream := by
  unfold Format.head Format.Incomplete
  split
  · simp_all
  · split
    · simp_all
    · split <;> simp_all

/-- A malformed head is exactly a refused header. -/
theorem head_malformed_iff (stream : List Symbol) :
    format.head stream = .malformed ↔ format.Malformed stream := by
  unfold Format.head Format.Malformed
  split
  · simp only [reduceCtorEq, false_iff, not_and]
    omega
  · split
    · simp_all
    · split <;> simp_all

/-- A whole head splits the stream at the declared length. -/
theorem head_frame_iff (stream packet rest : List Symbol) :
    format.head stream = .frame packet rest ↔
      stream = packet ++ rest ∧ format.IsFrame packet := by
  constructor
  · intro whole
    unfold Format.head at whole
    split at whole
    · cases whole
    · rename_i headerPresent
      split at whole
      · cases whole
      · rename_i accepts
        split at whole
        · cases whole
        · rename_i present
          obtain ⟨rfl, rfl⟩ := Head.frame.inj whole
          have accepts : format.accepted (format.declared stream) = true := by simpa using accepts
          have within : format.headerSize ≤ format.declared stream :=
            format.accepted_header _ accepts
          have length : (stream.take (format.declared stream)).length = format.declared stream := by
            rw [List.length_take]
            omega
          have same : format.declared (stream.take (format.declared stream)) =
              format.declared stream := by
            have read := format.header_local (stream.take (format.declared stream))
              (stream.drop (format.declared stream)) (by omega)
            rwa [List.take_append_drop, eq_comm] at read
          refine ⟨(List.take_append_drop _ _).symm, ?_, ?_, ?_⟩
          · omega
          · rw [length, same]
          · rw [length]
            exact accepts
  · rintro ⟨rfl, headerPresent, declared, accepts⟩
    have read : format.declared (packet ++ rest) = packet.length := by
      rw [format.header_local packet rest headerPresent, declared]
    unfold Format.head
    rw [read, if_neg (by rw [List.length_append]; omega), if_neg (by simp [accepts]),
      if_neg (by rw [List.length_append]; omega), List.take_left, List.drop_left]

/-- The three heads exclude each other. -/
theorem incomplete_not_malformed {stream : List Symbol} (incomplete : format.Incomplete stream) :
    ¬ format.Malformed stream := by
  intro malformed
  have first := (head_incomplete_iff stream).mpr incomplete
  rw [(head_malformed_iff stream).mpr malformed] at first
  cases first

/-- A frame is never empty. -/
theorem isFrame_ne_nil {packet : List Symbol} (frame : format.IsFrame packet) : packet ≠ [] := by
  intro empty
  have positive := format.header_positive
  have present := frame.1
  rw [empty, List.length_nil] at present
  omega

/-- The left-to-right parse is unique. -/
theorem parses_unique {stream rest rest' : List Symbol} {packets packets' : List (List Symbol)}
    (first : format.Parses stream packets rest) (second : format.Parses stream packets' rest') :
    packets = packets' ∧ rest = rest' := by
  have noFrame {tail : List Symbol} (stopped : format.Malformed tail ∨ format.Incomplete tail)
      {packet after : List Symbol} (frame : format.IsFrame packet) : tail ≠ packet ++ after := by
    intro splits
    have whole := (head_frame_iff tail packet after).mpr ⟨splits, frame⟩
    rcases stopped with malformed | incomplete
    · rw [(head_malformed_iff tail).mpr malformed] at whole
      cases whole
    · rw [(head_incomplete_iff tail).mpr incomplete] at whole
      cases whole
  induction packets generalizing stream packets' with
  | nil =>
      have split := first.splits
      rw [List.flatten_nil, List.nil_append] at split
      subst split
      cases packets' with
      | nil => exact ⟨rfl, by simpa using second.splits⟩
      | cons packet packets' =>
          have frame := second.frames packet List.mem_cons_self
          exact absurd (by simpa using second.splits) (noFrame first.stopped frame)
  | cons packet packets ih =>
      have frame := first.frames packet List.mem_cons_self
      have split : stream = packet ++ (packets.flatten ++ rest) := by simpa using first.splits
      cases packets' with
      | nil =>
          have other := second.splits
          rw [List.flatten_nil, List.nil_append] at other
          exact absurd (other ▸ split) (noFrame second.stopped frame)
      | cons packet' packets' =>
          have frame' := second.frames packet' List.mem_cons_self
          have split' : stream = packet' ++ (packets'.flatten ++ rest') := by
            simpa using second.splits
          have whole := (head_frame_iff stream packet _).mpr ⟨split, frame⟩
          rw [(head_frame_iff stream packet' _).mpr ⟨split', frame'⟩] at whole
          obtain ⟨samePacket, sameTail⟩ := Head.frame.inj whole
          have tail : format.Parses (packets.flatten ++ rest) packets rest :=
            ⟨rfl, fun p member => first.frames p (List.mem_cons_of_mem _ member), first.stopped⟩
          have tail' : format.Parses (packets.flatten ++ rest) packets' rest' :=
            ⟨sameTail.symm, fun p member => second.frames p (List.mem_cons_of_mem _ member),
              second.stopped⟩
          obtain ⟨samePackets, sameRest⟩ := ih tail tail'
          exact ⟨by rw [samePacket, samePackets], sameRest⟩

/-- Parsing the carried remainder with more symbols continues the parse. -/
theorem parses_append {stream rest more rest' : List Symbol}
    {packets packets' : List (List Symbol)} (first : format.Parses stream packets rest)
    (second : format.Parses (rest ++ more) packets' rest') :
    format.Parses (stream ++ more) (packets ++ packets') rest' where
  splits := by
    rw [first.splits, List.append_assoc, second.splits, List.flatten_append, List.append_assoc]
  frames := by
    intro packet member
    rcases List.mem_append.mp member with old | new
    · exact first.frames packet old
    · exact second.frames packet new
  stopped := second.stopped

/-- The empty stream contains no frame. -/
theorem parses_nil : format.Parses ([] : List Symbol) [] [] where
  splits := rfl
  frames := by simp
  stopped := .inr (.inl (by simpa using format.header_positive))

/-- A leading frame extends the parse of its tail. -/
theorem parses_cons {packet stream rest : List Symbol} {packets : List (List Symbol)}
    (frame : format.IsFrame packet) (tail : format.Parses stream packets rest) :
    format.Parses (packet ++ stream) (packet :: packets) rest where
  splits := by
    rw [tail.splits, List.flatten_cons, List.append_assoc]
  frames := by
    intro other member
    rcases List.mem_cons.mp member with rfl | later
    · exact frame
    · exact tail.frames other later
  stopped := tail.stopped

/-- An incomplete remainder is shorter than the longest accepted frame. -/
theorem incomplete_length_lt {stream : List Symbol} (incomplete : format.Incomplete stream)
    {bound : Nat} (header : format.headerSize ≤ bound)
    (longest : ∀ length, format.accepted length = true → length ≤ bound) :
    stream.length < bound := by
  rcases incomplete with short | ⟨accepts, short⟩
  · omega
  · have limit := longest _ accepts
    omega

/-- The frames at the front of a stream are the first ones of its parse. -/
theorem frames_prefix {stream rest : List Symbol} {packets front : List (List Symbol)}
    (parses : format.Parses stream packets rest) (frames : ∀ packet ∈ front, format.IsFrame packet)
    (arrived : front.flatten <+: stream) : front <+: packets := by
  induction front generalizing stream packets with
  | nil => exact List.nil_prefix
  | cons frame front ih =>
      obtain ⟨more, splits⟩ := arrived
      rw [List.flatten_cons, List.append_assoc] at splits
      have whole := (head_frame_iff stream frame _).mpr ⟨splits.symm, frames frame List.mem_cons_self⟩
      cases packets with
      | nil =>
          have empty : stream = rest := parses.splits
          rcases parses.stopped with malformed | incomplete
          · rw [empty, (head_malformed_iff rest).mpr malformed] at whole
            cases whole
          · rw [empty, (head_incomplete_iff rest).mpr incomplete] at whole
            cases whole
      | cons packet packets =>
          have split : stream = packet ++ (packets.flatten ++ rest) := by
            rw [parses.splits, List.flatten_cons, List.append_assoc]
          rw [(head_frame_iff stream packet _).mpr
            ⟨split, parses.frames packet List.mem_cons_self⟩] at whole
          obtain ⟨rfl, tail⟩ := Head.frame.inj whole
          refine List.cons_prefix_cons.mpr ⟨rfl, ih ⟨rfl, ?_, parses.stopped⟩ ?_ ⟨more, tail.symm⟩⟩
          · exact fun other member => parses.frames other (List.mem_cons_of_mem _ member)
          · exact fun other member => frames other (List.mem_cons_of_mem _ member)

/-- A stream of frames parses into them. -/
theorem parses_flatten {packets : List (List Symbol)}
    (frames : ∀ packet ∈ packets, format.IsFrame packet) :
    format.Parses packets.flatten packets [] where
  splits := (List.append_nil _).symm
  frames := frames
  stopped := parses_nil.stopped

/-- Sent frames arrive in their order, each with its last symbol. -/
theorem frames_arrive {stream rest : List Symbol} {packets sent : List (List Symbol)}
    (parses : format.Parses stream packets rest) (frames : ∀ packet ∈ sent, format.IsFrame packet)
    (arrived : stream <+: sent.flatten) :
    packets <+: sent ∧ ∀ front, front <+: sent → front.flatten <+: stream → front <+: packets := by
  constructor
  · have front : packets.flatten <+: stream := ⟨rest, parses.splits.symm⟩
    exact frames_prefix (parses_flatten frames) parses.frames (front.trans arrived)
  · intro front among
    exact frames_prefix parses fun packet member => frames packet (among.subset member)

end AppSvr.Framing
