/-
This file proves when a session sends its whole packet although calls of the kernel fail.
-/

import AppSvr.Construction.BaseServer.GWProxy

namespace AppSvr.BaseServer.Session

variable {kernel next : Kernel} {buffer : DataBuffer} {sent : Sent} {fuel size : Nat}
  {handed : List UInt8} {sends : List SendAnswer} {polls : List PollAnswer} {errno : Errno}

/-- The call returns zero with the whole packet handed over in order and once, or it returns minus
one and the last call of the kernel that failed did so with another error. -/
def SendsWhole (kernel : Kernel) (buffer : DataBuffer) : Prop :=
  ∃ fuel sent, send fuel kernel buffer = some sent ∧
    (sent.code = 0 ∧ sent.handed = buffer.unread ∨ sent.code = -1 ∧ sent.kernel.errno = .other)

/-- These answers end a wait with another error. A ready socket ends it too soon, unless the last
call that failed was interrupted. -/
def PollFails : Errno → List PollAnswer → Prop
  | _, [] => False
  | errno, .ready :: polls => errno = .eintr ∧ PollFails .eintr polls
  | _, .failed errno :: polls => errno = .other ∨ errno = .eintr ∧ PollFails .eintr polls

/-- The kernel takes so many bytes without a failure, or the first failure is another error or
leads to one. -/
def SendFair (polls : List PollAnswer) : Nat → List SendAnswer → Prop
  | _, [] => True
  | size, .took more :: sends => size ≤ more + 1 ∨ SendFair polls (size - (more + 1)) sends
  | _, .failed errno :: _ => errno = .other ∨ PollFails errno polls

section Wait

theorem waitSend_succ (fuel : Nat) (kernel : Kernel) : waitSend (fuel + 1) kernel =
    if kernel.poll.2.errno = .eintr then waitSend fuel kernel.poll.2
    else some (-1, kernel.poll.2) := by
  have answered : kernel.poll.1 ≠ 0 := by
    unfold Kernel.poll
    split <;> simp
  rw [waitSend, ← ite_not]
  exact if_neg answered

/-- A wait that ends reports a failure. -/
theorem waitSend_code {result : Int} (ended : waitSend fuel kernel = some (result, next)) :
    result = -1 := by
  induction fuel generalizing kernel with
  | zero => simp [waitSend] at ended
  | succ fuel inductive_hypothesis =>
      rw [waitSend_succ] at ended
      split_ifs at ended with interrupted
      · exact inductive_hypothesis ended
      · exact (congrArg Prod.fst (Option.some.inj ended)).symm

/-- An interrupted wait does not end while the socket is ready. -/
theorem waitSend_ready (sends : List SendAnswer) (fuel : Nat) :
    waitSend fuel ⟨sends, [], .eintr⟩ = none := by
  induction fuel with
  | zero => rfl
  | succ fuel inductive_hypothesis =>
      rw [waitSend_succ]
      exact inductive_hypothesis

/-- The wait ends with another error exactly under these answers. -/
theorem waitSend_other_iff (sends : List SendAnswer) (polls : List PollAnswer)
    (transient : errno ≠ .other) :
    (∃ fuel result next, waitSend fuel ⟨sends, polls, errno⟩ = some (result, next) ∧
      next.errno = .other) ↔ PollFails errno polls := by
  induction polls generalizing errno with
  | nil =>
      refine iff_of_false ?_ id
      rintro ⟨fuel, result, next, ended, other⟩
      by_cases interrupted : errno = .eintr
      · rw [interrupted, waitSend_ready] at ended
        cases ended
      · cases fuel with
        | zero => cases ended
        | succ fuel =>
            rw [waitSend_succ] at ended
            rw [if_neg (show ¬ (Kernel.poll ⟨sends, [], errno⟩).2.errno = .eintr from interrupted)]
              at ended
            cases ended
            exact transient other
  | cons answer polls inductive_hypothesis =>
      -- The first answer decides about the error number with which the loop goes on.
      have first (later : Errno) (answered : (Kernel.poll ⟨sends, answer :: polls, errno⟩).2 =
          ⟨sends, polls, later⟩) :
          (∃ fuel result next, waitSend fuel ⟨sends, answer :: polls, errno⟩ =
            some (result, next) ∧ next.errno = .other) ↔
          later = .other ∨ later = .eintr ∧ PollFails .eintr polls := by
        constructor
        · rintro ⟨fuel, result, next, ended, other⟩
          cases fuel with
          | zero => cases ended
          | succ fuel =>
              rw [waitSend_succ, answered] at ended
              split_ifs at ended with interrupted
              · obtain rfl : later = .eintr := interrupted
                exact .inr ⟨rfl,
                  (inductive_hypothesis (by decide)).mp ⟨fuel, result, next, ended, other⟩⟩
              · cases ended
                exact .inl other
        · rintro (rfl | ⟨rfl, fails⟩)
          · refine ⟨1, -1, ⟨sends, polls, .other⟩, ?_, rfl⟩
            rw [waitSend_succ, answered, if_neg (by simp)]
          · obtain ⟨fuel, result, next, ended, other⟩ :=
              (inductive_hypothesis (by decide)).mpr fails
            refine ⟨fuel + 1, result, next, ?_, other⟩
            rw [waitSend_succ, answered, if_pos rfl]
            exact ended
      cases answer with
      | ready => simpa [PollFails, transient] using first errno rfl
      | failed later => exact first later rfl

end Wait

section Send

theorem moveReadPtr_eq {length : Nat} (inside : length ≤ buffer.unread.length) :
    (buffer.moveReadPtr length).2 = { buffer with
      consumed := buffer.consumed ++ buffer.unread.take length
      unread := buffer.unread.drop length } := by
  rw [DataBuffer.moveReadPtr, DataBuffer.read, if_neg (not_lt_of_ge inside)]

/-- One round of the loop when the kernel takes bytes. -/
theorem sendProc_took (fuel more : Nat) (sends : List SendAnswer) (polls : List PollAnswer)
    (errno : Errno) (buffer : DataBuffer) (handed : List UInt8) :
    sendProc (fuel + 1) buffer.unread.length ⟨.took more :: sends, polls, errno⟩ buffer handed =
      if buffer.unread.length ≤ more + 1 then
        some ⟨0, ⟨sends, polls, errno⟩, buffer, handed ++ buffer.unread⟩
      else sendProc fuel (buffer.moveReadPtr (more + 1)).2.unread.length ⟨sends, polls, errno⟩
        (buffer.moveReadPtr (more + 1)).2 (handed ++ buffer.unread.take (more + 1)) := by
  rw [sendProc]
  dsimp only [Kernel.send]
  by_cases whole : buffer.unread.length ≤ more + 1
  · have taken : min ((more : Int) + 1) buffer.unread.length = buffer.unread.length := by omega
    rw [taken, if_pos rfl, if_pos whole, List.take_length]
  · have taken : min ((more : Int) + 1) buffer.unread.length = (more + 1 : Nat) := by omega
    have part : ((more + 1 : Nat) : Int) ≠ buffer.unread.length := by omega
    rw [taken, if_neg part, if_pos (Int.natCast_nonneg _), if_neg whole, Int.toNat_natCast,
      moveReadPtr_eq (by omega), List.length_drop]

/-- One round of the loop when the call fails. -/
theorem sendProc_failed (fuel : Nat) (failure : Errno) (sends : List SendAnswer)
    (polls : List PollAnswer) (errno : Errno) (size : Nat) (buffer : DataBuffer)
    (handed : List UInt8) :
    sendProc (fuel + 1) size ⟨.failed failure :: sends, polls, errno⟩ buffer handed =
      if failure = .other then some ⟨-1, ⟨sends, polls, failure⟩, buffer, handed⟩
      else (waitSend fuel ⟨sends, polls, failure⟩).map fun waited =>
        ⟨-1, waited.2, buffer, handed⟩ := by
  have negative : ¬ (0 : Int) ≤ -1 := by decide
  have unequal : ¬ (-1 : Int) = size := by omega
  rw [sendProc]
  dsimp only [Kernel.send]
  rw [if_neg unequal, if_neg negative]
  by_cases other : failure = .other
  · subst other
    rfl
  · have transient : failure ∈ [Errno.ewouldblock, .eagain, .eintr] := by
      cases failure <;> simp at other ⊢
    rw [if_pos transient, if_neg other]
    cases ended : waitSend fuel ⟨sends, polls, failure⟩ with
    | none => rfl
    | some waited =>
        have code : waited.1 = -1 := @waitSend_code _ waited.2 _ _ ended
        dsimp only
        rw [code, if_pos (by decide)]
        rfl

/-- The whole packet is sent, or another error is reported, exactly under these answers. -/
theorem sendProc_whole_iff (sends : List SendAnswer) (polls : List PollAnswer) (errno : Errno)
    (buffer : DataBuffer) (handed : List UInt8) :
    (∃ fuel sent, sendProc fuel buffer.unread.length ⟨sends, polls, errno⟩ buffer handed =
      some sent ∧ (sent.code = 0 ∧ sent.handed = handed ++ buffer.unread ∨
        sent.code = -1 ∧ sent.kernel.errno = .other)) ↔
      SendFair polls buffer.unread.length sends := by
  induction sends generalizing buffer handed with
  | nil =>
      refine iff_of_true ⟨1, ⟨0, ⟨[], polls, errno⟩, buffer, handed ++ buffer.unread⟩, ?_,
        .inl ⟨rfl, rfl⟩⟩ trivial
      simp [sendProc, Kernel.send]
  | cons answer sends inductive_hypothesis =>
      cases answer with
      | took more =>
          by_cases whole : buffer.unread.length ≤ more + 1
          · refine iff_of_true ⟨1, ⟨0, ⟨sends, polls, errno⟩, buffer, handed ++ buffer.unread⟩, ?_,
              .inl ⟨rfl, rfl⟩⟩ (.inl whole)
            rw [sendProc_took, if_pos whole]
          · have rest := inductive_hypothesis (buffer.moveReadPtr (more + 1)).2
              (handed ++ buffer.unread.take (more + 1))
            have moved := @moveReadPtr_eq buffer (more + 1) (by omega)
            have joined : handed ++ buffer.unread.take (more + 1) ++
                (buffer.moveReadPtr (more + 1)).2.unread = handed ++ buffer.unread := by
              rw [moved, List.append_assoc, List.take_append_drop]
            have left : (buffer.moveReadPtr (more + 1)).2.unread.length =
                buffer.unread.length - (more + 1) := by rw [moved, List.length_drop]
            rw [SendFair, or_iff_right whole, ← left, ← rest, joined]
            constructor
            · rintro ⟨fuel, sent, ended, result⟩
              cases fuel with
              | zero => cases ended
              | succ fuel =>
                  rw [sendProc_took, if_neg whole] at ended
                  exact ⟨fuel, sent, ended, result⟩
            · rintro ⟨fuel, sent, ended, result⟩
              refine ⟨fuel + 1, sent, ?_, result⟩
              rw [sendProc_took, if_neg whole]
              exact ended
      | failed failure =>
          rw [SendFair]
          by_cases other : failure = .other
          · refine iff_of_true ⟨1, ⟨-1, ⟨sends, polls, failure⟩, buffer, handed⟩, ?_,
              .inr ⟨rfl, other⟩⟩ (.inl other)
            rw [sendProc_failed, if_pos other]
          · rw [or_iff_right other, ← waitSend_other_iff sends polls other]
            constructor
            · rintro ⟨fuel, sent, ended, result⟩
              cases fuel with
              | zero => cases ended
              | succ fuel =>
                  rw [sendProc_failed, if_neg other, Option.map_eq_some_iff] at ended
                  obtain ⟨waited, ended, rfl⟩ := ended
                  exact ⟨fuel, waited.1, waited.2, ended, by simpa using result⟩
            · rintro ⟨fuel, result, next, ended, error⟩
              refine ⟨fuel + 1, ⟨-1, next, buffer, handed⟩, ?_, .inr ⟨rfl, error⟩⟩
              rw [sendProc_failed, if_neg other, ended]
              rfl

end Send

/-- A packet is sent as a whole if the kernel takes it without a failure, or if the first failure is
another error or leads to one. -/
theorem send_whole_iff (kernel : Kernel) (buffer : DataBuffer) :
    SendsWhole kernel buffer ↔ SendFair kernel.polls buffer.unread.length kernel.sends :=
  sendProc_whole_iff kernel.sends kernel.polls kernel.errno buffer []

/-- No call fails except for a transient condition. -/
def Transient (kernel : Kernel) : Prop :=
  (∀ answer ∈ kernel.sends, answer ≠ .failed .other) ∧
    ∀ answer ∈ kernel.polls, answer = .ready ∨ answer = .failed .eintr

/-- The socket is full once, and it is ready at once. -/
theorem fullSocket_not_sent :
    ¬ ∀ (kernel : Kernel) (buffer : DataBuffer), Transient kernel →
      ∃ fuel sent, send fuel kernel buffer = some sent ∧ sent.code = 0 ∧
        sent.handed = buffer.unread := by
  intro claimed
  obtain ⟨fuel, sent, ended, code, -⟩ := claimed ⟨[.failed .eagain], [.ready], .other⟩
    ⟨8, [], [1, 2, 3]⟩ ⟨by decide, by decide⟩
  match fuel with
  | 0 => cases ended
  | 1 => cases ended
  | fuel + 2 =>
      obtain rfl := Option.some.inj ended
      exact absurd code (by decide)

end AppSvr.BaseServer.Session
