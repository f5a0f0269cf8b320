/-
This file proves when a broadcast gives every role one copy of the whole packet.
-/

import AppSvr.Proof.BaseServer.SendOutcomes

namespace AppSvr.BaseServer.GWProxy

open LittleEndian Session

variable {proxy : GWProxy} {kernel : Kernel} {buffer : DataBuffer} {sent : Sent}
  {fuel dataSize : Nat} {handed : List (List UInt8)} {sends : List SendAnswer}
  {polls : List PollAnswer} {errno : Errno}

/-- The header of the packet names this role. -/
def copyFor (packet : List UInt8) (roleID : UInt32) : List UInt8 :=
  packet.take 11 ++ encode 4 roleID.toNat ++ packet.drop 15

/-- The broadcast returns zero, and each call of `Send` has handed over the copy of its role. -/
def DeliversCopies (proxy : GWProxy) (lrid : List UInt32) (kernel : Kernel) (buffer : DataBuffer) :
    Prop :=
  ∃ fuel result, proxy.broadcast fuel lrid kernel buffer = some result ∧ result.code = 0 ∧
    result.handed = lrid.map (copyFor buffer.unread)

/-- The kernel takes so many bytes with this answer. -/
def TakesAll (dataSize : Nat) (answer : SendAnswer) : Prop :=
  ∃ more, answer = .took more ∧ dataSize ≤ more + 1

/-- There is one role at most, or fewer bytes than the packet has lie in front of it, and every copy
but the last is sent with one call. -/
def CopiesFair (lrid : List UInt32) (kernel : Kernel) (buffer : DataBuffer) : Prop :=
  lrid.length ≤ 1 ∨ buffer.consumed.length < buffer.unread.length ∧
    ∀ answer ∈ kernel.sends.take (lrid.length - 1), TakesAll buffer.unread.length answer

section Parts

theorem patch_eq {roleID : UInt32} (header : 15 ≤ buffer.unread.length) :
    buffer.patch 11 (encode 4 roleID.toNat) =
      { buffer with unread := copyFor buffer.unread roleID } := by
  have length : (copyFor buffer.unread roleID).length = buffer.unread.length := by
    simp [copyFor]
    omega
  unfold DataBuffer.patch
  rw [encode_length]
  change { buffer with unread := (copyFor buffer.unread roleID).take buffer.unread.length } = _
  rw [← length, List.take_length]

theorem copyFor_length {packet : List UInt8} (header : 15 ≤ packet.length) (roleID : UInt32) :
    (copyFor packet roleID).length = packet.length := by
  simp [copyFor]
  omega

/-- A copy of a copy names the second role only. -/
theorem copyFor_copyFor {packet : List UInt8} (header : 15 ≤ packet.length)
    (first second : UInt32) : copyFor (copyFor packet first) second = copyFor packet second := by
  have front : (packet.take 11).length = 11 := by
    rw [List.length_take]
    omega
  have middle : (packet.take 11 ++ encode 4 first.toNat).length = 15 := by
    rw [List.length_append, front, encode_length]
  unfold copyFor
  rw [List.append_assoc (packet.take 11) (encode 4 first.toNat), List.take_left' front,
    ← List.append_assoc (packet.take 11) (encode 4 first.toNat), List.drop_left' middle]

end Parts

section Send

/-- The kernel takes bytes with every answer. -/
def NoFailure (sends : List SendAnswer) : Prop := ∀ answer ∈ sends, ∃ more, answer = .took more

/-- A call without a failure hands over the whole packet. The read pointer stops in front of the
last part. -/
structure Whole (buffer : DataBuffer) (handed : List UInt8) (sent : Sent) (moved : Nat) : Prop where
  code : sent.code = 0
  handed : sent.handed = handed ++ buffer.unread
  inside : moved < buffer.unread.length
  buffer : sent.buffer = { buffer with
    consumed := buffer.consumed ++ buffer.unread.take moved
    unread := buffer.unread.drop moved }
  noFailure : NoFailure sent.kernel.sends

theorem sendProc_all (fuel : Nat)
    (all : ∀ answer ∈ sends.head?, TakesAll buffer.unread.length answer) (handed : List UInt8) :
    sendProc (fuel + 1) buffer.unread.length ⟨sends, polls, errno⟩ buffer handed =
      some ⟨0, ⟨sends.tail, polls, errno⟩, buffer, handed ++ buffer.unread⟩ := by
  cases sends with
  | nil => simp [sendProc, Kernel.send]
  | cons answer sends =>
      obtain ⟨more, rfl, enough⟩ := all answer rfl
      rw [sendProc_took, if_pos enough]
      rfl

theorem sendProc_whole (noFailure : NoFailure sends) (size : 0 < buffer.unread.length)
    {handed : List UInt8} (ended : sendProc fuel buffer.unread.length ⟨sends, polls, errno⟩ buffer
      handed = some sent) : ∃ moved, Whole buffer handed sent moved ∧
      (moved = 0 → ∀ answer ∈ sends.head?, TakesAll buffer.unread.length answer) := by
  induction sends generalizing fuel buffer handed with
  | nil =>
      cases fuel with
      | zero => cases ended
      | succ fuel =>
          rw [sendProc_all fuel (by simp)] at ended
          obtain rfl := Option.some.inj ended
          exact ⟨0, ⟨rfl, rfl, size, by simp, noFailure⟩, by simp⟩
  | cons answer sends inductive_hypothesis =>
      obtain ⟨⟨more, rfl⟩, others⟩ := List.forall_mem_cons.mp noFailure
      cases fuel with
      | zero => cases ended
      | succ fuel =>
          rw [sendProc_took] at ended
          split_ifs at ended with whole
          · obtain rfl := Option.some.inj ended
            refine ⟨0, ⟨rfl, rfl, size, by simp, others⟩, fun _ answer head => ?_⟩
            obtain rfl := Option.some.inj head
            exact ⟨more, rfl, whole⟩
          · have part := @moveReadPtr_eq buffer (more + 1) (by omega)
            have left : (buffer.moveReadPtr (more + 1)).2.unread.length =
                buffer.unread.length - (more + 1) := by rw [part, List.length_drop]
            obtain ⟨moved, rest, _⟩ := inductive_hypothesis others (by omega) ended
            have below := rest.inside
            refine ⟨more + 1 + moved, ⟨rest.code, ?_, by omega, ?_, rest.noFailure⟩, by omega⟩
            · rw [rest.handed, part, List.append_assoc, List.take_append_drop]
            · rw [rest.buffer, part, List.drop_drop, List.append_assoc, ← List.take_add]

theorem exists_sendProc (noFailure : NoFailure sends) (size : 0 < buffer.unread.length)
    (enough : sends.length < fuel) (handed : List UInt8) :
    ∃ sent, sendProc fuel buffer.unread.length ⟨sends, polls, errno⟩ buffer handed = some sent := by
  induction sends generalizing fuel buffer handed with
  | nil =>
      obtain ⟨fuel, rfl⟩ := Nat.exists_eq_succ_of_ne_zero (Nat.ne_of_gt enough)
      exact ⟨_, sendProc_all fuel (by simp) handed⟩
  | cons answer sends inductive_hypothesis =>
      obtain ⟨⟨more, rfl⟩, others⟩ := List.forall_mem_cons.mp noFailure
      obtain ⟨fuel, rfl⟩ := Nat.exists_eq_succ_of_ne_zero (Nat.ne_of_gt (Nat.zero_lt_of_lt enough))
      rw [sendProc_took]
      split_ifs with whole
      · exact ⟨_, rfl⟩
      · have part := @moveReadPtr_eq buffer (more + 1) (by omega)
        have left : (buffer.moveReadPtr (more + 1)).2.unread.length =
            buffer.unread.length - (more + 1) := by rw [part, List.length_drop]
        exact inductive_hypothesis others (by omega) (by simpa using enough) _

end Send

section Loop

theorem broadcastLoop_cons (found : 0 < proxy.count) (fuel dataSize : Nat) (roleID : UInt32)
    (lrid : List UInt32) (kernel : Kernel) (buffer : DataBuffer) (handed : List (List UInt8)) :
    proxy.broadcastLoop fuel dataSize (roleID :: lrid) kernel buffer handed =
      (Session.send fuel kernel (buffer.patch 11 (encode 4 roleID.toNat))).bind fun sent =>
        if sent.code ≠ 0 then some ⟨-1, sent.kernel, sent.buffer, handed ++ [sent.handed]⟩
        else proxy.broadcastLoop fuel dataSize lrid sent.kernel
          (sent.buffer.moveReadPtrBack dataSize).2 (handed ++ [sent.handed]) := by
  rw [broadcastLoop, findSessionByID, if_pos found]
  dsimp only
  cases Session.send fuel kernel (buffer.patch 11 (encode 4 roleID.toNat)) <;> rfl

/-- What is handed over is never taken back. -/
theorem broadcastLoop_extends (found : 0 < proxy.count) {lrid : List UInt32} {result : Broadcasted}
    (ended : proxy.broadcastLoop fuel dataSize lrid kernel buffer handed = some result) :
    ∃ more, result.handed = handed ++ more := by
  induction lrid generalizing kernel buffer handed with
  | nil =>
      obtain rfl := Option.some.inj ended
      exact ⟨[], (List.append_nil handed).symm⟩
  | cons roleID lrid inductive_hypothesis =>
      rw [broadcastLoop_cons found, Option.bind_eq_some_iff] at ended
      obtain ⟨sent, _, ended⟩ := ended
      split_ifs at ended
      · obtain rfl := Option.some.inj ended
        exact ⟨[sent.handed], rfl⟩
      · obtain ⟨more, extended⟩ := inductive_hypothesis ended
        exact ⟨sent.handed :: more, by rw [extended, List.append_assoc]; rfl⟩

theorem patch_length (buffer : DataBuffer) (offset : Nat) (bytes : List UInt8) :
    (buffer.patch offset bytes).unread.length = buffer.unread.length := by
  simp [DataBuffer.patch]
  omega

/-- The next copy is as long as what lies behind the read pointer. -/
theorem broadcastLoop_next (found : 0 < proxy.count) (noFailure : NoFailure kernel.sends)
    (size : 0 < buffer.unread.length) {roleID : UInt32} {lrid : List UInt32} {result : Broadcasted}
    (ended : proxy.broadcastLoop fuel dataSize (roleID :: lrid) kernel buffer handed =
      some result) :
    ∃ copy more, copy.length = buffer.unread.length ∧ result.handed = handed ++ copy :: more := by
  rw [broadcastLoop_cons found, Option.bind_eq_some_iff] at ended
  obtain ⟨sent, sends, ended⟩ := ended
  have length := patch_length buffer 11 (encode 4 roleID.toNat)
  obtain ⟨moved, whole, _⟩ := sendProc_whole noFailure (by omega) sends
  rw [if_neg (not_not_intro whole.code)] at ended
  obtain ⟨more, extended⟩ := broadcastLoop_extends found ended
  refine ⟨sent.handed, more, ?_, by rw [extended, List.append_assoc]; rfl⟩
  rw [whole.handed, List.nil_append, length]

/-- The read pointer comes back to the packet only if it has not moved and cannot move further. -/
theorem moveReadPtrBack_length {moved : Nat} {handed : List UInt8}
    (whole : Whole buffer handed sent moved)
    (same : (sent.buffer.moveReadPtrBack buffer.unread.length).2.unread.length =
      buffer.unread.length) : moved = 0 ∧ buffer.consumed.length < buffer.unread.length := by
  have inside := whole.inside
  rw [whole.buffer, DataBuffer.moveReadPtrBack] at same
  have taken : (buffer.unread.take moved).length = moved := by
    rw [List.length_take]
    omega
  split_ifs at same with near
  · simp only [List.length_append, List.length_drop, taken] at same near
    omega
  · simp only [List.length_append, List.length_drop, taken] at same near
    omega

end Loop

section Copies

theorem copiesFair_cons {first second : UInt32} {lrid : List UInt32}
    (near : buffer.consumed.length < buffer.unread.length)
    (all : ∀ answer ∈ kernel.sends.head?, TakesAll buffer.unread.length answer)
    (next : DataBuffer) (consumed : next.consumed = buffer.consumed)
    (length : next.unread.length = buffer.unread.length) :
    CopiesFair (first :: second :: lrid) kernel buffer ↔
      CopiesFair (second :: lrid) { kernel with sends := kernel.sends.tail } next := by
  unfold CopiesFair
  rw [consumed, length]
  simp only [List.length_cons, Nat.add_sub_cancel]
  have many : ¬ lrid.length + 1 + 1 ≤ 1 := by omega
  have split : (∀ answer ∈ kernel.sends.take (lrid.length + 1),
      TakesAll buffer.unread.length answer) ↔
      ∀ answer ∈ kernel.sends.tail.take lrid.length, TakesAll buffer.unread.length answer := by
    cases sends : kernel.sends with
    | nil => simp
    | cons answer rest =>
        rw [sends] at all
        rw [List.take_succ_cons, List.forall_mem_cons, List.tail_cons]
        exact and_iff_right (all answer rfl)
  rw [or_iff_right many, and_iff_right near, and_iff_right near, split]
  cases lrid with
  | nil => simp
  | cons third lrid => simp

/-- The packet with the number of a role in its header. -/
def copied (buffer : DataBuffer) (roleID : UInt32) : DataBuffer :=
  { buffer with unread := copyFor buffer.unread roleID }

theorem copied_length (header : 15 ≤ buffer.unread.length) (roleID : UInt32) :
    (copied buffer roleID).unread.length = buffer.unread.length :=
  copyFor_length header roleID

theorem copies_cons (header : 15 ≤ buffer.unread.length) (first : UInt32) (lrid : List UInt32)
    (handed : List (List UInt8)) :
    handed ++ (first :: lrid).map (copyFor buffer.unread) =
      (handed ++ [(copied buffer first).unread]) ++
        lrid.map (copyFor (copied buffer first).unread) := by
  have again : lrid.map (copyFor (copied buffer first).unread) =
      lrid.map (copyFor buffer.unread) :=
    List.map_congr_left fun roleID _ => copyFor_copyFor header first roleID
  rw [again, List.map_cons, List.append_assoc]
  rfl

/-- The last role gets its copy from any kernel that takes bytes. -/
theorem broadcastLoop_last (found : 0 < proxy.count) (header : 15 ≤ buffer.unread.length)
    (noFailure : NoFailure kernel.sends) (roleID : UInt32) (handed : List (List UInt8)) :
    ∃ fuel result, proxy.broadcastLoop fuel buffer.unread.length [roleID] kernel buffer handed =
      some result ∧ result.code = 0 ∧
        result.handed = handed ++ [roleID].map (copyFor buffer.unread) := by
  have patched : buffer.patch 11 (encode 4 roleID.toNat) = copied buffer roleID := patch_eq header
  have length := copied_length header roleID
  obtain ⟨sent, ended⟩ : ∃ sent, Session.send (kernel.sends.length + 1) kernel
      (copied buffer roleID) = some sent :=
    exists_sendProc noFailure (by omega) (Nat.lt_succ_self _) []
  obtain ⟨moved, whole, _⟩ := sendProc_whole noFailure (by omega) ended
  refine ⟨kernel.sends.length + 1, ⟨0, sent.kernel,
    (sent.buffer.moveReadPtrBack buffer.unread.length).2, handed ++ [sent.handed]⟩, ?_, rfl, ?_⟩
  · rw [broadcastLoop_cons found, patched, ended, Option.bind_some,
      if_neg (not_not_intro whole.code), broadcastLoop]
  · rw [whole.handed]
    rfl

/-- A copy that is sent with one call leaves the packet for the next role. -/
theorem broadcastLoop_next_role (found : 0 < proxy.count) (header : 15 ≤ buffer.unread.length)
    (near : buffer.consumed.length < buffer.unread.length)
    (all : ∀ answer ∈ kernel.sends.head?, TakesAll buffer.unread.length answer)
    (first second : UInt32) (lrid : List UInt32) (handed : List (List UInt8)) :
    proxy.broadcastLoop fuel buffer.unread.length (first :: second :: lrid) kernel buffer handed =
      proxy.broadcastLoop fuel buffer.unread.length (second :: lrid)
        { kernel with sends := kernel.sends.tail } (copied buffer first)
        (handed ++ [(copied buffer first).unread]) := by
  have patched : buffer.patch 11 (encode 4 first.toNat) = copied buffer first := patch_eq header
  have length := copied_length header first
  have sends : Session.send fuel kernel (copied buffer first) = sendProc fuel
    (copied buffer first).unread.length ⟨kernel.sends, kernel.polls, kernel.errno⟩
    (copied buffer first) [] := rfl
  rw [broadcastLoop_cons found, patched, sends]
  cases fuel with
  | zero =>
      rw [broadcastLoop_cons found]
      rfl
  | succ fuel =>
      have stays : ((copied buffer first).moveReadPtrBack buffer.unread.length).2 =
          copied buffer first := by
        rw [DataBuffer.moveReadPtrBack]
        exact congrArg Prod.snd (if_pos near)
      rw [sendProc_all fuel (by rw [length]; exact all), Option.bind_some, if_neg (by simp), stays]
      rfl

/-- Two roles get their copies only if the first copy is sent with one call. -/
theorem fair_of_delivered (found : 0 < proxy.count) (header : 15 ≤ buffer.unread.length)
    (noFailure : NoFailure kernel.sends) {first second : UInt32} {lrid : List UInt32}
    {result : Broadcasted}
    (ended : proxy.broadcastLoop fuel buffer.unread.length (first :: second :: lrid) kernel buffer
      handed = some result)
    (delivered : result.handed =
      handed ++ (first :: second :: lrid).map (copyFor buffer.unread)) :
    buffer.consumed.length < buffer.unread.length ∧
      ∀ answer ∈ kernel.sends.head?, TakesAll buffer.unread.length answer := by
  have patched : buffer.patch 11 (encode 4 first.toNat) = copied buffer first := patch_eq header
  have length := copied_length header first
  rw [broadcastLoop_cons found, patched, Option.bind_eq_some_iff] at ended
  obtain ⟨sent, sends, ended⟩ := ended
  obtain ⟨moved, whole, started⟩ := sendProc_whole noFailure (by omega) sends
  rw [if_neg (not_not_intro whole.code)] at ended
  have left : 0 < (sent.buffer.moveReadPtrBack buffer.unread.length).2.unread.length := by
    have inside := whole.inside
    rw [whole.buffer, DataBuffer.moveReadPtrBack]
    split_ifs <;> simp only [List.length_append, List.length_drop] <;> omega
  obtain ⟨copy, more, size, extended⟩ := broadcastLoop_next found whole.noFailure left ended
  -- The second copy must be as long as the packet.
  rw [delivered, whole.handed, List.nil_append, copies_cons header] at extended
  have head := (List.cons.inj (List.append_cancel_left extended)).1
  have equal : (sent.buffer.moveReadPtrBack (copied buffer first).unread.length).2.unread.length =
      (copied buffer first).unread.length := by
    rw [length, ← size, ← head, copyFor_length (length ▸ header), length]
  obtain ⟨still, near⟩ := moveReadPtrBack_length whole equal
  rw [length] at near started
  exact ⟨near, started still⟩

/-- The loop gives every remaining role its copy exactly under these answers. -/
theorem broadcastLoop_iff (found : 0 < proxy.count) (lrid : List UInt32)
    (header : 15 ≤ buffer.unread.length) (noFailure : NoFailure kernel.sends)
    (handed : List (List UInt8)) :
    (∃ fuel result, proxy.broadcastLoop fuel buffer.unread.length lrid kernel buffer handed =
      some result ∧ result.code = 0 ∧
        result.handed = handed ++ lrid.map (copyFor buffer.unread)) ↔
      CopiesFair lrid kernel buffer := by
  induction lrid generalizing kernel buffer handed with
  | nil =>
      refine iff_of_true ⟨0, ⟨0, kernel, buffer, handed⟩, rfl, rfl, ?_⟩ (.inl (by simp))
      simp
  | cons first lrid inductive_hypothesis =>
      have length := copied_length header first
      cases lrid with
      | nil =>
          exact iff_of_true (broadcastLoop_last found header noFailure first handed)
            (.inl (by simp))
      | cons second lrid =>
          by_cases fair : buffer.consumed.length < buffer.unread.length ∧
              ∀ answer ∈ kernel.sends.head?, TakesAll buffer.unread.length answer
          · obtain ⟨near, all⟩ := fair
            have tail : NoFailure kernel.sends.tail := fun answer member =>
              noFailure answer (List.mem_of_mem_tail member)
            have rest := @inductive_hypothesis { kernel with sends := kernel.sends.tail }
              (copied buffer first) (length ▸ header) tail
              (handed ++ [(copied buffer first).unread])
            rw [copiesFair_cons near all (copied buffer first) rfl length, ← rest, length,
              copies_cons header]
            simp only [broadcastLoop_next_role found header near all]
          · refine iff_of_false ?_ ?_
            · rintro ⟨fuel, result, ended, code, delivered⟩
              exact fair (fair_of_delivered found header noFailure ended delivered)
            · rintro (few | ⟨near, all⟩)
              · simp at few
              · refine fair ⟨near, fun answer head => all answer ?_⟩
                cases given : kernel.sends with
                | nil => simp [given] at head
                | cons other rest =>
                    obtain rfl : other = answer := by simpa [given] using head
                    simp

end Copies

/-- Every role gets one copy of the whole packet if there is one role at most, or if the packet is
longer than what lies in front of it and each copy but the last is sent with one call. -/
theorem broadcast_copies_iff (found : 0 < proxy.count) (lrid : List UInt32)
    (header : packetHeaderLength ≤ buffer.unread.length) (noFailure : NoFailure kernel.sends) :
    DeliversCopies proxy lrid kernel buffer ↔ CopiesFair lrid kernel buffer :=
  broadcastLoop_iff found lrid header noFailure []

def oneGateway : GWProxy := initial ⟨1024, 1024, [3], by decide, by decide⟩

/-- A packet of a header only. -/
def headerOnly : DataBuffer := ⟨1024, [], List.replicate 15 9⟩

theorem twoRoles_delivered : DeliversCopies oneGateway [1, 2] ⟨[], [], .other⟩ headerOnly := by
  have none : NoFailure (Kernel.sends ⟨[], [], .other⟩) := by simp [NoFailure]
  exact (broadcast_copies_iff (by decide) [1, 2] (by decide) none).mpr (.inr ⟨by decide, by simp⟩)

/-- The first copy is sent with ten bytes and five more, and the second one has five bytes. -/
theorem partialSend_not_delivered :
    ¬ ∀ (proxy : GWProxy) (lrid : List UInt32) (kernel : Kernel) (buffer : DataBuffer),
      0 < proxy.count → packetHeaderLength ≤ buffer.unread.length → NoFailure kernel.sends →
      DeliversCopies proxy lrid kernel buffer := by
  intro claimed
  have some : NoFailure (Kernel.sends ⟨[.took 9], [], .other⟩) :=
    List.forall_mem_singleton.mpr ⟨9, rfl⟩
  have delivered := claimed oneGateway [1, 2] ⟨[.took 9], [], .other⟩ headerOnly (by decide)
    (by decide) some
  rcases (broadcastLoop_iff (by decide) [1, 2] (by decide) some []).mp delivered with
    few | ⟨_, all⟩
  · exact absurd few (by decide)
  · obtain ⟨more, took, enough⟩ := all (.took 9) (List.mem_singleton_self _)
    obtain rfl : 9 = more := SendAnswer.took.inj took
    exact absurd enough (by decide)

end AppSvr.BaseServer.GWProxy
