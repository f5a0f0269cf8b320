/-
This file defines local buffers of a fixed size. Bytes behind the end of a buffer overwrite other
memory.
-/

import Mathlib.Data.List.Basic

namespace AppSvr.LocalBuffers

/-- These bytes are written from the start of the buffer. -/
structure Buffer where
  size : Nat
  bytes : List UInt8

/-- The bytes stay within the buffer. -/
def Buffer.Holds (buffer : Buffer) : Prop := buffer.bytes.length ≤ buffer.size

instance (buffer : Buffer) : Decidable buffer.Holds := inferInstanceAs (Decidable (_ ≤ _))

section Records

variable {Item : Type*} {bytes : Item → List UInt8} {width : Nat}

/-- Records of one width follow each other. -/
theorem length_records (same : ∀ item, (bytes item).length = width) (items : List Item) :
    (items.flatMap bytes).length = width * items.length := by
  induction items with
  | nil => rfl
  | cons item items ih =>
      rw [List.flatMap_cons, List.length_append, ih, same, List.length_cons, Nat.mul_succ,
        Nat.add_comm]

theorem holds_records_iff (same : ∀ item, (bytes item).length = width) (items : List Item)
    (size : Nat) (front back : List UInt8) :
    (Buffer.mk size (front ++ (items.flatMap bytes ++ back))).Holds ↔
      front.length + width * items.length + back.length ≤ size := by
  rw [Buffer.Holds, List.length_append, List.length_append, length_records same, ← Nat.add_assoc]

end Records

end AppSvr.LocalBuffers
