/-
This file defines the byte buffer that carries a message, its pointers and the copies through them.
-/

import Mathlib.Algebra.Order.Ring.Nat

namespace AppSvr.BaseServer

/-- The read pointer separates the consumed bytes from the unread ones; the write pointer follows
the unread bytes. -/
structure DataBuffer where
  size : UInt32
  consumed : List UInt8
  unread : List UInt8
  deriving DecidableEq, Repr

namespace DataBuffer

def new (size : UInt32) : DataBuffer := ⟨size, [], []⟩

variable (buffer : DataBuffer)

def getDataSize : Nat := buffer.unread.length

/-- This is the distance from the start of the memory to the write pointer. -/
def written : Nat := buffer.consumed.length + buffer.unread.length

/-- The room is compared as an unsigned difference. A failed write changes nothing. -/
def write (src : List UInt8) : Int × DataBuffer :=
  if (buffer.size - UInt32.ofNat src.length).toNat < buffer.written then (-1, buffer)
  else (0, { buffer with unread := buffer.unread ++ src })

/-- A failed read returns no bytes and consumes nothing. -/
def read (length : Nat) : Option (List UInt8) × DataBuffer :=
  if buffer.unread.length < length then (none, buffer)
  else (some (buffer.unread.take length),
    { buffer with
      consumed := buffer.consumed ++ buffer.unread.take length
      unread := buffer.unread.drop length })

/-- The read pointer moves forward by `length` bytes. -/
def moveReadPtr (length : Nat) : Int × DataBuffer :=
  match buffer.read length with
  | (none, buffer) => (-1, buffer)
  | (some _, buffer) => (0, buffer)

/-- This is `MoveReadPtr` with a negative offset. The pointer stays inside the memory. -/
def moveReadPtrBack (length : Nat) : Int × DataBuffer :=
  if buffer.consumed.length < length then (-1, buffer)
  else
    let kept := buffer.consumed.length - length
    (0, { buffer with
      consumed := buffer.consumed.take kept
      unread := buffer.consumed.drop kept ++ buffer.unread })

/-- The caller copies `bytes` behind the read pointer. What comes behind the write pointer is never
sent. -/
def patch (offset : Nat) (bytes : List UInt8) : DataBuffer :=
  { buffer with
    unread := (buffer.unread.take offset ++ bytes ++
      buffer.unread.drop (offset + bytes.length)).take buffer.unread.length }

/-- The caller has copied `bytes` to the write pointer, which moves behind them in the memory. -/
def moveWritePtr (bytes : List UInt8) : Int × DataBuffer :=
  if buffer.size.toNat < buffer.written + bytes.length then (-1, buffer)
  else (0, { buffer with unread := buffer.unread ++ bytes })

def reset : DataBuffer := { buffer with consumed := [], unread := [] }

end DataBuffer

/-- The allocated bytes lie inside an address space of `bits` bits. -/
structure Storage (bits : Nat) where
  size : UInt32
  pData : BitVec bits
  within : pData.toNat + size.toNat < 2 ^ bits

/-- The buffer has a read pointer and a write pointer into the memory of the process. -/
structure PointerBuffer {bits : Nat} (storage : Storage bits) where
  pRead : BitVec bits
  pWrite : BitVec bits
  memory : BitVec bits → UInt8

/-- The bytes from `target` on are replaced, also where they are not part of the buffer. -/
def memcpy {bits : Nat} (memory : BitVec bits → UInt8) (target : BitVec bits) (src : Nat → UInt8)
    (length : UInt32) : BitVec bits → UInt8 := fun address =>
  if (address - target).toNat < length.toNat then src (address - target).toNat else memory address

namespace PointerBuffer

variable {bits : Nat} {storage : Storage bits}

def new (storage : Storage bits) (memory : BitVec bits → UInt8) : PointerBuffer storage :=
  ⟨storage.pData, storage.pData, memory⟩

/-- An unsigned length or a signed offset is added to an address. -/
def advance (pointer : BitVec bits) (offset : Int) : BitVec bits := pointer + BitVec.ofInt bits offset

variable (buffer : PointerBuffer storage)

def getDataSize : UInt32 :=
  UInt32.ofNat (buffer.pWrite - buffer.pRead).toNat

/-- The room is an unsigned difference. -/
def write (src : Nat → UInt8) (length : UInt32) : Int × PointerBuffer storage :=
  if UInt32.ofNat (buffer.pWrite - storage.pData).toNat > storage.size - length then (-1, buffer)
  else (0, { buffer with
    memory := memcpy buffer.memory buffer.pWrite src length
    pWrite := advance buffer.pWrite length.toNat })

/-- The bytes are copied to `dest`. -/
def read (length : UInt32) : Int × List UInt8 × PointerBuffer storage :=
  if advance buffer.pRead length.toNat > buffer.pWrite then (-1, [], buffer)
  else (0,
    (List.range length.toNat).map fun (index : Nat) => buffer.memory (advance buffer.pRead index),
    { buffer with pRead := advance buffer.pRead length.toNat })

def moveReadPtr (offset : Int32) : Int × PointerBuffer storage :=
  if advance buffer.pRead offset.toInt ≥ storage.pData ∧
      advance buffer.pRead offset.toInt ≤ buffer.pWrite then
    (0, { buffer with pRead := advance buffer.pRead offset.toInt })
  else (-1, buffer)

/-- The read pointer is not looked at. -/
def moveWritePtr (offset : Int32) : Int × PointerBuffer storage :=
  if advance buffer.pWrite offset.toInt ≥ storage.pData ∧
      advance buffer.pWrite offset.toInt ≤ advance storage.pData storage.size.toNat then
    (0, { buffer with pWrite := advance buffer.pWrite offset.toInt })
  else (-1, buffer)

def reset : PointerBuffer storage :=
  { buffer with pRead := storage.pData, pWrite := storage.pData }

/-- These are the calls of the users of a buffer. -/
inductive Call where
  | write (src : Nat → UInt8) (length : UInt32)
  | read (length : UInt32)
  | moveReadPtr (offset : Int32)
  | moveWritePtr (offset : Int32)
  | reset

/-- `Reset` has no result. -/
def call : Call → Option Int × PointerBuffer storage
  | .write src length => ((buffer.write src length).1, (buffer.write src length).2)
  | .read length => ((buffer.read length).1, (buffer.read length).2.2)
  | .moveReadPtr offset => ((buffer.moveReadPtr offset).1, (buffer.moveReadPtr offset).2)
  | .moveWritePtr offset => ((buffer.moveWritePtr offset).1, (buffer.moveWritePtr offset).2)
  | .reset => (none, buffer.reset)

def step (call : Call) : Option (PointerBuffer storage) :=
  some (buffer.call call).2

end PointerBuffer

end AppSvr.BaseServer
