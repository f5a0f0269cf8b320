/-
This file defines the serializer operators, the archive types with their save and load functions, the
packet header with its length field, and the replies that are built behind it.
-/

import AppSvr.Construction.BaseServer.DataBuffer
import AppSvr.ToMathlib.LittleEndian

namespace AppSvr.BaseServer
open LittleEndian

/-- A fixed-width type copies its memory bytes, and the copy restores the value. -/
structure Fixed (Value : Type) where
  width : Nat
  toBytes : Value → List UInt8
  ofBytes : List UInt8 → Value
  toBytes_length : ∀ value, (toBytes value).length = width
  ofBytes_toBytes : ∀ value, ofBytes (toBytes value) = value

/-- An integer is stored in little-endian order. -/
def Fixed.integer {Value : Type} (width : Nat) (toNat : Value → Nat) (ofNat : Nat → Value)
    (fits : ∀ value, toNat value < 256 ^ width) (restores : ∀ value, ofNat (toNat value) = value) :
    Fixed Value where
  width := width
  toBytes value := encode width (toNat value)
  ofBytes bytes := ofNat (decode bytes)
  toBytes_length value := encode_length width (toNat value)
  ofBytes_toBytes value := by rw [decode_encode_of_lt (fits value), restores]

namespace Fixed

def bool : Fixed Bool :=
  integer 1 (fun value => if value then 1 else 0) (fun number => number ≠ 0)
    (fun value => by cases value <;> decide) (fun value => by cases value <;> decide)

def byte : Fixed UInt8 :=
  integer 1 UInt8.toNat UInt8.ofNat UInt8.toNat_lt (fun _ => UInt8.ofNat_toNat)

def sByte : Fixed Int8 :=
  integer 1 (fun value => value.toUInt8.toNat) (fun number => (UInt8.ofNat number).toInt8)
    (fun value => value.toUInt8.toNat_lt)
    (fun value => by rw [UInt8.ofNat_toNat, Int8.toInt8_toUInt8])

def int16 : Fixed Int16 :=
  integer 2 (fun value => value.toUInt16.toNat) (fun number => (UInt16.ofNat number).toInt16)
    (fun value => value.toUInt16.toNat_lt)
    (fun value => by rw [UInt16.ofNat_toNat, Int16.toInt16_toUInt16])

def uInt16 : Fixed UInt16 :=
  integer 2 UInt16.toNat UInt16.ofNat UInt16.toNat_lt (fun _ => UInt16.ofNat_toNat)

def int32 : Fixed Int32 :=
  integer 4 (fun value => value.toUInt32.toNat) (fun number => (UInt32.ofNat number).toInt32)
    (fun value => value.toUInt32.toNat_lt)
    (fun value => by rw [UInt32.ofNat_toNat, Int32.toInt32_toUInt32])

def uInt32 : Fixed UInt32 :=
  integer 4 UInt32.toNat UInt32.ofNat UInt32.toNat_lt (fun _ => UInt32.ofNat_toNat)

def int64 : Fixed Int64 :=
  integer 8 (fun value => value.toUInt64.toNat) (fun number => (UInt64.ofNat number).toInt64)
    (fun value => value.toUInt64.toNat_lt)
    (fun value => by rw [UInt64.ofNat_toNat, Int64.toInt64_toUInt64])

def uInt64 : Fixed UInt64 :=
  integer 8 UInt64.toNat UInt64.ofNat UInt64.toNat_lt (fun _ => UInt64.ofNat_toNat)

end Fixed

/-- `iError` is the state of the last operation: zero is success. -/
structure Serializer where
  buffer : DataBuffer
  iError : Int
  deriving DecidableEq, Repr

namespace Serializer

def new (input : DataBuffer) : Serializer := ⟨input, 0⟩

def getErrorCode (serializer : Serializer) : Int := serializer.iError

/-- Every write overwrites the error code. -/
def writeBytes (serializer : Serializer) (src : List UInt8) : Serializer :=
  let (iError, buffer) := serializer.buffer.write src
  ⟨buffer, iError⟩

/-- Every fixed-width `operator<<` is this function at its type. -/
def writeFixed {Value : Type} (type : Fixed Value) (value : Value) (serializer : Serializer) :
    Serializer :=
  serializer.writeBytes (type.toBytes value)

/-- Every fixed-width `operator>>` is this function at its type. A failed read sets the error code
and keeps the value, and a successful read clears the error code. -/
def readFixed {Value : Type} (type : Fixed Value) (value : Value) (serializer : Serializer) :
    Value × Serializer :=
  match serializer.buffer.read type.width with
  | (none, buffer) => (value, ⟨buffer, -1⟩)
  | (some bytes, buffer) => (type.ofBytes bytes, ⟨buffer, 0⟩)

/-- The length of a string is a sixteen-bit local. -/
def writeString (value : List UInt8) (serializer : Serializer) : Serializer :=
  let len := UInt16.ofNat value.length
  let serializer := serializer.writeFixed .uInt16 len
  if 0 < len then serializer.writeBytes (value.take len.toNat) else serializer

/-- A string longer than the unread bytes leaves them behind its consumed length. -/
def readString (value : List UInt8) (serializer : Serializer) : List UInt8 × Serializer :=
  let (len, serializer) := serializer.readFixed .uInt16 0
  if 0 < len then
    if serializer.buffer.getDataSize < len.toNat then (value, { serializer with iError := -1 })
    else
      let (iError, buffer) := serializer.buffer.moveReadPtr len.toNat
      (serializer.buffer.unread.take len.toNat, ⟨buffer, iError⟩)
  else ([], serializer)

end Serializer

/-- The fixed-width types of the operators. -/
inductive FixedType where
  | bool | byte | sByte | int16 | uInt16 | int32 | uInt32 | int64 | uInt64
  deriving DecidableEq, Repr

abbrev FixedType.Value : FixedType → Type
  | .bool => Bool
  | .byte => UInt8
  | .sByte => Int8
  | .int16 => Int16
  | .uInt16 => UInt16
  | .int32 => Int32
  | .uInt32 => UInt32
  | .int64 => Int64
  | .uInt64 => UInt64

def FixedType.fixed : (type : FixedType) → Fixed type.Value
  | .bool => .bool
  | .byte => .byte
  | .sByte => .sByte
  | .int16 => .int16
  | .uInt16 => .uInt16
  | .int32 => .int32
  | .uInt32 => .uInt32
  | .int64 => .int64
  | .uInt64 => .uInt64

/-- The zero bytes give the value of a fresh local. -/
def FixedType.zero (type : FixedType) : type.Value := type.fixed.ofBytes []

/-- A record lists its `SERIAL_ENTRY` columns. -/
inductive Archive where
  | fixed (type : FixedType)
  | string
  | list (element : Archive)
  | record (entries : List Archive)

namespace Archive

mutual

/-- An archive type has these objects. -/
def Value : Archive → Type
  | .fixed type => type.Value
  | .string => List UInt8
  | .list element => List (Value element)
  | .record entries => Values entries

def Values : List Archive → Type
  | [] => Unit
  | entry :: entries => Value entry × Values entries

end

mutual

/-- A default-constructed object has empty strings and lists. -/
def fresh : (archive : Archive) → archive.Value
  | .fixed type => type.zero
  | .string => ([] : List UInt8)
  | .list element => ([] : List element.Value)
  | .record entries => freshEntries entries

def freshEntries : (entries : List Archive) → Values entries
  | [] => ()
  | entry :: entries => (fresh entry, freshEntries entries)

end

/-- This is `List<Type>::Serialize` with `isLoading` false. The size is a sixteen-bit local. -/
def saveList {Item : Type} (save : Item → Serializer → Serializer) (items : List Item)
    (serializer : Serializer) : Serializer :=
  let size := UInt16.ofNat items.length
  let serializer := serializer.writeFixed .uInt16 size
  if 0 < size then items.foldl (fun serializer item => save item serializer) serializer
  else serializer

/-- The loop reads every item into one temporary and appends its copy. -/
def loadItems {Item : Type} (load : Item → Serializer → Item × Serializer) :
    Nat → Item → List Item → Serializer → List Item × Serializer
  | 0, _, items, serializer => (items, serializer)
  | size + 1, temporary, items, serializer =>
      let (temporary, serializer) := load temporary serializer
      loadItems load size temporary (items ++ [temporary]) serializer

/-- This is `List<Type>::Serialize` with `isLoading` true. -/
def loadList {Item : Type} (load : Item → Serializer → Item × Serializer) (temporary : Item)
    (items : List Item) (serializer : Serializer) : List Item × Serializer :=
  let (size, serializer) := serializer.readFixed .uInt16 0
  if 0 < size then loadItems load size.toNat temporary items serializer else (items, serializer)

mutual

/-- This is `Serialize` with `isLoading` false. -/
def save : (archive : Archive) → archive.Value → Serializer → Serializer
  | .fixed type, value, serializer => serializer.writeFixed type.fixed value
  | .string, value, serializer => serializer.writeString value
  | .list element, items, serializer => saveList (save element) items serializer
  | .record entries, value, serializer => saveEntries entries value serializer

/-- A column is written only while the error code is zero. -/
def saveEntries : (entries : List Archive) → Values entries → Serializer → Serializer
  | [], _, serializer => serializer
  | entry :: entries, value, serializer =>
      saveEntries entries value.2
        (if serializer.getErrorCode = 0 then save entry value.1 serializer else serializer)

end

mutual

/-- This is `Serialize` with `isLoading` true: the object is loaded in place, and a list appends to
its items. -/
def load : (archive : Archive) → archive.Value → Serializer → archive.Value × Serializer
  | .fixed type, value, serializer => serializer.readFixed type.fixed value
  | .string, value, serializer => serializer.readString value
  | .list element, items, serializer => loadList (load element) (fresh element) items serializer
  | .record entries, value, serializer => loadEntries entries value serializer

/-- A column is read only while the error code is zero. -/
def loadEntries : (entries : List Archive) → Values entries → Serializer →
    Values entries × Serializer
  | [], value, serializer => (value, serializer)
  | entry :: entries, value, serializer =>
      let (first, serializer) :=
        if serializer.getErrorCode = 0 then load entry value.1 serializer
        else (value.1, serializer)
      let (rest, serializer) := loadEntries entries value.2 serializer
      ((first, rest), serializer)

end

/-- A message handler chains `>>` over its locals before it tests the error code. -/
def loadChain : (chain : List Archive) → Values chain → Serializer → Values chain × Serializer
  | [], value, serializer => (value, serializer)
  | archive :: chain, value, serializer =>
      let (first, serializer) := load archive value.1 serializer
      let (rest, serializer) := loadChain chain value.2 serializer
      ((first, rest), serializer)

end Archive

structure Packet where
  length : UInt16
  direction : UInt8
  svrType : UInt8
  svrSeq : UInt8
  msgType : UInt16
  uniqID : UInt32
  roleID : UInt32
  deriving DecidableEq, Repr

namespace Packet

variable (packet : Packet)

def headerWrites : List (List UInt8) :=
  [Fixed.uInt16.toBytes packet.length, Fixed.byte.toBytes packet.direction,
    Fixed.byte.toBytes packet.svrType, Fixed.byte.toBytes packet.svrSeq,
    Fixed.uInt16.toBytes packet.msgType, Fixed.uInt32.toBytes packet.uniqID,
    Fixed.uInt32.toBytes packet.roleID]

/-- These are the fifteen bytes of the header. -/
def header : List UInt8 := packet.headerWrites.flatten

/-- The results of the writes are not looked at. -/
def packHeader (buffer : DataBuffer) : DataBuffer :=
  packet.headerWrites.foldl (fun buffer src => (buffer.write src).2) buffer.reset

/-- The length is a sixteen-bit field, and the write pointer moves back by it. A step that fails
leaves the pointer where it is. -/
def updatePacketLength (buffer : DataBuffer) : Packet × DataBuffer :=
  let length := UInt16.ofNat buffer.written
  let packet := { packet with length }
  let position := buffer.written - length.toNat
  let front := buffer.consumed.length
  let memory := buffer.consumed ++ buffer.unread
  if buffer.size.toNat < position then (packet, buffer)
  else if (buffer.size - 2).toNat < position then
    (packet, { buffer with
      consumed := (memory.take position).take front
      unread := (memory.take position).drop front })
  else
    let patched := memory.take position ++ Fixed.uInt16.toBytes length ++ memory.drop (position + 2)
    -- The pointer cannot return behind the end of the memory.
    let restored := patched.take (if buffer.size.toNat < buffer.written then position + 2
      else buffer.written)
    (packet, { buffer with consumed := restored.take front, unread := restored.drop front })

/-- A failed read keeps the field. -/
def readField {Value : Type} (type : Fixed Value) (field : Value) (buffer : DataBuffer) :
    Value × DataBuffer :=
  match buffer.read type.width with
  | (none, buffer) => (field, buffer)
  | (some bytes, buffer) => (type.ofBytes bytes, buffer)

/-- The results of the reads are not looked at. -/
def unpackHeader (buffer : DataBuffer) : Packet × DataBuffer :=
  let (length, buffer) := readField .uInt16 packet.length buffer
  let (direction, buffer) := readField .byte packet.direction buffer
  let (svrType, buffer) := readField .byte packet.svrType buffer
  let (svrSeq, buffer) := readField .byte packet.svrSeq buffer
  let (msgType, buffer) := readField .uInt16 packet.msgType buffer
  let (uniqID, buffer) := readField .uInt32 packet.uniqID buffer
  let (roleID, buffer) := readField .uInt32 packet.roleID buffer
  (⟨length, direction, svrType, svrSeq, msgType, uniqID, roleID⟩, buffer)

end Packet

namespace Archive

/-- A message handler chains `<<` over the values of its packet. -/
def saveChain : (chain : List Archive) → Values chain → Serializer → Serializer
  | [], _, serializer => serializer
  | archive :: chain, value, serializer => saveChain chain value.2 (save archive value.1 serializer)

end Archive

/-- The values of a packet with their types. -/
abbrev Message := (chain : List Archive) × Archive.Values chain

/-- The values are written behind the header. -/
def Packet.write (packet : Packet) (size : UInt32) (message : Message) : Serializer :=
  Archive.saveChain message.1 message.2 (Serializer.new (packet.packHeader (DataBuffer.new size)))

/-- The columns of `ArchvTaskDetail`. -/
def archvTaskDetail : Archive :=
  .record [.fixed .byte, .fixed .uInt32, .fixed .byte, .fixed .uInt32, .fixed .uInt32]

/-- The columns of `ArchvTaskInfo`. -/
def archvTaskInfo : Archive :=
  .record [.fixed .uInt32, .string, .fixed .byte, .fixed .byte, .list archvTaskDetail]

/-- The columns of `ArchvFriendAddPro`. -/
def archvFriendAddPro : Archive :=
  .record [.string, .fixed .uInt32, .fixed .byte, .fixed .byte, .fixed .byte]

/-- The items follow the return code zero only. -/
def replyMessage {element : Archive} (retCode : UInt32) (items : List element.Value) : Message :=
  if retCode = 0 then ⟨[.fixed .uInt32, .list element], (retCode, items, ())⟩
  else ⟨[.fixed .uInt32], (retCode, ())⟩

/-- The handlers do not test the error code of the serializer before they send the buffer. -/
def reply {element : Archive} (packet : Packet) (size retCode : UInt32)
    (items : List element.Value) : Option DataBuffer :=
  some (packet.updatePacketLength (packet.write size (replyMessage retCode items)).buffer).2

/-- The end of `ProcessGetRoleTask`. -/
def replyGetRoleTask (packet : Packet) (retCode : UInt32) (lti : List archvTaskInfo.Value) :
    Option DataBuffer := reply packet 1024 retCode lti

/-- The end of `ProcessGetFriend`. -/
def replyGetFriend (packet : Packet) (retCode : UInt32) (lf : List archvFriendAddPro.Value) :
    Option DataBuffer := reply packet 12288 retCode lf

end AppSvr.BaseServer
