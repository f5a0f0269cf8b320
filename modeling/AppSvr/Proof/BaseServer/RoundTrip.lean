/-
This file proves what the serializer operators write and read, what a load leaves of its object, and
when an archive survives the round trip.
-/

import AppSvr.Construction.BaseServer.Serializer
import Mathlib.Data.List.Basic

namespace AppSvr.BaseServer

namespace DataBuffer

/-- The bytes follow the unread ones. -/
def append (buffer : DataBuffer) (bytes : List UInt8) : DataBuffer :=
  { buffer with unread := buffer.unread ++ bytes }

/-- The bytes are consumed and the rest is unread. -/
def advance (buffer : DataBuffer) (bytes rest : List UInt8) : DataBuffer :=
  { buffer with consumed := buffer.consumed ++ bytes, unread := rest }

variable (buffer : DataBuffer)

@[simp] theorem append_size (bytes : List UInt8) :
    (buffer.append bytes).size = buffer.size := rfl

@[simp] theorem append_written (bytes : List UInt8) :
    (buffer.append bytes).written = buffer.written + bytes.length := by
  simp [append, written, Nat.add_assoc]

@[simp] theorem append_nil : buffer.append [] = buffer := by
  simp [append]

@[simp] theorem append_append (first second : List UInt8) :
    (buffer.append first).append second = buffer.append (first ++ second) := by
  simp [append]

@[simp] theorem advance_unread (bytes rest : List UInt8) :
    (buffer.advance bytes rest).unread = rest := rfl

@[simp] theorem advance_advance (first second rest last : List UInt8) :
    (buffer.advance first rest).advance second last = buffer.advance (first ++ second) last := by
  simp [advance]

theorem advance_nil {buffer : DataBuffer} {rest : List UInt8} (unread : buffer.unread = rest) :
    buffer.advance [] rest = buffer := by
  simp [advance, ← unread]

/-- A write that fits appends its bytes. -/
theorem write_fits {buffer : DataBuffer} {src : List UInt8}
    (fits : buffer.written + src.length ≤ buffer.size.toNat) :
    buffer.write src = (0, buffer.append src) := by
  have bound := buffer.size.toNat_lt
  have length : (UInt32.ofNat src.length).toNat = src.length := by
    rw [UInt32.toNat_ofNat', Nat.mod_eq_of_lt (by omega)]
  have room : (buffer.size - UInt32.ofNat src.length).toNat = buffer.size.toNat - src.length := by
    rw [UInt32.toNat_sub_of_le _ _ (by rw [UInt32.le_iff_toNat_le, length]; omega), length]
  rw [write, room, if_neg (by omega)]
  rfl

/-- A read takes the front of the unread bytes. -/
theorem read_front {buffer : DataBuffer} {bytes rest : List UInt8} {length : Nat}
    (width : bytes.length = length) (unread : buffer.unread = bytes ++ rest) :
    buffer.read length = (some bytes, buffer.advance bytes rest) := by
  rw [read, if_neg (by rw [unread, List.length_append]; omega), unread, ← width, List.take_left,
    List.drop_left]
  rfl

/-- A read behind the write pointer fails. -/
theorem read_short {buffer : DataBuffer} {length : Nat} (short : buffer.unread.length < length) :
    buffer.read length = (none, buffer) := by
  rw [read, if_pos short]

end DataBuffer

namespace Archive

/-- A string is encoded behind its length. -/
def stringBytes (value : List UInt8) : List UInt8 :=
  Fixed.uInt16.toBytes (UInt16.ofNat value.length) ++ value

/-- A list is encoded behind its size. -/
def listBytes {Item : Type} (encode : Item → List UInt8) (items : List Item) : List UInt8 :=
  Fixed.uInt16.toBytes (UInt16.ofNat items.length) ++ items.flatMap encode

mutual

/-- This is the encoding of a value. -/
def bytes : (archive : Archive) → archive.Value → List UInt8
  | .fixed type, value => type.fixed.toBytes value
  | .string, value => stringBytes value
  | .list element, items => listBytes (bytes element) items
  | .record entries, value => entriesBytes entries value

def entriesBytes : (entries : List Archive) → Values entries → List UInt8
  | [], _ => []
  | entry :: entries, value => bytes entry value.1 ++ entriesBytes entries value.2

end

/-- A list of fewer than 65536 items is small when its items are. -/
def SmallList {Item : Type} (small : Item → Prop) (items : List Item) : Prop :=
  items.length < 65536 ∧ ∀ item ∈ items, small item

mutual

/-- Every string and list of the value has fewer than 65536 elements. -/
def Small : (archive : Archive) → archive.Value → Prop
  | .fixed _, _ => True
  | .string, value => SmallList (fun _ : UInt8 => True) value
  | .list element, items => SmallList (Small element) items
  | .record entries, value => SmallEntries entries value

def SmallEntries : (entries : List Archive) → Values entries → Prop
  | [], _ => True
  | entry :: entries, value => Small entry value.1 ∧ SmallEntries entries value.2

end

/-- The temporary of the loading loop keeps what the earlier items left in it. -/
def reuse {Item : Type} (overlay : Item → Item → Item) : Item → List Item → List Item
  | _, [] => []
  | temporary, item :: items =>
      overlay temporary item :: reuse overlay (overlay temporary item) items

/-- A list keeps its items in front of the loaded ones. -/
def overlayList {Item : Type} (overlay : Item → Item → Item) (temporary : Item)
    (object items : List Item) : List Item :=
  object ++ reuse overlay temporary items

mutual

/-- Loading the encoding of `value` into `object` leaves this object. -/
def overlay : (archive : Archive) → (object value : archive.Value) → archive.Value
  | .fixed _, _, value => value
  | .string, _, value => value
  | .list element, object, items => overlayList (overlay element) (fresh element) object items
  | .record entries, object, value => overlayEntries entries object value

def overlayEntries : (entries : List Archive) → (object value : Values entries) → Values entries
  | [], _, value => value
  | entry :: entries, object, value =>
      (overlay entry object.1 value.1, overlayEntries entries object.2 value.2)

end

end Archive

namespace Serializer

variable {Value : Type} {type : Fixed Value}

variable {serializer : Serializer}

/-- A fixed-width write that fits appends its bytes and clears the error code. -/
theorem writeFixed_fits {value : Value}
    (fits : serializer.buffer.written + (type.toBytes value).length ≤
      serializer.buffer.size.toNat) :
    serializer.writeFixed type value = ⟨serializer.buffer.append (type.toBytes value), 0⟩ := by
  rw [writeFixed, writeBytes, DataBuffer.write_fits fits]

/-- A fixed-width read of an encoded value restores it. -/
theorem readFixed_encoded {value old : Value} {rest : List UInt8}
    (unread : serializer.buffer.unread = type.toBytes value ++ rest) :
    serializer.readFixed type old =
      (value, ⟨serializer.buffer.advance (type.toBytes value) rest, 0⟩) := by
  rw [readFixed, DataBuffer.read_front (type.toBytes_length value) unread]
  dsimp only
  rw [type.ofBytes_toBytes]

/-- A fixed-width read of too few bytes fails. -/
theorem readFixed_short {old : Value}
    (short : serializer.buffer.unread.length < type.width) :
    serializer.readFixed type old = (old, ⟨serializer.buffer, -1⟩) := by
  rw [readFixed, DataBuffer.read_short short]

/-- A length below 65536 survives the sixteen-bit local. -/
theorem toNat_length {Item : Type} {items : List Item} (small : items.length < 65536) :
    (UInt16.ofNat items.length).toNat = items.length := by
  rw [UInt16.toNat_ofNat', Nat.mod_eq_of_lt small]

/-- The sixteen-bit length is positive exactly for a nonempty list. -/
theorem length_pos {Item : Type} {items : List Item} (small : items.length < 65536) :
    0 < UInt16.ofNat items.length ↔ items ≠ [] := by
  rw [UInt16.lt_iff_toNat_lt, toNat_length small, UInt16.toNat_zero, List.length_pos_iff]

/-- A string that fits is written behind its length. -/
theorem writeString_fits {value : List UInt8}
    (small : value.length < 65536)
    (fits : serializer.buffer.written + (Archive.stringBytes value).length ≤
      serializer.buffer.size.toNat) :
    serializer.writeString value = ⟨serializer.buffer.append (Archive.stringBytes value), 0⟩ := by
  rw [Archive.stringBytes, List.length_append] at fits
  rw [writeString, writeFixed_fits (by omega)]
  split
  · rw [toNat_length small, List.take_length, writeBytes, DataBuffer.write_fits]
    · simp [Archive.stringBytes]
    · simp only [DataBuffer.append_written, DataBuffer.append_size]
      omega
  · rename_i empty
    rw [length_pos small, not_not] at empty
    simp [empty, Archive.stringBytes]

/-- A string read of an encoded string replaces the old value. -/
theorem readString_encoded {value old rest : List UInt8}
    (small : value.length < 65536)
    (unread : serializer.buffer.unread = Archive.stringBytes value ++ rest) :
    serializer.readString old =
      (value, ⟨serializer.buffer.advance (Archive.stringBytes value) rest, 0⟩) := by
  rw [Archive.stringBytes, List.append_assoc] at unread
  rw [readString, readFixed_encoded unread]
  dsimp only
  split
  · rw [toNat_length small, DataBuffer.getDataSize, if_neg (by simp), DataBuffer.moveReadPtr,
      DataBuffer.read_front rfl (DataBuffer.advance_unread _ _ _)]
    simp [Archive.stringBytes]
  · rename_i empty
    rw [length_pos small, not_not] at empty
    simp [empty, Archive.stringBytes]

end Serializer


end AppSvr.BaseServer

namespace AppSvr.BaseServer.Archive

section Lists

variable {Item : Type}

/-- The saving loop appends the encodings of its items. -/
theorem saveItems_fits {save : Item → Serializer → Serializer} {encode : Item → List UInt8}
    {items : List Item}
    (saves : ∀ item ∈ items, ∀ serializer : Serializer, serializer.iError = 0 →
      serializer.buffer.written + (encode item).length ≤ serializer.buffer.size.toNat →
      save item serializer = ⟨serializer.buffer.append (encode item), 0⟩)
    {serializer : Serializer} (ok : serializer.iError = 0)
    (fits : serializer.buffer.written + (items.flatMap encode).length ≤
      serializer.buffer.size.toNat) :
    items.foldl (fun serializer item => save item serializer) serializer =
      ⟨serializer.buffer.append (items.flatMap encode), 0⟩ := by
  induction items generalizing serializer with
  | nil => cases serializer; simp_all
  | cons item items ih =>
      rw [List.flatMap_cons, List.length_append] at fits
      have first := saves item List.mem_cons_self serializer ok (by omega)
      rw [List.foldl_cons, first, ih (fun item member => saves item (List.mem_cons_of_mem _ member))
        rfl]
      · simp
      · simp only [DataBuffer.append_written, DataBuffer.append_size]
        omega

/-- A list that fits is written behind its size. -/
theorem saveList_fits {save : Item → Serializer → Serializer} {encode : Item → List UInt8}
    {items : List Item}
    (saves : ∀ item ∈ items, ∀ serializer : Serializer, serializer.iError = 0 →
      serializer.buffer.written + (encode item).length ≤ serializer.buffer.size.toNat →
      save item serializer = ⟨serializer.buffer.append (encode item), 0⟩)
    (small : items.length < 65536) {serializer : Serializer}
    (fits : serializer.buffer.written + (listBytes encode items).length ≤
      serializer.buffer.size.toNat) :
    saveList save items serializer = ⟨serializer.buffer.append (listBytes encode items), 0⟩ := by
  rw [listBytes, List.length_append] at fits
  rw [saveList, Serializer.writeFixed_fits (by omega)]
  split
  · rw [saveItems_fits saves rfl]
    · simp [listBytes]
    · simp only [DataBuffer.append_written, DataBuffer.append_size]
      omega
  · rename_i empty
    rw [Serializer.length_pos small, not_not] at empty
    simp [empty, listBytes]

/-- The loading loop consumes the encodings of its items. -/
theorem loadItems_encoded {load : Item → Serializer → Item × Serializer}
    {encode : Item → List UInt8} {lay : Item → Item → Item} {items : List Item}
    (loads : ∀ item ∈ items, ∀ object (serializer : Serializer) rest, serializer.iError = 0 →
      serializer.buffer.unread = encode item ++ rest →
      load object serializer =
        (lay object item, ⟨serializer.buffer.advance (encode item) rest, 0⟩))
    (temporary : Item) (object : List Item) {serializer : Serializer} {rest : List UInt8}
    (ok : serializer.iError = 0)
    (unread : serializer.buffer.unread = items.flatMap encode ++ rest) :
    loadItems load items.length temporary object serializer =
      (object ++ reuse lay temporary items,
        ⟨serializer.buffer.advance (items.flatMap encode) rest, 0⟩) := by
  induction items generalizing temporary object serializer with
  | nil =>
      obtain ⟨buffer, iError⟩ := serializer
      have same : buffer.advance [] rest = buffer :=
        DataBuffer.advance_nil (by simpa using unread)
      simp_all [loadItems, reuse]
  | cons item items ih =>
      rw [List.flatMap_cons, List.append_assoc] at unread
      have first := loads item List.mem_cons_self temporary serializer _ ok unread
      rw [List.length_cons, loadItems, first]
      dsimp only
      rw [ih (fun item member => loads item (List.mem_cons_of_mem _ member)) _ _ rfl rfl]
      simp [reuse]

/-- A list load consumes the encoding of the list. -/
theorem loadList_encoded {load : Item → Serializer → Item × Serializer}
    {encode : Item → List UInt8} {lay : Item → Item → Item} {items : List Item}
    (loads : ∀ item ∈ items, ∀ object (serializer : Serializer) rest, serializer.iError = 0 →
      serializer.buffer.unread = encode item ++ rest →
      load object serializer =
        (lay object item, ⟨serializer.buffer.advance (encode item) rest, 0⟩))
    (small : items.length < 65536) (temporary : Item) (object : List Item)
    {serializer : Serializer} {rest : List UInt8}
    (unread : serializer.buffer.unread = listBytes encode items ++ rest) :
    loadList load temporary object serializer =
      (overlayList lay temporary object items,
        ⟨serializer.buffer.advance (listBytes encode items) rest, 0⟩) := by
  rw [listBytes, List.append_assoc] at unread
  rw [loadList, Serializer.readFixed_encoded unread]
  dsimp only
  split
  · rw [Serializer.toNat_length small, loadItems_encoded loads _ _ rfl rfl]
    simp [listBytes, overlayList]
  · rename_i empty
    rw [Serializer.length_pos small, not_not] at empty
    simp [empty, listBytes, overlayList, reuse]

end Lists

mutual

/-- Saving a small value that fits appends its encoding. -/
theorem save_fits (archive : Archive) (value : archive.Value) (small : Small archive value)
    (serializer : Serializer) (ok : serializer.iError = 0)
    (fits : serializer.buffer.written + (bytes archive value).length ≤
      serializer.buffer.size.toNat) :
    save archive value serializer = ⟨serializer.buffer.append (bytes archive value), 0⟩ := by
  match archive with
  | .fixed type => exact Serializer.writeFixed_fits fits
  | .string => exact Serializer.writeString_fits small.1 fits
  | .list element =>
      exact saveList_fits (fun item member serializer =>
        save_fits element item (small.2 item member) serializer) small.1 fits
  | .record entries => exact saveEntries_fits entries value small serializer ok fits

theorem saveEntries_fits (entries : List Archive) (value : Values entries)
    (small : SmallEntries entries value) (serializer : Serializer) (ok : serializer.iError = 0)
    (fits : serializer.buffer.written + (entriesBytes entries value).length ≤
      serializer.buffer.size.toNat) :
    saveEntries entries value serializer =
      ⟨serializer.buffer.append (entriesBytes entries value), 0⟩ := by
  match entries with
  | [] => cases serializer; simp_all [saveEntries, entriesBytes]
  | entry :: entries =>
      rw [entriesBytes, List.length_append] at fits
      have first := save_fits entry value.1 small.1 serializer ok (by omega)
      rw [saveEntries, Serializer.getErrorCode, if_pos ok, first,
        saveEntries_fits entries value.2 small.2 _ rfl]
      · simp [entriesBytes]
      · simp only [DataBuffer.append_written, DataBuffer.append_size]
        omega

end

mutual

/-- Loading consumes exactly the encoding and overlays the object with the value. -/
theorem load_encoded (archive : Archive) (value : archive.Value) (small : Small archive value)
    (object : archive.Value) (serializer : Serializer) (rest : List UInt8)
    (ok : serializer.iError = 0)
    (unread : serializer.buffer.unread = bytes archive value ++ rest) :
    load archive object serializer =
      (overlay archive object value, ⟨serializer.buffer.advance (bytes archive value) rest, 0⟩) := by
  match archive with
  | .fixed type => exact Serializer.readFixed_encoded unread
  | .string => exact Serializer.readString_encoded small.1 unread
  | .list element =>
      exact loadList_encoded (fun item member object serializer rest =>
        load_encoded element item (small.2 item member) object serializer rest) small.1 _ _ unread
  | .record entries =>
      exact loadEntries_encoded entries value small object serializer rest ok unread

theorem loadEntries_encoded (entries : List Archive) (value : Values entries)
    (small : SmallEntries entries value) (object : Values entries) (serializer : Serializer)
    (rest : List UInt8) (ok : serializer.iError = 0)
    (unread : serializer.buffer.unread = entriesBytes entries value ++ rest) :
    loadEntries entries object serializer = (overlayEntries entries object value,
      ⟨serializer.buffer.advance (entriesBytes entries value) rest, 0⟩) := by
  match entries with
  | [] =>
      obtain ⟨buffer, iError⟩ := serializer
      have same : buffer.advance [] rest = buffer :=
        DataBuffer.advance_nil (by simpa [entriesBytes] using unread)
      cases ok
      rw [loadEntries, overlayEntries, entriesBytes, same]
      rfl
  | entry :: entries =>
      rw [entriesBytes, List.append_assoc] at unread
      have first := load_encoded entry value.1 small.1 object.1 serializer _ ok unread
      rw [loadEntries, Serializer.getErrorCode, if_pos ok, first]
      dsimp only
      rw [loadEntries_encoded entries value.2 small.2 object.2 _ rest rfl rfl]
      simp [entriesBytes, overlayEntries]

end

mutual

/-- Every list of the object that is not inside another list is empty. -/
def Bare : (archive : Archive) → archive.Value → Prop
  | .fixed _, _ => True
  | .string, _ => True
  | .list element, items => items = ([] : List element.Value)
  | .record entries, value => BareEntries entries value

def BareEntries : (entries : List Archive) → Values entries → Prop
  | [], _ => True
  | entry :: entries, value => Bare entry value.1 ∧ BareEntries entries value.2

end

/-- The items are separate, and every item but the last is bare. -/
def SeparateList {Item : Type} (separate bare : Item → Prop) (items : List Item) : Prop :=
  (∀ item ∈ items, separate item) ∧ ∀ item ∈ items.dropLast, bare item

mutual

/-- In every list of the value, every item but the last has empty lists. -/
def Separate : (archive : Archive) → archive.Value → Prop
  | .fixed _, _ => True
  | .string, _ => True
  | .list element, items => SeparateList (Separate element) (Bare element) items
  | .record entries, value => SeparateEntries entries value

def SeparateEntries : (entries : List Archive) → Values entries → Prop
  | [], _ => True
  | entry :: entries, value => Separate entry value.1 ∧ SeparateEntries entries value.2

end

mutual

/-- A default-constructed object is bare. -/
theorem bare_fresh (archive : Archive) : Bare archive (fresh archive) := by
  match archive with
  | .fixed type => trivial
  | .string => trivial
  | .list element => rfl
  | .record entries => exact bareEntries_fresh entries

theorem bareEntries_fresh (entries : List Archive) :
    BareEntries entries (freshEntries entries) := by
  match entries with
  | [] => trivial
  | entry :: entries => exact ⟨bare_fresh entry, bareEntries_fresh entries⟩

end

section Lists

variable {Item : Type}

theorem reuse_length (lay : Item → Item → Item) (temporary : Item) (items : List Item) :
    (reuse lay temporary items).length = items.length := by
  induction items generalizing temporary with
  | nil => rfl
  | cons item items ih => simp [reuse, ih]

/-- The shared temporary restores the items exactly when no item finds anything in it. -/
theorem reuse_eq_iff {lay : Item → Item → Item} {bare separate : Item → Prop} {items : List Item}
    (restores : ∀ object, ∀ item ∈ items,
      lay object item = item ↔ bare object ∧ separate item) {temporary : Item}
    (start : bare temporary) :
    reuse lay temporary items = items ↔ SeparateList separate bare items := by
  induction items generalizing temporary with
  | nil => simp [reuse, SeparateList]
  | cons item items ih =>
      have first := restores temporary item List.mem_cons_self
      have later := fun object item' member =>
        restores object item' (List.mem_cons_of_mem item member)
      rw [reuse, List.cons.injEq, first]
      by_cases clean : lay temporary item = item
      · rw [clean]
        cases items with
        | nil => simp [reuse, SeparateList, start]
        | cons second items =>
            have next : bare item → (reuse lay item (second :: items) = second :: items ↔
                SeparateList separate bare (second :: items)) := fun empty => ih later empty
            have chained : reuse lay item (second :: items) = second :: items → bare item := by
              intro restored
              rw [reuse, List.cons.injEq] at restored
              exact ((later item second List.mem_cons_self).mp restored.1).1
            simp only [SeparateList, List.mem_cons, List.dropLast_cons_cons,
              forall_eq_or_imp] at next ⊢
            constructor
            · rintro ⟨⟨-, ofItem⟩, restored⟩
              have empty := chained restored
              obtain ⟨ofLater, bareLater⟩ := (next empty).mp restored
              exact ⟨⟨ofItem, ofLater⟩, empty, bareLater⟩
            · rintro ⟨⟨ofItem, ofLater⟩, empty, bareLater⟩
              exact ⟨⟨start, ofItem⟩, (next empty).mpr ⟨ofLater, bareLater⟩⟩
      · have unequal := mt first.mpr clean
        constructor
        · rintro ⟨both, -⟩
          exact absurd both unequal
        · rintro ⟨ofItems, -⟩
          exact absurd ⟨start, ofItems item List.mem_cons_self⟩ unequal

/-- A loaded list equals its source exactly when the object was empty and the items are separate. -/
theorem overlayList_eq_iff {lay : Item → Item → Item} {bare separate : Item → Prop}
    {object items : List Item}
    (restores : ∀ object, ∀ item ∈ items,
      lay object item = item ↔ bare object ∧ separate item) {temporary : Item}
    (start : bare temporary) :
    overlayList lay temporary object items = items ↔
      object = [] ∧ SeparateList separate bare items := by
  rw [← reuse_eq_iff restores start, overlayList]
  constructor
  · intro restored
    have lengths := congrArg List.length restored
    rw [List.length_append, reuse_length] at lengths
    have empty : object = [] := List.length_eq_zero_iff.mp (by omega)
    rw [empty, List.nil_append] at restored
    exact ⟨empty, restored⟩
  · rintro ⟨rfl, restored⟩
    rw [List.nil_append, restored]

end Lists

mutual

/-- The overlay restores the value exactly on a bare object and a separate value. -/
theorem overlay_eq_iff (archive : Archive) (object value : archive.Value) :
    overlay archive object value = value ↔ Bare archive object ∧ Separate archive value := by
  match archive with
  | .fixed type => exact ⟨fun _ => ⟨trivial, trivial⟩, fun _ => rfl⟩
  | .string => exact ⟨fun _ => ⟨trivial, trivial⟩, fun _ => rfl⟩
  | .list element =>
      exact overlayList_eq_iff (fun object item _ => overlay_eq_iff element object item)
        (bare_fresh element)
  | .record entries => exact overlayEntries_eq_iff entries object value

theorem overlayEntries_eq_iff (entries : List Archive) (object value : Values entries) :
    overlayEntries entries object value = value ↔
      BareEntries entries object ∧ SeparateEntries entries value := by
  match entries with
  | [] => exact ⟨fun _ => ⟨trivial, trivial⟩, fun _ => rfl⟩
  | entry :: entries =>
      have first := overlay_eq_iff entry object.1 value.1
      have rest := overlayEntries_eq_iff entries object.2 value.2
      obtain ⟨head, tail⟩ := value
      show (overlay entry object.1 head, overlayEntries entries object.2 tail) = (head, tail) ↔
        (Bare entry object.1 ∧ BareEntries entries object.2) ∧
          (Separate entry head ∧ SeparateEntries entries tail)
      rw [Prod.mk.injEq, first, rest]
      exact and_and_and_comm

end

/-- Loading the bytes that saving wrote, in front of other bytes, restores the value in the object,
consumes exactly the written bytes, and leaves no error. -/
def RoundTrip (archive : Archive) (value object : archive.Value) (size : UInt32)
    (rest : List UInt8) : Prop :=
  let saved := save archive value (.new (.new size))
  let loaded := load archive object
    (.new { saved.buffer with unread := saved.buffer.unread ++ rest })
  loaded.1 = value ∧ loaded.2.buffer.unread = rest ∧ loaded.2.getErrorCode = 0

/-- The loaded bytes and the error code are right for every value; the object is the overlay. -/
theorem roundTrip_iff_overlay {archive : Archive} {value object : archive.Value} {size : UInt32}
    {rest : List UInt8} (small : Small archive value)
    (fits : (bytes archive value).length ≤ size.toNat) :
    RoundTrip archive value object size rest ↔ overlay archive object value = value := by
  have saved := save_fits archive value small (.new (.new size)) rfl
    (by simpa [Serializer.new, DataBuffer.new, DataBuffer.written] using fits)
  have loaded := load_encoded archive value small object
    (.new { (DataBuffer.new size).append (bytes archive value) with
      unread := ((DataBuffer.new size).append (bytes archive value)).unread ++ rest }) rest rfl
    (by simp [Serializer.new, DataBuffer.new, DataBuffer.append])
  rw [RoundTrip, saved]
  dsimp only [Serializer.new] at loaded ⊢
  rw [loaded]
  simp [DataBuffer.advance, Serializer.getErrorCode]

/-- A value survives the round trip into a fresh object exactly when it is separate. -/
theorem archive_roundTrip_iff (archive : Archive) (value object : archive.Value) (size : UInt32)
    (rest : List UInt8) (small : Small archive value)
    (fits : (bytes archive value).length ≤ size.toNat) (isFresh : Bare archive object) :
    RoundTrip archive value object size rest ↔ Separate archive value := by
  rw [roundTrip_iff_overlay small fits, overlay_eq_iff]
  exact and_iff_right isFresh

/-- This is a list of records with a list column. -/
def nested : Archive := .list (.record [.list (.fixed .byte)])

/-- The two records hold one byte each. -/
def twoRecords : nested.Value :=
  ([(([1] : List UInt8), ()), (([2] : List UInt8), ())] : List (List UInt8 × Unit))

theorem twoRecords_roundTrip_iff :
    RoundTrip nested twoRecords (fresh nested) 64 [7] ↔ Separate nested twoRecords :=
  archive_roundTrip_iff nested twoRecords (fresh nested) 64 [7]
    ⟨by decide, by rintro item (_ | ⟨_, _ | ⟨_, ⟨⟩⟩⟩) <;>
      exact ⟨⟨by decide, fun _ _ => trivial⟩, trivial⟩⟩
    (by decide) (bare_fresh nested)

/-- The second record is loaded behind the bytes of the first one. -/
theorem twoRecords_not_roundTrip : ¬ RoundTrip nested twoRecords (fresh nested) 64 [] := by
  rintro ⟨restored, -, -⟩
  have items : ([([1], ()), ([1, 2], ())] : List (List UInt8 × Unit)) = [([1], ()), ([2], ())] :=
    restored
  exact absurd items (by decide)

end AppSvr.BaseServer.Archive
