/-!
Byte memories: `Memory size` holds exactly `size` bytes behind bounded addresses, `Chip` holds some
bytes and wraps any offset around their number. Reading after writing is stated for both.
-/

namespace Famicom

structure Memory (size : Nat) where
  bytes : ByteArray
  size_bytes : bytes.size = size

structure Chip where
  bytes : ByteArray
  nonempty : 0 < bytes.size

theorem getElem?_bytes (bytes : ByteArray) (index : Nat) :
    bytes[index]? = bytes.data.toList[index]? := by
  by_cases inside : index < bytes.size
  · rw [getElem?_pos bytes index inside, List.getElem?_eq_getElem inside]
    rfl
  · rw [getElem?_neg bytes index inside, List.getElem?_eq_none (Nat.not_lt.mp inside)]

namespace Memory

variable {size : Nat}

def fill (size : Nat) (byte : UInt8) : Memory size where
  bytes := ⟨Array.replicate size byte⟩
  size_bytes := Array.size_replicate

def read (memory : Memory size) (index : Fin size) : UInt8 :=
  memory.bytes.get index.val (by rw [memory.size_bytes]; exact index.isLt)

def write (memory : Memory size) (index : Fin size) (byte : UInt8) : Memory size where
  bytes := memory.bytes.set index.val byte (by rw [memory.size_bytes]; exact index.isLt)
  size_bytes := (Array.size_set _).trans memory.size_bytes

def toList (memory : Memory size) : List UInt8 :=
  memory.bytes.data.toList

theorem size_data (memory : Memory size) : memory.bytes.data.size = size :=
  memory.size_bytes

theorem read_eq (memory : Memory size) (index : Fin size) :
    memory.read index =
      have : index.val < memory.bytes.data.size := by
        rw [memory.size_data]; exact index.isLt
      memory.bytes.data[index.val] := rfl

@[simp] theorem read_fill (byte : UInt8) (index : Fin size) :
    (fill size byte).read index = byte := by
  simp [read_eq, fill]

theorem read_write (memory : Memory size) (index other : Fin size) (byte : UInt8) :
    (memory.write index byte).read other = if index = other then byte else memory.read other := by
  simp [read_eq, write, ByteArray.set, Array.getElem_set, Fin.ext_iff]

@[simp] theorem read_write_self (memory : Memory size) (index : Fin size) (byte : UInt8) :
    (memory.write index byte).read index = byte := by
  simp [read_write]

theorem read_write_of_ne (memory : Memory size) {index other : Fin size} (byte : UInt8)
    (apart : index ≠ other) : (memory.write index byte).read other = memory.read other := by
  simp [read_write, apart]

theorem ext_read {first second : Memory size}
    (same : ∀ index, first.read index = second.read index) : first = second := by
  obtain ⟨firstBytes, firstSize⟩ := first
  obtain ⟨secondBytes, secondSize⟩ := second
  have : firstBytes = secondBytes := by
    apply ByteArray.ext_getElem (firstSize.trans secondSize.symm)
    intro index below _
    exact same ⟨index, firstSize ▸ below⟩
  subst this
  rfl

end Memory

namespace Chip

def size (chip : Chip) : Nat := chip.bytes.size

def fill (size : Nat) (byte : UInt8) (positive : 0 < size) : Chip where
  bytes := ⟨Array.replicate size byte⟩
  nonempty := by rw [← ByteArray.size_data]; simpa using positive

def read (chip : Chip) (offset : Nat) : UInt8 :=
  chip.bytes.get (offset % chip.bytes.size) (Nat.mod_lt _ chip.nonempty)

def write (chip : Chip) (offset : Nat) (byte : UInt8) : Chip where
  bytes := chip.bytes.set (offset % chip.bytes.size) byte (Nat.mod_lt _ chip.nonempty)
  nonempty := Nat.lt_of_lt_of_eq chip.nonempty (Array.size_set _).symm

theorem read_eq (chip : Chip) (offset : Nat) :
    chip.read offset =
      have : offset % chip.size < chip.bytes.data.size := Nat.mod_lt _ chip.nonempty
      chip.bytes.data[offset % chip.size] := rfl

theorem getElem?_mod (chip : Chip) (offset : Nat) :
    chip.bytes[offset % chip.bytes.size]? = some (chip.read offset) :=
  getElem?_pos chip.bytes _ (Nat.mod_lt _ chip.nonempty)

theorem read_mod (chip : Chip) (offset : Nat) :
    chip.read (offset % chip.size) = chip.read offset := by
  simp only [read_eq, Nat.mod_mod]
  rfl

@[simp] theorem size_write (chip : Chip) (offset : Nat) (byte : UInt8) :
    (chip.write offset byte).size = chip.size := by
  have : offset % chip.bytes.size < chip.bytes.data.size := Nat.mod_lt _ chip.nonempty
  exact Array.size_set this

theorem read_write (chip : Chip) (offset other : Nat) (byte : UInt8) :
    (chip.write offset byte).read other =
      if offset % chip.size = other % chip.size then byte else chip.read other := by
  simp only [read_eq, size_write]
  simp only [write, ByteArray.set, Array.getElem_set, size]
  rfl

end Chip

end Famicom
