import ByteMachine.Byte
import ByteMachine.LoadFault

/-!
# Memory

Memory is 256 cells of one byte. An address is a byte, so every address names a cell and no access fails.
`read` is the view of a memory: two memories that read the same everywhere are equal, and each operation is
described by what is read after it.
-/

namespace ByteMachine

structure Memory where
  cells : Vector Byte 256
deriving DecidableEq

namespace Memory

/-- All cells hold zero. -/
def blank : Memory := ⟨Vector.replicate 256 0⟩

def read (m : Memory) (address : Byte) : Byte := m.cells[address.toFin]

def write (m : Memory) (address value : Byte) : Memory := ⟨m.cells.set address.toNat value address.toNat_lt⟩

/-- The cells from address 0 on take the bytes of `image`; the cells after its end keep what they held. -/
def overlay (m : Memory) (image : List Byte) : Memory := ⟨m.cells.mapIdx fun i old => image[i]?.getD old⟩

/-- Places an image at address 0, or refuses one that is longer than memory. -/
def load (m : Memory) (image : List Byte) : Except LoadFault Memory :=
  if image.length ≤ 256 then .ok (m.overlay image) else .error (.tooLarge image.length)

/-- All cells in order of their addresses. -/
def toList (m : Memory) : List Byte := m.cells.toList

/-! ## What is read after an operation -/

theorem ext_read {m m' : Memory} (h : ∀ a, m.read a = m'.read a) : m = m' := by
  obtain ⟨cells⟩ := m
  obtain ⟨cells'⟩ := m'
  congr 1
  refine Vector.ext fun i hi => ?_
  simpa [read, Nat.mod_eq_of_lt hi] using h (UInt8.ofNat i)

@[simp] theorem read_blank (a : Byte) : blank.read a = 0 := by
  simp [blank, read]

theorem read_write (m : Memory) (a v x : Byte) : (m.write a v).read x = if x = a then v else m.read x := by
  simp [read, write, Vector.getElem_set, UInt8.toNat_inj, eq_comm]

theorem write_write (m : Memory) (a u v : Byte) : (m.write a u).write a v = m.write a v := by
  refine ext_read fun x => ?_
  simp only [read_write]
  split <;> rfl

theorem write_comm (m : Memory) {a b : Byte} (h : a ≠ b) (u v : Byte) :
    (m.write a u).write b v = (m.write b v).write a u := by
  refine ext_read fun x => ?_
  simp only [read_write]
  split
  · rename_i hb
    rw [if_neg (hb ▸ h.symm)]
  · rfl

@[simp] theorem read_overlay (m : Memory) (image : List Byte) (a : Byte) :
    (m.overlay image).read a = image[a.toNat]?.getD (m.read a) := by
  simp [read, overlay]

/-- An image that is placed in blank memory is followed by zeros. -/
theorem toList_overlay_blank {image : List Byte} (h : image.length ≤ 256) :
    (blank.overlay image).toList = image ++ List.replicate (256 - image.length) 0 := by
  refine List.ext_getElem (by simp [toList]; omega) fun i hi _ => ?_
  by_cases hlt : i < image.length
  · simp [toList, overlay, hlt, List.getElem_append_left]
  · simp [toList, overlay, blank, hlt, List.getElem_append_right (Nat.not_lt.1 hlt)]

theorem load_of_length_le (m : Memory) {image : List Byte} (h : image.length ≤ 256) :
    m.load image = .ok (m.overlay image) := if_pos h

theorem load_of_length_gt (m : Memory) {image : List Byte} (h : 256 < image.length) :
    m.load image = .error (.tooLarge image.length) := if_neg (Nat.not_le.2 h)

end Memory
end ByteMachine
