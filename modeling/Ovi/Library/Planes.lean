import Mathlib.Data.List.Basic
import Mathlib.Tactic.Ring

namespace Planes

variable {α : Type} {buffer plane : List α} {planes : List (List α)} {offset size i : Nat}

def write (buffer : List α) (offset : Nat) (plane : List α) : List α :=
  buffer.take offset ++ plane ++ buffer.drop (offset + plane.length)

def read (buffer : List α) (offset size : Nat) : List α := (buffer.drop offset).take size

def writeAll (size : Nat) : List α → Nat → List (List α) → List α
  | buffer, _, [] => buffer
  | buffer, offset, plane :: planes =>
    writeAll size (write buffer offset plane) (offset + size) planes

theorem length_write (h : offset + plane.length ≤ buffer.length) :
    (write buffer offset plane).length = buffer.length := by
  simp only [write,List.length_append,List.length_take,List.length_drop]
  omega

theorem read_write (h : offset + plane.length ≤ buffer.length) :
    read (write buffer offset plane) offset plane.length = plane := by
  have hlength : (buffer.take offset).length = offset := by
    rw [List.length_take]
    omega
  rw [read,write,List.append_assoc,List.drop_append_of_le_length hlength.ge,
    List.drop_eq_nil_of_le hlength.le,List.nil_append,List.take_left]

theorem read_write_below {start : Nat} (h : start + size ≤ offset) (hle : offset ≤ buffer.length) :
    read (write buffer offset plane) start size = read buffer start size := by
  have hlength : (buffer.take offset).length = offset := by
    rw [List.length_take]
    omega
  have hstart : start ≤ (buffer.take offset).length := by omega
  have hroom : size ≤ ((buffer.take offset).drop start).length := by
    rw [List.length_drop]
    omega
  have hkept : (write buffer offset plane).drop start = (buffer.take offset).drop start ++
      (plane ++ buffer.drop (offset + plane.length)) := by
    rw [write,List.append_assoc,List.drop_append_of_le_length hstart]
  rw [read,read,hkept,List.take_append_of_le_length hroom,List.drop_take,List.take_take]
  congr 1
  omega

theorem length_writeAll (hsize : ∀ plane ∈ planes, plane.length = size)
    (h : offset + planes.length * size ≤ buffer.length) :
    (writeAll size buffer offset planes).length = buffer.length := by
  induction planes generalizing buffer offset with
  | nil => rfl
  | cons plane planes ih =>
    obtain ⟨hfirst,hrest⟩ := List.forall_mem_cons.mp hsize
    rw [List.length_cons,Nat.succ_mul] at h
    have hwrite : (write buffer offset plane).length = buffer.length :=
      length_write (by omega)
    rw [writeAll,ih hrest (by omega),hwrite]

theorem read_writeAll_below {start : Nat} (hsize : ∀ plane ∈ planes, plane.length = size)
    (h : offset + planes.length * size ≤ buffer.length) {length : Nat}
    (hstart : start + length ≤ offset) :
    read (writeAll size buffer offset planes) start length = read buffer start length := by
  induction planes generalizing buffer offset with
  | nil => rfl
  | cons plane planes ih =>
    obtain ⟨hfirst,hrest⟩ := List.forall_mem_cons.mp hsize
    rw [List.length_cons,Nat.succ_mul] at h
    have hwrite : (write buffer offset plane).length = buffer.length :=
      length_write (by omega)
    rw [writeAll,ih hrest (by omega) (by omega),read_write_below hstart (by omega)]

theorem read_writeAll (hsize : ∀ plane ∈ planes, plane.length = size)
    (h : offset + planes.length * size ≤ buffer.length) (hi : planes[i]? = some plane) :
    read (writeAll size buffer offset planes) (offset + i * size) size = plane := by
  induction planes generalizing buffer offset i with
  | nil => cases hi
  | cons first planes ih =>
    obtain ⟨hfirst,hrest⟩ := List.forall_mem_cons.mp hsize
    rw [List.length_cons,Nat.succ_mul] at h
    have hwrite : (write buffer offset first).length = buffer.length :=
      length_write (by omega)
    cases i with
    | zero =>
      cases hi
      rw [writeAll,Nat.zero_mul,Nat.add_zero,read_writeAll_below hrest (by omega) le_rfl]
      rw [← hfirst]
      exact read_write (by omega)
    | succ i =>
      have hplane : read (writeAll size (write buffer offset first) (offset + size) planes)
          (offset + size + i * size) size = plane := ih hrest (by omega) hi
      have hoffset : offset + (i + 1) * size = offset + size + i * size := by ring
      rw [writeAll,hoffset]
      exact hplane

section RoundUp

def roundUp (n a : Nat) : Nat := (n + (a - 1)) / a * a

variable {n a : Nat}

theorem roundUp_eq_iff (ha : 0 < a) : roundUp n a = n ↔ a ∣ n := by
  constructor
  · intro h
    exact ⟨(n + (a - 1)) / a,by rw [Nat.mul_comm]; exact h.symm⟩
  · rintro ⟨k,rfl⟩
    have hless : (a - 1) / a = 0 := Nat.div_eq_of_lt (by omega)
    rw [roundUp,Nat.mul_add_div ha,hless,Nat.add_zero,Nat.mul_comm]

end RoundUp

end Planes
