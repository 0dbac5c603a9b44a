import UsbHost.Words.Machine

/-!
Windows of memory: a window holds as many bytes as were asked for, putting them back changes
nothing, and what is put over them is there when the window is looked at again.
-/

namespace UsbHost.Machine

theorem window?_eq_some_iff {machine : Machine} {address : Cell} {length : Nat} {buffer : Bytes} :
    machine.window? address length = some buffer ↔
      (0 ≤ address.toInt ∧ address.toInt + length < UInt64.size ∧
        address.toInt + length ≤ machine.memory.length) ∧
      buffer = (machine.memory.drop address.toInt.toNat).take length := by
  have same (start : Nat) : (machine.memory.take (start + length)).drop start =
      (machine.memory.drop start).take length := by
    rw [List.drop_take, Nat.add_sub_cancel_left]
  simp only [window?, index?, end?, slice?, Option.bind_eq_bind, Option.bind_eq_some_iff,
    Option.ite_none_right_eq_some, Option.some.injEq]
  constructor
  · rintro ⟨start, ⟨nonnegative, rfl⟩, stop, ⟨held, rfl⟩, inside, rfl⟩
    exact ⟨⟨nonnegative, by omega, by omega⟩, same _⟩
  · rintro ⟨⟨nonnegative, held, inside⟩, rfl⟩
    exact ⟨_, ⟨nonnegative, rfl⟩, _, ⟨by omega, rfl⟩, by omega, same _⟩

/-- A window is granted exactly where it lies inside. Nothing is lost to the 64 bits of its end: a
range that takes more than these starts within them, and ends beyond any memory that fits. -/
theorem isWindow_iff (machine : Machine) (address : Cell) (length : Nat)
    (fits : length < 0x8000000000000000 ∨ machine.memory.length < UInt64.size) :
    machine.isWindow address length ↔
      0 ≤ address.toInt ∧ address.toInt + length ≤ machine.memory.length := by
  have below := address.toInt_lt
  have size : UInt64.size = 0x10000000000000000 := rfl
  rw [isWindow, Option.isSome_iff_exists]
  simp only [window?_eq_some_iff, exists_and_left, exists_eq, and_true]
  omega

example : (ofSize 4).isWindow 4 0 ∧ ¬(ofSize 4).isWindow 4 1 := by decide

theorem window?_eq_some {machine : Machine} {address : Cell} {length : Nat} {buffer : Bytes}
    (granted : machine.window? address length = some buffer) :
    (0 ≤ address.toInt ∧ address.toInt + length ≤ machine.memory.length) ∧
      buffer = (machine.memory.drop address.toInt.toNat).take length := by
  obtain ⟨⟨nonnegative, -, fits⟩, same⟩ := window?_eq_some_iff.mp granted
  exact ⟨⟨nonnegative, fits⟩, same⟩

theorem length_of_window? {machine : Machine} {address : Cell} {length : Nat} {buffer : Bytes}
    (granted : machine.window? address length = some buffer) : buffer.length = length := by
  obtain ⟨⟨nonnegative, fits⟩, rfl⟩ := window?_eq_some granted
  rw [List.length_take, List.length_drop]
  omega

theorem store_window {machine : Machine} {address : Cell} {length : Nat} {buffer : Bytes}
    (granted : machine.window? address length = some buffer) :
    (machine.store address buffer).memory = machine.memory := by
  have size := length_of_window? granted
  obtain ⟨-, same⟩ := window?_eq_some granted
  simp only [store, size]
  rw [same, List.append_assoc, ← List.drop_drop, List.take_append_drop, List.take_append_drop]

theorem length_store {machine : Machine} {address : Cell} {buffer data : Bytes}
    (granted : machine.window? address data.length = some buffer) :
    (machine.store address data).memory.length = machine.memory.length := by
  obtain ⟨⟨nonnegative, fits⟩, -⟩ := window?_eq_some granted
  simp only [store, List.length_append, List.length_take, List.length_drop]
  omega

theorem window?_store {machine : Machine} {address : Cell} {buffer data : Bytes}
    (granted : machine.window? address data.length = some buffer) :
    (machine.store address data).window? address data.length = some data := by
  obtain ⟨inside, -⟩ := window?_eq_some_iff.mp granted
  have start : (machine.memory.take address.toInt.toNat).length = address.toInt.toNat := by
    rw [List.length_take]
    omega
  rw [window?_eq_some_iff]
  refine ⟨by rwa [length_store granted], ?_⟩
  simp only [store, List.append_assoc]
  rw [List.drop_append_of_le_length (by omega), List.drop_of_length_le (by omega),
    List.nil_append, List.take_left]

theorem drop_take_append_drop {α : Type} (size skipped : Nat) (cells : List α) :
    (cells.take size).drop skipped ++ cells.drop size = cells.drop (min size skipped) := by
  by_cases short : skipped ≤ size
  · have rest : cells.drop size = (cells.drop skipped).drop (size - skipped) := by
      rw [List.drop_drop]
      congr 1
      omega
    rw [List.drop_take, rest, List.take_append_drop, Nat.min_eq_right short]
  · rw [List.drop_of_length_le (by rw [List.length_take]; omega), List.nil_append,
      Nat.min_eq_left (by omega)]

section

variable {machine : Machine} {address : Cell} {buffer data : Bytes}

theorem getElem?_store_of_outside (granted : machine.window? address data.length = some buffer)
    {index : Nat}
    (outside : index < address.toInt.toNat ∨ address.toInt.toNat + data.length ≤ index) :
    (machine.store address data).memory[index]? = machine.memory[index]? := by
  obtain ⟨⟨nonnegative, fits⟩, -⟩ := window?_eq_some granted
  have start : (machine.memory.take address.toInt.toNat).length = address.toInt.toNat := by
    rw [List.length_take]
    omega
  simp only [store, List.append_assoc]
  rcases outside with before | behind
  · rw [List.getElem?_append_left (by omega), List.getElem?_take_of_lt before]
  · rw [List.getElem?_append_right (by omega), List.getElem?_append_right (by omega),
      List.getElem?_drop]
    congr 1
    omega

theorem store_overwrite {length : Nat} (source : Bytes)
    (granted : machine.window? address length = some buffer) :
    (machine.store address (Bytes.overwrite buffer source)).memory =
      machine.memory.take address.toInt.toNat ++ source.take (min length source.length) ++
        machine.memory.drop (address.toInt.toNat + min length source.length) := by
  have size := length_of_window? granted
  obtain ⟨⟨nonnegative, fits⟩, same⟩ := window?_eq_some granted
  have front : source.take buffer.length = source.take (min length source.length) := by
    rw [List.take_eq_take_iff]
    omega
  have behind : buffer.drop source.length ++ machine.memory.drop (address.toInt.toNat + length) =
      machine.memory.drop (address.toInt.toNat + min length source.length) := by
    rw [same, ← List.drop_drop, ← List.drop_drop, drop_take_append_drop]
  simp only [store, Bytes.length_overwrite, size]
  rw [Bytes.overwrite, front, List.append_assoc, List.append_assoc, behind, List.append_assoc]

end

end UsbHost.Machine
