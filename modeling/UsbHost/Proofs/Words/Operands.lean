import UsbHost.Proofs.Words.Ending

/-!
Slots on the stack. A word has a slot for each of its arguments, from left to right, and takes the
arguments from right to left: up to the first that is out of range, or until the stack is empty.
-/

namespace UsbHost

inductive Slot where
  | any
  | upTo (limit : Nat) (argument : Argument)

namespace Slot

def Admits : Slot → Cell → Prop
  | any, _ => True
  | upTo limit _, cell => 0 ≤ cell.toInt ∧ cell.toInt ≤ limit

def take : Slot → Take Cell
  | any => Take.cell
  | upTo limit argument => do
    let value ← Take.cell
    if 0 ≤ value.toInt ∧ value.toInt ≤ limit then return value
    else throw (.invalidArgument argument value)

def takeAll : List Slot → Take (List Cell)
  | [] => pure []
  | slot :: slots => do
    let cell ← slot.take
    let cells ← takeAll slots
    return cell :: cells

end Slot

namespace Word

def slots : Word → List Slot
  | findInterface | findDevice => [.upTo 0xffff .vendorId, .upTo 0xffff .productId]
  | closeInterface | closeDevice => [.any]
  | control | request =>
    [.upTo 0xff .requestType, .upTo 0xff .request, .upTo 0xffff .value, .upTo 0xffff .index,
      .upTo 0xffff .length, .any, .any]
  | pipeProperties => [.upTo 0xff .pipe, .any]
  | read | write => [.any, .upTo 0x7fffffffffffffff .size, .upTo 0xff .pipe, .any]

def window? (word : Word) (arguments : List Cell) : Option (Cell × Nat) :=
  match word with
  | control | request => do
    let length ← arguments[4]?
    let address ← arguments[5]?
    return (address, length.toInt.toNat)
  | read | write => do
    let address ← arguments[0]?
    let size ← arguments[1]?
    return (address, size.toInt.toNat)
  | _ => none

end Word

/-! The cells that operands were read from, from left to right. -/

def FindOperands.cells (operands : FindOperands) : List Cell :=
  [Int64.ofNat operands.vendorId.toNat, Int64.ofNat operands.productId.toNat]

def ControlOperands.cells (operands : ControlOperands) : List Cell :=
  [Int64.ofNat operands.setup.requestType.toNat, Int64.ofNat operands.setup.request.toNat,
    Int64.ofNat operands.setup.value.toNat, Int64.ofNat operands.setup.index.toNat,
    Int64.ofNat operands.setup.length.toNat, operands.address, operands.handle]

def PipeOperands.cells (operands : PipeOperands) : List Cell :=
  [Int64.ofNat operands.pipe.toNat, operands.handle]

def TransferOperands.cells (operands : TransferOperands) : List Cell :=
  [operands.address, Int64.ofNat operands.size, Int64.ofNat operands.pipe.toNat, operands.handle]

namespace Take

theorem ofNat_toInt {cell : Cell} (nonnegative : 0 ≤ cell.toInt) :
    Int64.ofNat cell.toInt.toNat = cell := by
  rw [← Int64.ofInt_eq_ofNat, Int.toNat_of_nonneg nonnegative, Int64.ofInt_toInt]

theorem toNat_ofNat {value : Nat} (bounded : value < 0x8000000000000000) :
    (Int64.ofNat value).toInt.toNat = value := by
  rw [Int64.toInt_ofNat_of_lt bounded, Int.toNat_natCast]

theorem upTo_slot (limit : Nat) (argument : Argument) :
    Int64.ofNat <$> upTo limit argument = (Slot.upTo limit argument).take := by
  simp only [upTo, Slot.take, map_bind]
  congr 1
  funext value
  split
  · rename_i bounded
    rw [map_pure, ofNat_toInt bounded.1]
  · rfl

theorem narrow_slot {α : Type} {limit : Nat} {narrow : Nat → α} {wide : α → Nat}
    (argument : Argument) (keeps : ∀ value, value ≤ limit → wide (narrow value) = value) :
    (fun value => Int64.ofNat (wide value)) <$> (narrow <$> upTo limit argument) =
      (Slot.upTo limit argument).take := by
  rw [← upTo_slot]
  funext stack
  simp only [Functor.map, EStateM.map]
  cases taken : upTo limit argument stack with
  -- The value is within the limit, so the narrower type does not change it.
  | ok value rest => simp only [keeps value (upTo_le taken)]
  | error fault rest => rfl

theorem half_slot (argument : Argument) :
    (fun value => Int64.ofNat value.toNat) <$> half argument =
      (Slot.upTo 0xffff argument).take := by
  unfold half
  rw [bind_pure_comp]
  refine narrow_slot argument ?_
  intro value bounded
  rw [UInt16.toNat_ofNat']
  omega

theorem byte_slot (argument : Argument) :
    (fun value => Int64.ofNat value.toNat) <$> byte argument = (Slot.upTo 0xff argument).take := by
  unfold byte
  rw [bind_pure_comp]
  refine narrow_slot argument ?_
  intro value bounded
  rw [UInt8.toNat_ofNat']
  omega

theorem map_bind_takeAll {α β γ : Type} {take : Take α} {next : α → Take β} {first : α → Cell}
    {slot : Slot} {slots : List Slot} {seen : β → γ} {read : List Cell → γ}
    (head : first <$> take = slot.take)
    (tail : ∀ value,
      seen <$> next value = (fun cells => read (first value :: cells)) <$> Slot.takeAll slots) :
    seen <$> (take >>= next) = read <$> Slot.takeAll (slot :: slots) := by
  simp only [Slot.takeAll, map_bind, tail, ← head, bind_map_left, bind_pure_comp,
    Functor.map_map]

end Take

theorem FindOperands.take_cells :
    cells <$> FindOperands.take = List.reverse <$> Slot.takeAll Word.findDevice.slots.reverse :=
  Take.map_bind_takeAll (Take.half_slot _) fun _ =>
    Take.map_bind_takeAll (Take.half_slot _) fun _ => rfl

theorem ControlOperands.take_cells :
    cells <$> ControlOperands.take = List.reverse <$> Slot.takeAll Word.control.slots.reverse :=
  Take.map_bind_takeAll (id_map _) fun _ =>
    Take.map_bind_takeAll (id_map _) fun _ =>
      Take.map_bind_takeAll (Take.half_slot _) fun _ =>
        Take.map_bind_takeAll (Take.half_slot _) fun _ =>
          Take.map_bind_takeAll (Take.half_slot _) fun _ =>
            Take.map_bind_takeAll (Take.byte_slot _) fun _ =>
              Take.map_bind_takeAll (Take.byte_slot _) fun _ => rfl

theorem PipeOperands.take_cells :
    cells <$> PipeOperands.take =
      List.reverse <$> Slot.takeAll Word.pipeProperties.slots.reverse :=
  Take.map_bind_takeAll (id_map _) fun _ =>
    Take.map_bind_takeAll (Take.byte_slot _) fun _ => rfl

theorem TransferOperands.take_cells :
    cells <$> TransferOperands.take = List.reverse <$> Slot.takeAll Word.read.slots.reverse :=
  Take.map_bind_takeAll (id_map _) fun _ =>
    Take.map_bind_takeAll (Take.byte_slot _) fun _ =>
      Take.map_bind_takeAll (Take.upTo_slot _ _) fun _ =>
        Take.map_bind_takeAll (id_map _) fun _ => rfl

theorem Take.cell_cells :
    (fun cell => [cell]) <$> Take.cell = List.reverse <$> Slot.takeAll [.any] := by
  funext stack
  cases stack with
  | nil => rfl
  | cons top rest => rfl

section

variable {α γ : Type} {take : Take α} {cells : α → List Cell} {slots : List Slot}

theorem Take.map_cells (reads : cells <$> take = List.reverse <$> Slot.takeAll slots)
    {seen : α → γ} {shown : List Cell → γ}
    (same : ∀ stack value rest, take stack = .ok value rest →
      seen value = shown (cells value).reverse) :
    seen <$> take = shown <$> Slot.takeAll slots := by
  have turned : (fun value => (cells value).reverse) <$> take = Slot.takeAll slots := by
    calc (fun value => (cells value).reverse) <$> take
        = List.reverse <$> (cells <$> take) := (Functor.map_map _ _ _).symm
      _ = Slot.takeAll slots := by simp [reads]
  rw [← turned, Functor.map_map]
  funext stack
  simp only [Functor.map, EStateM.map]
  cases taken : take stack with
  | ok value rest => simp only [same stack value rest taken]
  | error fault rest => rfl

theorem Take.takeAll_ok (reads : cells <$> take = List.reverse <$> Slot.takeAll slots)
    {stack rest : List Cell} {value : α} (taken : take stack = .ok value rest) :
    Slot.takeAll slots stack = .ok (cells value).reverse rest := by
  have turned : (fun value => (cells value).reverse) <$> take = id <$> Slot.takeAll slots :=
    Take.map_cells reads fun _ _ _ _ => rfl
  rw [id_map] at turned
  rw [← turned]
  exact Take.map_ok _ taken

end

namespace Word

theorem takeHandle_cells (word : Word) :
    word.takeHandle =
      (fun cells => word.kind?.bind fun _ => cells.head?) <$>
        Slot.takeAll word.slots.reverse := by
  cases word with
  | findInterface | findDevice => exact Take.map_cells FindOperands.take_cells fun _ _ _ _ => rfl
  | closeInterface | closeDevice => exact Take.map_cells Take.cell_cells fun _ _ _ _ => rfl
  | control | request => exact Take.map_cells ControlOperands.take_cells fun _ _ _ _ => rfl
  | pipeProperties => exact Take.map_cells PipeOperands.take_cells fun _ _ _ _ => rfl
  | read | write => exact Take.map_cells TransferOperands.take_cells fun _ _ _ _ => rfl

theorem takeWindow_cells (word : Word) :
    word.takeWindow =
      (fun cells => word.window? cells.reverse) <$> Slot.takeAll word.slots.reverse := by
  cases word with
  | findInterface | findDevice => exact Take.map_cells FindOperands.take_cells fun _ _ _ _ => rfl
  | closeInterface | closeDevice => exact Take.map_cells Take.cell_cells fun _ _ _ _ => rfl
  | control | request =>
      refine Take.map_cells ControlOperands.take_cells ?_
      intro _ operands _ _
      have bounded := operands.setup.length.toNat_lt
      simp only [List.reverse_reverse]
      change _ = some (operands.address, (Int64.ofNat operands.setup.length.toNat).toInt.toNat)
      rw [Take.toNat_ofNat (by omega)]
  | pipeProperties => exact Take.map_cells PipeOperands.take_cells fun _ _ _ _ => rfl
  | read | write =>
      refine Take.map_cells TransferOperands.take_cells ?_
      intro _ operands _ taken
      have bounded := TransferOperands.size_lt taken
      simp only [List.reverse_reverse]
      change _ = some (operands.address, (Int64.ofNat operands.size).toInt.toNat)
      rw [Take.toNat_ofNat bounded]

end Word

namespace Slot

inductive Taking (slots : List Slot) :
    List Cell → EStateM.Result WordFault (List Cell) (List Cell) → Prop
  | taken {cells rest} (admitted : List.Forall₂ Admits slots cells) :
      Taking slots (cells ++ rest) (.ok cells rest)
  | invalid {first limit argument later cells cell rest}
      (placed : slots = first ++ .upTo limit argument :: later)
      (admitted : List.Forall₂ Admits first cells)
      (refused : ¬Admits (.upTo limit argument) cell) :
      Taking slots (cells ++ cell :: rest) (.error (.invalidArgument argument cell) rest)
  | short {first slot later cells} (placed : slots = first ++ slot :: later)
      (admitted : List.Forall₂ Admits first cells) :
      Taking slots cells (.error .stackUnderflow [])

theorem take_admitted {slot : Slot} {cell : Cell} (admitted : slot.Admits cell)
    (rest : List Cell) : slot.take (cell :: rest) = .ok cell rest := by
  cases slot with
  | any => rfl
  | upTo limit argument =>
      have bounded : 0 ≤ cell.toInt ∧ cell.toInt ≤ limit := admitted
      simp only [take, bind, EStateM.bind, Take.cell, if_pos bounded]
      rfl

theorem take_refused {limit : Nat} {argument : Argument} {cell : Cell}
    (refused : ¬Admits (.upTo limit argument) cell) (rest : List Cell) :
    (upTo limit argument).take (cell :: rest) = .error (.invalidArgument argument cell) rest := by
  have unbounded : ¬(0 ≤ cell.toInt ∧ cell.toInt ≤ limit) := refused
  simp only [take, bind, EStateM.bind, Take.cell, if_neg unbounded]
  rfl

theorem take_nil (slot : Slot) : slot.take [] = .error .stackUnderflow [] := by
  cases slot with
  | any => rfl
  | upTo limit argument => rfl

theorem takeAll_taking (slots : List Slot) (stack : List Cell) :
    Taking slots stack (takeAll slots stack) := by
  -- By induction on the slots; each of them takes one cell off the stack that the rest will see.
  induction slots generalizing stack with
  | nil => exact @Taking.taken [] [] stack .nil
  | cons slot slots ih =>
      cases stack with
      | nil =>
          simp only [takeAll, bind, EStateM.bind, take_nil]
          exact @Taking.short _ [] slot slots [] rfl .nil
      | cons cell stack =>
          by_cases admitted : slot.Admits cell
          · have later := ih stack
            simp only [takeAll, bind, EStateM.bind, take_admitted admitted]
            generalize takeAll slots stack = ending at later
            cases later with
            | taken others => exact @Taking.taken _ (cell :: _) _ (.cons admitted others)
            | invalid placed others refused =>
                subst placed
                exact @Taking.invalid _ (slot :: _) _ _ _ (cell :: _) _ _ rfl
                  (.cons admitted others) refused
            | short placed others =>
                subst placed
                exact @Taking.short _ (slot :: _) _ _ (cell :: _) rfl (.cons admitted others)
          · cases slot with
            | any => exact absurd trivial admitted
            | upTo limit argument =>
                simp only [takeAll, bind, EStateM.bind, take_refused admitted]
                exact @Taking.invalid _ [] _ _ _ [] _ _ rfl .nil admitted

/-- The rightmost argument that is out of range, with what is left of it. -/
inductive Refuses (slots : List Slot) : List Cell → WordFault → List Cell → Prop
  | invalid {earlier limit argument later before cell past}
      (placed : slots = earlier ++ .upTo limit argument :: later)
      (refused : ¬Admits (.upTo limit argument) cell) (admitted : List.Forall₂ Admits later past) :
      Refuses slots (before ++ cell :: past) (.invalidArgument argument cell) before

def Lacks (slots : List Slot) (cells : List Cell) : Prop :=
  ∃ missing present, missing ≠ [] ∧ slots = missing ++ present ∧ List.Forall₂ Admits present cells

theorem takeAll_ok {slots : List Slot} {stack cells rest : List Cell}
    (taken : takeAll slots.reverse stack = .ok cells rest) :
    List.Forall₂ Admits slots cells.reverse ∧ stack = cells ++ rest := by
  have taking := takeAll_taking slots.reverse stack
  rw [taken] at taking
  cases taking with
  | taken admitted =>
      refine ⟨?_, rfl⟩
      rw [← List.forall₂_reverse_iff, List.reverse_reverse]
      exact admitted

theorem takeAll_error {slots : List Slot} {stack rest : List Cell} {fault : WordFault}
    (failed : takeAll slots.reverse stack = .error fault rest) :
    Refuses slots stack.reverse fault rest.reverse ∨
      (Lacks slots stack.reverse ∧ fault = .stackUnderflow ∧ rest = []) := by
  have taking := takeAll_taking slots.reverse stack
  rw [failed] at taking
  cases taking with
  | @invalid first limit argument later cells cell rest placed admitted refused =>
      have turned : slots = later.reverse ++ .upTo limit argument :: first.reverse := by
        rw [← List.reverse_reverse slots, placed]
        simp
      refine Or.inl ?_
      rw [List.reverse_append, List.reverse_cons, List.append_assoc, List.singleton_append]
      exact .invalid turned refused (List.forall₂_reverse_iff.mpr admitted)
  | @short first slot later cells placed admitted =>
      refine Or.inr ⟨⟨(slot :: later).reverse, first.reverse, by simp, ?_,
        List.forall₂_reverse_iff.mpr admitted⟩, rfl, rfl⟩
      rw [← List.reverse_reverse slots, placed]
      simp

theorem Refuses.of_append {slots : List Slot} {below arguments left : List Cell}
    {fault : WordFault} (refuses : Refuses slots (below ++ arguments) fault left)
    (enough : arguments.length = slots.length) :
    ∃ before, left = below ++ before ∧ Refuses slots arguments fault before := by
  generalize split : below ++ arguments = cells at refuses
  cases refuses with
  | @invalid earlier limit argument later before cell past placed refused admitted =>
      have slotsLength := congrArg List.length placed
      have pastLength := admitted.length_eq
      simp only [List.length_append, List.length_cons] at slotsLength
      rcases List.append_eq_append_iff.mp split with ⟨own, begins, ends⟩ | ⟨lost, begins, ends⟩
      · subst begins ends
        exact ⟨own, rfl, .invalid placed refused admitted⟩
      · have lengths := congrArg List.length ends
        simp only [List.length_append, List.length_cons] at lengths
        -- There are as many arguments as slots, so none of them lies under the refused one.
        have none : lost = [] := List.eq_nil_of_length_eq_zero (by omega)
        subst none
        rw [List.append_nil] at begins
        rw [List.nil_append] at ends
        subst begins ends
        exact ⟨[], (List.append_nil _).symm,
          @Refuses.invalid _ _ _ _ _ [] _ _ placed refused admitted⟩

theorem Lacks.length_lt {slots : List Slot} {cells : List Cell}
    (lacks : Lacks slots cells) : cells.length < slots.length := by
  obtain ⟨missing, present, some, rfl, admitted⟩ := lacks
  have sameLength := admitted.length_eq
  have positive := List.length_pos_of_ne_nil some
  rw [List.length_append]
  omega

end Slot

theorem Word.head_of_takeHandle {word : Word} {stack rest : List Cell} {handle : Cell}
    (taken : word.takeHandle stack = .ok (some handle) rest) : stack.head? = some handle := by
  rw [word.takeHandle_cells] at taken
  obtain ⟨cells, all, top⟩ := Take.of_map_ok taken
  obtain ⟨-, rfl⟩ := Slot.takeAll_ok all
  cases uses : word.kind? with
  | none =>
      rw [uses] at top
      cases top
  | some kind =>
      rw [uses, Option.bind_some] at top
      rw [List.head?_append, top]
      rfl

end UsbHost
