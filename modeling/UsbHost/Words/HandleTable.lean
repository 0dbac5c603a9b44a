import UsbHost.Words.Machine

/-!
Handle tables: native handles never reach the operand stack. The table keeps them and hands out
identifiers, counting up from one.
-/

namespace UsbHost

@[ext] structure HandleTable (α : Type) where
  next : Cell := 1
  entries : List (Cell × α) := []
  /-- No identifier has two entries, and the order in which they came does not show. -/
  ordered : entries.Pairwise (fun entry later => entry.1 < later.1) := by simp
deriving DecidableEq

namespace HandleTable

variable {α : Type}

def get? (handle : Cell) (table : HandleTable α) : Option α :=
  table.entries.lookup handle

def size (table : HandleTable α) : Nat := table.entries.length

def erase (handle : Cell) (table : HandleTable α) : HandleTable α :=
  { table with
    entries := table.entries.filter fun entry => entry.1 != handle
    ordered := table.ordered.filter _ }

theorem ordered_put {entries : List (Cell × α)}
    (ordered : entries.Pairwise fun entry later => entry.1 < later.1) (handle : Cell) (value : α) :
    (entries.filter (fun entry => entry.1 < handle) ++
      (handle, value) :: entries.filter fun entry => handle < entry.1).Pairwise
        fun entry later => entry.1 < later.1 := by
  rw [List.pairwise_append, List.pairwise_cons]
  refine ⟨ordered.filter _, ⟨?_, ordered.filter _⟩, ?_⟩
  · intro entry above
    simpa using (List.mem_filter.mp above).2
  · intro entry below later member
    have low : entry.1 < handle := by simpa using (List.mem_filter.mp below).2
    rcases List.mem_cons.mp member with rfl | above
    · exact low
    · exact Int64.lt_trans low (by simpa using (List.mem_filter.mp above).2)

def put (handle : Cell) (value : α) (table : HandleTable α) : HandleTable α :=
  { table with
    entries := table.entries.filter (fun entry => entry.1 < handle) ++
      (handle, value) :: table.entries.filter fun entry => handle < entry.1
    ordered := ordered_put table.ordered handle value }

def insert (value : α) (table : HandleTable α) : Cell × HandleTable α :=
  (table.next, { table.put table.next value with next := table.next + 1 })

end HandleTable

end UsbHost
