import UsbHost.Words.HandleTable
import Mathlib.Data.List.Nodup
import Mathlib.Data.List.Perm.Basic

/-!
A handle table is a finite map from identifiers to native handles, read by `get?`. Putting an entry
in and erasing one change the map at one identifier, and the list of entries by one entry.
-/

namespace UsbHost

theorem perm_cons_filter_ne {β κ : Type} [DecidableEq κ] (key : β → κ) {entries : List β}
    (distinct : (entries.map key).Nodup) {entry : β} (member : entry ∈ entries) :
    entries.Perm (entry :: entries.filter fun other => key other != key entry) := by
  induction entries with
  | nil => cases member
  | cons first rest ih =>
      obtain ⟨absent, distinctRest⟩ := List.nodup_cons.mp distinct
      rcases List.mem_cons.mp member with rfl | later
      · have kept : rest.filter (fun other => key other != key entry) = rest := by
          refine List.filter_eq_self.mpr ?_
          intro other otherMember
          have apart : key other ≠ key entry := by
            intro same
            exact absent (same ▸ List.mem_map_of_mem otherMember)
          simpa using apart
        rw [List.filter_cons_of_neg (by simp), kept]
      · have apart : key first ≠ key entry := by
          intro same
          exact absent (same ▸ List.mem_map_of_mem later)
        rw [List.filter_cons_of_pos (by simpa using apart)]
        exact ((ih distinctRest later).cons first).trans (List.Perm.swap entry first _)

theorem map_modify_of_keeps {α β : Type} (view : α → β) (entries : List α) (index : Nat)
    (change : α → α)
    (keeps : ∀ entry, entries[index]? = some entry → view (change entry) = view entry) :
    (entries.modify index change).map view = entries.map view := by
  apply List.ext_getElem?
  intro position
  rw [List.getElem?_map, List.getElem?_map, List.getElem?_modify]
  cases there : entries[position]? with
  | none => rfl
  | some entry =>
      by_cases same : index = position
      · subst same
        simp [keeps entry there]
      · simp [same]

theorem lookup_filter_key {α : Type} (keeps : Cell → Bool) (entries : List (Cell × α))
    (handle : Cell) :
    (entries.filter fun entry => keeps entry.1).lookup handle =
      if keeps handle then entries.lookup handle else none := by
  induction entries with
  | nil => simp
  | cons entry entries ih =>
      obtain ⟨key, value⟩ := entry
      by_cases same : handle = key
      · subst same
        cases kept : keeps handle with
        | true => simp [kept]
        | false =>
            rw [List.filter_cons_of_neg (by simp [kept]), ih, kept]
            rfl
      · have different : (handle == key) = false := by simpa using same
        cases kept : keeps key with
        | true =>
            rw [List.filter_cons_of_pos (by simpa using kept), List.lookup_cons, ih, different,
              List.lookup_cons, different]
        | false =>
            rw [List.filter_cons_of_neg (by simp [kept]), ih, List.lookup_cons, different]

namespace HandleTable

variable {α : Type}

@[simp] theorem get?_erase (table : HandleTable α) (erased handle : Cell) :
    (table.erase erased).get? handle = if handle = erased then none else table.get? handle := by
  rw [get?, erase, lookup_filter_key (· != erased)]
  by_cases same : handle = erased
  · simp [same]
  · simp [same, get?]

theorem get?_put (table : HandleTable α) (added : Cell) (value : α) (handle : Cell) :
    (table.put added value).get? handle =
      if handle = added then some value else table.get? handle := by
  simp only [get?, put, List.lookup_append, lookup_filter_key (fun key => decide (key < added)),
    List.lookup_cons, lookup_filter_key (fun key => decide (added < key))]
  by_cases same : handle = added
  · subst same
    simp
  · have different : (handle == added) = false := by simpa using same
    rcases Int64.lt_or_lt_of_ne same with below | above
    · simp [different, same, below, Int64.lt_asymm below]
    · simp [different, same, above, Int64.lt_asymm above]

@[simp] theorem get?_insert (table : HandleTable α) (value : α) (handle : Cell) :
    (table.insert value).2.get? handle =
      if handle = table.next then some value else table.get? handle :=
  get?_put table table.next value handle

theorem get?_of_erase {table : HandleTable α} {erased handle : Cell} {value : α}
    (live : (table.erase erased).get? handle = some value) : table.get? handle = some value := by
  rw [get?_erase] at live
  split at live
  · cases live
  · exact live

theorem erase_comm (table : HandleTable α) (first second : Cell) :
    (table.erase first).erase second = (table.erase second).erase first := by
  refine HandleTable.ext rfl ?_
  exact List.filter_comm _ _ _

@[simp] theorem next_erase (table : HandleTable α) (erased : Cell) :
    (table.erase erased).next = table.next := rfl

@[simp] theorem next_insert (table : HandleTable α) (value : α) :
    (table.insert value).2.next = table.next + 1 := rfl

theorem mem_of_get? {table : HandleTable α} {handle : Cell} {value : α}
    (found : table.get? handle = some value) : (handle, value) ∈ table.entries := by
  obtain ⟨before, after, split, _⟩ := List.lookup_eq_some_iff.mp found
  rw [split]
  exact List.mem_append_right _ List.mem_cons_self

theorem get?_of_mem {table : HandleTable α} {handle : Cell} {value : α}
    (member : (handle, value) ∈ table.entries) : table.get? handle = some value := by
  obtain ⟨before, after, split⟩ := List.append_of_mem member
  have ordered := table.ordered
  rw [split, List.pairwise_append] at ordered
  refine List.lookup_eq_some_iff.mpr ⟨before, after, split, ?_⟩
  intro entry early
  have below := ordered.2.2 entry early (handle, value) List.mem_cons_self
  simpa using (Int64.ne_of_lt below).symm

theorem mem_entries_iff {table : HandleTable α} {entry : Cell × α} :
    entry ∈ table.entries ↔ table.get? entry.1 = some entry.2 :=
  ⟨get?_of_mem, mem_of_get?⟩

theorem identifiers_nodup (table : HandleTable α) : (table.entries.map Prod.fst).Nodup := by
  rw [List.nodup_iff_pairwise_ne, List.pairwise_map]
  exact table.ordered.imp Int64.ne_of_lt

theorem entries_eq_of_get? {table other : HandleTable α}
    (answers : ∀ handle, table.get? handle = other.get? handle) :
    table.entries = other.entries := by
  refine List.Perm.eq_of_pairwise ?_ table.ordered other.ordered ?_
  · intro entry later _ _ below above
    exact absurd above (Int64.lt_asymm below)
  · rw [List.perm_ext_iff_of_nodup table.identifiers_nodup.of_map other.identifiers_nodup.of_map]
    intro entry
    rw [mem_entries_iff, mem_entries_iff, answers]

theorem put_erase {table : HandleTable α} {handle : Cell} {value : α}
    (found : table.get? handle = some value) : (table.erase handle).put handle value = table := by
  refine HandleTable.ext rfl (entries_eq_of_get? ?_)
  intro other
  rw [get?_put, get?_erase]
  by_cases same : other = handle
  · simp [same, found]
  · simp [same]

theorem entries_insert_erase (table : HandleTable α) (value : α) :
    ((table.erase table.next).insert value).2.entries = (table.insert value).2.entries := by
  refine entries_eq_of_get? ?_
  intro handle
  rw [get?_insert, get?_insert, next_erase, get?_erase]
  by_cases same : handle = table.next
  · simp [same]
  · simp [same]

theorem entries_perm_erase {table : HandleTable α} {handle : Cell} {value : α}
    (found : table.get? handle = some value) :
    table.entries.Perm ((handle, value) :: (table.erase handle).entries) :=
  perm_cons_filter_ne Prod.fst table.identifiers_nodup (mem_of_get? found)

theorem entries_insert {table : HandleTable α} (free : table.get? table.next = none) (value : α) :
    (table.insert value).2.entries.Perm ((table.next, value) :: table.entries) := by
  have added : (table.insert value).2.get? table.next = some value := by simp
  have taken := entries_perm_erase added
  have rest : ((table.insert value).2.erase table.next).entries = table.entries := by
    refine entries_eq_of_get? ?_
    intro other
    rw [get?_erase, get?_insert]
    by_cases same : other = table.next
    · simp [same, free]
    · simp [same]
  rwa [rest] at taken

def countP (holds : α → Bool) (table : HandleTable α) : Nat :=
  table.entries.countP fun entry => holds entry.2

theorem countP_insert_free {table : HandleTable α} (free : table.get? table.next = none) (value : α)
    (holds : α → Bool) :
    (table.insert value).2.countP holds = table.countP holds + if holds value then 1 else 0 := by
  rw [countP, (entries_insert free value).countP_eq, List.countP_cons]
  rfl

theorem countP_erase {table : HandleTable α} {handle : Cell} {value : α}
    (found : table.get? handle = some value) (holds : α → Bool) :
    table.countP holds = (table.erase handle).countP holds + if holds value then 1 else 0 := by
  rw [countP, (entries_perm_erase found).countP_eq, List.countP_cons]
  rfl

/-- What a table has lost to the entry that it got last: an older entry with the same identifier,
once every identifier has been handed out. -/
def displaced (later table : HandleTable α) : List α :=
  if later.next = table.next then [] else (table.get? table.next).toList

theorem displaced_eq_nil {later table : HandleTable α}
    (free : later.next ≠ table.next → table.get? table.next = none) :
    later.displaced table = [] := by
  rw [displaced]
  split
  · rfl
  · rename_i moved
    rw [free moved, Option.toList_none]

@[simp] theorem displaced_self (table : HandleTable α) : table.displaced table = [] := by
  simp [displaced]

@[simp] theorem displaced_erase (table : HandleTable α) (handle : Cell) :
    (table.erase handle).displaced table = [] := by
  simp [displaced]

@[simp] theorem displaced_insert (table : HandleTable α) (value : α) :
    (table.insert value).2.displaced table = (table.get? table.next).toList := by
  simp [displaced]

theorem countP_insert (table : HandleTable α) (value : α) (holds : α → Bool) :
    (table.insert value).2.countP holds + ((table.insert value).2.displaced table).countP holds =
      table.countP holds + if holds value then 1 else 0 := by
  rw [displaced_insert]
  cases found : table.get? table.next with
  | none => rw [countP_insert_free found, Option.toList_none, List.countP_nil, Nat.add_zero]
  | some old =>
      have free : (table.erase table.next).get? (table.erase table.next).next = none := by simp
      have same : ((table.erase table.next).insert value).2.countP holds =
          (table.insert value).2.countP holds :=
        congrArg (List.countP fun entry : Cell × α => holds entry.2)
          (entries_insert_erase table value)
      have added := countP_insert_free free value holds
      have lost := countP_erase found holds
      rw [Option.toList_some, List.countP_singleton]
      omega

end HandleTable

end UsbHost
