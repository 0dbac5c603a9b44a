import UsbHost.Toml.Table

/-!
What the statements of a written document build. The table that assignments go to is a hole in the
tables so far, and each assignment of a new key adds to what is in the hole.
-/

namespace UsbHost.Toml

namespace Entries

theorem update_absent {key : String} {entries : Entries} (change : Option Item → Option Item)
    (absent : key ∉ entries.map Prod.fst) :
    update key change entries = (change none).map fun item => entries ++ [(key, item)] := by
  induction entries with
  | nil => rfl
  | cons entry entries ih =>
      obtain ⟨name, item⟩ := entry
      simp only [List.map_cons, List.mem_cons, not_or] at absent
      rw [update, if_neg (Ne.symm absent.1), ih absent.2]
      cases change none with
      | none => rfl
      | some added => rfl

theorem update_last {key : String} {front : Entries} (change : Option Item → Option Item)
    (item : Item) (absent : key ∉ front.map Prod.fst) :
    update key change (front ++ [(key, item)]) =
      (change (some item)).map fun changed => front ++ [(key, changed)] := by
  induction front with
  | nil => simp [update]
  | cons entry front ih =>
      obtain ⟨name, other⟩ := entry
      simp only [List.map_cons, List.mem_cons, not_or] at absent
      rw [List.cons_append, update, if_neg (Ne.symm absent.1), ih absent.2]
      cases change (some item) with
      | none => rfl
      | some changed => rfl

theorem updateLast_append (change : Entries → Option Entries) (elements : List Entries)
    (last : Entries) :
    updateLast change (elements ++ [last]) =
      (change last).map fun changed => elements ++ [changed] := by
  induction elements with
  | nil => rfl
  | cons first rest ih =>
      cases rest with
      | nil =>
          rw [List.cons_append, List.nil_append, updateLast, updateLast]
          · cases change last with
            | none => rfl
            | some changed => rfl
          · simp
      | cons second rest =>
          rw [List.cons_append, List.cons_append, updateLast, ← List.cons_append, ih]
          · cases change last with
            | none => rfl
            | some changed => rfl
          · simp

end Entries

def assignment (field : String × String) : Statement := .assign [field.1] (.text field.2)

def textEntry (field : String × String) : String × Item := (field.1, .text field.2)

namespace Document

/-- The tables so far as a function of what is in the table that assignments go to. -/
def IsHole (whole : Entries → Entries) (current : List String) : Prop :=
  ∀ inner change, (whole inner).within current change = (change inner).map whole

theorem isHole_table {front : Entries} {key : String} (absent : key ∉ front.map Prod.fst) :
    IsHole (fun inner => front ++ [(key, .table .header inner)]) [key] := by
  intro inner change
  rw [Entries.within, Entries.update_last _ _ absent]
  simp only [Entries.within, reduceCtorEq, if_false, Option.map_map]
  rfl

theorem isHole_element {front : Entries} {key : String} (absent : key ∉ front.map Prod.fst)
    (elements : List Entries) :
    IsHole (fun inner => front ++ [(key, .tables (elements ++ [inner]))]) [key] := by
  intro inner change
  rw [Entries.within, Entries.update_last _ _ absent]
  simp only [Entries.within, Entries.updateLast_append, Option.map_map]
  rfl

theorem add_table {front : Entries} {key : String} (absent : key ∉ front.map Prod.fst)
    (current : List String) :
    add ⟨front, current⟩ (.table [key]) = some ⟨front ++ [(key, .table .header [])], [key]⟩ := by
  simp [add, enter, splitLast?, Entries.within, Entries.update_absent _ absent, openTable]

def arrayEntry (key : String) (elements : List Entries) : Entries :=
  if elements.isEmpty then [] else [(key, .tables elements)]

theorem add_element {front : Entries} {key : String} (absent : key ∉ front.map Prod.fst)
    (elements : List Entries) (current : List String) :
    add ⟨front ++ arrayEntry key elements, current⟩ (.element [key]) =
      some ⟨front ++ arrayEntry key (elements ++ [[]]), [key]⟩ := by
  cases elements with
  | nil =>
      simp [add, enter, splitLast?, Entries.within, Entries.update_absent _ absent, openElement,
        arrayEntry]
  | cons first rest =>
      simp [add, enter, splitLast?, Entries.within, Entries.update_last _ _ absent, openElement,
        arrayEntry]

theorem add_assignment {whole : Entries → Entries} {current : List String}
    (hole : IsHole whole current) {inner : Entries} {field : String × String}
    (absent : field.1 ∉ inner.map Prod.fst) :
    add ⟨whole inner, current⟩ (assignment field) =
      some ⟨whole (inner ++ [textEntry field]), current⟩ := by
  simp only [add, assignment, Value.toItem?, hole inner, Entries.assign,
    Entries.update_absent _ absent, Option.map_some]
  rfl

theorem foldlM_assignments {whole : Entries → Entries} {current : List String}
    (hole : IsHole whole current) {fields : List (String × String)} {inner : Entries}
    (distinct : (inner.map Prod.fst ++ fields.map Prod.fst).Nodup) :
    (fields.map assignment).foldlM add ⟨whole inner, current⟩ =
      some ⟨whole (inner ++ fields.map textEntry), current⟩ := by
  induction fields generalizing inner with
  | nil => simp
  | cons field fields ih =>
      have absent : field.1 ∉ inner.map Prod.fst := by
        intro member
        exact (List.nodup_append.mp distinct).2.2 _ member _ List.mem_cons_self rfl
      have later : ((inner ++ [textEntry field]).map Prod.fst ++ fields.map Prod.fst).Nodup := by
        simpa [textEntry] using distinct
      rw [List.map_cons, List.foldlM_cons, add_assignment hole absent]
      simpa using ih later

end Document

end UsbHost.Toml
