import UsbHost.Proofs.Toml.Statement
import UsbHost.Proofs.Toml.Table
import UsbHost.Config.Document

/-!
A configuration reads back as it was written. Its lines are the statements of a document, the
statements build one table for the log level and one for each alias, and these tables give the
fields back, a missing description as a missing key.
-/

namespace UsbHost

open Toml

theorem isLineStart_of_isBareKey {c : Char} (bare : isBareKey c = true) :
    Statement.isLineStart c = true := by
  have unspaced : c ≠ ' ' := isBareKey_ne bare rfl
  have untabbed : c ≠ '\t' := isBareKey_ne bare rfl
  have uncommented : c ≠ '#' := isBareKey_ne bare rfl
  have unbroken : c ≠ '\n' := isBareKey_ne bare rfl
  have unreturned : c ≠ '\r' := isBareKey_ne bare rfl
  simp [Statement.isLineStart, isGap, unspaced, untabbed, uncommented, unbroken, unreturned]

theorem textLine_append (key text : String) (rest : List Char) :
    textLine key text ++ rest =
      key.toList ++ ' ' :: '=' :: ' ' :: (writeText text ++ '\n' :: rest) := by
  rw [textLine, List.append_assoc, List.append_assoc, List.append_assoc]
  rfl

theorem reads_textLine {key : String} (isBare : IsBare key) (text : String) {rest : List Char}
    {statements : List Statement} (reads : Statement.Reads rest statements) :
    Statement.Reads (textLine key text ++ rest) (assignment (key, text) :: statements) := by
  have one := Statement.readOne_text isBare text rest
  obtain ⟨first, others, chars, bare⟩ := isBare.head
  rw [textLine_append]
  rw [chars, List.cons_append] at one ⊢
  refine Statement.Reads.line (isLineStart_of_isBareKey bare) one ?_ reads
  simp only [List.length_append, List.length_cons]
  omega

def fieldLine (field : String × String) : List Char := textLine field.1 field.2

theorem reads_fields {fields : List (String × String)} (bare : ∀ field ∈ fields, IsBare field.1)
    {rest : List Char} {statements : List Statement} (reads : Statement.Reads rest statements) :
    Statement.Reads (fields.flatMap fieldLine ++ rest) (fields.map assignment ++ statements) := by
  induction fields with
  | nil => exact reads
  | cons field fields ih =>
      rw [List.flatMap_cons, List.append_assoc, List.map_cons, List.cons_append]
      exact reads_textLine (bare field List.mem_cons_self) field.2
        (ih fun later member => bare later (List.mem_cons_of_mem _ member))

def documentKeys : List String :=
  ["general", "log_level", "devices", "name", "vendor_id", "product_id", "description"]

theorem isBare_of_mem (key : String) (member : key ∈ documentKeys) : IsBare key := by
  have bare : documentKeys.all (fun key => !key.toList.isEmpty && key.toList.all isBareKey) := by
    decide
  have shown := List.all_eq_true.mp bare key member
  rw [Bool.and_eq_true, Bool.not_eq_true', List.isEmpty_eq_false_iff, List.all_eq_true] at shown
  exact ⟨shown.1, shown.2⟩

theorem elementLine_append (rest : List Char) :
    "\n[[devices]]\n".toList ++ rest =
      '\n' :: '[' :: '[' :: ("devices".toList ++ ']' :: ']' :: '\n' :: rest) :=
  rfl

theorem generalLine_append (rest : List Char) :
    "[general]\n".toList ++ rest = '[' :: ("general".toList ++ ']' :: '\n' :: rest) :=
  rfl

namespace Alias

def fields (entry : Alias) : List (String × String) :=
  ("name", entry.name) :: ("vendor_id", entry.vendorId) :: ("product_id", entry.productId) ::
    entry.description.toList.map fun description => ("description", description)

def statements (entry : Alias) : List Statement :=
  .element ["devices"] :: entry.fields.map assignment

def entries (entry : Alias) : Entries := entry.fields.map textEntry

theorem fields_bare (entry : Alias) : ∀ field ∈ entry.fields, IsBare field.1 := by
  intro field member
  apply isBare_of_mem
  unfold documentKeys
  cases described : entry.description with
  | none =>
      simp only [fields, described, Option.toList_none, List.map_nil] at member
      grind
  | some description =>
      simp only [fields, described, Option.toList_some, List.map_cons, List.map_nil] at member
      grind

theorem fields_distinct (entry : Alias) : (entry.fields.map Prod.fst).Nodup := by
  cases described : entry.description with
  | none => simp [fields, described]
  | some description => simp [fields, described]

theorem toToml_eq (entry : Alias) :
    entry.toToml = "\n[[devices]]\n".toList ++ entry.fields.flatMap fieldLine := by
  obtain ⟨name, vendorId, productId, description⟩ := entry
  unfold toToml fields
  -- Nothing depends on the characters of the header, and they would be computed at every step.
  generalize "\n[[devices]]\n".toList = header
  cases description with
  | none => simp [fieldLine]
  | some description => simp [fieldLine]

theorem reads_toToml (entry : Alias) {rest : List Char} {later : List Statement}
    (reads : Statement.Reads rest later) :
    Statement.Reads (entry.toToml ++ rest) (entry.statements ++ later) := by
  rw [toToml_eq, List.append_assoc, elementLine_append, statements, List.cons_append]
  refine .blank (.line rfl (Statement.readOne_element (isBare_of_mem "devices" (by decide)) _) ?_
    (reads_fields entry.fields_bare reads))
  simp only [List.length_append, List.length_cons]
  omega

theorem ofToml?_entries (entry : Alias) : ofToml? (.table .header entry.entries) = some entry := by
  obtain ⟨name, vendorId, productId, description⟩ := entry
  cases description with
  | none => rfl
  | some description => rfl

end Alias

namespace Config

def generalStatements (config : Config) : List Statement :=
  [.table ["general"], assignment ("log_level", config.logLevel)]

def statements (config : Config) : List Statement :=
  if config.devices.isEmpty then
    .assign ["devices"] (.array []) :: config.generalStatements
  else config.generalStatements ++ config.devices.flatMap Alias.statements

theorem reads_aliases (entries : List Alias) :
    Statement.Reads (entries.flatMap Alias.toToml) (entries.flatMap Alias.statements) := by
  induction entries with
  | nil => exact .nil
  | cons entry entries ih => exact entry.reads_toToml ih

theorem reads_generalToml (config : Config) {rest : List Char} {later : List Statement}
    (reads : Statement.Reads rest later) :
    Statement.Reads (config.generalToml ++ rest) (config.generalStatements ++ later) := by
  have level := reads_textLine (isBare_of_mem "log_level" (by decide)) config.logLevel reads
  unfold generalToml
  rw [List.append_assoc, generalLine_append]
  refine .line rfl (Statement.readOne_table (isBare_of_mem "general" (by decide)) _) ?_ level
  simp only [List.length_append, List.length_cons]
  omega

theorem tomlChars_of_isEmpty {config : Config} (empty : config.devices.isEmpty = true) :
    config.tomlChars = "devices".toList ++ ' ' :: '=' :: ' ' :: '[' :: ']' :: '\n' :: '\n' ::
      config.generalToml := by
  unfold tomlChars
  rw [if_pos empty]
  generalize config.generalToml = general
  rfl

theorem tomlChars_of_nonempty {config : Config} (nonempty : config.devices.isEmpty = false) :
    config.tomlChars = config.generalToml ++ config.devices.flatMap Alias.toToml := by
  unfold tomlChars
  rw [if_neg (by simp [nonempty])]

theorem reads_tomlChars (config : Config) :
    Statement.Reads config.tomlChars config.statements := by
  cases empty : config.devices.isEmpty with
  | true =>
      have one := Statement.readOne_noItems (isBare_of_mem "devices" (by decide))
        ('\n' :: config.generalToml)
      have general := config.reads_generalToml Statement.Reads.nil
      rw [List.append_nil, List.append_nil] at general
      rw [tomlChars_of_isEmpty empty, statements, if_pos empty]
      exact .line rfl one (by simp) (.blank general)
  | false =>
      rw [tomlChars_of_nonempty empty, statements, if_neg (by simp [empty])]
      exact config.reads_generalToml (reads_aliases config.devices)

theorem read_tomlChars (config : Config) :
    Statement.read config.tomlChars = some config.statements := by
  have unmarked : Statement.dropMark config.tomlChars = config.tomlChars := by
    cases empty : config.devices.isEmpty with
    | true =>
        rw [tomlChars_of_isEmpty empty]
        rfl
    | false =>
        rw [tomlChars_of_nonempty empty]
        unfold generalToml
        rw [List.append_assoc, generalLine_append]
        rfl
  rw [Statement.read, unmarked]
  exact config.reads_tomlChars _ (Nat.lt_succ_self _)

def generalEntry (config : Config) : String × Item :=
  ("general", .table .header [textEntry ("log_level", config.logLevel)])

def entries (config : Config) : Entries :=
  if config.devices.isEmpty then [("devices", .array []), config.generalEntry]
  else config.generalEntry :: Document.arrayEntry "devices" (config.devices.map Alias.entries)

theorem add_general (config : Config) (front : Entries) (absent : "general" ∉ front.map Prod.fst)
    (current : List String) :
    config.generalStatements.foldlM Document.add ⟨front, current⟩ =
      some ⟨front ++ [config.generalEntry], ["general"]⟩ := by
  have level : Document.add ⟨front ++ [("general", .table .header [])], ["general"]⟩
      (assignment ("log_level", config.logLevel)) =
        some ⟨front ++ [config.generalEntry], ["general"]⟩ :=
    Document.add_assignment (Document.isHole_table absent) List.not_mem_nil
  rw [generalStatements, List.foldlM_cons, Document.add_table absent]
  simpa using level

theorem add_alias (entry : Alias) {front : Entries} (absent : "devices" ∉ front.map Prod.fst)
    (elements : List Entries) (current : List String) :
    entry.statements.foldlM Document.add
        ⟨front ++ Document.arrayEntry "devices" elements, current⟩ =
      some ⟨front ++ Document.arrayEntry "devices" (elements ++ [entry.entries]), ["devices"]⟩ := by
  have distinct : (([] : Entries).map Prod.fst ++ entry.fields.map Prod.fst).Nodup :=
    entry.fields_distinct
  have fields := Document.foldlM_assignments (Document.isHole_element absent elements) distinct
  rw [Alias.statements, List.foldlM_cons, Document.add_element absent]
  simpa [Document.arrayEntry, Alias.entries] using fields

theorem add_aliases (aliases : List Alias) (front : Entries)
    (absent : "devices" ∉ front.map Prod.fst) (elements : List Entries) (current : List String) :
    ((aliases.flatMap Alias.statements).foldlM Document.add
        ⟨front ++ Document.arrayEntry "devices" elements, current⟩).map Document.entries =
      some (front ++
        Document.arrayEntry "devices" (elements ++ aliases.map Alias.entries)) := by
  -- By induction on the aliases that are left; those before them are elements already.
  induction aliases generalizing elements current with
  | nil => simp
  | cons entry aliases ih =>
      rw [List.flatMap_cons, List.foldlM_append, add_alias entry absent]
      simpa using ih (elements ++ [entry.entries]) ["devices"]

theorem documentRead_tomlChars (config : Config) :
    Document.read config.tomlChars = some config.entries := by
  rw [Document.read, read_tomlChars]
  unfold statements entries
  cases empty : config.devices.isEmpty with
  | true =>
      have noItems : Document.add {} (.assign ["devices"] (.array [])) =
          some ⟨[("devices", .array [])], []⟩ := rfl
      have general := config.add_general [("devices", .array [])] (by simp) []
      simpa [Document.ofStatements?, noItems] using congrArg (Option.map Document.entries) general
  | false =>
      have general := config.add_general [] (by simp) []
      have aliases := add_aliases config.devices [config.generalEntry] (by simp [generalEntry]) []
        ["general"]
      simpa [Document.ofStatements?, Document.arrayEntry, general] using aliases

theorem logLevelOfToml?_entries (config : Config) :
    logLevelOfToml? (config.entries.lookup "general") = some config.logLevel := by
  have found : config.entries.lookup "general" = some config.generalEntry.2 := by
    unfold entries
    cases config.devices.isEmpty with
    | true => rfl
    | false => rfl
  rw [found]
  rfl

theorem mapM_ofToml?_entries (aliases : List Alias) :
    (aliases.map Alias.entries).mapM (fun entries => Alias.ofToml? (.table .header entries)) =
      some aliases := by
  induction aliases with
  | nil => rfl
  | cons entry aliases ih =>
      rw [List.map_cons, List.mapM_cons, entry.ofToml?_entries, ih]
      rfl

theorem devicesOfToml?_entries (config : Config) :
    devicesOfToml? (config.entries.lookup "devices") = some config.devices := by
  unfold entries
  cases devices : config.devices with
  | nil => rfl
  | cons entry rest => exact mapM_ofToml?_entries (entry :: rest)

theorem ofEntries?_entries (config : Config) : ofEntries? config.entries = some config := by
  rw [ofEntries?, logLevelOfToml?_entries, devicesOfToml?_entries]

/-- Reading what was written is validating it. -/
theorem ofToml_toToml (config : Config) :
    ofToml config.toToml =
      match config.validate with
      | .ok () => .ok config
      | .error fault => .error (.invalid fault) := by
  have said : (Document.read config.toToml.toList).bind ofEntries? = some config := by
    rw [toToml, String.toList_ofList, documentRead_tomlChars, Option.bind_some, ofEntries?_entries]
  simp only [ofToml, said]
  cases config.validate with
  | error fault => rfl
  | ok _ => rfl

end Config

end UsbHost
