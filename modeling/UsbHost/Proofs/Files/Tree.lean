import UsbHost.Files.Tree

/-!
What is written to a file is read from it. The path leads to the same place afterwards, because a
walk goes through directories alone and a file is never put where a directory is.
-/

namespace UsbHost

namespace Path

theorem endsWith_slash_iff (path : String) :
    path.endsWith "/" = true ↔ ['/'] <:+ path.toList := by
  rw [String.endsWith, String.Slice.endsWith_string_iff, String.copy_toSlice]
  rfl

theorem splitOn_last {text : List Char} (nonempty : text ≠ []) (unended : ¬['/'] <:+ text) :
    ∃ outer last, text.splitOn '/' = outer ++ [last] ∧ last ≠ [] := by
  induction text with
  | nil => exact absurd rfl nonempty
  | cons c rest ih =>
      rw [List.splitOn_cons_eq_if_modifyHead]
      cases rest with
      | nil =>
          have unslashed : c ≠ '/' := by
            rintro rfl
            exact unended List.suffix_rfl
          rw [if_neg (by simp [unslashed])]
          exact ⟨[], [c], rfl, by simp⟩
      | cons next rest =>
          have later : ¬['/'] <:+ next :: rest :=
            fun ends => unended (ends.trans (List.suffix_cons c _))
          obtain ⟨outer, last, split, remains⟩ := ih (by simp) later
          rw [split]
          by_cases slash : c = '/'
          · rw [if_pos (by simp [slash])]
            exact ⟨[] :: outer, last, rfl, remains⟩
          · rw [if_neg (by simp [slash])]
            cases outer with
            | nil => exact ⟨[], c :: last, rfl, by simp⟩
            | cons first outer => exact ⟨(c :: first) :: outer, last, rfl, remains⟩

theorem pieces_last {path : String} (nonempty : path ≠ "")
    (unslashed : path.endsWith "/" = false) :
    ∃ outer last, pieces path = outer ++ [last] ∧ last ≠ "" := by
  have remains : path.toList ≠ [] := by simpa using nonempty
  have unended : ¬['/'] <:+ path.toList := by
    rw [← endsWith_slash_iff, unslashed]
    exact Bool.false_ne_true
  obtain ⟨outer, last, split, shown⟩ := splitOn_last remains unended
  refine ⟨outer.map String.ofList, String.ofList last, ?_, by simpa using shown⟩
  rw [pieces, split, List.map_append, List.map_singleton]

end Path

namespace FileTree

variable {tree : FileTree} {place next target : Place}

theorem fromUTF8?_toUTF8 (text : String) : String.fromUTF8? text.toUTF8 = some text := by
  have valid : text.toUTF8.IsValidUTF8 := text.isValidUTF8
  rw [String.fromUTF8?, dif_pos valid]
  rfl

theorem node?_of_step {piece : String} (stepped : tree.step place piece = .ok next) :
    tree.node? place = some .directory := by
  unfold step at stepped
  split at stepped
  · cases stepped
  · cases stepped
  · assumption

theorem step_of_directory (isDirectory : tree.node? place = some .directory) (piece : String) :
    tree.step place piece =
      if Path.isIdle piece then .ok place
      else if piece = ".." then .ok place.dropLast
      else if isTooLong piece then .error .nameTooLong
      else .ok (place ++ [piece]) := by
  simp only [step, isDirectory]

theorem node?_put_of_directory {node : FileNode} (isDirectory : tree.node? place = some .directory)
    (isOther : tree.node? target ≠ some .directory) :
    (tree.put target node).node? place = some .directory := by
  have different : place ≠ target := by
    rintro rfl
    exact isOther isDirectory
  unfold node? put at *
  split at isDirectory
  next above => rw [if_pos above]
  next aside =>
    rw [if_neg aside, List.lookup_cons, beq_false_of_ne different]
    exact isDirectory

theorem step_put {node : FileNode} {piece : String} (stepped : tree.step place piece = .ok next)
    (isOther : tree.node? target ≠ some .directory) :
    (tree.put target node).step place piece = .ok next := by
  have isDirectory := node?_of_step stepped
  rw [step_of_directory isDirectory] at stepped
  rw [step_of_directory (node?_put_of_directory isDirectory isOther), stepped]

theorem walk_put {node : FileNode} {pieces : List String}
    (walked : tree.walk place pieces = .ok next)
    (isOther : tree.node? target ≠ some .directory) :
    (tree.put target node).walk place pieces = .ok next := by
  unfold walk at *
  induction pieces generalizing place with
  | nil => exact walked
  | cons piece pieces ih =>
      rw [List.foldlM_cons] at walked ⊢
      cases stepped : tree.step place piece with
      | error fault =>
          rw [stepped] at walked
          cases walked
      | ok middle =>
          rw [stepped] at walked
          rw [step_put stepped isOther]
          exact ih walked

theorem node?_put_self {node : FileNode} (isOther : tree.node? target ≠ some .directory) :
    (tree.put target node).node? target = some node := by
  unfold node? put at *
  split at isOther
  next above => exact absurd rfl isOther
  next aside => rw [if_neg aside, List.lookup_cons, beq_self_eq_true]

theorem resolve_put {path : String} {node : FileNode} (resolved : tree.resolve path = .ok target)
    (isOther : tree.node? target ≠ some .directory) :
    (tree.put target node).resolve path = .ok target := by
  unfold resolve at *
  split at resolved
  next fault found => cases resolved
  next sound => exact walk_put resolved isOther

theorem walk_concat (place : Place) (outer : List String) (piece : String) :
    tree.walk place (outer ++ [piece]) =
      match tree.walk place outer with
      | .error fault => .error fault
      | .ok reached => tree.step reached piece := by
  unfold walk
  rw [List.foldlM_append]
  cases outer.foldlM tree.step place with
  | error fault => rfl
  | ok reached => exact bind_pure (tree.step reached piece)

theorem walk_point {outer : List String} (walked : tree.walk place (outer ++ ["."]) = .ok next) :
    tree.walk place outer = .ok next ∧ tree.node? next = some .directory := by
  rw [walk_concat] at walked
  split at walked
  next fault failed => cases walked
  next reached through =>
    have isDirectory := node?_of_step walked
    rw [step_of_directory isDirectory] at walked
    cases walked
    exact ⟨through, isDirectory⟩

theorem ne_empty_of_pathFault? {path : String} (sound : pathFault? path = none) : path ≠ "" := by
  rintro rfl
  unfold pathFault? at sound
  split at sound
  next null => cases sound
  next shown =>
    rw [if_pos rfl] at sound
    cases sound

theorem pathFault?_eq_none {path : String} (nonempty : path ≠ "") (shown : '\x00' ∉ path.toList)
    (short : path.utf8ByteSize ≤ longestPath) : pathFault? path = none := by
  have fits : ¬longestPath < path.utf8ByteSize := Nat.not_lt.mpr short
  simp [pathFault?, String.contains_char_eq, nonempty, shown, fits]

theorem resolve_of_resolveLast {path last : String}
    (resolved : tree.resolveLast path = .ok (place, last)) (named : isName last = true)
    (unslashed : path.endsWith "/" = false) (short : isTooLong last = false) :
    tree.resolve path = .ok (place ++ [last]) := by
  unfold resolveLast at resolved
  unfold resolve
  cases fault : pathFault? path with
  | some fault =>
      rw [fault] at resolved
      cases resolved
  | none =>
      obtain ⟨outer, final, pieces, remains⟩ :=
        Path.pieces_last (ne_empty_of_pathFault? fault) unslashed
      have taken : (Path.pieces path).reverse.dropWhile (· == "") = final :: outer.reverse := by
        rw [pieces, List.reverse_append, List.reverse_singleton, List.singleton_append,
          List.dropWhile_cons_of_neg (by simpa using remains)]
      simp only [fault, taken, List.reverse_reverse] at resolved
      split at resolved
      next cause failed => cases resolved
      next reached walked =>
        cases resolved
        obtain ⟨through, isDirectory⟩ := walk_point walked
        simp only [isName, Bool.and_eq_true, Bool.not_eq_true', bne_iff_ne] at named
        simp [pieces, walk_concat, through, step_of_directory isDirectory, named, short]

theorem write_ok {path : String} {content : ByteArray} {after : FileTree}
    (written : tree.write path content = .ok after) :
    ∃ target, tree.resolve path = .ok target ∧ tree.node? target ≠ some .directory ∧
      after = tree.put target (.file content) := by
  unfold write at written
  split at written
  next fault failed => cases written
  next place last resolved =>
    split at written
    next unfit => cases written
    next fit =>
      split at written
      next long => cases written
      next short =>
        split at written
        next isDirectory => cases written
        next isOther =>
          cases written
          simp only [Bool.or_eq_true, Bool.not_eq_true', not_or] at fit
          exact ⟨place ++ [last], resolve_of_resolveLast resolved (by simpa using fit.1)
            (by simpa using fit.2) (by simpa using short), isOther, rfl⟩

/-- A text that was written to a file is read from it. -/
theorem read_write {path text : String} {after : FileTree}
    (written : tree.write path text.toUTF8 = .ok after) : after.read path = .ok text := by
  obtain ⟨target, resolved, isOther, rfl⟩ := write_ok written
  have found : (tree.put target (.file text.toUTF8)).find path = .ok (.file text.toUTF8) := by
    rw [find, resolve_put resolved isOther]
    simp only [node?_put_self isOther]
  rw [read, found]
  simp only [fromUTF8?_toUTF8]

end FileTree

end UsbHost
