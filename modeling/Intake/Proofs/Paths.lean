import Intake.Proofs.Disks
import Intake.Store.Files

/-! # Written paths

A path is walked part by part. The name of a file that is joined to the path of a folder leads to
the place of that name in the folder, whatever else is on the disk.
-/

namespace Intake

namespace Disk

variable {d d' : Disk} {here p q : Place} {names : List String} {name path : String}

section Walks

theorem walk_cons (d : Disk) (here : Place) (part : String) (nonempty : names ≠ []) :
    d.walk here (part :: names) = (d.enter here part).bind fun inside => d.walk inside names := by
  rw [walk]
  · cases d.enter here part <;> rfl
  · exact nonempty

theorem walk_singleton_eq_ok_iff (down : name ≠ "..") :
    d.walk here [name] = .ok p ↔ name.utf8ByteSize ≤ longestName ∧ p = here ++ [name] := by
  rw [walk, if_neg down]
  split
  · next hLong =>
    simp only [reduceCtorEq, false_iff]
    omega
  · next hShort =>
    rw [Except.ok.injEq]
    constructor
    · rintro rfl
      exact ⟨Nat.le_of_not_lt hShort, rfl⟩
    · rintro ⟨-, rfl⟩
      rfl

theorem enter_of_walk (h : d.walk here [name] = .ok p) (folder : d.find? p = some .folder) :
    d.enter here name = .ok p := by
  unfold enter
  by_cases hUp : name = ".."
  · rw [walk, if_pos hUp] at h
    rw [if_pos hUp]
    exact h
  · obtain ⟨hShort, rfl⟩ := (walk_singleton_eq_ok_iff hUp).mp h
    rw [if_neg hUp, if_neg (Nat.not_lt.mpr hShort), folder]

/-- Behind a folder the walk goes on from there. -/
theorem walk_append_singleton (h : d.walk here names = .ok p)
    (folder : d.find? p = some .folder) (name : String) :
    d.walk here (names ++ [name]) = d.walk p [name] := by
  induction names generalizing here with
  | nil =>
    cases h
    rfl
  | cons part rest ih =>
    rw [List.cons_append, walk_cons d here part (by simp)]
    by_cases hRest : rest = []
    · subst hRest
      rw [enter_of_walk h folder]
      rfl
    · rw [walk_cons d here part hRest] at h
      cases hEnter : d.enter here part with
      | error e =>
        rw [hEnter] at h
        cases h
      | ok inside =>
        rw [hEnter] at h
        exact ih h

/-- The names in one folder have the same way to walk. -/
theorem exists_inside (h : d.walk here (names ++ [name]) = .ok p) :
    ∃ inside, ∀ other, d.walk here (names ++ [other]) = d.walk inside [other] := by
  induction names generalizing here with
  | nil => exact ⟨here, fun _ => rfl⟩
  | cons part rest ih =>
    rw [List.cons_append, walk_cons d here part (by simp)] at h
    cases hEnter : d.enter here part with
    | error e =>
      rw [hEnter] at h
      cases h
    | ok next =>
      rw [hEnter] at h
      obtain ⟨inside, hInside⟩ := ih h
      refine ⟨inside, fun other => ?_⟩
      rw [List.cons_append, walk_cons d here part (by simp), hEnter]
      exact hInside other

/-- All folders of one disk are folders of the other. -/
def Grows (d d' : Disk) : Prop :=
  d.here = d'.here ∧ ∀ q, d.find? q = some .folder → d'.find? q = some .folder

theorem Grows.enter (grows : d.Grows d') (h : d.enter here name = .ok p) :
    d'.enter here name = .ok p := by
  unfold Disk.enter at h ⊢
  split at h
  · next hUp => rwa [if_pos hUp]
  · next hUp =>
    rw [if_neg hUp]
    split at h
    · cases h
    · next hLong =>
      rw [if_neg hLong]
      split at h
      · cases h
      · next hFolder =>
        rw [grows.2 _ hFolder]
        exact h
      · cases h

theorem Grows.walk (grows : d.Grows d') (h : d.walk here names = .ok p) :
    d'.walk here names = .ok p := by
  induction names generalizing here with
  | nil => exact h
  | cons part rest ih =>
    by_cases hRest : rest = []
    · subst hRest
      rw [Disk.walk] at h ⊢
      exact h
    · rw [walk_cons _ here part hRest] at h ⊢
      cases hEnter : d.enter here part with
      | error e =>
        rw [hEnter] at h
        cases h
      | ok inside =>
        rw [hEnter] at h
        rw [grows.enter hEnter]
        exact ih h

end Walks

section Locating

/-- A path that an operating system looks at. -/
def Nameable (path : String) : Prop :=
  '\x00' ∉ path.toList ∧ path ≠ "" ∧ path.utf8ByteSize < pathLimit

theorem locate_eq_ok_iff :
    d.locate path = .ok p ↔ Nameable path ∧ d.walk (d.start path) (parts path) = .ok p ∧
      (isFolderPath path = true → ∀ content, d.find? p ≠ some (.file content)) := by
  unfold locate Nameable
  by_cases hNul : '\x00' ∈ path.toList
  · simp [hNul]
  by_cases hEmpty : path = ""
  · simp [hEmpty]
  by_cases hLong : pathLimit ≤ path.utf8ByteSize
  · simp [hNul, hEmpty, Nat.not_lt.mpr hLong]
    simp [hLong]
  rw [if_neg hNul, if_neg hEmpty, if_neg hLong]
  simp only [hNul, hEmpty, Nat.lt_of_not_le hLong, not_false_eq_true, ne_eq, and_self, true_and]
  cases hWalk : d.walk (d.start path) (parts path) with
  | error e => simp
  | ok q =>
    simp only [Except.ok.injEq]
    cases hFind : d.find? q with
    | none =>
      constructor
      · rintro ⟨⟩
        exact ⟨rfl, fun _ content h => by rw [hFind] at h; cases h⟩
      · rintro ⟨rfl, -⟩
        rfl
    | some entry =>
      cases entry with
      | folder =>
        constructor
        · rintro ⟨⟩
          exact ⟨rfl, fun _ content h => by rw [hFind] at h; cases h⟩
        · rintro ⟨rfl, -⟩
          rfl
      | file content =>
        by_cases hFolder : isFolderPath path = true
        · simp only [hFolder, if_true, reduceCtorEq, forall_const, false_iff, not_and, not_forall]
          rintro rfl
          exact ⟨content, fun h => h hFind⟩
        · simp [hFolder]

theorem Grows.locate_folder (grows : d.Grows d') (h : d.locate path = .ok p)
    (folder : d.find? p = some .folder) : d'.locate path = .ok p := by
  obtain ⟨hNameable, hWalk, -⟩ := locate_eq_ok_iff.mp h
  have hStart : d'.start path = d.start path := by
    unfold start
    rw [grows.1]
  refine locate_eq_ok_iff.mpr ⟨hNameable, hStart ▸ grows.walk hWalk, fun _ content hFile => ?_⟩
  rw [grows.2 p folder] at hFile
  cases hFile

theorem isFolder_eq_true_iff :
    d.isFolder path = true ↔ ∃ p, d.locate path = .ok p ∧ d.find? p = some .folder := by
  unfold isFolder
  cases d.locate path <;> simp

theorem Grows.isFolder (grows : d.Grows d') (h : d.isFolder path = true) :
    d'.isFolder path = true := by
  obtain ⟨p, hLocate, hFolder⟩ := isFolder_eq_true_iff.mp h
  exact isFolder_eq_true_iff.mpr ⟨p, grows.locate_folder hLocate hFolder, grows.2 p hFolder⟩

end Locating

section Parts

/-- A name that can stand between slashes and leads down. -/
structure IsName (name : String) : Prop where
  slash : '/' ∉ name.toList
  nonempty : name ≠ ""
  point : name ≠ "."
  points : name ≠ ".."

def partOf (part : List Char) : Option String :=
  if part = [] ∨ part = ['.'] then none else some (String.ofList part)

theorem parts_eq (path : String) : parts path = (path.toList.splitOn '/').filterMap partOf := rfl

theorem partOf_of_isName (h : IsName name) : partOf name.toList = some name := by
  have hEmpty : name.toList ≠ [] := by simpa using h.nonempty
  have hPoint : name.toList ≠ ['.'] := by
    intro hList
    exact h.point (String.toList_inj.mp hList)
  rw [partOf, if_neg (by simp [hEmpty, hPoint]), String.ofList_toList]

theorem parts_of_isName (h : IsName name) : parts name = [name] := by
  rw [parts_eq, List.splitOn_eq_singleton h.slash, List.filterMap_cons, partOf_of_isName h]
  rfl

/-- What joining puts before a name: nothing, or the path up to a slash. -/
theorem exists_joint (base : String) :
    ∃ joint : String, (∀ name, IsName name → Files.join base name = joint ++ name) ∧
      (joint = "" ∧ base = "" ∨ ∃ front : String, joint = front ++ "/" ∧ base ≠ "" ∧
        parts front = parts base ∧ joint.toList.head? = base.toList.head?) := by
  have hJoin {joint : String} (hBase : base ≠ "")
      (h : (if base.toList.getLast? = some '/' then base else base ++ "/") = joint)
      {name : String} (hName : IsName name) : Files.join base name = joint ++ name := by
    have hHead : name.toList.head? ≠ some '/' := fun hSlash =>
      hName.slash (List.mem_of_head? hSlash)
    unfold Files.join
    rw [if_neg (by simp [hHead, hBase]), ← h]
    split <;> rfl
  by_cases hBase : base = ""
  · refine ⟨"", fun name _ => ?_, .inl ⟨rfl, hBase⟩⟩
    unfold Files.join
    rw [if_pos (.inr hBase), String.empty_append]
  · by_cases hLast : base.toList.getLast? = some '/'
    · obtain ⟨front, hFront⟩ := List.getLast?_eq_some_iff.mp hLast
      have hText : base = String.ofList front ++ "/" := by
        rw [← String.toList_inj, hFront]
        simp
      refine ⟨base, fun name hName => hJoin hBase (if_pos hLast) hName,
        .inr ⟨String.ofList front, hText, hBase, ?_, rfl⟩⟩
      have hSplit : (front ++ ['/']).splitOn '/' = front.splitOn '/' ++ [[]] :=
        List.splitOn_append_cons_self front []
      rw [parts_eq, parts_eq, hFront, hSplit, List.filterMap_append, String.toList_ofList]
      simp [partOf]
    · refine ⟨base ++ "/", fun name hName => hJoin hBase (if_neg hLast) hName,
        .inr ⟨base, rfl, hBase, rfl, ?_⟩⟩
      have hNonempty : base.toList ≠ [] := by simpa using hBase
      rw [String.toList_append, List.head?_append_of_ne_nil _ hNonempty]

theorem parts_join (base : String) (h : IsName name) :
    parts (Files.join base name) = parts base ++ [name] := by
  obtain ⟨joint, hJoin, ⟨rfl, rfl⟩ | ⟨front, rfl, -, hParts, -⟩⟩ := exists_joint base
  · rw [hJoin name h, String.empty_append, parts_of_isName h]
    rfl
  · have hText : (front ++ "/" ++ name).toList = front.toList ++ '/' :: name.toList := by simp
    rw [hJoin name h, parts_eq, hText, List.splitOn_append_cons_self, List.filterMap_append,
      ← parts_eq, ← parts_eq, parts_of_isName h, hParts]

theorem start_join (d : Disk) (base : String) (h : IsName name) :
    d.start (Files.join base name) = d.start base := by
  unfold start
  obtain ⟨joint, hJoin, ⟨rfl, rfl⟩ | ⟨front, rfl, -, -, hHead⟩⟩ := exists_joint base
  · have hName : name.toList.head? ≠ some '/' := fun hSlash => h.slash (List.mem_of_head? hSlash)
    rw [hJoin name h, String.empty_append, if_neg hName]
    rfl
  · have hNonempty : (front ++ "/").toList ≠ [] := by simp
    rw [hJoin name h, String.toList_append, List.head?_append_of_ne_nil _ hNonempty, hHead]

theorem isFolderPath_join (base : String) (h : IsName name) :
    isFolderPath (Files.join base name) = false := by
  have hLast : ((Files.join base name).toList.splitOn '/').getLast? = some name.toList := by
    obtain ⟨joint, hJoin, ⟨rfl, -⟩ | ⟨front, rfl, -⟩⟩ := exists_joint base
    · rw [hJoin name h, String.empty_append, List.splitOn_eq_singleton h.slash]
      rfl
    · have hText : (front ++ "/" ++ name).toList = front.toList ++ '/' :: name.toList := by simp
      rw [hJoin name h, hText, List.splitOn_append_cons_self, List.splitOn_eq_singleton h.slash]
      simp
  have hEmpty : name.toList ≠ [] := by simpa using h.nonempty
  have hPoint : name.toList ≠ ['.'] := fun hList => h.point (String.toList_inj.mp hList)
  unfold isFolderPath
  rw [hLast]
  simp [hEmpty, hPoint]

end Parts

section Folders

/-- A path leads to a folder. -/
structure FolderAt (d : Disk) (path : String) (p : Place) : Prop where
  walk : d.walk (d.start path) (parts path) = .ok p
  folder : d.find? p = some .folder

theorem Grows.folderAt (grows : d.Grows d') (h : d.FolderAt path p) : d'.FolderAt path p := by
  refine ⟨?_, grows.2 p h.folder⟩
  have hStart : d'.start path = d.start path := by
    unfold start
    rw [grows.1]
  exact hStart ▸ grows.walk h.walk

theorem FolderAt.locate (h : d.FolderAt path p) (nameable : Nameable path) :
    d.locate path = .ok p := by
  refine locate_eq_ok_iff.mpr ⟨nameable, h.walk, fun _ content hFile => ?_⟩
  rw [h.folder] at hFile
  cases hFile

theorem folderAt_of_locate (h : d.locate path = .ok p) (folder : d.find? p = some .folder) :
    Nameable path ∧ d.FolderAt path p := by
  obtain ⟨hNameable, hWalk, -⟩ := locate_eq_ok_iff.mp h
  exact ⟨hNameable, hWalk, folder⟩

/-- A name that a folder can hold under its path. -/
def Fits (path name : String) : Prop :=
  Nameable (Files.join path name) ∧ name.utf8ByteSize ≤ longestName

/-- A name in a folder means the place of the name in the place of the folder. -/
theorem FolderAt.locate_join_iff (h : d.FolderAt path p) (hName : IsName name) :
    d.locate (Files.join path name) = .ok q ↔ Fits path name ∧ q = p ++ [name] := by
  have hStep : d.walk p [name] = .ok q ↔ name.utf8ByteSize ≤ longestName ∧ q = p ++ [name] :=
    walk_singleton_eq_ok_iff hName.points
  rw [locate_eq_ok_iff, isFolderPath_join path hName, start_join d path hName,
    parts_join path hName, walk_append_singleton h.walk h.folder, hStep]
  unfold Fits
  simp [and_assoc]

theorem list_eq_ok_iff {found : List String} :
    d.list path = .ok found ↔ ∃ p, Nameable path ∧ d.FolderAt path p ∧
      found = (d.namesIn p).mergeSort fun a b => a ≤ b := by
  constructor
  · intro h
    unfold list at h
    split at h
    · cases h
    · next p hLocate =>
      split at h
      · cases h
      · cases h
      · next hFolder =>
        cases h
        obtain ⟨hNameable, hAt⟩ := folderAt_of_locate hLocate hFolder
        exact ⟨p, hNameable, hAt, rfl⟩
  · rintro ⟨p, hNameable, hAt, rfl⟩
    unfold list
    rw [hAt.locate hNameable]
    dsimp only
    rw [hAt.folder]
    rfl

end Folders

section Making

/-- Makes the folder itself when those around it are there. -/
def makeLast (d : Disk) (path : String) : Except OsError Unit × Disk :=
  match d.makeFolder path with
  | .ok d => (.ok (), d)
  | .error e => if d.isFolder path then (.ok (), d) else (.error e, d)

theorem makeFolders_cons (d : Disk) (leading part : String) (rest : List String) :
    d.makeFolders leading (part :: rest) =
      match d.makeFolder (leading ++ "/".intercalate (part :: rest)) with
      | .error .notFound =>
        match d.makeFolders leading (part :: rest).dropLast with
        | (.ok (), d) => d.makeLast (leading ++ "/".intercalate (part :: rest))
        | (.error e, d) => (.error e, d)
      | _ => d.makeLast (leading ++ "/".intercalate (part :: rest)) := by
  rw [makeFolders]
  rfl

theorem grows_set_folder (absent : d.find? p = none) : d.Grows (d.set p .folder) := by
  have hRoot : p ≠ [] := by
    rintro rfl
    cases absent
  refine ⟨(here_set d p .folder).symm, fun q hFolder => ?_⟩
  rw [find?_set d hRoot]
  split
  · rfl
  · exact hFolder

theorem makeFolder_eq_ok_iff :
    d.makeFolder path = .ok d' ↔
      ∃ p, d.locate path = .ok p ∧ d.find? p = none ∧ d' = d.set p .folder := by
  unfold makeFolder
  cases d.locate path with
  | error e => simp
  | ok p =>
    simp only [Except.ok.injEq]
    cases hFind : d.find? p with
    | none => simp [hFind, eq_comm]
    | some entry => simp [hFind]

theorem isFolder_of_makeFolder (h : d.makeFolder path = .ok d') : d'.isFolder path = true := by
  obtain ⟨p, hLocate, hAbsent, rfl⟩ := makeFolder_eq_ok_iff.mp h
  have hRoot : p ≠ [] := by
    rintro rfl
    cases hAbsent
  have hGrows : d.Grows (d.set p .folder) := grows_set_folder hAbsent
  obtain ⟨hNameable, hWalk, -⟩ := locate_eq_ok_iff.mp hLocate
  have hFolder : (d.set p .folder).find? p = some .folder := by
    rw [find?_set d hRoot, if_pos rfl]
  have hStart : (d.set p .folder).start path = d.start path := by
    unfold start
    rw [hGrows.1]
  have hAt : (d.set p .folder).FolderAt path p := ⟨hStart ▸ hGrows.walk hWalk, hFolder⟩
  exact isFolder_eq_true_iff.mpr ⟨p, hAt.locate hNameable, hFolder⟩

theorem isFolder_of_makeLast (h : d.makeLast path = (.ok (), d')) : d'.isFolder path = true := by
  unfold makeLast at h
  split at h
  · next hMade =>
    cases h
    exact isFolder_of_makeFolder hMade
  · split at h
    · next hFolder =>
      cases h
      exact hFolder
    · cases h

theorem isFolder_of_makeFolders {leading part : String} {rest : List String}
    (h : d.makeFolders leading (part :: rest) = (.ok (), d')) :
    d'.isFolder (leading ++ "/".intercalate (part :: rest)) = true := by
  rw [makeFolders_cons] at h
  split at h
  · split at h
    · exact isFolder_of_makeLast h
    · cases h
  · exact isFolder_of_makeLast h

/-- A path as it is put together again from its parts. -/
def rebuilt (path : String) : String :=
  (if path.toList.head? = some '/' then "/" else "") ++ "/".intercalate (parts path)

theorem isFolder_of_makeFoldersAt (parted : parts path ≠ [])
    (h : d.makeFoldersAt path = (.ok (), d')) :
    '\x00' ∉ path.toList ∧ d'.isFolder (rebuilt path) = true := by
  unfold makeFoldersAt at h
  split at h
  · cases h
  · next hNul =>
    refine ⟨hNul, ?_⟩
    unfold rebuilt
    obtain ⟨part, rest, hParts⟩ := List.exists_cons_of_ne_nil parted
    rw [hParts] at h ⊢
    exact isFolder_of_makeFolders h

/-- A folder that is there is not made again. -/
theorem makeFoldersAt_of_isFolder (nul : '\x00' ∉ path.toList)
    (folder : d.isFolder (rebuilt path) = true) : d.makeFoldersAt path = (.ok (), d) := by
  obtain ⟨p, hLocate, hFolder⟩ := isFolder_eq_true_iff.mp folder
  unfold makeFoldersAt
  rw [if_neg nul]
  cases hParts : parts path with
  | nil =>
    rw [makeFolders]
  | cons part rest =>
    have hLocate' : d.locate ((if path.toList.head? = some '/' then "/" else "") ++
        "/".intercalate (part :: rest)) = .ok p := hParts ▸ hLocate
    have hMake : d.makeFolder ((if path.toList.head? = some '/' then "/" else "") ++
        "/".intercalate (part :: rest)) = .error .exists := by
      unfold makeFolder
      rw [hLocate']
      dsimp only
      rw [hFolder]
    have hIs : d.isFolder ((if path.toList.head? = some '/' then "/" else "") ++
        "/".intercalate (part :: rest)) = true := hParts ▸ folder
    rw [makeFolders_cons, hMake]
    dsimp only
    unfold makeLast
    rw [hMake]
    dsimp only
    rw [if_pos hIs]

theorem not_mem_of_mem_splitOn {text part : List Char} (h : part ∈ text.splitOn '/') :
    '/' ∉ part := by
  induction text generalizing part with
  | nil =>
    cases List.mem_singleton.mp h
    exact List.not_mem_nil
  | cons c text ih =>
    rw [List.splitOn_cons_eq_if_modifyHead] at h
    split at h
    · rcases List.mem_cons.mp h with rfl | h
      · exact List.not_mem_nil
      · exact ih h
    · next hOther =>
      cases hSplit : text.splitOn '/' with
      | nil => exact absurd hSplit (List.splitOn_ne_nil _ _)
      | cons first others =>
        rw [hSplit] at h ih
        rcases List.mem_cons.mp h with rfl | h
        · rw [List.mem_cons, not_or]
          refine ⟨?_, ih List.mem_cons_self⟩
          rintro rfl
          exact hOther (beq_self_eq_true _)
        · exact ih (List.mem_cons_of_mem _ h)

/-- Each part of a path stays as it is when it is taken for a path. -/
theorem partOf_of_mem_parts (h : name ∈ parts path) :
    partOf name.toList = some name ∧ '/' ∉ name.toList ∧ name.toList ≠ [] := by
  rw [parts_eq, List.mem_filterMap] at h
  obtain ⟨part, hPart, hName⟩ := h
  unfold partOf at hName
  split at hName
  · cases hName
  · next hSays =>
    cases hName
    rw [String.toList_ofList]
    exact ⟨if_neg hSays, not_mem_of_mem_splitOn hPart, fun hEmpty => hSays (.inl hEmpty)⟩

theorem parts_intercalate {names : List String} (nonempty : names ≠ [])
    (each : ∀ name ∈ names, partOf name.toList = some name ∧ '/' ∉ name.toList) :
    (("/".intercalate names).toList.splitOn '/').filterMap partOf = names := by
  have hSplit : ("/".intercalate names).toList.splitOn '/' = names.map String.toList := by
    rw [String.toList_intercalate]
    refine List.splitOn_intercalate '/' ?_ (by simpa using nonempty)
    rintro _ hMem
    obtain ⟨name, hName, rfl⟩ := List.mem_map.mp hMem
    exact (each name hName).2
  rw [hSplit, List.filterMap_map, List.filterMap_eq_map_iff_forall_eq_some.mpr, List.map_id]
  exact fun name hName => (each name hName).1

theorem parts_rebuilt (parted : parts path ≠ []) : parts (rebuilt path) = parts path := by
  have hParts := parts_intercalate parted fun name hName =>
    ⟨(partOf_of_mem_parts hName).1, (partOf_of_mem_parts hName).2.1⟩
  unfold rebuilt
  rw [parts_eq]
  split
  · have hText : ("/" ++ "/".intercalate (parts path)).toList =
        [] ++ '/' :: ("/".intercalate (parts path)).toList := by simp
    rw [hText, List.splitOn_append_cons_self, List.filterMap_append, hParts]
    rfl
  · rwa [String.empty_append]

theorem start_rebuilt (d : Disk) (parted : parts path ≠ []) :
    d.start (rebuilt path) = d.start path := by
  unfold start rebuilt
  by_cases hAbsolute : path.toList.head? = some '/'
  · simp [hAbsolute]
  · obtain ⟨part, rest, hParts⟩ := List.exists_cons_of_ne_nil parted
    have hMem : part ∈ parts path := hParts ▸ List.mem_cons_self
    have hPart := partOf_of_mem_parts hMem
    obtain ⟨c, others, hText⟩ := List.exists_cons_of_ne_nil hPart.2.2
    have hHead : ("/".intercalate (parts path)).toList.head? = some c := by
      rw [hParts, String.toList_intercalate, List.map_cons, hText]
      cases rest <;> simp [List.intercalate]
    have hOther : c ≠ '/' := by
      rintro rfl
      exact hPart.2.1 (hText ▸ List.mem_cons_self)
    have hName : some c ≠ some '/' := fun hSlash => hOther (Option.some.inj hSlash)
    rw [if_neg hAbsolute, if_neg hAbsolute, String.empty_append, hHead, if_neg hName]

/-- A path that can be walked is refused for what it is, not for what is missing. -/
theorem locate_ne_notFound (parted : parts path ≠ [])
    (walk : d.walk (d.start path) (parts path) = .ok p) : d.locate path ≠ .error .notFound := by
  intro hNone
  have hNonempty : path ≠ "" := by
    rintro rfl
    exact parted rfl
  unfold locate at hNone
  rw [walk, if_neg hNonempty] at hNone
  split at hNone
  · cases hNone
  · split at hNone
    · cases hNone
    · dsimp only at hNone
      split at hNone
      · split at hNone <;> cases hNone
      · cases hNone

/-- Where the folders around a folder are there, nothing but the folder itself is made. -/
theorem makeFoldersAt_cases (parted : parts path ≠ [])
    (walk : d.walk (d.start path) (parts path) = .ok p)
    (h : d.makeFoldersAt path = (.ok (), d')) :
    d' = d ∨ d.find? p = none ∧ d' = d.set p .folder := by
  have hWalk : d.walk (d.start (rebuilt path)) (parts (rebuilt path)) = .ok p := by
    rw [start_rebuilt d parted, parts_rebuilt parted]
    exact walk
  have hFound : d.makeFolder (rebuilt path) ≠ .error .notFound := by
    intro hNone
    have hParted : parts (rebuilt path) ≠ [] := parts_rebuilt parted ▸ parted
    unfold makeFolder at hNone
    split at hNone
    · next hLocate =>
      cases hNone
      exact locate_ne_notFound hParted hWalk hLocate
    · split at hNone <;> cases hNone
  have hLast : d.makeLast (rebuilt path) = (.ok (), d') := by
    unfold makeFoldersAt at h
    split at h
    · cases h
    · unfold rebuilt at hFound ⊢
      obtain ⟨part, rest, hParts⟩ := List.exists_cons_of_ne_nil parted
      rw [hParts] at h hFound ⊢
      rw [makeFolders_cons] at h
      split at h
      · next hNone => exact absurd hNone hFound
      · exact h
  unfold makeLast at hLast
  split at hLast
  · next hMade =>
    cases hLast
    obtain ⟨q, hLocate, hAbsent, rfl⟩ := makeFolder_eq_ok_iff.mp hMade
    obtain ⟨-, hWalk', -⟩ := locate_eq_ok_iff.mp hLocate
    rw [hWalk] at hWalk'
    cases hWalk'
    exact .inr ⟨hAbsent, rfl⟩
  · split at hLast
    · cases hLast
      exact .inl rfl
    · cases hLast

end Making

end Disk

end Intake
