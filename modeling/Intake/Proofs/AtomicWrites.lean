import Intake.Proofs.Temporaries

/-! # Writes on a disk that fails

A device may fail at any change, a write with any part of the file written, and the program may stop
between two changes. The record files are then those from before the call or those from after it,
and the tables change only with all of them.
-/

namespace Intake

open Disk Files

namespace Disk

/-- What may come of a change. Renaming and removing are done or not done, but a write that fails
may leave anything in its file. A removal that finds no file says so only if there is none. -/
inductive Attempt (d : Disk) : Step → Except OsError Unit × Disk → Prop where
  | performed (step : Step) : Attempt d step (perform step d)
  | unwritten (path content : String) (e : OsError) :
    Attempt d (.write path content) (.error e, d)
  | torn {path : String} {q : Place} (content : String) (e : OsError) (left : Content)
    (located : d.locate path = .ok q) (unfolder : d.find? q ≠ some .folder) :
    Attempt d (.write path content) (.error e, d.set q (.file left))
  | unrenamed (source target : String) (e : OsError) :
    Attempt d (.rename source target) (.error e, d)
  | unremoved (path : String) {e : OsError} (found : e ≠ .notFound) :
    Attempt d (.remove path) (.error e, d)

/-- A device whose failures are of these kinds. -/
def MayFail (device : Device) : Prop := ∀ step d, Attempt d step (device step d)

/-- Changes that are all carried out, where removing what is not there counts as done. -/
inductive Carried (device : Device) : Disk → List Step → Disk → Prop where
  | nil (d : Disk) : Carried device d [] d
  | cons {d d₁ d' : Disk} {step : Step} {rest : List Step} (done : device step d = (.ok (), d₁))
    (later : Carried device d₁ rest d') : Carried device d (step :: rest) d'
  | missing {d d₁ d' : Disk} {path : String} {rest : List Step}
    (gone : device (.remove path) d = (.error .notFound, d₁))
    (later : Carried device d₁ rest d') : Carried device d (.remove path :: rest) d'

/-- The disks that are found if not all changes are carried out: one of them fails or the program
stops before it. -/
inductive Broken : Disk → List Step → Disk → Prop where
  | stopped (d : Disk) (step : Step) (rest : List Step) : Broken d (step :: rest) d
  | failed {d d' : Disk} {step : Step} {e : OsError} (attempt : Attempt d step (.error e, d'))
    (rest : List Step) : Broken d (step :: rest) d'
  | later {d d₁ d' : Disk} {step : Step} {rest : List Step} (done : perform step d = (.ok (), d₁))
    (broken : Broken d₁ rest d') : Broken d (step :: rest) d'

variable {d d₁ d' : Disk} {step : Step} {path : String} {e : OsError}

theorem perform_of_attempt (h : Attempt d step (.ok (), d')) : perform step d = (.ok (), d') := by
  generalize hOutcome : (Except.ok (), d') = outcome at h
  cases h with
  | performed => rfl
  | _ => cases hOutcome

theorem eq_of_perform_error (h : perform step d = (.error e, d')) : d' = d := by
  unfold perform at h
  dsimp only at h
  split at h
  · cases h
  · cases h
    rfl

theorem eq_of_failed (h : Attempt d step (.error e, d')) :
    d' = d ∨ ∃ path content q left, step = .write path content ∧ d.locate path = .ok q ∧
      d.find? q ≠ some .folder ∧ d' = d.set q (.file left) := by
  generalize hOutcome : (Except.error e, d') = outcome at h
  cases h with
  | performed => exact .inl (eq_of_perform_error hOutcome.symm)
  | torn content _ left located unfolder =>
    cases hOutcome
    exact .inr ⟨_, content, _, left, rfl, located, unfolder, rfl⟩
  | unwritten | unrenamed | unremoved =>
    cases hOutcome
    exact .inl rfl

theorem Carried.perform {device : Device} {steps : List Step} (mayFail : MayFail device)
    (h : Carried device d steps d') : Carried Disk.perform d steps d' := by
  induction h with
  | nil d => exact .nil d
  | @cons d d₁ _ step _ done _ ih =>
    have hAttempt := mayFail step d
    rw [done] at hAttempt
    exact .cons (perform_of_attempt hAttempt) ih
  | @missing d d₁ _ path _ gone _ ih =>
    have hAttempt := mayFail (.remove path) d
    rw [gone] at hAttempt
    generalize hOutcome : (Except.error OsError.notFound, d₁) = outcome at hAttempt
    cases hAttempt with
    | performed => exact .missing hOutcome.symm ih
    | unremoved _ found =>
      cases hOutcome
      exact absurd rfl found

end Disk

/-- What a call changes among the record files. -/
inductive RecordChange where
  | save (path text : String)
  | remove (path : String)

namespace RecordChange

def ofRecord {α : Type} [Record α] (root : String) (r : α) : RecordChange :=
  .save (recordPath (Record.kind α) root (Record.id r)) (Record.fileText r)

def path : RecordChange → String
  | save path _ => path
  | remove path => path

/-- What the file holds afterwards. -/
def entry? : RecordChange → Option Entry
  | save _ text => some (.file (.text text))
  | remove _ => none

def steps : RecordChange → List Step
  | save path text => [.write (temporaryPath path) text, .rename (temporaryPath path) path]
  | remove path => [.remove path]

variable {d d' : Disk} {change : RecordChange}

theorem alike_of_failed_write {path text : String} {e : OsError}
    (h : Attempt d (.write (temporaryPath path) text) (.error e, d')) : d.Alike d' := by
  rcases eq_of_failed h with rfl | ⟨_, _, q, left, hStep, hLocate, hUnfolder, rfl⟩
  · exact .refl _
  · obtain ⟨rfl, -⟩ := Step.write.inj hStep
    exact alike_set (isTemporary_of_locate hLocate) left hUnfolder

theorem eq_of_failed_other {step : Step} {e : OsError} (h : Attempt d step (.error e, d'))
    (other : ∀ path content, step ≠ .write path content) : d' = d := by
  rcases eq_of_failed h with rfl | ⟨path, content, _, _, hStep, -⟩
  · rfl
  · exact absurd hStep (other path content)

/-- The temporary file is all that has changed before it is renamed. -/
theorem alike_of_written {path text : String}
    (h : perform (.write (temporaryPath path) text) d = (.ok (), d')) : d.Alike d' := by
  obtain ⟨q, hLocate, hUnfolder, rfl⟩ := write_eq_ok_iff.mp (perform_write_iff.mp h)
  exact alike_set (isTemporary_of_locate hLocate) _ hUnfolder

theorem alike_of_broken (h : Broken d change.steps d') : d.Alike d' := by
  cases change with
  | remove path =>
    cases h with
    | stopped => exact .refl d
    | failed attempt =>
      obtain rfl := eq_of_failed_other attempt nofun
      exact .refl _
    | later _ broken => cases broken
  | save path text =>
    cases h with
    | stopped => exact .refl d
    | failed attempt => exact alike_of_failed_write attempt
    | later done broken =>
      have hAlike := alike_of_written done
      cases broken with
      | stopped => exact hAlike
      | failed attempt =>
        obtain rfl := eq_of_failed_other attempt nofun
        exact hAlike
      | later _ broken => cases broken

theorem locate_of_grows {path : String} {p q : Place} (grows : d.Grows d')
    (h : d.locate path = .ok p) (h' : d'.locate path = .ok q) : q = p := by
  obtain ⟨-, hWalk, -⟩ := locate_eq_ok_iff.mp h
  obtain ⟨-, hWalk', -⟩ := locate_eq_ok_iff.mp h'
  have hStart : d'.start path = d.start path := by
    unfold start
    rw [grows.1]
  rw [hStart, grows.walk hWalk] at hWalk'
  exact (Except.ok.inj hWalk').symm

theorem find?_of_removed {path : String} {p : Place}
    (h : Carried Disk.perform d (RecordChange.remove path).steps d') :
    (d.locate path = .ok p → d'.find? p = none) ∧
      (d.locate path ≠ .ok p → d'.find? p = d.find? p) := by
  cases h with
  | cons done later =>
    cases later
    obtain ⟨q, content, hLocate, hFound, rfl⟩ := remove_eq_ok_iff.mp (perform_remove_iff.mp done)
    have hRoot : q ≠ [] := by
      rintro rfl
      cases hFound
    rw [find?_erase d hRoot, hLocate, ne_eq, Except.ok.injEq]
    exact ⟨fun hSame => if_pos hSame.symm, fun hOther => if_neg (Ne.symm hOther)⟩
  | missing gone later =>
    cases later
    obtain rfl := eq_of_perform_error gone
    refine ⟨fun hLocate => ?_, fun _ => rfl⟩
    by_contra hFound
    cases hFind : d'.find? p with
    | none => exact hFound hFind
    | some entry =>
      cases entry with
      | folder => simp [Disk.perform, Disk.remove, hLocate, hFind] at gone
      | file content => simp [Disk.perform, Disk.remove, hLocate, hFind] at gone

theorem find?_of_saved {path text : String} {p : Place}
    (h : Carried Disk.perform d (RecordChange.save path text).steps d')
    (lasts : isTemporary p = false) :
    (d.locate path = .ok p → d'.find? p = some (.file (.text text))) ∧
      (d.locate path ≠ .ok p → d'.find? p = d.find? p) := by
  cases h with
  | cons written later =>
    cases later with
    | cons renamed later =>
      cases later
      have hAlike := alike_of_written written
      obtain ⟨q, hSource, hUnfolder, rfl⟩ := write_eq_ok_iff.mp (perform_write_iff.mp written)
      obtain ⟨q', t, content, hSource', hTarget, hFile, hNoFolder, rfl⟩ :=
        rename_eq_ok (perform_rename_iff.mp renamed)
      -- The file that is renamed is the one that has been written.
      obtain rfl := locate_of_grows hAlike.grows hSource hSource'
      have hTemporary := isTemporary_of_locate hSource
      have hRoot := ne_nil_of_isTemporary hTemporary
      rw [find?_set _ hRoot, if_pos rfl] at hFile
      cases hFile
      have hTargetRoot : t ≠ [] := by
        rintro rfl
        exact hNoFolder rfl
      rw [find?_set _ hTargetRoot]
      constructor
      · intro hLocate
        exact if_pos (locate_of_grows hAlike.grows hLocate hTarget).symm
      · intro hOther
        have hTargetOther : p ≠ t := by
          rintro rfl
          exact hOther (hAlike.symm.locate lasts hTarget)
        have hSourceOther : p ≠ q' := by
          rintro rfl
          rw [lasts] at hTemporary
          cases hTemporary
        rw [if_neg hTargetOther, find?_erase _ hRoot, if_neg hSourceOther, find?_set _ hRoot,
          if_neg hSourceOther]

/-- A change that is carried out puts the whole record in its file, or takes the file away, and
nothing else but temporary files changes. -/
theorem find?_of_carried {p : Place} (h : Carried Disk.perform d change.steps d')
    (lasts : isTemporary p = false) :
    (d.locate change.path = .ok p → d'.find? p = change.entry?) ∧
      (d.locate change.path ≠ .ok p → d'.find? p = d.find? p) := by
  cases change with
  | remove path => exact find?_of_removed h
  | save path text => exact find?_of_saved h lasts

end RecordChange

namespace Files

variable {α : Type} [Record α] {b : Backing}

theorem save_outcome (mayFail : MayFail b.device) (r : α) : ∃ d',
    ((∃ e, save b r = (.error e, { b with disk := d' })) ∧ b.disk.Alike d') ∨
      save b r = (.ok (), { b with disk := d' }) ∧
        Carried b.device b.disk (RecordChange.ofRecord b.root r).steps d' := by
  have hWrite := mayFail (saveSteps b.root r).1 b.disk
  unfold save
  dsimp only [saveSteps] at hWrite ⊢
  split
  · next e d₁ hFailed =>
    rw [hFailed] at hWrite
    exact ⟨d₁, .inl ⟨⟨_, rfl⟩, RecordChange.alike_of_failed_write hWrite⟩⟩
  · next d₁ hWritten =>
    rw [hWritten] at hWrite
    have hAlike := RecordChange.alike_of_written (perform_of_attempt hWrite)
    have hRename := mayFail (saveSteps b.root r).2 d₁
    dsimp only [saveSteps] at hRename
    split
    · next e d₂ hFailed =>
      rw [hFailed] at hRename
      obtain rfl := RecordChange.eq_of_failed_other hRename nofun
      exact ⟨d₂, .inl ⟨⟨_, rfl⟩, hAlike⟩⟩
    · next d₂ hRenamed => exact ⟨d₂, .inr ⟨rfl, .cons hWritten (.cons hRenamed (.nil d₂))⟩⟩

theorem delete_outcome (mayFail : MayFail b.device) (kind : RecordKind) (id : String) : ∃ d',
    ((∃ e, delete kind b id = (.error e, { b with disk := d' })) ∧ b.disk.Alike d') ∨
      delete kind b id = (.ok (), { b with disk := d' }) ∧
        Carried b.device b.disk (RecordChange.remove (recordPath kind b.root id)).steps d' := by
  have hRemove := mayFail (.remove (recordPath kind b.root id)) b.disk
  unfold delete
  dsimp only
  split
  · next d₁ hRemoved => exact ⟨d₁, .inr ⟨rfl, .cons hRemoved (.nil d₁)⟩⟩
  · next d₁ hGone => exact ⟨d₁, .inr ⟨rfl, .missing hGone (.nil d₁)⟩⟩
  · next e d₁ _ hFailed =>
    rw [hFailed] at hRemove
    obtain rfl := RecordChange.eq_of_failed_other hRemove nofun
    exact ⟨_, .inl ⟨⟨_, rfl⟩, .refl _⟩⟩

end Files

namespace Store

/-- What a call is to change on disk: nothing if the tables refuse it. -/
def insertChange? {α : Type} [Stored α] (s : Store) (root : String) (r : α) :
    Option RecordChange :=
  if (Stored.table s.tables : Table α).contains (Record.id r) then none
  else some (.ofRecord root r)

def updateChange? {α : Type} [Stored α] (s : Store) (root : String) (r : α) :
    Option RecordChange :=
  if (Stored.table s.tables : Table α).contains (Record.id r) then some (.ofRecord root r)
  else none

def deleteChange? (α : Type) [Stored α] (s : Store) (root id : String) : Option RecordChange :=
  if (Stored.table s.tables : Table α).contains id then
    some (.remove (recordPath (Record.kind α) root id))
  else none

def change? (s : Store) (root : String) : {β : Type} → StoreCall β → Option RecordChange
  | _, .insertProduct p => s.insertChange? root p
  | _, .updateProduct p => s.updateChange? root p
  | _, .deleteProduct id => deleteChange? Product s root id
  | _, .insertLead l => s.insertChange? root l
  | _, .updateLead l => s.updateChange? root l
  | _, .deleteLead id => deleteChange? Lead s root id
  | _, _ => none

def steps (change? : Option RecordChange) : List Step :=
  match change? with
  | some change => change.steps
  | none => []

/-- How a call ends on a disk that may fail: with an error everything but temporary files is as it
was, and with a result every change has been carried out. -/
def Ends {β : Type} (s : Store) (b : Backing) (change? : Option RecordChange)
    (ended : Except StorageError β × Store) : Prop :=
  ∃ d', ended.2.backing? = some { b with disk := d' } ∧
    (∀ e, ended.1 = .error e → ended.2.tables = s.tables ∧ b.disk.Alike d') ∧
    ∀ v, ended.1 = .ok v → Carried b.device b.disk (steps change?) d'

section Ends

variable {α : Type} [Stored α] {s : Store} {b : Backing} (backing : s.backing? = some b)
include backing

theorem ends_unchanged {β : Type} (result : Except StorageError β) :
    s.Ends b none (result, s) :=
  ⟨b.disk, backing, fun _ _ => ⟨rfl, .refl _⟩, fun _ _ => .nil _⟩

variable (mayFail : MayFail b.device)
include mayFail

theorem ends_save (r : α) (t : Table α) : s.Ends b (some (.ofRecord b.root r)) (s.save r t) := by
  unfold Store.save
  rw [backing]
  obtain ⟨d', ⟨⟨e, hSave⟩, hAlike⟩ | ⟨hSave, hCarried⟩⟩ := save_outcome mayFail r
  · simp only [hSave]
    exact ⟨d', rfl, fun _ _ => ⟨rfl, hAlike⟩, nofun⟩
  · simp only [hSave]
    exact ⟨d', rfl, nofun, fun _ _ => hCarried⟩

theorem ends_insert (r : α) : s.Ends b (s.insertChange? b.root r) (s.insert r) := by
  unfold Store.insert insertChange?
  cases hKnown : (Stored.table s.tables : Table α).contains (Record.id r) with
  | true =>
    have hNone : (Stored.table s.tables : Table α).insert? r = none := by
      unfold Table.insert?
      rw [dif_neg (by simp [hKnown])]
    rw [hNone]
    exact ends_unchanged backing _
  | false =>
    obtain ⟨t, hSome⟩ : ∃ t, (Stored.table s.tables : Table α).insert? r = some t :=
      ⟨_, dif_pos hKnown⟩
    rw [hSome]
    exact ends_save backing mayFail r t

theorem ends_update (r : α) : s.Ends b (s.updateChange? b.root r) (s.update r) := by
  unfold Store.update updateChange?
  dsimp only
  split
  · exact ends_save backing mayFail r _
  · exact ends_unchanged backing _

theorem ends_delete (id : String) :
    s.Ends b (deleteChange? α s b.root id) (s.delete α id) := by
  unfold Store.delete deleteChange?
  dsimp only
  split
  · rw [backing]
    obtain ⟨d', ⟨⟨e, hDelete⟩, hAlike⟩ | ⟨hDelete, hCarried⟩⟩ :=
      delete_outcome mayFail (Record.kind α) id
    · simp only [hDelete]
      exact ⟨d', rfl, fun _ _ => ⟨rfl, hAlike⟩, nofun⟩
    · simp only [hDelete]
      exact ⟨d', rfl, nofun, fun _ _ => hCarried⟩
  · exact ends_unchanged backing _

theorem ends_perform {β : Type} (c : StoreCall β) :
    s.Ends b (s.change? b.root c) (perform c s) := by
  cases c with
  | insertProduct p => exact ends_insert backing mayFail p
  | updateProduct p => exact ends_update backing mayFail p
  | deleteProduct id => exact ends_delete (α := Product) backing mayFail id
  | insertLead l => exact ends_insert backing mayFail l
  | updateLead l => exact ends_update backing mayFail l
  | deleteLead id => exact ends_delete (α := Lead) backing mayFail id
  | getProduct | listProducts | countProducts | getLead | listLeads | countLeads =>
    exact ends_unchanged backing _

end Ends

/-- A call that fails at the disk leaves the tables and everything but temporary files as they were,
and one that returns a result has carried out all its changes. If the program stops on the way, the
record files are those from before or, after the last change, those from afterwards, with the whole
record in its file. What temporary files are left over lie where no record does, and opening the
disk later is not changed by them. -/
theorem perform_atomic {β : Type} (c : StoreCall β) (s : Store) (b : Backing)
    (backing : s.backing? = some b) (mayFail : MayFail b.device) :
    s.Ends b (s.change? b.root c) (perform c s) ∧
    (∀ change, s.change? b.root c = some change →
      (∀ d, Broken b.disk change.steps d → b.disk.Alike d) ∧
      ∀ d, Carried Disk.perform b.disk change.steps d → ∀ p, isTemporary p = false →
        (b.disk.locate change.path = .ok p → d.find? p = change.entry?) ∧
        (b.disk.locate change.path ≠ .ok p → d.find? p = b.disk.find? p)) ∧
    (∀ d, b.disk.Alike d → Opened b.disk b.root → ∀ tables,
      (∃ s', (openAt b.root d).1 = .ok s' ∧ s'.tables = tables) ↔
        ∃ s', (openAt b.root b.disk).1 = .ok s' ∧ s'.tables = tables) ∧
    (∀ p name, isTemporary (p ++ [name]) = true → isRecordName name = false) ∧
    ∀ (d : Disk) (kind : RecordKind) (root id : String) (p : Place),
      (d.locate (temporaryPath (recordPath kind root id)) = .ok p → isTemporary p = true) ∧
      (d.locate (recordPath kind root id) = .ok p → isTemporary p = false) := by
  refine ⟨ends_perform backing mayFail c, fun change _ => ⟨?_, ?_⟩, ?_, ?_, ?_⟩
  · intro d broken
    exact RecordChange.alike_of_broken broken
  · intro d carried p lasts
    exact RecordChange.find?_of_carried carried lasts
  · intro d alike opened tables
    have opened' : Opened d b.root := fun kind => (opened kind).imp fun _ h => h.grows alike.grows
    constructor
    · rintro ⟨s', hOpen, rfl⟩
      exact tables_openAt_of_alike alike.symm opened' hOpen
    · rintro ⟨s', hOpen, rfl⟩
      exact tables_openAt_of_alike alike opened hOpen
  · intro p name temporary
    exact isRecordName_of_isTemporary temporary
  · intro d kind root id p
    exact ⟨isTemporary_of_locate,
      isTemporary_of_endsAsRecord (endsAsRecord_recordPath kind root id)⟩

section Instances

/-- A device that breaks off every write after one byte. -/
def tearing : Device
  | .write path content, d =>
    match d.locate path with
    | .error e => (.error e, d)
    | .ok q =>
      if d.find? q = some .folder then Disk.perform (.write path content) d
      else (.error .notText, d.set q (.file (.text (content.take 1).toString)))
  | step, d => Disk.perform step d

theorem mayFail_tearing : MayFail tearing := by
  intro step d
  cases step with
  | write path content =>
    unfold tearing
    dsimp only
    split
    · exact .unwritten path content _
    · next q hLocate =>
      split
      · exact .performed _
      · next hUnfolder => exact .torn content _ _ hLocate hUnfolder
  | rename | remove => exact .performed _

/-- A product whose id has points and is no file yet is inserted, and the write breaks off. What is
left of it is passed over when the folder is opened later. -/
theorem perform_atomic_torn_insert :
    let p : Product := ⟨"a.b", "Loans", "", .object [], ⟨0, 0⟩, ⟨0, 0⟩⟩
    let d : Disk := { entries := [(["data"], .folder), (["data", "products"], .folder),
      (["data", "leads"], .folder)] }
    let b : Backing := { root := "/data", disk := d, device := tearing }
    let s : Store := { backing? := some b }
    MayFail b.device ∧
      (perform (.insertProduct p) s).1 =
        .error (.disk .write "/data/products/a.b.json.tmp" .notText) ∧
      (perform (.insertProduct p) s).2.tables = s.tables ∧
      ∃ d', (perform (.insertProduct p) s).2.backing? = some { b with disk := d' } ∧
        d.Alike d' ∧
        d'.find? ["data", "products", "a.b.json.tmp"] = some (.file (.text "\x7b")) ∧
        ∃ s', (openAt "/data" d').1 = .ok s' ∧ s'.tables = {} := by
  intro p d b s
  have hError : (perform (.insertProduct p) s).1 =
      .error (.disk .write "/data/products/a.b.json.tmp" .notText) := by decide +kernel
  have hLeft : ((perform (.insertProduct p) s).2.backing?.bind fun b =>
      b.disk.find? ["data", "products", "a.b.json.tmp"]) = some (.file (.text "\x7b")) := by
    decide +kernel
  have hOpen : openAt "/data" d = (.ok ⟨{}, some { root := "/data", disk := d }⟩, d) := by
    refine openAt_of_list_nil (fun kind => ?_) fun kind => ?_ <;> cases kind <;> decide +kernel
  obtain ⟨⟨d', hBacking, hFailed, -⟩, -, hLater, -⟩ :=
    perform_atomic (.insertProduct p) s b rfl mayFail_tearing
  obtain ⟨hTables, hAlike⟩ := hFailed _ hError
  have hOpenLater : ∃ s', (openAt "/data" d').1 = .ok s' ∧ s'.tables = {} :=
    (hLater d' hAlike (opened_of_openAt hOpen) {}).mpr ⟨_, congrArg Prod.fst hOpen, rfl⟩
  rw [hBacking] at hLeft
  exact ⟨mayFail_tearing, hError, hTables, d', hBacking, hAlike, hLeft, hOpenLater⟩

end Instances

end Store

end Intake
