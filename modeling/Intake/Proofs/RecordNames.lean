import Intake.Proofs.Paths

/-! # Names of record files

The file of a record is named for its id, and its temporary file has another extension, so that it
is never taken for a record.
-/

namespace Intake.Files

open Disk

/-- An id that can name a file in the folder of its kind. -/
structure IsPlain (id : String) : Prop where
  nonempty : id ≠ ""
  slash : '/' ∉ id.toList

def fileName (id : String) : String := id ++ ".json"

def temporaryName (id : String) : String := id ++ ".json.tmp"

variable {id : String}

theorem fileName_injective {id other : String} (h : fileName id = fileName other) : id = other := by
  unfold fileName at h
  rw [← String.toList_inj, String.toList_append, String.toList_append] at h
  exact String.toList_inj.mp (List.append_cancel_right h)

theorem isName_append {extension : String} (slash : '/' ∉ id.toList)
    (extended : '/' ∉ extension.toList ∧ 3 ≤ extension.length) : IsName (id ++ extension) := by
  have hLong (short : String) (hShort : short.length < 3) : id ++ extension ≠ short := by
    intro h
    have hLength := congrArg String.length h
    rw [String.length_append] at hLength
    omega
  refine ⟨?_, hLong _ (by decide), hLong _ (by decide), hLong _ (by decide)⟩
  rw [String.toList_append, List.mem_append, not_or]
  exact ⟨slash, extended.1⟩

theorem isName_fileName (plain : IsPlain id) : IsName (fileName id) :=
  isName_append plain.slash (by decide)

theorem isName_temporaryName (plain : IsPlain id) : IsName (temporaryName id) :=
  isName_append plain.slash (by decide)

theorem isName_folder (kind : RecordKind) : IsName kind.folder := by
  cases kind <;> exact ⟨by decide, by decide, by decide, by decide⟩

/-- A name is cut at its last point. -/
theorem splitName_append {before after : List Char} (nonempty : before ≠ [])
    (pointless : '.' ∉ after) : splitName (before ++ '.' :: after) = (before, some after) := by
  have hText : (before ++ '.' :: after).reverse = after.reverse ++ '.' :: before.reverse := by simp
  have hAfter : ((before ++ '.' :: after).reverse.takeWhile (· ≠ '.')).reverse = after := by
    rw [hText, List.takeWhile_append_of_pos, List.takeWhile_cons_of_neg (by simp),
      List.append_nil, List.reverse_reverse]
    intro c hc
    have hOther : c ≠ '.' := by
      rintro rfl
      exact pointless (List.mem_reverse.mp hc)
    simpa using hOther
  have hLength : (before ++ '.' :: after).length - after.length - 1 = before.length := by
    rw [List.length_append, List.length_cons]
    omega
  unfold splitName
  simp only [hAfter, hLength, List.take_left, if_neg nonempty]

theorem splitName_fileName (plain : IsPlain id) :
    splitName (fileName id).toList = (id.toList, some "json".toList) := by
  have hNonempty : id.toList ≠ [] := by simpa using plain.nonempty
  have hText : (fileName id).toList = id.toList ++ '.' :: "json".toList := by
    simp [fileName]
  rw [hText, splitName_append hNonempty (by decide)]

theorem isRecordName_fileName (plain : IsPlain id) : isRecordName (fileName id) = true := by
  rw [isRecordName, splitName_fileName plain]
  rfl

theorem isRecordName_temporaryName (id : String) : isRecordName (temporaryName id) = false := by
  have hText : (temporaryName id).toList = (id ++ ".json").toList ++ '.' :: "tmp".toList := by
    simp [temporaryName]
  have hNonempty : (id ++ ".json").toList ≠ [] := by simp
  have hOther : some "tmp".toList ≠ some "json".toList := by decide
  rw [isRecordName, hText, splitName_append hNonempty (by decide)]
  exact decide_eq_false hOther

/-- The temporary file of a record lies beside its file. -/
theorem temporaryPath_join (base : String) (plain : IsPlain id) :
    temporaryPath (join base (fileName id)) = join base (temporaryName id) := by
  have hName := isName_fileName plain
  obtain ⟨joint, hJoin, hJoint⟩ := exists_joint base
  have hLast : ((join base (fileName id)).toList.reverse.takeWhile (· ≠ '/')).reverse =
      (fileName id).toList := by
    have hSlash : ∀ c ∈ (fileName id).toList.reverse, decide (c ≠ '/') = true := by
      intro c hc
      have hOther : c ≠ '/' := by
        rintro rfl
        exact hName.slash (List.mem_reverse.mp hc)
      simpa using hOther
    rw [hJoin _ hName, String.toList_append, List.reverse_append,
      List.takeWhile_append_of_pos hSlash]
    rcases hJoint with ⟨rfl, -⟩ | ⟨front, rfl, -⟩
    · simp
    · simp
  have hFront : (join base (fileName id)).toList.take
      ((join base (fileName id)).length - (fileName id).toList.length) = joint.toList := by
    rw [hJoin _ hName, String.toList_append, String.length_append, String.length_toList,
      Nat.add_sub_cancel, ← String.length_toList, List.take_left]
  unfold temporaryPath
  simp only [hLast, hFront, splitName_fileName plain]
  rw [hJoin _ (isName_temporaryName plain), ← String.toList_inj]
  simp [temporaryName]

end Intake.Files
