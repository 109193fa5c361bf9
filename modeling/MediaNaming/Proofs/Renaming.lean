import MediaNaming.Proofs.FileName
import MediaNaming.Proofs.Run
import MediaNaming.Proofs.SafeName
import MediaNaming.Proofs.View

/-!
Names that a run gives to files. Where safe names are asked for, the new stem is safe whatever the
script does, and it is followed by the extension that the file had. The last dot of the new name is
then the dot of its extension, and since no script sees the name of its file, a second run gives the
name that the file has got.
-/

namespace MediaNaming

namespace Script

variable {script : Script} {s : Settings} {b : Bundle} {name : Text}

/-- A new name is the stem that the script built and the extension of the file. -/
theorem eq_append_of_run_renamed (h : script.run s b = .ok (.renamed name)) :
    ∃ e, b.file.extension = .ok (some e) ∧ script.stem s b ≠ [] ∧ name = script.stem s b ++ e := by
  rcases run_cases h with h | ⟨e, hext, ⟨line, -, h⟩ | ⟨-, h⟩ | ⟨hstem, h⟩⟩
  · simp at h
  · cases h
  · cases h
  · cases h
    exact ⟨e, hext, hstem, rfl⟩

theorem isSafe_stem (hs : s.safeNames = true) : SafeName.IsSafe (script.stem s b) := by
  rw [stem, if_pos hs]
  exact SafeName.isSafe_ofText _

theorem backtick_not_mem_stem (hs : s.safeNames = true) : '\x60' ∉ script.stem s b := by
  rw [stem, if_pos hs]
  exact SafeName.not_mem_ofText (by decide) (Text.not_mem_replaceAll_singleton (by decide) _)

/-- The parts of a new name for a file whose current name has no slash. -/
theorem parts_of_run_renamed (hs : s.safeNames = true) (hname : '/' ∉ b.file.name)
    (h : script.run s b = .ok (.renamed name)) :
    ∃ before after, b.file.name = before ++ '.' :: after ∧ '.' ∉ after ∧ after ≠ [] ∧
      b.file.extension = .ok (some ('.' :: after)) ∧ script.stem s b ≠ [] ∧
      name = script.stem s b ++ '.' :: after ∧ '/' ∉ name := by
  obtain ⟨e, hext, hstem, rfl⟩ := eq_append_of_run_renamed h
  obtain ⟨before, after, hparts, hdot, -, hafter, rfl⟩ :=
    FileName.parts_of_extension hname hext
  refine ⟨before, after, hparts, hdot, hafter, hext, hstem, rfl, ?_⟩
  rw [List.mem_append]
  rintro (hmem | hmem)
  · exact (isSafe_stem hs).not_forbidden _ hmem (by decide)
  · exact hname (hparts ▸ List.mem_append_right before hmem)

/-- A new name is a safe stem before what follows the last dot of the old name, and so it holds no
slash and is not hidden. -/
theorem run_renamed_isSafe (script : Script) (hs : s.safeNames = true)
    (hname : '/' ∉ b.file.name) (h : script.run s b = .ok (.renamed name)) :
    ∃ stem before after, b.file.name = before ++ '.' :: after ∧ '.' ∉ after ∧
      name = stem ++ '.' :: after ∧ stem ≠ [] ∧ SafeName.IsSafe stem ∧ '\x60' ∉ stem ∧
      '/' ∉ name ∧ name.head? ≠ some '.' := by
  obtain ⟨before, after, hparts, hdot, -, -, hstem, hnew, hslash⟩ :=
    parts_of_run_renamed hs hname h
  refine ⟨script.stem s b, before, after, hparts, hdot, hnew, hstem, isSafe_stem hs,
    backtick_not_mem_stem hs, hslash, ?_⟩
  have hsafe : SafeName.IsSafe (script.stem s b) := isSafe_stem hs
  have hhead := hsafe.head_ne_dot
  obtain ⟨c, rest, hc⟩ := List.exists_cons_of_ne_nil hstem
  rw [hc] at hhead
  rw [hnew, hc]
  exact hhead

theorem run_mixedSample :
    mixedSample.run {} linkedSample = .ok (.renamed "․？'07.mkv".toList) :=
  eq_ok_of_toOption (by decide +kernel)

theorem run_renamed_isSafe_mixedSample :
    ({} : Settings).safeNames = true ∧ '/' ∉ linkedSample.file.name ∧
      mixedSample.run {} linkedSample = .ok (.renamed "․？'07.mkv".toList) ∧
      ∃ stem before after, linkedSample.file.name = before ++ '.' :: after ∧ '.' ∉ after ∧
        "․？'07.mkv".toList = stem ++ '.' :: after ∧ stem ≠ [] ∧ SafeName.IsSafe stem ∧
        '\x60' ∉ stem ∧ '/' ∉ "․？'07.mkv".toList ∧ "․？'07.mkv".toList.head? ≠ some '.' :=
  ⟨rfl, by decide, run_mixedSample,
    run_renamed_isSafe mixedSample rfl (by decide) run_mixedSample⟩

/-- Renaming the file as the run says and running again changes nothing more. -/
theorem run_renamed_again (script : Script) (hs : s.safeNames = true)
    (hname : '/' ∉ b.file.name) (h : script.run s b = .ok (.renamed name)) :
    (b.withName name).file.extension = b.file.extension ∧
      script.run s (b.withName name) = .ok (.renamed name) := by
  obtain ⟨before, after, -, hdot, hafter, hext, hstem, rfl, hslash⟩ :=
    parts_of_run_renamed hs hname h
  have hagain : (b.withName (script.stem s b ++ '.' :: after)).file.extension =
      b.file.extension := by
    rw [hext]
    exact FileName.extension_of_parts hslash hdot hstem hafter
  refine ⟨hagain, ?_⟩
  rw [(Bundle.sameView_withName b _).run hagain script s]
  exact h

theorem run_renamed_again_mixedSample :
    ({} : Settings).safeNames = true ∧ '/' ∉ linkedSample.file.name ∧
      mixedSample.run {} linkedSample = .ok (.renamed "․？'07.mkv".toList) ∧
      (linkedSample.withName "․？'07.mkv".toList).file.extension = linkedSample.file.extension ∧
      mixedSample.run {} (linkedSample.withName "․？'07.mkv".toList) =
        .ok (.renamed "․？'07.mkv".toList) :=
  ⟨rfl, by decide, run_mixedSample,
    run_renamed_again mixedSample rfl (by decide) run_mixedSample⟩

end Script

end MediaNaming
