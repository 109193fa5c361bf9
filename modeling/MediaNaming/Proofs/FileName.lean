import MediaNaming.FileName
import MediaNaming.Proofs.Text

/-!
The extension of a name without slashes. Such a name is its own last segment, so the cut that is
measured in bytes from the end of the text falls exactly on the last dot.
-/

namespace MediaNaming

namespace FilePath

theorem segments_of_no_slash {name : Text} (h : '/' ∉ name) : segments name = [name] := by
  induction name with
  | nil => rfl
  | cons c rest ih =>
      rw [List.mem_cons, not_or] at h
      rw [segments, if_neg (Ne.symm h.1), ih h.2]

/-- A name with something on both sides of a dot is neither idle nor the way up. -/
theorem lastName?_of_no_slash {stem after : Text} (h : '/' ∉ stem ++ '.' :: after)
    (hstem : stem ≠ []) (hafter : after ≠ []) :
    lastName? (stem ++ '.' :: after) = some (stem ++ '.' :: after) := by
  obtain ⟨s, stem, rfl⟩ := List.exists_cons_of_ne_nil hstem
  obtain ⟨a, after, rfl⟩ := List.exists_cons_of_ne_nil hafter
  have hidle : isIdle (s :: stem ++ '.' :: a :: after) = false := by simp [isIdle]
  have hup : s :: stem ++ '.' :: a :: after ≠ ['.', '.'] := by
    cases stem <;> simp
  rw [lastName?, segments_of_no_slash h, List.filter_cons_of_pos (by rw [hidle]; rfl)]
  exact Option.filter_some_pos (decide_eq_true hup)

theorem eq_of_lastName?_of_no_slash {name n : Text} (h : '/' ∉ name)
    (hn : lastName? name = some n) : n = name := by
  rw [lastName?, segments_of_no_slash h] at hn
  obtain ⟨hlast, -⟩ := Option.filter_eq_some_iff.mp hn
  have hmem := List.mem_of_getLast? hlast
  exact List.mem_singleton.mp (List.mem_filter.mp hmem).1

end FilePath

namespace FileName

/-- The extension of a name without slashes starts at its last dot. -/
theorem extension_of_parts {stem after : Text} (h : '/' ∉ stem ++ '.' :: after)
    (hdot : '.' ∉ after) (hstem : stem ≠ []) (hafter : after ≠ []) :
    extension (stem ++ '.' :: after) = .ok (some ('.' :: after)) := by
  obtain ⟨a, after, rfl⟩ := List.exists_cons_of_ne_nil hafter
  have hext : FilePath.extension? (stem ++ '.' :: a :: after) = some (a :: after) := by
    rw [FilePath.extension?, FilePath.lastName?_of_no_slash h hstem hafter, Option.bind_some,
      FilePath.nameExtension?, Text.splitAtLast?_append hdot]
    simp [hstem]
  have hsize : Text.byteSize (stem ++ '.' :: a :: after) - (Text.byteSize (a :: after) + 1) =
      Text.byteSize stem := by
    have hone : '.'.utf8Size = 1 := rfl
    simp only [Text.byteSize_append, Text.byteSize_cons, hone]
    omega
  rw [extension, hext]
  simp only [hsize, Text.dropBytes?_append]

/-- A name without slashes that has an extension has something before its last dot and after. -/
theorem parts_of_extension {name e : Text} (h : '/' ∉ name) (he : extension name = .ok (some e)) :
    ∃ stem after, name = stem ++ '.' :: after ∧ '.' ∉ after ∧ stem ≠ [] ∧ after ≠ [] ∧
      e = '.' :: after := by
  cases hext : FilePath.extension? name with
  | none => simp [extension, hext] at he
  | some after =>
      obtain ⟨n, hn, hne⟩ := Option.bind_eq_some_iff.mp hext
      rw [FilePath.eq_of_lastName?_of_no_slash h hn, FilePath.nameExtension?] at hne
      split at hne
      · next stem after' hsplit =>
        obtain ⟨rfl, hdot⟩ := Text.eq_append_of_splitAtLast? hsplit
        split at hne
        · cases hne
        · next hstem =>
          cases hne
          have hstem : stem ≠ [] := by simpa using hstem
          cases after with
          | nil => simp [extension, hext] at he
          | cons a after =>
              rw [extension_of_parts h hdot hstem (List.cons_ne_nil _ _)] at he
              cases he
              exact ⟨stem, a :: after, rfl, hdot, hstem, List.cons_ne_nil _ _, rfl⟩
      · cases hne

end FileName

end MediaNaming
