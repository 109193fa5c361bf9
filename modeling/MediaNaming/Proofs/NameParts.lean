import MediaNaming.Placeholder.Value
import MediaNaming.Proofs.FileName

/-!
The stem and the extension of a name. A template shows the stem of the name under which a file was
published, and a run keeps the extension of the name that the file has. Both are cut at the last dot,
and a dot that begins a name cuts neither off. They differ about a dot that ends a name: it is no
extension, but it is not left to the stem either, so it is the only character that gets lost.
-/

namespace MediaNaming

namespace FileName

/-- A name with its stem and its extension, for names without slashes. -/
inductive Parts : Text → Text → Option Text → Prop
  | undotted {name : Text} (hdot : '.' ∉ name) : Parts name name none
  | hidden {after : Text} (hdot : '.' ∉ after) : Parts ('.' :: after) ('.' :: after) none
  | dotEnded {stem : Text} (hstem : stem ≠ []) : Parts (stem ++ ['.']) stem none
  | extended {stem after : Text} (hstem : stem ≠ []) (hafter : after ≠ []) (hdot : '.' ∉ after) :
      Parts (stem ++ '.' :: after) stem (some ('.' :: after))

/-- A dot at the end of a name that has something else in front of it. -/
def LosesDot (name : Text) : Prop := name.getLast? = some '.' ∧ name ≠ ['.']

variable {name s : Text} {e : Option Text}

theorem exists_parts (name : Text) : ∃ stem e, Parts name stem e := by
  cases hsplit : Text.splitAtLast? '.' name with
  | none => exact ⟨_, _, .undotted (Text.splitAtLast?_eq_none_iff.mp hsplit)⟩
  | some parts =>
      obtain ⟨stem, after⟩ := parts
      obtain ⟨rfl, hdot⟩ := Text.eq_append_of_splitAtLast? hsplit
      by_cases hstem : stem = []
      · subst hstem
        exact ⟨_, _, .hidden hdot⟩
      · by_cases hafter : after = []
        · subst hafter
          exact ⟨_, _, .dotEnded hstem⟩
        · exact ⟨_, _, .extended hstem hafter hdot⟩

/-- Where no extension with a character in it is read, there is none. -/
theorem extension_eq_none (hslash : '/' ∉ name)
    (h : ∀ c rest, FilePath.nameExtension? name ≠ some (c :: rest)) :
    extension name = .ok none := by
  rw [extension, FilePath.extension?]
  cases hlast : FilePath.lastName? name with
  | none => rfl
  | some n =>
      obtain rfl := FilePath.eq_of_lastName?_of_no_slash hslash hlast
      rw [Option.bind_some]
      split
      · rfl
      · rfl
      · next c rest hext => exact absurd hext (h c rest)

theorem getLast?_append_ne_dot {after : Text} (hafter : after ≠ []) (hdot : '.' ∉ after)
    (u : Text) : (u ++ after).getLast? ≠ some '.' := by
  rw [List.getLast?_append, List.getLast?_eq_some_getLast hafter]
  intro h
  exact hdot (Option.some.inj h ▸ List.getLast_mem hafter)

namespace Parts

theorem stem_eq (h : Parts name s e) : stem name = s := by
  cases h with
  | undotted hdot => rw [stem, Text.splitAtLast?_eq_none_iff.mpr hdot]
  | @hidden after hdot =>
      have hsplit : Text.splitAtLast? '.' ('.' :: after) = some ([], after) :=
        Text.splitAtLast?_append hdot []
      simp [stem, hsplit]
  | dotEnded hstem => simp [stem, Text.splitAtLast?_append (List.not_mem_nil (a := '.')), hstem]
  | extended hstem hafter hdot => simp [stem, Text.splitAtLast?_append hdot, hstem]

theorem extension_eq (h : Parts name s e) (hslash : '/' ∉ name) : extension name = .ok e := by
  cases h with
  | undotted hdot =>
      apply extension_eq_none hslash
      simp [FilePath.nameExtension?, Text.splitAtLast?_eq_none_iff.mpr hdot]
  | @hidden after hdot =>
      have hsplit : Text.splitAtLast? '.' ('.' :: after) = some ([], after) :=
        Text.splitAtLast?_append hdot []
      apply extension_eq_none hslash
      simp [FilePath.nameExtension?, hsplit]
  | dotEnded hstem =>
      apply extension_eq_none hslash
      simp [FilePath.nameExtension?, Text.splitAtLast?_append (List.not_mem_nil (a := '.')), hstem]
  | extended hstem hafter hdot => exact extension_of_parts hslash hdot hstem hafter

theorem append_eq (h : Parts name s e) (hdot : ¬LosesDot name) : s ++ e.getD [] = name := by
  cases h with
  | undotted => exact List.append_nil _
  | hidden => exact List.append_nil _
  | dotEnded hstem =>
      refine absurd ⟨List.getLast?_concat, ?_⟩ hdot
      simpa using hstem
  | extended => rfl

/-- The dot that is lost is the last character. -/
theorem append_dot_eq (h : Parts name s e) (hdot : LosesDot name) :
    e = none ∧ s ++ ['.'] = name := by
  obtain ⟨hlast, hne⟩ := hdot
  cases h with
  | undotted hdot => exact absurd (List.mem_of_getLast? hlast) hdot
  | @hidden after hdot =>
      have hafter : after ≠ [] := by
        rintro rfl
        exact hne rfl
      exact absurd hlast (getLast?_append_ne_dot hafter hdot ['.'])
  | dotEnded => exact ⟨rfl, rfl⟩
  | @extended stem after hstem hafter hdot =>
      rw [List.append_cons] at hlast
      exact absurd hlast (getLast?_append_ne_dot hafter hdot _)

end Parts

end FileName

/-! ### A file and its release -/

/-- A file has the name under which it was published. Then the stem that is shown for the release and
the extension that is kept for the file make up the name. Only where a dot ends the name and is not
all of it there is no extension, and the stem is the name less that dot. -/
theorem Release.publishedStem_append_extension {r : Release} {f : MediaFile}
    (hname : r.publishedName = some f.name) (hslash : '/' ∉ f.name) :
    ∃ stem e, r.publishedStem? = some stem ∧ f.extension = .ok e ∧
      (∀ s b, b.release = some r → Placeholder.publishedName.render s b = stem) ∧
      (¬FileName.LosesDot f.name → stem ++ e.getD [] = f.name) ∧
      (FileName.LosesDot f.name → e = none ∧ stem ++ ['.'] = f.name) := by
  obtain ⟨stem, e, hparts⟩ := FileName.exists_parts f.name
  have hstem : r.publishedStem? = some stem := by
    rw [publishedStem?, hname, Option.map_some, hparts.stem_eq]
  refine ⟨stem, e, hstem, hparts.extension_eq hslash, fun s b hb => ?_, hparts.append_eq,
    hparts.append_dot_eq⟩
  rw [Placeholder.render, Placeholder.value?, hb, Option.bind_some, hstem, Option.getD_some]

/-- A file of that name. -/
def MediaFile.named (name : Text) : MediaFile where
  name := name
  ed2k := []
  size := 1

/-- A release that was published under that name. -/
def Release.publishedAs (name : Text) : Release where
  publishedName := some name

/-- A name that ends in an extension behind a dot, and one that ends in a dot behind an extension. -/
theorem Release.publishedStem_append_extension_dotted :
    (∃ stem e, (publishedAs "..a.é".toList).publishedStem? = some stem ∧
      (MediaFile.named "..a.é".toList).extension = .ok e ∧
      '/' ∉ "..a.é".toList ∧ ¬FileName.LosesDot "..a.é".toList ∧
      stem ++ e.getD [] = "..a.é".toList) ∧
    ∃ stem e, (publishedAs "a.mkv.".toList).publishedStem? = some stem ∧
      (MediaFile.named "a.mkv.".toList).extension = .ok e ∧
      '/' ∉ "a.mkv.".toList ∧ FileName.LosesDot "a.mkv.".toList ∧
      e = none ∧ stem ++ ['.'] = "a.mkv.".toList := by
  have hkept : ¬FileName.LosesDot "..a.é".toList := fun h => absurd h.1 (by decide)
  have hlost : FileName.LosesDot "a.mkv.".toList := ⟨by decide, by decide⟩
  have hslash : '/' ∉ "..a.é".toList := by decide
  have hslash' : '/' ∉ "a.mkv.".toList := by decide
  obtain ⟨stem, e, hstem, he, -, happend, -⟩ :=
    @publishedStem_append_extension (publishedAs "..a.é".toList) (.named "..a.é".toList) rfl hslash
  obtain ⟨stem', e', hstem', he', -, -, hdot⟩ :=
    @publishedStem_append_extension (publishedAs "a.mkv.".toList) (.named "a.mkv.".toList) rfl hslash'
  exact ⟨⟨stem, e, hstem, he, hslash, hkept, happend hkept⟩,
    stem', e', hstem', he', hslash', hlost, hdot hlost⟩

/-- A dot at the end of a name gets lost. -/
theorem Release.not_forall_publishedStem_append_extension :
    ¬∀ (r : Release) (f : MediaFile), r.publishedName = some f.name → '/' ∉ f.name →
      ∃ stem e, r.publishedStem? = some stem ∧ f.extension = .ok e ∧
        stem ++ e.getD [] = f.name := by
  intro h
  obtain ⟨stem, e, hstem, he, happend⟩ :=
    h (publishedAs "name.".toList) (.named "name.".toList) rfl (by decide)
  have hstem' : (publishedAs "name.".toList).publishedStem? = some "name".toList := rfl
  have he' : (MediaFile.named "name.".toList).extension = .ok none := rfl
  rw [hstem'] at hstem
  rw [he'] at he
  cases hstem
  cases he
  exact absurd happend (by decide)

end MediaNaming
