import MediaNaming.Proofs.Layering
import MediaNaming.Proofs.OpeningBrace
import MediaNaming.Proofs.PathTail

/-!
The forms of a configuration. No text is a configuration in both of them, so it does not matter
which one is tried first: a file whose name tells no form gives what it gives under a name that
tells the right one. The path to a script is taken from the directory, and there the name of the
file has no say.
-/

namespace MediaNaming

/-! ### Names in a directory -/

namespace FilePath

/-- A text that names something in a directory. -/
structure IsEntry (name : Text) : Prop where
  no_slash : '/' ∉ name
  not_idle : isIdle name = false

theorem exists_segments_join (directory : Text) :
    ∃ before, ∀ name, '/' ∉ name → segments (join directory name) = before ++ [name] := by
  have hjoin : ∀ name, '/' ∉ name → join directory name =
      if directory.isEmpty || directory.getLast? == some '/' then directory ++ name
      else directory ++ '/' :: name := by
    intro name hslash
    rw [join, if_neg]
    intro habsolute
    exact hslash (List.mem_of_mem_head? (beq_iff_eq.mp habsolute))
  by_cases hnil : directory = []
  · refine ⟨[], fun name hslash => ?_⟩
    rw [hjoin name hslash, hnil]
    exact segments_of_no_slash hslash
  by_cases hlast : directory.getLast? = some '/'
  · obtain ⟨front, rfl⟩ := List.getLast?_eq_some_iff.mp hlast
    refine ⟨segments front, fun name hslash => ?_⟩
    rw [hjoin name hslash, if_pos (by simp), List.append_assoc, List.singleton_append,
      segments_append_slash front hslash]
  · refine ⟨segments directory, fun name hslash => ?_⟩
    rw [hjoin name hslash, if_neg (by simp [hnil, hlast]), segments_append_slash directory hslash]

theorem parent?_of_segments {path path' name name' : Text} {before : List Text}
    (h : segments path = before ++ [name]) (h' : segments path' = before ++ [name'])
    (hname : isIdle name = false) (hname' : isIdle name' = false) :
    parent? path' = parent? path := by
  have hnil : ∀ s : Text, isIdle s = false → s.isEmpty = false := by
    intro s hs
    rw [isIdle, Bool.or_eq_false_iff] at hs
    exact hs.1
  rw [parent?, parent?, h, h', List.reverse_concat, List.reverse_concat]
  cases before.reverse with
  | nil => simp [dropIdle, hnil name hname, hnil name' hname']
  | cons s above => simp [dropIdle, hname, hname']

/-- What stands in one directory has one parent. -/
theorem parent?_join {name name' : Text} (h : IsEntry name) (h' : IsEntry name')
    (directory : Text) : parent? (join directory name') = parent? (join directory name) := by
  obtain ⟨before, hbefore⟩ := exists_segments_join directory
  exact parent?_of_segments (hbefore name h.no_slash) (hbefore name' h'.no_slash) h.not_idle
    h'.not_idle

end FilePath

/-! ### Texts in either form -/

/-- The extensions that tell the form of a file. -/
def formExtensions : List Text := ["json".toList, "toml".toList, "tml".toList]

theorem ConfigForm.ofPath_eq_either {path : Text}
    (h : ∀ e ∈ formExtensions, FilePath.extension? path ≠ some e) :
    ConfigForm.ofPath path = .either := by
  rw [ofPath]
  split
  · next he => exact absurd he (h _ (by decide))
  · next he => exact absurd he (h _ (by decide))
  · next he => exact absurd he (h _ (by decide))
  · rfl

namespace Config

variable {t : Text} {c : Config}

/-- A configuration in JSON is no document in the other form. -/
theorem toml?_eq_none (h : ofJsonText? t = some c) : Toml.ofText? t = none := by
  obtain ⟨j, hj, hc⟩ := Option.bind_eq_some_iff.mp h
  cases j with
  | object fields => exact Toml.ofText?_of_isBraced (Json.isBraced_of_ofText? hj)
  | _ => cases hc

theorem ofTomlText?_of_ofJsonText? (h : ofJsonText? t = some c) : ofTomlText? t = none := by
  rw [ofTomlText?, toml?_eq_none h, Option.bind_none]

/-- Which form is tried first makes no difference. -/
theorem ofText?_eq_some_iff :
    ofText? t = some c ↔ ofTomlText? t = some c ∨ ofJsonText? t = some c := by
  rw [ofText?]
  cases hjson : ofJsonText? t with
  | none => simp
  | some c' => simp [ofTomlText?_of_ofJsonText? hjson]

theorem config?_either {form : ConfigForm} (h : form.config? t = some c) :
    ConfigForm.either.config? t = some c := by
  cases form with
  | json => exact ofText?_eq_some_iff.mpr (.inr h)
  | toml => exact ofText?_eq_some_iff.mpr (.inl h)
  | either => exact h

theorem orFault_eq_ok_iff {fault : ConfigFault} {c? : Option Config} :
    orFault fault c? = .ok c ↔ c? = some c := by
  cases c? <;> simp [orFault]

/-! ### Files -/

variable {files files' : Files} {path path' : Text}

theorem takenFrom_congr (h : FilePath.parent? path' = FilePath.parent? path) (c : Config) :
    c.takenFrom path' = c.takenFrom path := by
  rw [takenFrom, takenFrom, h]

theorem ofFile_eq_ok_iff : ofFile files path = .ok c ↔ ∃ t c₀, files.read? path = some t ∧
    (ConfigForm.ofPath path).config? t = some c₀ ∧ c = c₀.takenFrom path := by
  constructor
  · intro h
    cases ht : files.read? path with
    | none =>
        rw [ofFile_of_unreadable ht] at h
        cases h
    | some t =>
        cases hc : (ConfigForm.ofPath path).config? t with
        | none =>
            rw [ofFile_of_config?_eq_none ht hc] at h
            cases h
        | some c₀ =>
            rw [ofFile_of_config? ht hc] at h
            exact ⟨t, c₀, rfl, hc, (Except.ok.inj h).symm⟩
  · rintro ⟨t, c₀, ht, hc, rfl⟩
    exact ofFile_of_config? ht hc

/-- The same text beside a file that is read is read there as well, if its name tells no form. -/
theorem ofFile_eq_ok_of_beside (htold : ∀ e ∈ formExtensions, FilePath.extension? path' ≠ some e)
    (hparent : FilePath.parent? path' = FilePath.parent? path)
    (hread : files'.read? path' = files.read? path) (h : ofFile files path = .ok c) :
    ofFile files' path' = .ok c := by
  obtain ⟨t, c₀, ht, hc, rfl⟩ := ofFile_eq_ok_iff.mp h
  refine ofFile_eq_ok_iff.mpr ⟨t, c₀, hread.trans ht, ?_, (takenFrom_congr hparent c₀).symm⟩
  rw [ConfigForm.ofPath_eq_either htold]
  exact config?_either hc

/-- The reader that guesses the form reads what either strict reader reads, and nothing else. No
text is a configuration in both forms, so the guess cannot make another one of it. A file whose name
tells no form gives what the same text gives in the same directory under any other name, and a
directory is the parent of all that stands in it, whatever the names are. -/
theorem ofText_extends_strict :
    (∀ (origin t : Text) (c : Config),
      ofText origin t = .ok c ↔ ofTomlText? t = some c ∨ ofJsonText t = .ok c) ∧
    (∀ (t : Text) (c : Config), ofJsonText t = .ok c → Toml.ofText? t = none) ∧
    (∀ (files files' : Files) (path path' : Text) (c : Config),
      (∀ e ∈ formExtensions, FilePath.extension? path' ≠ some e) →
      FilePath.parent? path' = FilePath.parent? path → files'.read? path' = files.read? path →
        ofFile files path = .ok c → ofFile files' path' = .ok c) ∧
    ∀ directory name name' : Text, FilePath.IsEntry name → FilePath.IsEntry name' →
      FilePath.parent? (FilePath.join directory name') =
        FilePath.parent? (FilePath.join directory name) := by
  refine ⟨fun origin t c => ?_, fun t c h => toml?_eq_none (orFault_eq_ok_iff.mp h),
    fun files files' path path' c => ofFile_eq_ok_of_beside,
    fun directory name name' h h' => FilePath.parent?_join h h' directory⟩
  rw [ofText, ofJsonText, orFault_eq_ok_iff, orFault_eq_ok_iff, ofText?_eq_some_iff]

/-- A configuration in JSON behind white space. -/
def bracedText : Text :=
  " \r\n\t\x7b\"script_path\": \"r.txt\", \"max_episode_title_length\": 40\x7d".toList

/-- One text under a name that tells its form, and under one that does not. -/
def bracedFiles : Files :=
  (FileTree.empty.add "conf/own.json".toList bracedText).add "conf/own.cfg".toList bracedText

/-- A document in TOML under a name that tells no form. -/
def plainFiles : Files := FileTree.empty.add "conf/plain".toList ownFile

theorem ofJsonText_bracedText : ofJsonText bracedText = .ok ⟨⟨40, true⟩, some "r.txt".toList⟩ :=
  orFault_eq_ok_iff.mpr (by decide +kernel)

theorem ofFile_bracedFiles : ofFile bracedFiles "conf/own.json".toList =
    .ok ⟨⟨40, true⟩, some "conf/r.txt".toList⟩ := by
  have hread : bracedFiles.read? "conf/own.json".toList = some bracedText := by decide +kernel
  have hconfig : ofJsonText? bracedText = some ⟨⟨40, true⟩, some "r.txt".toList⟩ :=
    orFault_eq_ok_iff.mp ofJsonText_bracedText
  exact ofFile_of_config? hread hconfig

theorem ofText_extends_strict_braced :
    ofJsonText bracedText = .ok ⟨⟨40, true⟩, some "r.txt".toList⟩ ∧
      Toml.ofText? bracedText = none ∧
      ofText "input.cfg".toList bracedText = .ok ⟨⟨40, true⟩, some "r.txt".toList⟩ ∧
      ofFile bracedFiles "conf/own.json".toList = .ok ⟨⟨40, true⟩, some "conf/r.txt".toList⟩ ∧
      ofFile bracedFiles "conf/own.cfg".toList = .ok ⟨⟨40, true⟩, some "conf/r.txt".toList⟩ ∧
      ofFile layeredFiles "conf/own.toml".toList = .ok ⟨⟨40, true⟩, some "conf/r.txt".toList⟩ ∧
      ofFile plainFiles "conf/plain".toList = .ok ⟨⟨40, true⟩, some "conf/r.txt".toList⟩ ∧
      FilePath.IsEntry "own.json".toList ∧ FilePath.IsEntry "own.cfg".toList ∧
      FilePath.parent? (FilePath.join "conf/".toList "own.cfg".toList) =
        FilePath.parent? (FilePath.join "conf/".toList "own.json".toList) := by
  obtain ⟨htext, htoml, hfile, hparent⟩ := ofText_extends_strict
  have hjson : FilePath.IsEntry "own.json".toList := ⟨by decide, by decide⟩
  have hcfg : FilePath.IsEntry "own.cfg".toList := ⟨by decide, by decide⟩
  have hlayered : ofFile layeredFiles "conf/own.toml".toList =
      .ok ⟨⟨40, true⟩, some "conf/r.txt".toList⟩ := ofFile_of_holds rfl holds_layered
  have hbraced := hfile bracedFiles bracedFiles "conf/own.json".toList "conf/own.cfg".toList _
    (by decide) (by decide) (by decide +kernel) ofFile_bracedFiles
  have hplain := hfile layeredFiles plainFiles "conf/own.toml".toList "conf/plain".toList _
    (by decide) (by decide) (by decide +kernel) hlayered
  exact ⟨ofJsonText_bracedText, htoml _ _ ofJsonText_bracedText,
    (htext _ _ _).mpr (.inr ofJsonText_bracedText), ofFile_bracedFiles, hbraced, hlayered, hplain,
    hjson, hcfg, hparent _ _ _ hjson hcfg⟩

end Config

end MediaNaming
