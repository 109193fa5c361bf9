import MediaNaming.Proofs.Forecast
import MediaNaming.Proofs.SafeName
import MediaNaming.StockScript

/-!
The stock script. It never gives up, and what it builds stands between the bracket that its first
statement writes and the bracket that its last template writes: no replacement can take either
away. Each character that a path may not hold is replaced by one of the steps and put in by none of
the later ones, so that the name is safe whether safe names are asked for or not.
-/

namespace MediaNaming

namespace StockScript

/-! ### The statements -/

/-- What the script consists of: templates for the parts of the name, replacements that tidy it up,
and replacements of the characters that a path may not hold. -/
def statements : List (Numbered Statement) := [
  ⟨3, none, .append [.literal ['['], .placeholder .groupShort, .literal [']', ' ']]⟩,
  ⟨5, some ⟨⟨'I', "eng".toList⟩, [], []⟩, .append [.placeholder .englishTitle, .literal [' ']]⟩,
  ⟨6, some ⟨⟨'I', "ann".toList⟩, [⟨'I', "!eng".toList⟩], []⟩,
    .append [.placeholder .mainTitle, .literal [' ']]⟩,
  ⟨8, some ⟨⟨'T', "!Movie".toList⟩, [], []⟩,
    .append [.literal ['-', ' '], .placeholder .episodeNumber]⟩,
  ⟨10, some ⟨⟨'F', "!1".toList⟩, [], []⟩, .append [.literal ['v'], .placeholder .version]⟩,
  ⟨12, none, .append [.literal [' ', '('], .placeholder .resolution]⟩,
  ⟨14, some ⟨⟨'R', "DVD".toList⟩, [], [⟨'R', "Blu-ray".toList⟩]⟩,
    .append [.literal [' '], .placeholder .source]⟩,
  ⟨16, none, .append [.literal [' '], .placeholder .videoCodec]⟩,
  ⟨18, some ⟨⟨'Z', "10".toList⟩, [], []⟩,
    .append [.literal [' '], .placeholder .bitDepth, .literal ['b', 'i', 't']]⟩,
  ⟨19, none, .append [.literal [')', ' ']]⟩,
  ⟨20, none, .append [.literal ['['], .placeholder .crcUpper, .literal [']']]⟩,
  ⟨23, none, .replace ' ' [] ['_']⟩,
  ⟨24, none, .replace 'H' "264/AVC".toList "H264".toList⟩,
  ⟨25, none, .replace '0' ['x', '0'] []⟩,
  ⟨26, none, .replace '_' ['_'] ['_']⟩,
  ⟨27, none, .replace '_' ['_'] ['_']⟩,
  ⟨30, none, .replace '<' [] ['(']⟩,
  ⟨31, none, .replace '>' [] [')']⟩,
  ⟨32, none, .replace ':' [] ['-']⟩,
  ⟨33, none, .replace '"' [] ['\x60']⟩,
  ⟨34, none, .replace '/' [] ['_']⟩,
  ⟨35, none, .replace '\\' [] ['_']⟩,
  ⟨36, none, .replace '|' [] ['_']⟩,
  ⟨37, none, .replace '?' [] ['_']⟩,
  ⟨38, none, .replace '*' [] ['_']⟩]

/-- Every line of the script is understood. -/
theorem script_eq : script = ⟨statements, []⟩ := by
  simp only [script, text, lines, List.flatMap_cons, List.flatMap_nil]
  -- The kernel is slow at taking literals apart, so they become lists of characters first.
  repeat rw [String.toList_ofList]
  decide +kernel

/-! ### What it builds -/

section Building

variable {s : Settings} {b : Bundle}

/-- No statement gives the renaming up. -/
theorem not_givesUpAt (b : Bundle) (line : Nat) : ¬script.GivesUpAt b line := by
  rintro ⟨before, st, after, hscript, -, hst, -⟩
  have hsteps : ∀ x ∈ statements, x.item.step ≠ .reject := by decide
  obtain ⟨g, hreject, -⟩ := Statement.givesUp_eq_true_iff.mp hst
  rw [script_eq] at hscript
  refine hsteps st ?_ (by rw [hreject])
  rw [show statements = before ++ st :: after from hscript]
  exact List.mem_append_right _ List.mem_cons_self

/-- The first statement opens the bracket, and no later one touches it. -/
theorem head?_writeAll : (writeAll s b [] statements).head? = some '[' := by
  have hrest : (Forecast.begins '[').afterAll true statements.tail = true := by decide
  have hfirst : (writeAll s b [] (statements.take 1)).head? = some '[' := rfl
  rw [← List.take_append_drop 1 statements, writeAll_append]
  exact (Forecast.begins '[').fact_of_afterAll (fun _ => hfirst) hrest

/-- The last template closes the bracket, and no replacement touches it. -/
theorem getLast?_writeAll : (writeAll s b [] statements).getLast? = some ']' := by
  have hall : (Forecast.ends ']').afterAll false statements = true := by decide
  exact (Forecast.ends ']').fact_of_afterAll Bool.noConfusion hall

theorem not_mem_writeAll : ∀ c ∈ ' ' :: SafeName.forbidden, c ∉ writeAll s b [] statements := by
  intro c hc
  -- Each of these characters has its own forecast, and all of them end well.
  have hall : (' ' :: SafeName.forbidden).all
      (fun c => (Forecast.lacks c).afterAll true statements) = true := by decide
  exact (Forecast.lacks c).fact_of_afterAll (fun _ => List.not_mem_nil)
    (List.all_eq_true.mp hall c hc)

end Building

/-- A text between square brackets, without spaces, backticks and forbidden characters. -/
structure IsBracketed (t : Text) : Prop where
  head : t.head? = some '['
  last : t.getLast? = some ']'
  clean : ∀ c ∈ '\x60' :: ' ' :: SafeName.forbidden, c ∉ t

theorem isBracketed_quoted {t : Text} (hhead : t.head? = some '[') (hlast : t.getLast? = some ']')
    (hclean : ∀ c ∈ ' ' :: SafeName.forbidden, c ∉ t) :
    IsBracketed (Text.replaceAll '\x60' [] ['\''] t) where
  head := Text.head?_replaceAll (by decide) _ hhead
  last := Text.getLast?_replaceAll (by decide) _ hlast
  clean := by
    rw [List.forall_mem_cons]
    have hquote : '\x60' ∉ ['\''] := by decide
    refine ⟨Text.not_mem_replaceAll_singleton hquote t, fun c hc hmem => ?_⟩
    rcases Text.mem_of_mem_replaceAll hmem with hmem | hmem
    · exact hclean c hc hmem
    · rw [List.mem_singleton.mp hmem] at hc
      exact absurd hc (by decide)

theorem IsBracketed.ofText {t : Text} (h : IsBracketed t) : IsBracketed (SafeName.ofText t) := by
  have hascii : ('\x60' :: ' ' :: SafeName.forbidden).all (·.toNat < 128) = true := by decide
  obtain ⟨hhead, hlast⟩ := SafeName.ends_ofText h.head h.last rfl (by decide) (by decide)
  refine ⟨hhead, hlast, fun c hc => SafeName.not_mem_ofText ?_ (h.clean c hc)⟩
  exact of_decide_eq_true (List.all_eq_true.mp hascii c hc)

theorem isBracketed_stem (s : Settings) (b : Bundle) : IsBracketed (script.stem s b) := by
  have hquoted := isBracketed_quoted (head?_writeAll (s := s) (b := b)) getLast?_writeAll
    not_mem_writeAll
  rw [Script.stem, script_eq]
  split
  · exact hquoted.ofText
  · exact hquoted

/-- A linked file of a series that has an extension is always renamed, whatever the settings, and
what stands before its extension is safe even if safe names are not asked for. -/
theorem run_renamed_isBracketed (s : Settings) {b : Bundle} {e : Text} (hep : b.episodes ≠ [])
    (hseries : b.series ≠ none) (hext : b.file.extension = .ok (some e)) :
    ∃ stem, script.run s b = .ok (.renamed (stem ++ e)) ∧ stem.head? = some '[' ∧
      stem.getLast? = some ']' ∧ (∀ c ∈ SafeName.forbidden, c ∉ stem) ∧ ' ' ∉ stem ∧
      '\x60' ∉ stem := by
  have hstem := isBracketed_stem s b
  have hne : script.stem s b ≠ [] := by
    intro hnil
    have hhead := hstem.head
    rw [hnil] at hhead
    cases hhead
  have hrun := Script.run_of_forall_not_givesUpAt (s := s) hep hseries hext (not_givesUpAt b)
  rw [if_neg hne] at hrun
  refine ⟨script.stem s b, hrun, hstem.head, hstem.last, fun c hc => ?_, ?_, ?_⟩
  · exact hstem.clean c (List.mem_cons_of_mem _ (List.mem_cons_of_mem _ hc))
  · exact hstem.clean ' ' (by decide)
  · exact hstem.clean '\x60' (by decide)

/-- A file whose group, title and checksum hold what a path may not. -/
def hostileSample : Bundle where
  file := { name := "x.mkv".toList, ed2k := "abc".toList, crc32 := some "9<] 0".toList, size := 1 }
  release := some { id := 10, version := 2, groupName := some " a:b/".toList }
  episodes := [⟨5, 1, 7, .normal, []⟩]
  series := some { id := 1, mainTitle := "Who? \"C:\\*|`".toList, normalCount := 12 }

theorem run_renamed_isBracketed_hostileSample :
    hostileSample.episodes ≠ [] ∧ hostileSample.series ≠ none ∧
      hostileSample.file.extension = .ok (some ".mkv".toList) ∧
      ∃ stem, script.run { safeNames := false } hostileSample =
          .ok (.renamed (stem ++ ".mkv".toList)) ∧ stem.head? = some '[' ∧
        stem.getLast? = some ']' ∧ (∀ c ∈ SafeName.forbidden, c ∉ stem) ∧ ' ' ∉ stem ∧
        '\x60' ∉ stem := by
  have hep : hostileSample.episodes ≠ [] := by decide
  have hseries : hostileSample.series ≠ none := by decide
  have hext : hostileSample.file.extension = .ok (some ".mkv".toList) := by rfl
  exact ⟨hep, hseries, hext, run_renamed_isBracketed _ hep hseries hext⟩

end StockScript

end MediaNaming
