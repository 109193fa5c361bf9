import MediaNaming.Proofs.InertLine

/-!
Scripts line by line. What a line holds depends on that line alone, so a script that is cut where a
line ends is read in parts, and every line that is more than white space and a comment stands in
the script once: as a statement or as a line that is skipped.
-/

namespace MediaNaming

namespace Text

/-! ### What stands between line feeds -/

/-- Every text is a line in front of other ones, or a single line. -/
theorem induction_on_lines {motive : Text → Prop}
    (single : ∀ line, '\n' ∉ line → motive line)
    (more : ∀ line rest, '\n' ∉ line → motive rest → motive (line ++ '\n' :: rest)) (t : Text) :
    motive t := by
  induction hlen : t.length using Nat.strongRecOn generalizing t with
  | ind n ih =>
      by_cases hmem : '\n' ∈ t
      · obtain ⟨line, rest, rfl, hline⟩ := List.eq_append_cons_of_mem hmem
        refine more line rest hline (ih _ ?_ rest rfl)
        rw [← hlen, List.length_append, List.length_cons]
        omega
      · exact single t hmem

/-- The lines of a text with their numbers, cut at line feeds alone. -/
def numberedLines (t : Text) : List (Text × Nat) := (t.splitOn '\n').zipIdx 1

theorem splitOn_single {line : Text} (h : '\n' ∉ line) : line.splitOn '\n' = [line] := by
  rw [List.splitOn_eq_splitOnP, List.splitOnP_eq_singleton]
  intro c hc
  rw [beq_eq_false_iff_ne]
  rintro rfl
  exact h hc

theorem splitOn_append_lineFeed {line : Text} (h : '\n' ∉ line) (rest : Text) :
    (line ++ '\n' :: rest).splitOn '\n' = line :: rest.splitOn '\n' := by
  have hline := splitOn_single h
  rw [List.splitOn_eq_splitOnP] at hline ⊢
  have hparts := List.splitOnP_append_cons line rest (p := (· == '\n')) (beq_self_eq_true '\n')
  rw [hparts, hline, List.singleton_append, List.splitOn_eq_splitOnP]

theorem EndsLine.of_append {s t : Text} (h : EndsLine (s ++ t)) : EndsLine t := by
  induction s with
  | nil => exact h
  | cons c s ih => exact ih h.tail

theorem length_lines {t : Text} (h : EndsLine t) : (lines t).length = t.count '\n' := by
  induction t using induction_on_lines with
  | single line hline =>
      rcases h with rfl | h
      · rfl
      · exact absurd (List.mem_of_getLast? h) hline
  | more line rest hline ih =>
      rw [lines_append_lineFeed hline, List.length_cons, ih h.of_append.tail, List.count_append,
        List.count_eq_zero_of_not_mem hline, List.count_cons_self, Nat.zero_add]

theorem lines_single {line : Text} (h : '\n' ∉ line) (hne : line ≠ []) : lines line = [line] := by
  induction line with
  | nil => exact absurd rfl hne
  | cons c line ih =>
      rw [List.mem_cons, not_or] at h
      by_cases hnil : line = []
      · subst hnil
        rw [lines, if_neg (Ne.symm h.1)]
        · rfl
        · exact fun u _ hu => by cases hu
      · refine lines_cons (Ne.symm h.1) (fun _ u hu => ?_) (ih h.2 hnil)
        rw [hu] at h
        exact h.2 List.mem_cons_self

/-- Where carriage returns go away in front of line feeds, the last line stays. -/
theorem replaceAll_return_single {line : Text} (h : '\n' ∉ line) :
    replaceAll '\r' ['\n'] ['\n'] line = line := by
  induction line with
  | nil => exact replaceAll_nil _ _ _
  | cons c line ih =>
      rw [List.mem_cons, not_or] at h
      rw [replaceAll, ih h.2, if_neg]
      rintro ⟨-, hfeed⟩
      exact h.2 ((List.isPrefixOf_iff_prefix.mp hfeed).subset List.mem_cons_self)

/-- Any other line loses the carriage return at its end. -/
theorem replaceAll_return_append {line : Text} (h : '\n' ∉ line) (rest : Text) :
    replaceAll '\r' ['\n'] ['\n'] (line ++ '\n' :: rest) =
      dropReturn line ++ '\n' :: replaceAll '\r' ['\n'] ['\n'] rest := by
  induction line with
  | nil =>
      rw [List.nil_append, replaceAll, if_neg (by simp)]
      rfl
  | cons c line ih =>
      rw [List.mem_cons, not_or] at h
      rw [List.cons_append, replaceAll]
      by_cases hnil : line = []
      · subst hnil
        by_cases hc : c = '\r'
        · subst hc
          rw [if_pos (by simp)]
          rfl
        · rw [if_neg (by simp [hc]), ih h.2]
          simp [dropReturn, hc]
      · obtain ⟨d, line, rfl⟩ := List.exists_cons_of_ne_nil hnil
        have hd : '\n' ≠ d := fun hd => h.2 (hd ▸ List.mem_cons_self)
        rw [if_neg (by simp [hd]), ih h.2, dropReturn_cons hnil, List.cons_append]

theorem lineFeed_not_mem_dropReturn {line : Text} (h : '\n' ∉ line) : '\n' ∉ dropReturn line := by
  rw [dropReturn]
  split
  · exact fun hmem => h (List.dropLast_subset _ hmem)
  · exact h

end Text

/-! ### What a line holds -/

namespace Line

/-- A line without its comment and without the white space at its ends. -/
def content (raw : Text) : Text := (stripComment raw).trim

theorem statement?_ofText {raw : Text} {st : Statement} :
    (ofText raw).statement? = some st ↔
      content raw ≠ [] ∧ Statement.ofTrimmed (content raw) = .ok st := by
  rw [ofText, content]
  cases (stripComment raw).trim with
  | nil => simp [statement?]
  | cons c rest => cases hst : Statement.ofTrimmed (c :: rest) <;> simp [statement?, hst]

theorem skipped?_ofText {raw t : Text} {reason : LineFault} :
    (ofText raw).skipped? = some (t, reason) ↔
      content raw = t ∧ t ≠ [] ∧ Statement.ofTrimmed t = .error reason := by
  rw [ofText, content]
  cases (stripComment raw).trim with
  | nil => simp +contextual [skipped?]
  | cons c rest =>
      constructor
      · intro h
        cases hst : Statement.ofTrimmed (c :: rest) with
        | ok st => simp [hst, skipped?] at h
        | error fault =>
            simp only [hst, skipped?, Option.some.injEq, Prod.mk.injEq] at h
            obtain ⟨rfl, rfl⟩ := h
            exact ⟨rfl, List.cons_ne_nil _ _, hst⟩
      · rintro ⟨rfl, -, hst⟩
        simp [hst, skipped?]

end Line

namespace Script

/-! ### Items under their numbers -/

section Picking

variable {α : Type} (pick : Line → Option α)

theorem pickFrom_eq_filterMap (n : Nat) (ls : List Line) :
    pickFrom pick n ls = (ls.zipIdx n).filterMap fun x => (pick x.1).map (Numbered.mk x.2) := by
  induction ls generalizing n with
  | nil => rfl
  | cons l ls ih =>
      rw [pickFrom, List.zipIdx_cons, List.filterMap_cons, ih]
      cases pick l with
      | none => rfl
      | some a => rfl

/-- A last line that is empty holds nothing, so it does not matter how a text is cut. -/
theorem pickFrom_lines (hblank : pick .blank = none) (n : Nat) (t : Text) :
    pickFrom pick n (t.lines.map Line.ofText) =
      pickFrom pick n ((t.splitOn '\n').map Line.ofText) := by
  induction t using Text.induction_on_lines generalizing n with
  | single line hline =>
      by_cases hnil : line = []
      · subst hnil
        change [] = pickFrom pick n [.blank]
        rw [pickFrom, hblank, pickFrom]
      · rw [Text.lines_single hline hnil, Text.splitOn_single hline]
  | more line rest hline ih =>
      rw [Text.lines_append_lineFeed hline, Text.splitOn_append_lineFeed hline, List.map_cons,
        List.map_cons, pickFrom, pickFrom, Line.ofText_dropReturn, ih]

variable {pick}

theorem mem_pickFrom {n k : Nat} {a : α} {t : Text} :
    ⟨k, a⟩ ∈ pickFrom pick n ((t.splitOn '\n').map Line.ofText) ↔
      ∃ raw, (raw, k) ∈ (t.splitOn '\n').zipIdx n ∧ pick (Line.ofText raw) = some a := by
  rw [pickFrom_eq_filterMap, List.zipIdx_map, List.filterMap_map, List.mem_filterMap]
  constructor
  · rintro ⟨⟨raw, k'⟩, hmem, hpick⟩
    obtain ⟨a', ha, heq⟩ := Option.map_eq_some_iff.mp hpick
    cases heq
    exact ⟨raw, hmem, ha⟩
  · rintro ⟨raw, hmem, hpick⟩
    exact ⟨(raw, k), hmem, Option.map_eq_some_iff.mpr ⟨a, hpick, rfl⟩⟩

theorem le_number_of_mem_pickFrom {n : Nat} {ls : List Line} :
    ∀ x ∈ pickFrom pick n ls, n ≤ x.number := by
  induction ls generalizing n with
  | nil => exact fun x hx => absurd hx List.not_mem_nil
  | cons l ls ih =>
      intro x hx
      have hlater : x ∈ pickFrom pick (n + 1) ls → n ≤ x.number := fun hx =>
        Nat.le_of_succ_le (ih x hx)
      rw [pickFrom] at hx
      split at hx
      · rcases List.mem_cons.mp hx with rfl | hx
        · exact Nat.le_refl n
        · exact hlater hx
      · exact hlater hx

theorem pairwise_pickFrom (n : Nat) (ls : List Line) :
    (pickFrom pick n ls).Pairwise (·.number < ·.number) := by
  induction ls generalizing n with
  | nil => exact .nil
  | cons l ls ih =>
      rw [pickFrom]
      split
      · exact .cons (fun x hx => le_number_of_mem_pickFrom x hx) (ih (n + 1))
      · exact ih (n + 1)

end Picking

/-- The numbers of all lines that a script keeps, the skipped ones last. -/
def numbers (script : Script) : List Nat :=
  script.statements.map (·.number) ++ script.skipped.map (·.number)

/-- The script with its lines `n` further down. -/
def shift (n : Nat) (script : Script) : Script where
  statements := script.statements.map (Numbered.relabel (n + ·))
  skipped := script.skipped.map (Numbered.relabel (n + ·))

/-- The lines of one script after those of another. -/
def append (script later : Script) : Script where
  statements := script.statements ++ later.statements
  skipped := script.skipped ++ later.skipped

/-- A script keeps every line of a text that has content, and no other one: under its own number,
once, and either as the statement that it writes or with the reason why it writes none. -/
structure Keeps (script : Script) (t : Text) : Prop where
  statements_iff : ∀ n st, ⟨n, st⟩ ∈ script.statements ↔ ∃ raw, (raw, n) ∈ t.numberedLines ∧
    Line.content raw ≠ [] ∧ Statement.ofTrimmed (Line.content raw) = .ok st
  skipped_iff : ∀ n kept reason, ⟨n, (kept, reason)⟩ ∈ script.skipped ↔ ∃ raw,
    (raw, n) ∈ t.numberedLines ∧ Line.content raw = kept ∧ kept ≠ [] ∧
      Statement.ofTrimmed kept = .error reason
  mem_numbers_iff : ∀ n, n ∈ script.numbers ↔ ∃ raw, (raw, n) ∈ t.numberedLines ∧
    Line.content raw ≠ []
  nodup_numbers : script.numbers.Nodup
  statements_increase : script.statements.Pairwise (·.number < ·.number)
  skipped_increase : script.skipped.Pairwise (·.number < ·.number)

/-! ### The script of a text -/

theorem ofText_eq_ofLines (t : Text) : ofText t = ofLines ((t.splitOn '\n').map Line.ofText) := by
  rw [ofText, ofLines, ofLines, pickFrom_lines _ rfl, pickFrom_lines _ rfl]

theorem mem_statements_ofText {t : Text} {n : Nat} {st : Statement} :
    ⟨n, st⟩ ∈ (ofText t).statements ↔ ∃ raw, (raw, n) ∈ t.numberedLines ∧
      Line.content raw ≠ [] ∧ Statement.ofTrimmed (Line.content raw) = .ok st := by
  rw [ofText_eq_ofLines]
  refine mem_pickFrom.trans ?_
  simp only [Line.statement?_ofText, Text.numberedLines]

theorem mem_skipped_ofText {t kept : Text} {n : Nat} {reason : LineFault} :
    ⟨n, (kept, reason)⟩ ∈ (ofText t).skipped ↔ ∃ raw, (raw, n) ∈ t.numberedLines ∧
      Line.content raw = kept ∧ kept ≠ [] ∧ Statement.ofTrimmed kept = .error reason := by
  rw [ofText_eq_ofLines]
  refine mem_pickFrom.trans ?_
  simp only [Line.skipped?_ofText, Text.numberedLines]

theorem eq_of_mem_numberedLines {t raw raw' : Text} {n : Nat} (h : (raw, n) ∈ t.numberedLines)
    (h' : (raw', n) ∈ t.numberedLines) : raw = raw' := by
  rw [Text.numberedLines, List.mk_mem_zipIdx_iff_le_and_getElem?_sub] at h h'
  exact Option.some.inj (h.2.symm.trans h'.2)

theorem mem_numbers_ofText {t : Text} {n : Nat} : n ∈ (ofText t).numbers ↔
    ∃ raw, (raw, n) ∈ t.numberedLines ∧ Line.content raw ≠ [] := by
  rw [numbers, List.mem_append, List.mem_map, List.mem_map]
  constructor
  · rintro (⟨⟨n, st⟩, hmem, rfl⟩ | ⟨⟨n, kept, reason⟩, hmem, rfl⟩)
    · obtain ⟨raw, hraw, hne, -⟩ := mem_statements_ofText.mp hmem
      exact ⟨raw, hraw, hne⟩
    · obtain ⟨raw, hraw, rfl, hne, -⟩ := mem_skipped_ofText.mp hmem
      exact ⟨raw, hraw, hne⟩
  · rintro ⟨raw, hraw, hne⟩
    cases hst : Statement.ofTrimmed (Line.content raw) with
    | ok st => exact .inl ⟨_, mem_statements_ofText.mpr ⟨raw, hraw, hne, hst⟩, rfl⟩
    | error reason => exact .inr ⟨_, mem_skipped_ofText.mpr ⟨raw, hraw, rfl, hne, hst⟩, rfl⟩

/-- No line is a statement and skipped as well. -/
theorem nodup_numbers_ofText (t : Text) : (ofText t).numbers.Nodup := by
  have hnodup {α : Type} (pick : Line → Option α) (ls : List Line) :
      ((pickFrom pick 1 ls).map (·.number)).Nodup :=
    List.pairwise_map.mpr ((pairwise_pickFrom 1 ls).imp Nat.ne_of_lt)
  refine List.nodup_append.mpr ⟨hnodup _ _, hnodup _ _, fun n hst n' hskip => ?_⟩
  rintro rfl
  obtain ⟨⟨n, st⟩, hmem, rfl⟩ := List.mem_map.mp hst
  obtain ⟨⟨n', kept, reason⟩, hmem', hn⟩ := List.mem_map.mp hskip
  cases hn
  obtain ⟨raw, hraw, -, hok⟩ := mem_statements_ofText.mp hmem
  obtain ⟨raw', hraw', rfl, -, hfault⟩ := mem_skipped_ofText.mp hmem'
  rw [eq_of_mem_numberedLines hraw hraw', hfault] at hok
  cases hok

theorem keeps_ofText (t : Text) : (ofText t).Keeps t where
  statements_iff _ _ := mem_statements_ofText
  skipped_iff _ _ _ := mem_skipped_ofText
  mem_numbers_iff _ := mem_numbers_ofText
  nodup_numbers := nodup_numbers_ofText t
  statements_increase := pairwise_pickFrom _ _
  skipped_increase := pairwise_pickFrom _ _

theorem ofText_append {a : Text} (ha : a.EndsLine) (b : Text) :
    ofText (a ++ b) = (ofText a).append ((ofText b).shift (a.count '\n')) := by
  have hparts {α : Type} (pick : Line → Option α) :
      pickFrom pick 1 ((a ++ b).lines.map Line.ofText) =
        pickFrom pick 1 (a.lines.map Line.ofText) ++
          (pickFrom pick 1 (b.lines.map Line.ofText)).map (Numbered.relabel (a.count '\n' + ·)) := by
    rw [Text.lines_append ha, List.map_append, pickFrom_append, List.length_map,
      Text.length_lines ha]
    congr 1
    exact (map_relabel_pickFrom pick fun i _ => by omega).symm
  rw [ofText, ofLines, hparts, hparts]
  rfl

/-- It does not matter which of the two line ends a line has. -/
theorem map_ofText_lines_replaceAll (t : Text) :
    (Text.replaceAll '\r' ['\n'] ['\n'] t).lines.map Line.ofText = t.lines.map Line.ofText := by
  induction t using Text.induction_on_lines with
  | single line hline => rw [Text.replaceAll_return_single hline]
  | more line rest hline ih =>
      rw [Text.replaceAll_return_append hline,
        Text.lines_append_lineFeed (Text.lineFeed_not_mem_dropReturn hline),
        Text.lines_append_lineFeed hline, List.map_cons, List.map_cons, ih,
        Line.ofText_dropReturn]

/-- A script is read line by line: a text that is cut where a line ends is read in two parts,
every line with content is kept once and under its own number, and line feeds after carriage
returns are as good as bare ones. -/
theorem ofText_lineByLine :
    (∀ a b : Text, a.EndsLine →
      ofText (a ++ b) = (ofText a).append ((ofText b).shift (a.count '\n'))) ∧
    ∀ t : Text, (ofText t).Keeps t ∧ ofText (Text.replaceAll '\r' ['\n'] ['\n'] t) = ofText t := by
  refine ⟨fun a b ha => ofText_append ha b, fun t => ⟨keeps_ofText t, ?_⟩⟩
  rw [ofText, map_ofText_lines_replaceAll, ofText]

theorem ofText_lineByLine_lines :
    writingLine.EndsLine ∧ ofText (writingLine ++ (unreadableLine ++ '\n' :: failingLine)) =
      (ofText writingLine).append
        ((ofText (unreadableLine ++ '\n' :: failingLine)).shift (writingLine.count '\n')) :=
  ⟨.inr rfl, ofText_lineByLine.1 _ _ (.inr rfl)⟩

example : (ofText (writingLine ++ (unreadableLine ++ '\n' :: failingLine))).numbers = [1, 3, 2] := by
  decide +kernel

end Script

end MediaNaming
