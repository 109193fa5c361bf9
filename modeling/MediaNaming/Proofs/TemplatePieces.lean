import MediaNaming.Proofs.Text
import MediaNaming.Template

/-!
How a text falls into the pieces of a template. A template is reduced if its literals cannot be
told from the text around them in any other way: none is empty, no two of them touch, and none
holds a placeholder. Every text is the text of exactly one reduced template. Since no code holds a
percent sign, two placeholders never overlap, and a percent sign that starts none hides none.
-/

namespace MediaNaming

theorem Placeholder.percent_not_mem_code (p : Placeholder) : '%' ∉ p.code := by
  cases p <;> decide

theorem Placeholder.exists_code_eq (p : Placeholder) : ∃ x y z, p.code = [x, y, z] := by
  match p.code, p.length_code with
  | [x, y, z], _ => exact ⟨x, y, z, rfl⟩

/-- A placeholder that begins with a character of a text ends before the next percent sign. -/
theorem Placeholder.prefix_of_prefix_append {p : Placeholder} {c : Char} {u rest : Text}
    (hrest : ∀ x ∈ rest.head?, x = '%') (h : p.toText <+: c :: (u ++ rest)) :
    p.toText <+: c :: u := by
  obtain ⟨hc, hcode⟩ := List.cons_prefix_cons.mp h
  refine List.cons_prefix_cons.mpr ⟨hc, Text.prefix_of_prefix_append hcode fun x hx => ?_⟩
  rw [hrest x hx]
  exact p.percent_not_mem_code

namespace Template

/-! ### Reduced templates -/

structure IsReduced (ps : Template) : Prop where
  literal_ne_nil : ∀ u, .literal u ∈ ps → u ≠ []
  not_adjacent : ∀ u v, ¬[.literal u, .literal v] <:+: ps
  no_placeholder : ∀ u, .literal u ∈ ps → ∀ p : Placeholder, ¬p.toText <:+: u

theorem isReduced_nil : IsReduced [] where
  literal_ne_nil := by simp
  not_adjacent := by simp
  no_placeholder := by simp

theorem IsReduced.tail {x : Piece} {ps : Template} (h : IsReduced (x :: ps)) : IsReduced ps where
  literal_ne_nil := fun u hu => h.literal_ne_nil u (List.mem_cons_of_mem _ hu)
  not_adjacent := fun u v huv => h.not_adjacent u v (huv.trans (List.suffix_cons x ps).isInfix)
  no_placeholder := fun u hu => h.no_placeholder u (List.mem_cons_of_mem _ hu)

theorem isReduced_placeholder_cons {p : Placeholder} {ps : Template} :
    IsReduced (.placeholder p :: ps) ↔ IsReduced ps := by
  refine ⟨IsReduced.tail, fun h => ⟨?_, ?_, ?_⟩⟩
  · exact fun u hu => h.literal_ne_nil u (by simpa using hu)
  · intro u v huv
    rcases List.infix_cons_iff.mp huv with huv | huv
    · cases (List.cons_prefix_cons.mp huv).1
    · exact h.not_adjacent u v huv
  · exact fun u hu => h.no_placeholder u (by simpa using hu)

theorem isReduced_literal_cons {u : Text} {ps : Template} :
    IsReduced (.literal u :: ps) ↔
      u ≠ [] ∧ (∀ p : Placeholder, ¬p.toText <:+: u) ∧ (∀ v, ps.head? ≠ some (.literal v)) ∧
        IsReduced ps := by
  refine ⟨fun h => ⟨?_, ?_, ?_, h.tail⟩, fun ⟨hne, hp, hhead, h⟩ => ⟨?_, ?_, ?_⟩⟩
  · exact h.literal_ne_nil u List.mem_cons_self
  · exact h.no_placeholder u List.mem_cons_self
  · intro v hv
    obtain ⟨rest, rfl⟩ := List.head?_eq_some_iff.mp hv
    exact h.not_adjacent u v (List.prefix_append [.literal u, .literal v] rest).isInfix
  · intro v hv
    rcases List.mem_cons.mp hv with hv | hv
    · cases hv
      exact hne
    · exact h.literal_ne_nil v hv
  · intro v w hvw
    rcases List.infix_cons_iff.mp hvw with hvw | hvw
    · obtain ⟨rest, hrest⟩ := (List.cons_prefix_cons.mp hvw).2
      exact hhead w (by rw [← hrest]; rfl)
    · exact h.not_adjacent v w hvw
  · intro v hv
    rcases List.mem_cons.mp hv with hv | hv
    · cases hv
      exact hp
    · exact h.no_placeholder v hv

/-! ### One character more -/

@[simp] theorem toText_nil : toText [] = [] := rfl

@[simp] theorem toText_cons (x : Piece) (ps : Template) :
    toText (x :: ps) = x.toText ++ toText ps := rfl

@[simp] theorem toText_consChar (c : Char) (ps : Template) :
    toText (consChar c ps) = c :: toText ps := by
  unfold consChar
  split <;> rfl

theorem consChar_append_placeholder (c : Char) (ps : Template) (p : Placeholder)
    (qs : Template) :
    consChar c (ps ++ .placeholder p :: qs) = consChar c ps ++ .placeholder p :: qs := by
  match ps with
  | [] => rfl
  | .literal u :: ps => rfl
  | .placeholder q :: ps => rfl

theorem isReduced_consChar {c : Char} {ps : Template} (h : IsReduced ps)
    (hc : ∀ p : Placeholder, ¬p.toText <+: c :: toText ps) : IsReduced (consChar c ps) := by
  have halone (p : Placeholder) : ¬p.toText <:+: [c] := by
    rw [List.infix_cons_iff]
    rintro (hp | hp)
    · exact hc p (hp.trans (List.prefix_append [c] _))
    · cases List.infix_nil.mp hp
  match ps with
  | [] => exact isReduced_literal_cons.mpr ⟨by simp, halone, by simp, h⟩
  | .placeholder q :: ps => exact isReduced_literal_cons.mpr ⟨by simp, halone, by simp, h⟩
  | .literal u :: ps =>
      obtain ⟨-, hu, hhead, h⟩ := isReduced_literal_cons.mp h
      refine isReduced_literal_cons.mpr ⟨by simp, fun p => ?_, hhead, h⟩
      rw [List.infix_cons_iff]
      rintro (hp | hp)
      · exact hc p (hp.trans (List.prefix_append (c :: u) _))
      · exact hu p hp

/-- Characters in front of a template make up a literal, or the beginning of the one that stands
there. -/
theorem exists_foldr_consChar {u : Text} (hu : u ≠ []) (ps : Template) :
    ∃ v qs, u.foldr consChar ps = .literal (u ++ v) :: qs ∧
      (v = [] ∧ qs = ps ∨ ps = .literal v :: qs) := by
  induction u with
  | nil => exact absurd rfl hu
  | cons c u ih =>
      rw [List.foldr_cons]
      by_cases hnil : u = []
      · subst hnil
        match ps with
        | [] => exact ⟨[], [], rfl, .inl ⟨rfl, rfl⟩⟩
        | .literal v :: qs => exact ⟨v, qs, rfl, .inr rfl⟩
        | .placeholder p :: qs => exact ⟨[], .placeholder p :: qs, rfl, .inl ⟨rfl, rfl⟩⟩
      · obtain ⟨v, qs, hfold, hps⟩ := ih hnil
        exact ⟨v, qs, by rw [hfold]; rfl, hps⟩

/-! ### The pieces of a text -/

theorem ofText_placeholder_append (p : Placeholder) (rest : Text) :
    ofText (p.toText ++ rest) = .placeholder p :: ofText rest := by
  obtain ⟨x, y, z, hcode⟩ := p.exists_code_eq
  have hfound : Placeholder.ofCode? [x, y, z] = some p := by rw [← hcode, p.ofCode?_code]
  rw [Placeholder.toText, hcode]
  simp only [List.cons_append, List.nil_append, ofText, hfound]

/-- A character that starts no placeholder stands for itself. -/
theorem ofText_cons {c : Char} {rest : Text} (h : ∀ p : Placeholder, ¬p.toText <+: c :: rest) :
    ofText (c :: rest) = consChar c (ofText rest) := by
  rw [ofText.eq_def]
  split
  · next hnil => cases hnil
  · next x y z rest' ht =>
    cases ht
    split
    · next p hp =>
      have hcode := Placeholder.code_eq_of_ofCode? hp
      refine absurd ?_ (h p)
      rw [Placeholder.toText, hcode]
      exact List.prefix_append ['%', x, y, z] rest'
    · rfl
  · next ht =>
    cases ht
    rfl

/-- Reading a text piece by piece: it is used up, begins with a placeholder, or begins with a
character that starts none. -/
theorem induction_on_pieces {motive : Text → Prop} (nil : motive [])
    (placeholder : ∀ p rest, motive rest → motive (Placeholder.toText p ++ rest))
    (character : ∀ c rest, (∀ p : Placeholder, ¬p.toText <+: c :: rest) → motive rest →
      motive (c :: rest)) (t : Text) : motive t := by
  induction hlen : t.length using Nat.strongRecOn generalizing t with
  | ind n ih =>
      subst hlen
      by_cases hp : ∃ p : Placeholder, p.toText <+: t
      · obtain ⟨p, rest, rfl⟩ := hp
        refine placeholder p rest (ih _ ?_ rest rfl)
        rw [List.length_append, Placeholder.toText, List.length_cons]
        omega
      · rw [not_exists] at hp
        cases t with
        | nil => exact nil
        | cons c rest => exact character c rest hp (ih _ (by simp) rest rfl)

theorem toText_ofText (t : Text) : toText (ofText t) = t := by
  induction t using induction_on_pieces with
  | nil => rfl
  | placeholder p rest ih => rw [ofText_placeholder_append, toText_cons, ih]; rfl
  | character c rest hc ih => rw [ofText_cons hc, toText_consChar, ih]

theorem isReduced_ofText (t : Text) : IsReduced (ofText t) := by
  induction t using induction_on_pieces with
  | nil => exact isReduced_nil
  | placeholder p rest ih =>
      rw [ofText_placeholder_append]
      exact isReduced_placeholder_cons.mpr ih
  | character c rest hc ih =>
      rw [ofText_cons hc]
      refine isReduced_consChar ih ?_
      rwa [toText_ofText]

/-- Characters none of which starts a placeholder are put in front of the pieces that follow. -/
theorem ofText_append {u rest : Text}
    (h : ∀ x, x <:+ u → x ≠ [] → ∀ p : Placeholder, ¬p.toText <+: x ++ rest) :
    ofText (u ++ rest) = u.foldr consChar (ofText rest) := by
  induction u with
  | nil => rfl
  | cons c u ih =>
      have hc : ∀ p : Placeholder, ¬p.toText <+: c :: (u ++ rest) :=
        h (c :: u) List.suffix_rfl (List.cons_ne_nil _ _)
      have ih := ih fun x hx => h x (hx.trans (List.suffix_cons c u))
      rw [List.cons_append, ofText_cons hc, ih, List.foldr_cons]

/-- A reduced template is read back from its text. -/
theorem ofText_toText {ps : Template} (h : IsReduced ps) : ofText (toText ps) = ps := by
  induction ps with
  | nil => rfl
  | cons x ps ih =>
      cases x with
      | placeholder p =>
          rw [toText_cons, Piece.toText, ofText_placeholder_append,
            ih (isReduced_placeholder_cons.mp h)]
      | literal u =>
          obtain ⟨hne, hu, hhead, h⟩ := isReduced_literal_cons.mp h
          -- A literal ends where the text does or where a placeholder starts.
          have hnext : ∀ c ∈ (toText ps).head?, c = '%' := by
            match ps with
            | [] => simp
            | .literal v :: ps => exact absurd rfl (hhead v)
            | .placeholder p :: ps => simp [Piece.toText, Placeholder.toText]
          have hfold : ofText (u ++ toText ps) = u.foldr consChar (ofText (toText ps)) := by
            refine ofText_append fun x hx hxne p hp => hu p ?_
            obtain ⟨c, x, rfl⟩ := List.exists_cons_of_ne_nil hxne
            exact (Placeholder.prefix_of_prefix_append hnext hp).isInfix.trans hx.isInfix
          obtain ⟨v, qs, hpieces, ⟨rfl, rfl⟩ | rfl⟩ := exists_foldr_consChar hne ps
          · rw [toText_cons, Piece.toText, hfold, ih h, hpieces, List.append_nil]
          · exact absurd rfl (hhead v)

/-! ### Wherever they touch -/

/-- Three letters or digits that are the code of no placeholder. -/
structure IsUnknownCode (w : Text) : Prop where
  length_eq : w.length = 3
  isAlphanum : ∀ c ∈ w, c.isAlphanum = true
  not_code : ∀ p : Placeholder, p.code ≠ w

instance (w : Text) : Decidable (IsUnknownCode w) :=
  decidable_of_iff
    (w.length = 3 ∧ w.all Char.isAlphanum = true ∧ Placeholder.all.all (·.code != w) = true)
    ⟨fun ⟨hlength, hletters, hcode⟩ => ⟨hlength, List.all_eq_true.mp hletters,
        fun p => bne_iff_ne.mp (List.all_eq_true.mp hcode p p.mem_all)⟩,
      fun h => ⟨h.length_eq, List.all_eq_true.mpr h.isAlphanum,
        List.all_eq_true.mpr fun p _ => bne_iff_ne.mpr (h.not_code p)⟩⟩

theorem IsUnknownCode.percent_not_mem {w : Text} (h : IsUnknownCode w) : '%' ∉ w :=
  fun hmem => absurd (h.isAlphanum _ hmem) (by decide)

/-- A template in which `x` stands inside a literal, after the text `a` and before the text `b`. -/
def KeepsBetween (a x b : Text) (ps : Template) : Prop :=
  ∃ l u v r, ps = l ++ .literal (u ++ x ++ v) :: r ∧ toText l ++ u = a ∧ v ++ toText r = b

namespace KeepsBetween

variable {a x b : Text} {ps : Template}

theorem after_placeholder (h : KeepsBetween a x b ps) (p : Placeholder) :
    KeepsBetween (p.toText ++ a) x b (.placeholder p :: ps) := by
  obtain ⟨l, u, v, r, rfl, rfl, rfl⟩ := h
  refine ⟨.placeholder p :: l, u, v, r, rfl, ?_, rfl⟩
  rw [toText_cons, List.append_assoc]
  rfl

theorem after_char (h : KeepsBetween a x b ps) (c : Char) :
    KeepsBetween (c :: a) x b (consChar c ps) := by
  obtain ⟨l, u, v, r, rfl, rfl, rfl⟩ := h
  match l with
  | [] => exact ⟨[], c :: u, v, r, rfl, rfl, rfl⟩
  | .literal t :: l => exact ⟨.literal (c :: t) :: l, u, v, r, rfl, rfl, rfl⟩
  | .placeholder p :: l => exact ⟨.literal [c] :: .placeholder p :: l, u, v, r, rfl, rfl, rfl⟩

end KeepsBetween

/-- A percent sign hides no placeholder from the text in front of it. -/
theorem ofText_cons_append_percent {c : Char} {a rest : Text}
    (hc : ∀ p : Placeholder, ¬p.toText <+: c :: a) (hrest : rest.head? = some '%') :
    ofText (c :: (a ++ rest)) = consChar c (ofText (a ++ rest)) := by
  refine ofText_cons fun p hp => hc p (Placeholder.prefix_of_prefix_append ?_ hp)
  rw [hrest]
  exact fun x hx => (Option.mem_some.mp hx).symm

theorem ofText_append_placeholder (a : Text) (p : Placeholder) (b : Text) :
    ofText (a ++ p.toText ++ b) = ofText a ++ .placeholder p :: ofText b := by
  rw [List.append_assoc]
  induction a using induction_on_pieces with
  | nil => exact ofText_placeholder_append p b
  | placeholder q a ih =>
      rw [List.append_assoc, ofText_placeholder_append, ih, ofText_placeholder_append,
        List.cons_append]
  | character c a hc ih =>
      rw [List.cons_append, ofText_cons_append_percent hc rfl, ih, ofText_cons hc,
        consChar_append_placeholder]

theorem IsUnknownCode.not_prefix {w : Text} (hw : IsUnknownCode w) (p : Placeholder) (b : Text) :
    ¬p.toText <+: '%' :: (w ++ b) := by
  intro hp
  obtain ⟨-, hcode⟩ := List.cons_prefix_cons.mp hp
  have hlength : p.code.length = w.length := by rw [p.length_code, hw.length_eq]
  have hfront := List.prefix_of_prefix_length_le hcode (List.prefix_append w b)
    (Nat.le_of_eq hlength)
  exact hw.not_code p (hfront.eq_of_length hlength)

/-- An unknown code can be passed over as a whole, for no placeholder begins inside it. -/
theorem IsUnknownCode.ofText_append {w : Text} (hw : IsUnknownCode w) (b : Text) :
    ofText ('%' :: w ++ b) = ('%' :: w).foldr consChar (ofText b) := by
  refine Template.ofText_append fun x hx hne p hp => ?_
  rcases List.suffix_cons_iff.mp hx with rfl | hx
  · exact hw.not_prefix p b hp
  · obtain ⟨c, x, rfl⟩ := List.exists_cons_of_ne_nil hne
    obtain ⟨rfl, -⟩ := List.cons_prefix_cons.mp hp
    exact hw.percent_not_mem (hx.subset List.mem_cons_self)

theorem IsUnknownCode.keepsBetween {w : Text} (hw : IsUnknownCode w) (a b : Text) :
    KeepsBetween a ('%' :: w) b (ofText (a ++ '%' :: (w ++ b))) := by
  induction a using induction_on_pieces with
  | nil =>
      obtain ⟨v, r, hpieces, hrest⟩ := exists_foldr_consChar (List.cons_ne_nil '%' w) (ofText b)
      refine ⟨[], [], v, r, (hw.ofText_append b).trans hpieces, rfl, ?_⟩
      have htext := toText_ofText b
      rcases hrest with ⟨rfl, rfl⟩ | hrest
      · exact htext
      · rwa [hrest] at htext
  | placeholder p a ih =>
      rw [List.append_assoc, ofText_placeholder_append]
      exact ih.after_placeholder p
  | character c a hc ih =>
      rw [List.cons_append, ofText_cons_append_percent hc rfl]
      exact ih.after_char c

/-! ### All together -/

/-- The pieces of a text are the one reduced template with that text. So a known code after a
percent sign is a placeholder wherever it stands, and any other three letters or digits after one
are part of a literal. -/
theorem ofText_eq_iff_isReduced :
    (∀ (t : Text) (ps : Template), ofText t = ps ↔ toText ps = t ∧ IsReduced ps) ∧
      (∀ (a b : Text) (p : Placeholder),
        ofText (a ++ p.toText ++ b) = ofText a ++ .placeholder p :: ofText b) ∧
      ∀ a w b : Text, IsUnknownCode w →
        KeepsBetween a ('%' :: w) b (ofText (a ++ '%' :: (w ++ b))) := by
  refine ⟨fun t ps => ⟨?_, ?_⟩, fun a b p => ofText_append_placeholder a p b,
    fun a w b hw => hw.keepsBetween a b⟩
  · rintro rfl
    exact ⟨toText_ofText t, isReduced_ofText t⟩
  · rintro ⟨rfl, h⟩
    exact ofText_toText h

/-- A code cut short, a code, its letters in the wrong case and a code touch each other. -/
theorem ofText_eq_iff_isReduced_touching :
    IsUnknownCode "ENG".toList ∧
      KeepsBetween "%en%eng".toList ('%' :: "ENG".toList) "%eng%".toList
        (ofText ("%en%eng".toList ++ '%' :: ("ENG".toList ++ "%eng%".toList))) :=
  ⟨by decide, ofText_eq_iff_isReduced.2.2 _ _ _ (by decide)⟩

end Template

end MediaNaming
