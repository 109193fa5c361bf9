import MediaNaming.Proofs.JsonText
import MediaNaming.Proofs.Text
import MediaNaming.Toml.Reader

/-!
What tells the two forms of a text apart. The container that is opened first is what a JSON text
writes, so the text of an object has a brace in front of everything but white space. No TOML
document begins that way: its lines begin with a key or with a bracket.
-/

namespace MediaNaming

/-- The first character that is not white space is an opening brace. -/
def Text.IsBraced (t : Text) : Prop := t.trimStart.head? = some '\x7b'

namespace Text

theorem isBraced_cons_of_isBlank {c : Char} (hc : isBlank c = true) (t : Text) :
    IsBraced (c :: t) ↔ IsBraced t := by
  rw [IsBraced, IsBraced, trimStart, trimStart, List.dropWhile_cons_of_pos hc]

theorem isBraced_cons_of_not_isBlank {c : Char} (hc : isBlank c = false) (t : Text) :
    IsBraced (c :: t) ↔ c = '\x7b' := by
  rw [IsBraced, trimStart, List.dropWhile_cons_of_neg (by simp [hc]), List.head?_cons,
    Option.some.injEq]

/-- A braced text begins with its brace, or is a braced text behind white space. -/
theorem IsBraced.head_cases {c : Char} {t : Text} (h : IsBraced (c :: t)) :
    c = '\x7b' ∨ isBlank c = true ∧ IsBraced t := by
  cases hc : isBlank c with
  | false => exact .inl ((isBraced_cons_of_not_isBlank hc t).mp h)
  | true => exact .inr ⟨rfl, (isBraced_cons_of_isBlank hc t).mp h⟩

theorem IsBraced.ne_nil {t : Text} (h : IsBraced t) : t ≠ [] := by
  rintro rfl
  cases h

/-- No other visible character stands at the beginning. -/
theorem IsBraced.ne_cons {c : Char} {t : Text} (h : IsBraced t) (hc : isBlank c = false)
    (hbrace : c ≠ '\x7b') (rest : Text) : t ≠ c :: rest := by
  rintro rfl
  exact hbrace ((isBraced_cons_of_not_isBlank hc rest).mp h)

/-- White space of any kind may be left out at the beginning. -/
theorem IsBraced.dropWhile {t : Text} (h : IsBraced t) {p : Char → Bool}
    (hp : ∀ c, p c = true → isBlank c = true) : IsBraced (t.dropWhile p) := by
  induction t with
  | nil => exact h
  | cons c t ih =>
      cases hc : p c with
      | false => rwa [List.dropWhile_cons_of_neg (by simp [hc])]
      | true =>
          rw [List.dropWhile_cons_of_pos hc]
          exact ih ((isBraced_cons_of_isBlank (hp c hc) t).mp h)

end Text

/-! ### JSON -/

namespace Json

/-- The two kinds of values that other values are in. -/
inductive Container where
  | array | object
  deriving DecidableEq

/-- What a value is, if others may be in it. -/
def container? : Json → Option Container
  | .array _ => some .array
  | .object _ => some .object
  | _ => none

def Frame.container : Frame → Container
  | .item _ => .array
  | .field _ _ => .object

/-- What a token opens. -/
def Token.container? : Token → Option Container
  | .openBracket => some .array
  | .openBrace => some .object
  | _ => none

/-- The outermost of the containers that wait for a value. -/
def outermost? (above : List Frame) : Option Container := above.getLast?.map Frame.container

/-- The outermost container of all that was read so far. -/
def State.outermost? : State → Option Container
  | .value above => Json.outermost? above
  | .firstItem above | .nextItem _ above => (Json.outermost? above).or (some .array)
  | .firstKey above | .nextKey _ above | .colon _ _ above | .nextField _ above =>
    (Json.outermost? above).or (some .object)
  | .finished j => j.container?

@[simp] theorem outermost?_cons (f : Frame) (above : List Frame) :
    outermost? (f :: above) = (outermost? above).or (some f.container) := by
  rw [outermost?, outermost?, List.getLast?_cons]
  cases above.getLast? <;> rfl

@[simp] theorem outermost?_complete (j : Json) (above : List Frame) :
    (State.complete j above).outermost? = (outermost? above).or j.container? := by
  cases above with
  | nil => rfl
  | cons f above => cases f <;> simp [State.complete, State.outermost?, Frame.container]

theorem container?_of_number? {t : Text} {j : Json} (h : number? t = some j) :
    j.container? = none := by
  simp only [number?, Option.bind_eq_bind, Option.bind_none, Option.ite_none_left_eq_some,
    Option.bind_eq_some_iff] at h
  obtain ⟨-, fraction, -, exponent, -, -, h⟩ := h
  rcases ite_eq_iff.mp h with ⟨-, h⟩ | ⟨-, h⟩
  · cases h
    rfl
  · cases h
    rfl

/-- A word writes no container. -/
theorem container?_of_ofWord? {t : Text} {j : Json} (h : ofWord? t = some j) :
    j.container? = none := by
  rw [ofWord?] at h
  split at h
  · cases h
    rfl
  split at h
  · cases h
    rfl
  split at h
  · cases h
    rfl
  exact container?_of_number? h

theorem outermost?_start? {above : List Frame} {token : Token} {s : State}
    (h : State.start? above token = some s) :
    s.outermost? = (outermost? above).or token.container? := by
  cases token with
  | quoted t =>
      cases h
      exact outermost?_complete _ _
  | word t =>
      obtain ⟨j, hj, rfl⟩ := Option.map_eq_some_iff.mp h
      rw [outermost?_complete, container?_of_ofWord? hj]
      rfl
  | openBracket =>
      rw [State.start?] at h
      split at h <;> cases h
      rfl
  | openBrace =>
      rw [State.start?] at h
      split at h <;> cases h
      rfl
  | _ => cases h

/-- What a step opens is inside of what was open before. -/
theorem State.outermost?_step? {s s' : State} {token : Token} (h : s.step? token = some s') :
    s'.outermost? = s.outermost?.or token.container? := by
  revert h
  fun_cases State.step? s token with
  | case1 above token => exact outermost?_start?
  | case3 above token =>
      intro h
      rw [outermost?_start? h, outermost?_cons, outermost?]
      rfl
  | case2 | case5 | case6 | case11 =>
      -- A container is closed and goes into the next one.
      rintro ⟨⟩
      exact (outermost?_complete _ _).trans Option.or_none.symm
  | case4 | case9 =>
      -- A value is awaited in the container that was open already.
      rintro ⟨⟩
      exact (outermost?_cons _ _).trans Option.or_none.symm
  | case7 | case8 | case10 =>
      rintro ⟨⟩
      exact Option.or_none.symm
  | case12 => nofun

theorem State.outermost?_foldlM {s s' : State} {tokens : List Token} {k : Container}
    (h : tokens.foldlM State.step? s = some s') (hs : s.outermost? = some k) :
    s'.outermost? = some k := by
  induction tokens generalizing s with
  | nil =>
      cases h
      exact hs
  | cons token tokens ih =>
      rw [List.foldlM_cons] at h
      obtain ⟨next, hnext, h⟩ := Option.bind_eq_some_iff.mp h
      refine ih h ?_
      rw [outermost?_step? hnext, hs, Option.some_or]

/-- A value that is no container is read from one token. -/
theorem exists_finished_of_start? {token : Token} {s : State} (h : State.start? [] token = some s)
    (htoken : token.container? = none) : ∃ j, s = .finished j := by
  cases token with
  | quoted t =>
      cases h
      exact ⟨_, rfl⟩
  | word t =>
      obtain ⟨j, -, rfl⟩ := Option.map_eq_some_iff.mp h
      exact ⟨j, rfl⟩
  | _ => cases h <;> cases htoken

/-- Nothing may follow a value on its own. -/
theorem eq_of_foldlM_finished {tokens : List Token} {j j' : Json}
    (h : tokens.foldlM State.step? (.finished j) = some (.finished j')) : j = j' := by
  cases tokens with
  | nil =>
      cases h
      rfl
  | cons token tokens => cases h

/-- The first token opens the container that is written, if one is. -/
theorem container?_of_ofTokens? {tokens : List Token} {j : Json} (h : ofTokens? tokens = some j) :
    j.container? = tokens.head?.bind Token.container? := by
  rw [ofTokens?] at h
  split at h
  · next j' hfold =>
    cases h
    cases tokens with
    | nil => cases hfold
    | cons token tokens =>
        rw [List.foldlM_cons] at hfold
        obtain ⟨s, hs, hfold⟩ := Option.bind_eq_some_iff.mp hfold
        have hopened : s.outermost? = token.container? := outermost?_start? hs
        rw [List.head?_cons, Option.bind_some]
        cases hk : token.container? with
        | some k => exact State.outermost?_foldlM hfold (hopened.trans hk)
        | none =>
            obtain ⟨j', rfl⟩ := exists_finished_of_start? hs hk
            cases eq_of_foldlM_finished hfold
            exact hopened.trans hk
  · cases h

/-! ### Tokens -/

/-- Inside a token a step goes on with it or completes it. -/
theorem Scan.step?_inside {scan next : Scan} {c : Char} {done : List Token}
    (hscan : scan ≠ .between) (h : scan.step? c = some (done, next)) :
    done = [] ∧ next ≠ .between ∨ ∃ token ∈ done.head?, token ≠ .openBrace := by
  cases scan with
  | between => exact absurd rfl hscan
  | word read =>
      rw [step?] at h
      split at h
      · cases h
        exact .inr ⟨_, rfl, by simp⟩
      · cases h
        exact .inl ⟨rfl, by simp⟩
  | quoted read =>
      rw [step?] at h
      split at h
      · obtain ⟨t, -, ht⟩ := Option.map_eq_some_iff.mp h
        cases ht
        exact .inr ⟨_, rfl, by simp⟩
      split at h
      · cases h
        exact .inl ⟨rfl, by simp⟩
      split at h
      · cases h
      · cases h
        exact .inl ⟨rfl, by simp⟩
  | escape read =>
      cases h
      exact .inl ⟨rfl, by simp⟩

/-- A token that a reading is in the middle of comes before all others. -/
theorem Scan.head?_tokens?_ne {scan : Scan} {t : Text} {tokens : List Token}
    (h : scan.tokens? t = some tokens) (hscan : scan ≠ .between) :
    tokens.head? ≠ some .openBrace := by
  induction t generalizing scan tokens with
  | nil =>
      cases scan with
      | between => exact absurd rfl hscan
      | word read =>
          cases h
          simp
      | quoted read => cases h
      | escape read => cases h
  | cons c rest ih =>
      rw [tokens?_cons] at h
      obtain ⟨⟨done, next⟩, hstep, h⟩ := Option.bind_eq_some_iff.mp h
      obtain ⟨later, hlater, rfl⟩ := Option.map_eq_some_iff.mp h
      rcases step?_inside hscan hstep with ⟨rfl, hnext⟩ | ⟨token, htoken, hne⟩
      · exact ih hlater hnext
      · rw [List.head?_append, htoken, Option.some_or]
        exact fun h => hne (Option.some.inj h)

theorem isBlank_of_isSpace {c : Char} (h : isSpace c = true) : Text.isBlank c = true := by
  simp only [isSpace, Bool.or_eq_true, beq_iff_eq] at h
  rcases h with ((rfl | rfl) | rfl) | rfl <;> rfl

theorem eq_of_punctuation?_openBrace {c : Char} (h : punctuation? c = some .openBrace) :
    c = '\x7b' := by
  unfold punctuation? at h
  split at h <;> cases h
  rfl

/-- A brace that is the first token is the first character but for white space. -/
theorem isBraced_of_tokens? {t : Text} {tokens : List Token} (h : tokens? t = some tokens)
    (hhead : tokens.head? = some .openBrace) : t.IsBraced := by
  induction t generalizing tokens with
  | nil =>
      cases h
      cases hhead
  | cons c rest ih =>
      rw [tokens?, Scan.tokens?_cons] at h
      obtain ⟨⟨done, next⟩, hstep, h⟩ := Option.bind_eq_some_iff.mp h
      obtain ⟨later, hlater, rfl⟩ := Option.map_eq_some_iff.mp h
      rw [Scan.step?, Scan.enter] at hstep
      split at hstep
      · next hspace =>
        cases hstep
        exact (Text.isBraced_cons_of_isBlank (isBlank_of_isSpace hspace) rest).mpr (ih hlater hhead)
      split at hstep
      · cases hstep
        exact absurd hhead (Scan.head?_tokens?_ne hlater (by simp))
      split at hstep
      · next token htoken =>
        cases hstep
        cases hhead
        cases eq_of_punctuation?_openBrace htoken
        rfl
      · cases hstep
        exact absurd hhead (Scan.head?_tokens?_ne hlater (by simp))

/-- The text of an object starts with a brace. -/
theorem isBraced_of_ofText? {t : Text} {fields : List (Text × Json)}
    (h : ofText? t = some (.object fields)) : t.IsBraced := by
  obtain ⟨tokens, htokens, h⟩ := Option.bind_eq_some_iff.mp h
  obtain ⟨token, htoken, hopens⟩ := Option.bind_eq_some_iff.mp (container?_of_ofTokens? h).symm
  refine isBraced_of_tokens? htokens ?_
  cases token <;> cases hopens
  exact htoken

end Json

/-! ### TOML -/

namespace Toml

theorem isBlank_of_isGap {c : Char} (h : isGap c = true) : Text.isBlank c = true := by
  rw [isGap, Bool.or_eq_true, beq_iff_eq, beq_iff_eq] at h
  rcases h with rfl | rfl <;> rfl

theorem isBraced_skipGap {t : Text} (h : t.IsBraced) : (skipGap t).IsBraced :=
  h.dropWhile fun _ => isBlank_of_isGap

theorem skipComment_of_isBraced {t : Text} (h : t.IsBraced) : skipComment t = t := by
  rw [skipComment]
  exact h.ne_cons rfl (by decide)

/-- A line that ends in front of the brace is empty. -/
theorem isBraced_of_lineEnd? {t rest : Text} (h : t.IsBraced) (hrest : lineEnd? t = some rest) :
    rest.IsBraced := by
  have hgap := isBraced_skipGap h
  rw [lineEnd?, skipComment_of_isBraced hgap] at hrest
  split at hrest
  · next hnil => exact absurd hnil hgap.ne_nil
  · next heq =>
    cases hrest
    rwa [heq, Text.isBraced_cons_of_isBlank rfl] at hgap
  · next heq =>
    cases hrest
    rwa [heq, Text.isBraced_cons_of_isBlank rfl, Text.isBraced_cons_of_isBlank rfl] at hgap
  · cases hrest

theorem isBraced_skipLines {t : Text} (h : t.IsBraced) : (skipLines t).IsBraced := by
  fun_induction skipLines t with
  | case1 t hnil => exact absurd hnil (isBraced_skipGap h).ne_nil
  | case2 t c rest hrest next hnext ih =>
      refine ih (isBraced_of_lineEnd? ?_ hnext)
      rw [← hrest]
      exact isBraced_skipGap h
  | case3 t c rest hrest hnone =>
      rw [← hrest]
      exact isBraced_skipGap h

theorem isBareKeyChar_of_isBlank {c : Char} (h : Text.isBlank c = true) :
    isBareKeyChar c = false := by
  cases hkey : isBareKeyChar c with
  | false => rfl
  | true =>
      rw [isBareKeyChar, Bool.or_eq_true, Bool.or_eq_true, beq_iff_eq, beq_iff_eq] at hkey
      rcases hkey with (hword | rfl) | rfl
      · rw [Text.not_isBlank_of_isAlphanum hword] at h
        cases h
      · cases h
      · cases h

/-- No key begins with a brace or with white space. -/
theorem keyName?_of_isBraced {t : Text} (h : t.IsBraced) : keyName? t = none := by
  have hbare : t.takeWhile isBareKeyChar = [] := by
    cases t with
    | nil => rfl
    | cons c rest =>
        refine List.takeWhile_cons_of_neg ?_
        rcases h.head_cases with rfl | ⟨hblank, -⟩
        · decide
        · simp [isBareKeyChar_of_isBlank hblank]
  rw [keyName?, hbare, quoted?]
  · rfl
  · exact h.ne_cons rfl (by decide)
  · exact h.ne_cons rfl (by decide)

theorem assignment?_of_isBraced {value? : Text → Option (Toml × Text)} {t : Text}
    (h : t.IsBraced) : assignment? skipGap value? t = none := by
  have hname := keyName?_of_isBraced (isBraced_skipGap h)
  rw [assignment?, key?, keyNames?]
  split
  · rfl
  · next hname' =>
    rw [hname] at hname'
    cases hname'

theorem line?_of_isBraced {o : Outline} {t : Text} (h : t.IsBraced) : line? o t = none := by
  have hbracket : ∀ rest, t ≠ '[' :: rest := h.ne_cons rfl (by decide)
  rw [line?]
  · rw [assignment?_of_isBraced h]
    rfl
  · exact fun rest => hbracket _
  · exact fun rest => hbracket _

/-- A document whose first character is a brace, but for white space, is refused. -/
theorem ofText?_of_isBraced {t : Text} (h : t.IsBraced) : ofText? t = none := by
  have hmark : ∀ rest, t ≠ '\uFEFF' :: rest := h.ne_cons rfl (by decide)
  have hlines := isBraced_skipLines h
  rw [ofText?]
  · rw [lines?]
    split
    · next hnil => exact absurd hnil hlines.ne_nil
    · next c start hstart =>
      rw [hstart] at hlines
      rw [line?_of_isBraced hlines]
  · exact hmark

end Toml

end MediaNaming
