import MediaNaming.Json.Printer
import MediaNaming.Json.Reader
import MediaNaming.Proofs.Numeral

/-!
A value is read back from the text that it is written as. A quoted text ends at its own closing
quote and a word at the character that follows it, so the tokens of a value are those of its parts,
and the value is complete in whatever container waits for it.
-/

namespace MediaNaming.Json

/-! ### Quoted texts -/

/-- A character that stands for itself in a quoted text. -/
def IsPlain (c : Char) : Prop := c ≠ '"' ∧ c ≠ '\\' ∧ 0x20 ≤ c.toNat

/-- How a character may stand in a quoted text. -/
inductive Escaped (c : Char) : Text → Prop
  | short {e : Char} (h : shortEscape? e = some c) : Escaped c ['\\', e]
  | code {a b : Char} (ha : IsPlain a) (hb : IsPlain b) (hc : c.toNat < 0x20)
      (h : Text.hex? ['0', '0', a, b] = some c.toNat) : Escaped c ['\\', 'u', '0', '0', a, b]
  | plain (h : IsPlain c) : Escaped c [c]

theorem isPlain_digitChar {n : Nat} (h : n < 16) : IsPlain (Nat.digitChar n) :=
  (by decide : ∀ n < 16, Nat.digitChar n ≠ '"' ∧ Nat.digitChar n ≠ '\\' ∧
    0x20 ≤ (Nat.digitChar n).toNat) n h

theorem escaped_of_control {c : Char} (h : c.toNat < 0x20) :
    Escaped c (['\\', 'u'] ++ (Nat.toDigits 16 c.toNat).leftpad 4 '0') := by
  have hdigits : ∀ n < 0x20, (Nat.toDigits 16 n).leftpad 4 '0' =
      ['0', '0', Nat.digitChar (n / 16), Nat.digitChar (n % 16)] := by decide
  have hhex : ∀ n < 0x20,
      Text.hex? ['0', '0', Nat.digitChar (n / 16), Nat.digitChar (n % 16)] = some n := by decide
  rw [hdigits c.toNat h]
  exact .code (isPlain_digitChar (by omega)) (isPlain_digitChar (by omega)) h (hhex c.toNat h)

theorem escaped_escapeChar (c : Char) : Escaped c (escapeChar c) := by
  unfold escapeChar
  split
  -- The characters that have a short escape.
  iterate 7 exact .short rfl
  · next hquote hbackslash _ _ _ _ _ =>
      split
      · next hc => exact escaped_of_control hc
      · next hc => exact .plain ⟨hquote, hbackslash, Nat.le_of_not_lt hc⟩

theorem unescape?_short {e c : Char} (h : shortEscape? e = some c) (rest : Text) :
    unescape? ('\\' :: e :: rest) = (unescape? rest).map (c :: ·) := by
  have hu : e ≠ 'u' := by
    rintro rfl
    cases h
  rw [unescape?]
  · rw [h]
    rfl
  · rintro a b c d rest' rfl
    exact fun _ => hu rfl

theorem Escaped.unescape? {c : Char} {t : Text} (h : Escaped c t) (rest : Text) :
    Json.unescape? (t ++ rest) = (Json.unescape? rest).map (c :: ·) := by
  cases h with
  | short h => exact unescape?_short h rest
  | @code a b ha hb hc h =>
      have hlow : isLowSurrogate c.toNat = false := by simp [isLowSurrogate]; omega
      have hhigh : isHighSurrogate c.toNat = false := by simp [isHighSurrogate]; omega
      change Json.unescape? ('\\' :: 'u' :: '0' :: '0' :: a :: b :: rest) = _
      rw [Json.unescape?]
      simp [h, hlow, hhigh]
  | plain h =>
      change Json.unescape? (c :: rest) = _
      rw [Json.unescape?, if_neg h.2.1]
      · exact fun _ _ _ _ _ hc => absurd hc h.2.1
      · exact fun _ _ hc => absurd hc h.2.1

theorem Scan.tokens?_cons (scan : Scan) (c : Char) (rest : Text) :
    scan.tokens? (c :: rest) =
      (scan.step? c).bind fun x => (x.2.tokens? rest).map (x.1 ++ ·) := by
  cases scan <;> rfl

/-- A character that completes no token. -/
theorem Scan.tokens?_of_step? {scan next : Scan} {c : Char} (h : scan.step? c = some ([], next))
    (rest : Text) : scan.tokens? (c :: rest) = next.tokens? rest := by
  rw [tokens?_cons, h, Option.bind_some]
  exact Option.map_id'

theorem Scan.tokens?_quoted_plain {c : Char} (h : IsPlain c) (read rest : Text) :
    (quoted read).tokens? (c :: rest) = (quoted (c :: read)).tokens? rest := by
  obtain ⟨hquote, hbackslash, hcontrol⟩ := h
  refine tokens?_of_step? ?_ rest
  rw [step?, if_neg hquote, if_neg hbackslash, if_neg (Nat.not_lt.2 hcontrol)]

theorem Scan.tokens?_quoted_backslash (e : Char) (read rest : Text) :
    (quoted read).tokens? ('\\' :: e :: rest) = (quoted (e :: '\\' :: read)).tokens? rest :=
  calc
    (quoted read).tokens? ('\\' :: e :: rest)
    _ = (escape read).tokens? (e :: rest) := tokens?_of_step? rfl _
    _ = (quoted (e :: '\\' :: read)).tokens? rest := tokens?_of_step? rfl _

theorem Escaped.tokens? {c : Char} {t : Text} (h : Escaped c t) (read rest : Text) :
    (Scan.quoted read).tokens? (t ++ rest) = (Scan.quoted (t.reverse ++ read)).tokens? rest := by
  cases h with
  | short h => exact Scan.tokens?_quoted_backslash _ read rest
  | @code a b ha hb hc h =>
      have hzero : IsPlain '0' := ⟨by decide, by decide, by decide⟩
      calc
        (Scan.quoted read).tokens? ('\\' :: 'u' :: '0' :: '0' :: a :: b :: rest)
        _ = (Scan.quoted ('u' :: '\\' :: read)).tokens? ('0' :: '0' :: a :: b :: rest) :=
          Scan.tokens?_quoted_backslash 'u' read _
        _ = (Scan.quoted (b :: a :: '0' :: '0' :: 'u' :: '\\' :: read)).tokens? rest := by
          rw [Scan.tokens?_quoted_plain hzero, Scan.tokens?_quoted_plain hzero,
            Scan.tokens?_quoted_plain ha, Scan.tokens?_quoted_plain hb]
  | plain h => exact Scan.tokens?_quoted_plain h read rest

theorem unescape?_flatMap_escapeChar (t : Text) : unescape? (t.flatMap escapeChar) = some t := by
  induction t with
  | nil => rfl
  | cons c rest ih =>
      rw [List.flatMap_cons, (escaped_escapeChar c).unescape?, ih]
      rfl

theorem Scan.tokens?_flatMap_escapeChar (t read rest : Text) :
    (quoted read).tokens? (t.flatMap escapeChar ++ rest) =
      (quoted ((t.flatMap escapeChar).reverse ++ read)).tokens? rest := by
  induction t generalizing read with
  | nil => rfl
  | cons c t ih =>
      rw [List.flatMap_cons, List.append_assoc, (escaped_escapeChar c).tokens?, ih,
        List.reverse_append, List.append_assoc]

/-! ### The first token of a text -/

/-- The text starts with the token `token`, after which `rest` is left. -/
def StartsWith (t : Text) (token : Token) (rest : Text) : Prop :=
  tokens? t = (tokens? rest).map (token :: ·)

theorem startsWith_quote (t rest : Text) : StartsWith (quote t ++ rest) (.quoted t) rest := by
  have hclose : (Scan.quoted (t.flatMap escapeChar).reverse).step? '"' =
      some ([.quoted t], .between) := by
    rw [Scan.step?, if_pos rfl, List.reverse_reverse, unescape?_flatMap_escapeChar, Option.map_some]
  have hopen : Scan.between.step? '"' = some ([], .quoted []) := rfl
  have hquote : quote t ++ rest = '"' :: (t.flatMap escapeChar ++ '"' :: rest) := by simp [quote]
  rw [StartsWith, tokens?, hquote, Scan.tokens?_of_step? hopen,
    Scan.tokens?_flatMap_escapeChar, List.append_nil, Scan.tokens?_cons, hclose]
  rfl

theorem startsWith_punctuation {c : Char} {token : Token} (h : punctuation? c = some token)
    (rest : Text) : StartsWith (c :: rest) token rest := by
  have henter : Scan.between.step? c = some ([token], .between) := by
    unfold punctuation? at h
    split at h <;> cases h <;> rfl
  rw [StartsWith, tokens?, Scan.tokens?_cons, henter]
  rfl

/-- A character that does not end a word. -/
def isWordChar (c : Char) : Bool := !(isSpace c || c == '"' || (punctuation? c).isSome)

/-- No word goes on in the text. -/
def EndsWord (t : Text) : Prop := ∀ c ∈ t.head?, isWordChar c = false

theorem Scan.tokens?_word {word rest : Text} (hword : word.all isWordChar = true)
    (hrest : EndsWord rest) (read : Text) :
    (Scan.word read).tokens? (word ++ rest) =
      (Json.tokens? rest).map (.word (read.reverse ++ word) :: ·) := by
  induction word generalizing read with
  | nil =>
      rw [List.append_nil, List.nil_append]
      cases rest with
      | nil => rfl
      | cons c rest =>
          -- The character that ends the word is entered as if it stood between tokens.
          have hc : isWordChar c = false := hrest c rfl
          rw [isWordChar, Bool.not_eq_false'] at hc
          have hstep : (Scan.word read).step? c =
              some (.word read.reverse :: (enter c).1, (enter c).2) := by
            rw [step?, if_pos hc]
          have hbetween : Scan.between.step? c = some (enter c) := rfl
          rw [tokens?_cons, hstep, Json.tokens?, tokens?_cons, hbetween, Option.bind_some,
            Option.bind_some, Option.map_map]
          rfl
  | cons c word ih =>
      obtain ⟨hc, hword⟩ := Bool.and_eq_true_iff.1 hword
      rw [isWordChar, Bool.not_eq_true'] at hc
      have hstep : (Scan.word read).step? c = some ([], .word (c :: read)) := by
        rw [step?, hc, if_neg Bool.false_ne_true]
      rw [List.cons_append, tokens?_of_step? hstep, ih hword, List.reverse_cons, List.append_assoc,
        List.singleton_append]

theorem startsWith_word {word rest : Text} (hne : word ≠ []) (hword : word.all isWordChar = true)
    (hrest : EndsWord rest) : StartsWith (word ++ rest) (.word word) rest := by
  obtain ⟨c, word, rfl⟩ := List.exists_cons_of_ne_nil hne
  obtain ⟨hc, hword⟩ := Bool.and_eq_true_iff.1 hword
  rw [isWordChar, Bool.not_eq_true', Bool.or_eq_false_iff, Bool.or_eq_false_iff] at hc
  obtain ⟨⟨hspace, hquote⟩, hpunctuation⟩ := hc
  have hnone : punctuation? c = none := by simpa using hpunctuation
  have henter : Scan.between.step? c = some ([], .word [c]) := by
    rw [Scan.step?, Scan.enter, hspace, if_neg Bool.false_ne_true,
      if_neg (beq_eq_false_iff_ne.1 hquote), hnone]
  rw [StartsWith, tokens?, List.cons_append, Scan.tokens?_of_step? henter,
    Scan.tokens?_word hword hrest]
  rfl

/-! ### The value of a text -/

/-- Where the reading of a text comes to from a state between two tokens. -/
def State.read? (s : State) (t : Text) : Option State :=
  (tokens? t).bind fun tokens => tokens.foldlM State.step? s

theorem StartsWith.read?_eq {t rest : Text} {token : Token} (h : StartsWith t token rest)
    (s : State) : s.read? t = (s.step? token).bind (·.read? rest) := by
  rw [StartsWith] at h
  unfold State.read?
  rw [h]
  cases tokens? rest with
  | none => cases s.step? token <;> rfl
  | some tokens => simp

/-- A state that takes a value into the innermost of the open containers. For the first item of an
array this is a state of its own, in which the array may end as well. -/
inductive State.Awaits : State → List Frame → Prop
  | value (above : List Frame) : Awaits (.value above) above
  | firstItem (above : List Frame) : Awaits (.firstItem above) (.item [] :: above)

theorem State.Awaits.step?_eq {s : State} {above : List Frame} (h : s.Awaits above) (token : Token)
    (htoken : token ≠ .closeBracket) : s.step? token = State.start? above token := by
  cases h with
  | value => rfl
  | firstItem =>
      cases token with
      | closeBracket => exact absurd rfl htoken
      | _ => rfl

/-- A state that takes a key into an object that holds the fields `done` already, in reverse. -/
inductive State.AwaitsKey : State → List (Text × Json) → List Frame → Prop
  | firstKey (above : List Frame) : AwaitsKey (.firstKey above) [] above
  | nextKey (done : List (Text × Json)) (above : List Frame) :
      AwaitsKey (.nextKey done above) done above

theorem State.AwaitsKey.step?_quoted {s : State} {done : List (Text × Json)} {above : List Frame}
    (h : s.AwaitsKey done above) (k : Text) :
    s.step? (.quoted k) = some (.colon done k above) := by
  cases h <;> rfl

/-- The text of a value is read as that value wherever `depth` containers are open, and reading goes
on behind it. -/
def IsRead (depth : Nat) (j : Json) : Prop :=
  ∀ ⦃s : State⦄ ⦃above : List Frame⦄, s.Awaits above → above.length = depth →
    ∀ ⦃rest : Text⦄, EndsWord rest →
      s.read? (j.toText ++ rest) = (State.complete j above).read? rest

theorem endsWord_cons {c : Char} (h : isWordChar c = false) (rest : Text) :
    EndsWord (c :: rest) := by
  intro x hx
  rw [← Option.some.inj hx, h]

theorem itemsToText_cons_cons (j j' : Json) (items : List Json) :
    itemsToText (j :: j' :: items) = j.toText ++ ',' :: itemsToText (j' :: items) := by
  rw [itemsToText]
  nofun

theorem fieldsToText_cons_cons (k : Text) (j : Json) (x : Text × Json)
    (fields : List (Text × Json)) :
    fieldsToText ((k, j) :: x :: fields) =
      quote k ++ ':' :: (j.toText ++ ',' :: fieldsToText (x :: fields)) := by
  rw [fieldsToText]
  · simp
  · nofun

theorem read?_items {items done : List Json} {s : State} {above : List Frame} {depth : Nat}
    (hitems : ∀ j ∈ items, IsRead (depth + 1) j) (hne : items ≠ [])
    (hs : s.Awaits (.item done :: above)) (hdepth : above.length = depth) (rest : Text) :
    s.read? (itemsToText items ++ ']' :: rest) =
      (State.complete (.array (done.reverse ++ items)) above).read? rest := by
  induction items generalizing s done with
  | nil => exact absurd rfl hne
  | cons j items ih =>
      have hj := hitems j List.mem_cons_self hs (by rw [List.length_cons, hdepth])
      cases items with
      | nil =>
          rw [itemsToText, hj (endsWord_cons rfl rest), (startsWith_punctuation rfl rest).read?_eq]
          simp [State.complete, State.step?]
      | cons j' items =>
          rw [itemsToText_cons_cons, List.append_assoc, List.cons_append,
            hj (endsWord_cons rfl _), (startsWith_punctuation rfl _).read?_eq]
          have hrest := ih (fun x hx => hitems x (List.mem_cons_of_mem j hx)) (List.cons_ne_nil _ _)
            (.value (.item (j :: done) :: above))
          simpa [State.complete, State.step?] using hrest

theorem read?_fields {fields done : List (Text × Json)} {s : State} {above : List Frame}
    {depth : Nat} (hfields : ∀ x ∈ fields, IsRead (depth + 1) x.2) (hne : fields ≠ [])
    (hs : s.AwaitsKey done above) (hdepth : above.length = depth) (rest : Text) :
    s.read? (fieldsToText fields ++ '\x7d' :: rest) =
      (State.complete (.object (done.reverse ++ fields)) above).read? rest := by
  induction fields generalizing s done with
  | nil => exact absurd rfl hne
  | cons x fields ih =>
      obtain ⟨k, j⟩ := x
      have hcolon : ∀ t, s.read? (quote k ++ ':' :: t) =
          (State.value (.field done k :: above)).read? t := by
        intro t
        rw [(startsWith_quote k _).read?_eq, hs.step?_quoted, Option.bind_some,
          (startsWith_punctuation rfl t).read?_eq]
        rfl
      have hj := hfields (k, j) List.mem_cons_self (.value (.field done k :: above))
        (by rw [List.length_cons, hdepth])
      cases fields with
      | nil =>
          rw [fieldsToText, List.append_assoc, List.cons_append, hcolon,
            hj (endsWord_cons rfl rest), (startsWith_punctuation rfl rest).read?_eq]
          simp [State.complete, State.step?]
      | cons x' fields =>
          rw [fieldsToText_cons_cons, List.append_assoc, List.cons_append, hcolon,
            List.append_assoc, List.cons_append, hj (endsWord_cons rfl _),
            (startsWith_punctuation rfl _).read?_eq]
          have hrest := ih (fun x hx => hfields x (List.mem_cons_of_mem _ hx))
            (List.cons_ne_nil _ _) (.nextKey ((k, j) :: done) above)
          simpa [State.complete, State.step?] using hrest

/-- A value that can be read back inside `depth` containers: its scalars are texts or words that
stand for them, and it nests no deeper than what is read. -/
inductive Writable : Nat → Json → Prop
  | word {depth : Nat} {j : Json} (hword : j.toText.all isWordChar = true)
      (h : ofWord? j.toText = some j) : Writable depth j
  | text {depth : Nat} (t : Text) : Writable depth (.text t)
  | array {depth : Nat} {items : List Json} (hdepth : depth < maxDepth)
      (h : ∀ j ∈ items, Writable (depth + 1) j) : Writable depth (.array items)
  | object {depth : Nat} {fields : List (Text × Json)} (hdepth : depth < maxDepth)
      (h : ∀ x ∈ fields, Writable (depth + 1) x.2) : Writable depth (.object fields)

theorem Writable.isRead {depth : Nat} {j : Json} (h : Writable depth j) : IsRead depth j := by
  induction h with
  | @word depth j hword h =>
      intro s above hs hdepth rest hrest
      have hne : j.toText ≠ [] := by
        intro hnil
        rw [hnil] at h
        cases h
      rw [(startsWith_word hne hword hrest).read?_eq, hs.step?_eq (.word _) nofun, State.start?, h]
      rfl
  | text t =>
      intro s above hs hdepth rest hrest
      rw [toText, (startsWith_quote t rest).read?_eq, hs.step?_eq (.quoted t) nofun]
      rfl
  | @array depth items hlt h ih =>
      intro s above hs hdepth rest hrest
      have hopen : s.step? .openBracket = some (.firstItem above) := by
        rw [hs.step?_eq .openBracket nofun, State.start?, if_pos (hdepth ▸ hlt)]
      simp only [toText, List.cons_append, List.append_assoc, List.nil_append]
      rw [(startsWith_punctuation rfl _).read?_eq, hopen, Option.bind_some]
      by_cases hne : items = []
      · rw [hne, itemsToText, List.nil_append, (startsWith_punctuation rfl rest).read?_eq]
        rfl
      · exact read?_items ih hne (.firstItem above) hdepth rest
  | @object depth fields hlt h ih =>
      intro s above hs hdepth rest hrest
      have hopen : s.step? .openBrace = some (.firstKey above) := by
        rw [hs.step?_eq .openBrace nofun, State.start?, if_pos (hdepth ▸ hlt)]
      simp only [toText, List.cons_append, List.append_assoc, List.nil_append]
      rw [(startsWith_punctuation rfl _).read?_eq, hopen, Option.bind_some]
      by_cases hne : fields = []
      · rw [hne, fieldsToText, List.nil_append, (startsWith_punctuation rfl rest).read?_eq]
        rfl
      · exact read?_fields ih hne (.firstKey above) hdepth rest

/-- A value that can be read back is what its own text stands for. -/
theorem ofText?_toText {j : Json} (h : Writable 0 j) : ofText? j.toText = some j := by
  have hread : (State.value []).read? j.toText = some (.finished j) := by
    have hrest : EndsWord [] := nofun
    have hvalue := h.isRead (.value []) rfl hrest
    rw [List.append_nil] at hvalue
    rw [hvalue]
    rfl
  obtain ⟨tokens, htokens, hfold⟩ := Option.bind_eq_some_iff.1 hread
  rw [ofText?, htokens, Option.bind_some, ofTokens?, hfold]

theorem writable_null (depth : Nat) : Writable depth .null := .word rfl rfl

theorem writable_bool (depth : Nat) (b : Bool) : Writable depth (.bool b) := by
  cases b with
  | false => exact .word rfl rfl
  | true => exact .word rfl rfl

theorem isDigit_of_punctuation? {c : Char} {token : Token} (h : punctuation? c = some token) :
    c.isDigit = false := by
  unfold punctuation? at h
  split at h <;> cases h <;> rfl

theorem isWordChar_of_isDigit {c : Char} (h : c.isDigit = true) : isWordChar c = true := by
  have hne : ∀ x : Char, x.isDigit = false → c ≠ x := by
    rintro x hx rfl
    rw [hx] at h
    cases h
  have hpunctuation : punctuation? c = none := by
    cases hp : punctuation? c with
    | none => rfl
    | some token =>
        rw [isDigit_of_punctuation? hp] at h
        cases h
  simp [isWordChar, isSpace, hpunctuation, hne]

theorem writable_int (depth : Nat) {n : Int} (h : n.natAbs < UInt64.size) :
    Writable depth (.int n) := by
  have hword : ∀ c ∈ Text.ofInt n, c = '-' ∨ c.isDigit = true := by
    intro c hc
    cases n with
    | ofNat n => exact .inr (Text.isDigit_of_mem_ofNat hc)
    | negSucc n => exact (List.mem_cons.1 hc).imp_right Text.isDigit_of_mem_ofNat
  refine .word ?_ ?_
  · refine List.all_eq_true.2 fun c hc => ?_
    rcases hword c hc with rfl | hdigit
    · decide
    · exact isWordChar_of_isDigit hdigit
  · have hne : ∀ letters : Text, (∃ c ∈ letters, c ≠ '-' ∧ c.isDigit = false) →
        Text.ofInt n ≠ letters := by
      rintro letters ⟨c, hc, hdash, hdigit⟩ rfl
      rcases hword c hc with h | h
      · exact hdash h
      · rw [h] at hdigit
        cases hdigit
    have hnull : Text.ofInt n ≠ "null".toList := hne _ ⟨'n', by decide⟩
    have htrue : Text.ofInt n ≠ "true".toList := hne _ ⟨'t', by decide⟩
    have hfalse : Text.ofInt n ≠ "false".toList := hne _ ⟨'f', by decide⟩
    rw [toText, ofWord?, if_neg hnull, if_neg htrue, if_neg hfalse, number?_ofInt h]

theorem writable_ofOption {α : Type} {write : α → Json} {depth : Nat}
    (h : ∀ a, Writable depth (write a)) (a? : Option α) : Writable depth (ofOption write a?) := by
  cases a? with
  | none => exact writable_null depth
  | some a => exact h a

theorem writable_list {α : Type} {write : α → Json} {depth : Nat} (hdepth : depth < maxDepth)
    (h : ∀ a, Writable (depth + 1) (write a)) (l : List α) :
    Writable depth (.array (l.map write)) := by
  refine .array hdepth ?_
  intro j hj
  obtain ⟨a, -, rfl⟩ := List.mem_map.1 hj
  exact h a

theorem writable_ofFields {fields : List (String × Json)} {depth : Nat} (hdepth : depth < maxDepth)
    (h : ∀ x ∈ fields, Writable (depth + 1) x.2) : Writable depth (ofFields fields) := by
  refine .object hdepth ?_
  intro x hx
  obtain ⟨y, hy, rfl⟩ := List.mem_map.1 hx
  exact h y hy

theorem writable_uint32 (depth : Nat) (n : UInt32) : Writable depth (.ofNat n.toNat) :=
  writable_int depth (Nat.lt_trans n.toNat_lt_size (by decide))

theorem writable_uint64 (depth : Nat) (n : UInt64) : Writable depth (.ofNat n.toNat) :=
  writable_int depth n.toNat_lt_size

theorem writable_int32 (depth : Nat) (n : Int32) : Writable depth (.int n.toInt) := by
  have hmin := n.minValue_le_toInt
  have hmax := n.toInt_le
  refine writable_int depth ?_
  have hsize : UInt64.size = 18446744073709551616 := rfl
  have hlow : Int32.minValue.toInt = -2147483648 := rfl
  have hhigh : Int32.maxValue.toInt = 2147483647 := rfl
  omega

end MediaNaming.Json
