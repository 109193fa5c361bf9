import MediaNaming.Catalog.Format
import Mathlib.Data.List.Forall2
import Mathlib.Data.List.Nodup

/-!
Other ways to write a value. The items of an array are rewritten each for itself. The fields of a
record may come in any order and between fields that it does not know, and a field may be left out
if it holds the value that it has without being given. What is read stays the same, which is
carried up from the parts of a value to the whole.
-/

namespace MediaNaming.Json

/-- A relation between a value and the other ways to write it. -/
abbrev Rewriting := Json → Json → Prop

/-- A text that stands for whatever is not known may give way to any text that is not known. -/
inductive Respelled (known : List String) (other : String) : Rewriting
  | same (j : Json) : Respelled known other j j
  | other {t : Text} (h : ∀ s ∈ known, s.toList ≠ t) :
      Respelled known other (.ofString other) (.text t)

/-- An array with its items rewritten. -/
inductive ItemsRewritten (r : Rewriting) : Rewriting
  | intro {items items' : List Json} (h : List.Forall₂ r items items') :
      ItemsRewritten r (.array items) (.array items')

/-- A value that is rewritten unless it is missing. -/
inductive OrNull (r : Rewriting) : Rewriting
  | null : OrNull r .null .null
  | value {j j' : Json} (hj : j ≠ .null) (h : r j j') : OrNull r j j'

/-- A field of a record. -/
structure FieldForm where
  key : String
  rewriting : Rewriting
  /-- The value that the field has when it is left out, unless it must be given. -/
  absent? : Option Json

/-- A field that must be given. -/
def FieldForm.required (key : String) (r : Rewriting) : FieldForm := ⟨key, r, none⟩

/-- A field that may be left out if it holds the value `j`. -/
def FieldForm.optional (key : String) (r : Rewriting) (j : Json) : FieldForm := ⟨key, r, some j⟩

/-- A field that may be left out if its value is missing. -/
def FieldForm.nullable (key : String) (r : Rewriting) : FieldForm :=
  .optional key (OrNull r) .null

@[simp] theorem FieldForm.required_key (key : String) (r : Rewriting) :
    (required key r).key = key := rfl

@[simp] theorem FieldForm.optional_key (key : String) (r : Rewriting) (j : Json) :
    (optional key r j).key = key := rfl

@[simp] theorem FieldForm.nullable_key (key : String) (r : Rewriting) :
    (nullable key r).key = key := rfl

/-- The fields of a record, some of them rewritten and some of them left out. -/
inductive FieldsRewritten : List FieldForm → List (Text × Json) → List (Text × Json) → Prop
  | nil : FieldsRewritten [] [] []
  | keep {form : FieldForm} {forms : List FieldForm} {fields kept : List (Text × Json)}
      {j j' : Json} (h : form.rewriting j j') (hrest : FieldsRewritten forms fields kept) :
      FieldsRewritten (form :: forms) ((form.key.toList, j) :: fields)
        ((form.key.toList, j') :: kept)
  | drop {form : FieldForm} {forms : List FieldForm} {fields kept : List (Text × Json)} {j : Json}
      (h : form.absent? = some j) (hrest : FieldsRewritten forms fields kept) :
      FieldsRewritten (form :: forms) ((form.key.toList, j) :: fields) kept

/-- A record with its fields rewritten, among other fields and in any order. -/
inductive RecordRewritten (forms : List FieldForm) : Rewriting
  | intro {fields kept others written : List (Text × Json)}
      (hkept : FieldsRewritten forms fields kept)
      (hothers : ∀ x ∈ others, ∀ form ∈ forms, x.1 ≠ form.key.toList)
      (horder : written.Perm (kept ++ others)) :
      RecordRewritten forms (.object fields) (.object written)

/-- Reading recovers what was written, in whatever way it has been rewritten. -/
structure Recovers {α : Type} (write : α → Json) (r : Rewriting) (read? : Json → Option α) :
    Prop where
  refl : ∀ a, r (write a) (write a)
  read : ∀ a j, r (write a) j → read? j = some a

/-! ### Single values, missing values and lists -/

section Values

variable {α : Type} {write : α → Json} {r : Rewriting} {read? : Json → Option α}

theorem Recovers.of_eq (h : ∀ a, read? (write a) = some a) : Recovers write Eq read? where
  refl _ := rfl
  read a j hj := by rw [← hj, h a]

theorem recovers_text : Recovers text Eq text? := .of_eq fun _ => rfl

theorem recovers_bool : Recovers bool Eq bool? := .of_eq fun _ => rfl

theorem recovers_uint32 : Recovers (fun n : UInt32 => ofNat n.toNat) Eq uint32? := by
  refine .of_eq fun n => ?_
  change (if n.toNat < UInt32.size then some (UInt32.ofNat n.toNat) else none) = some n
  rw [if_pos n.toNat_lt_size, UInt32.ofNat_toNat]

theorem recovers_uint64 : Recovers (fun n : UInt64 => ofNat n.toNat) Eq uint64? := by
  refine .of_eq fun n => ?_
  change (if n.toNat < UInt64.size then some (UInt64.ofNat n.toNat) else none) = some n
  rw [if_pos n.toNat_lt_size, UInt64.ofNat_toNat]

theorem recovers_int32 : Recovers (fun n : Int32 => int n.toInt) Eq int32? := by
  refine .of_eq fun n => ?_
  rw [int32?, if_pos ⟨n.minValue_le_toInt, n.toInt_le⟩, Int32.ofInt_toInt]

theorem OrNull.of_ne_null {j j' : Json} (h : OrNull r j j') (hj : j ≠ .null) : r j j' := by
  cases h with
  | null => exact absurd rfl hj
  | value _ hr => exact hr

/-- A value that is never written as `null` may be missing. -/
theorem Recovers.orNull (h : Recovers write r read?) (hnull : read? .null = none) :
    Recovers (ofOption write) (OrNull r) (optional? read?) := by
  have hwritten : ∀ a, write a ≠ .null := by
    intro a ha
    have hread := h.read a (write a) (h.refl a)
    rw [ha, hnull] at hread
    cases hread
  constructor
  · intro a?
    cases a? with
    | none => exact .null
    | some a => exact .value (hwritten a) (h.refl a)
  · intro a? j hj
    cases a? with
    | none =>
        cases hj with
        | null => rfl
        | value hne => exact absurd rfl hne
    | some a =>
        have hread := h.read a j (hj.of_ne_null (hwritten a))
        cases j with
        | null => rw [hnull] at hread; cases hread
        | _ => exact congrArg (Option.map some) hread

theorem Recovers.mapM {l : List α} {items : List Json} (h : Recovers write r read?)
    (hitems : List.Forall₂ (fun a j => r (write a) j) l items) : items.mapM read? = some l := by
  induction hitems with
  | nil => rfl
  | cons hitem _ ih => simp [h.read _ _ hitem, ih]

theorem Recovers.list (h : Recovers write r read?) :
    Recovers (fun l => array (l.map write)) (ItemsRewritten r) (list? read?) := by
  constructor
  · intro l
    refine .intro (List.forall₂_map_left_iff.2 (List.forall₂_map_right_iff.2 ?_))
    exact List.forall₂_same.2 fun a _ => h.refl a
  · intro l j hj
    cases hj with
    | intro hitems => exact h.mapM (List.forall₂_map_left_iff.1 hitems)

end Values

/-! ### Vocabularies with a member for whatever is not known -/

/-- A text that no member has for its spelling stands for the member `other`. -/
theorem recovers_orOther {α : Type} {all : List α} {spelling : α → String} {other : α}
    {read? : Json → Option α}
    (hread : ∀ t, read? (.text t) =
      some ((all.find? fun a => (spelling a).toList == t).getD other))
    (hspelling : ∀ a, read? (.ofString (spelling a)) = some a)
    (hinj : ∀ a, spelling a = spelling other → a = other) :
    Recovers (fun a => .ofString (spelling a)) (Respelled (all.map spelling) (spelling other))
      read? := by
  constructor
  · intro a
    exact .same _
  · intro a j hj
    generalize hw : ofString (spelling a) = w at hj
    cases hj with
    | same => rw [← hw, hspelling a]
    | @other t ht =>
        have ha : a = other := hinj a (String.toList_inj.1 (Json.text.inj hw))
        have hnone : all.find? (fun a => (spelling a).toList == t) = none := by
          rw [List.find?_eq_none]
          intro b hb
          simpa using ht (spelling b) (List.mem_map_of_mem hb)
        rw [hread, hnone, ha]
        rfl

/-! ### Records -/

/-- What stands under the key of a field that was written as `v`. -/
inductive FieldRead (form : FieldForm) (v : Json) : Option Json → Prop
  | given {j : Json} (h : form.rewriting v j) : FieldRead form v (some j)
  | absent (h : form.absent? = some v) : FieldRead form v none

/-- No key is added, doubled or moved. -/
theorem FieldsRewritten.keys_sublist {forms : List FieldForm} {fields kept : List (Text × Json)}
    (h : FieldsRewritten forms fields kept) :
    (kept.map Prod.fst).Sublist (forms.map fun form => form.key.toList) := by
  induction h with
  | nil => exact .slnil
  | keep _ _ ih => exact ih.cons_cons _
  | drop _ _ ih => exact ih.cons _

theorem FieldsRewritten.key_mem {forms : List FieldForm} {fields kept : List (Text × Json)}
    (h : FieldsRewritten forms fields kept) {x : Text × Json} (hx : x ∈ kept) :
    ∃ form ∈ forms, form.key.toList = x.1 :=
  List.mem_map.1 (h.keys_sublist.subset (List.mem_map_of_mem hx))

theorem toList_key_ne {form form' : FieldForm} {forms : List FieldForm}
    (hkey : form.key ∉ forms.map FieldForm.key) (hform' : form' ∈ forms) :
    form'.key.toList ≠ form.key.toList := by
  intro heq
  exact hkey (String.toList_inj.1 heq ▸ List.mem_map_of_mem hform')

theorem FieldsRewritten.keys_nodup {forms : List FieldForm} {fields kept : List (Text × Json)}
    (h : FieldsRewritten forms fields kept) (hkeys : (forms.map FieldForm.key).Nodup) :
    (kept.map Prod.fst).Nodup := by
  have htexts := hkeys.map fun _ _ => String.toList_injective
  rw [List.map_map] at htexts
  exact h.keys_sublist.nodup htexts

/-- No name is given twice. -/
theorem FieldsRewritten.length_filter_key_le_one {forms : List FieldForm}
    {fields kept : List (Text × Json)} (h : FieldsRewritten forms fields kept)
    (hkeys : (forms.map FieldForm.key).Nodup) (key : Text) :
    (kept.filter (·.1 == key)).length ≤ 1 := by
  have hcount := List.nodup_iff_count_le_one.1 (h.keys_nodup hkeys) key
  rw [List.count, List.countP_map, List.countP_eq_length_filter] at hcount
  exact hcount

/-- The fields of one name stay the same in another order and among fields of other names. -/
theorem FieldsRewritten.filter_key_eq {forms : List FieldForm}
    {fields kept others written : List (Text × Json)} (h : FieldsRewritten forms fields kept)
    (hkeys : (forms.map FieldForm.key).Nodup) {key : Text} (hothers : ∀ x ∈ others, x.1 ≠ key)
    (horder : written.Perm (kept ++ others)) :
    written.filter (·.1 == key) = kept.filter (·.1 == key) := by
  have hnone : others.filter (·.1 == key) = [] := by
    rw [List.filter_eq_nil_iff]
    intro x hx
    rw [beq_iff_eq]
    exact hothers x hx
  have hperm := horder.filter (·.1 == key)
  rw [List.filter_append, hnone, List.append_nil] at hperm
  -- A list of at most one field has no other order.
  rcases Nat.le_one_iff_eq_zero_or_eq_one.1 (h.length_filter_key_le_one hkeys key) with hzero | hone
  · rw [List.length_eq_zero_iff.1 hzero] at hperm ⊢
    exact hperm.eq_nil
  · obtain ⟨x, hx⟩ := List.length_eq_one_iff.1 hone
    rw [hx] at hperm ⊢
    exact List.perm_singleton.1 hperm

/-- Wherever the kept fields are found under their keys, each field is rewritten or left out. -/
theorem FieldsRewritten.fieldRead {forms : List FieldForm}
    {fields kept written : List (Text × Json)} (h : FieldsRewritten forms fields kept)
    (hkeys : (forms.map FieldForm.key).Nodup)
    (hfound : ∀ form ∈ forms, field? written form.key = field? kept form.key) :
    List.Forall₂ (fun form field => FieldRead form field.2 (field? written form.key))
      forms fields := by
  induction h with
  | nil => exact .nil
  | @keep form forms fields kept j j' h hrest ih =>
      rw [List.map_cons, List.nodup_cons] at hkeys
      have hhead : field? written form.key = some j' := by
        rw [hfound form List.mem_cons_self, field?, List.lookup_cons_self]
      refine .cons (hhead ▸ .given h) (ih hkeys.2 fun form' hform' => ?_)
      -- Under a later key nothing changes by the field in front.
      have hne := beq_eq_false_iff_ne.2 (toList_key_ne hkeys.1 hform')
      rw [hfound form' (List.mem_cons_of_mem _ hform'), field?, List.lookup_cons, hne]
      rfl
  | @drop form forms fields kept j h hrest ih =>
      rw [List.map_cons, List.nodup_cons] at hkeys
      have hhead : field? written form.key = none := by
        rw [hfound form List.mem_cons_self, field?, List.lookup_eq_none_iff]
        intro x hx
        obtain ⟨form', hform', hkey⟩ := hrest.key_mem hx
        rw [bne_iff_ne, ← hkey]
        exact (toList_key_ne hkeys.1 hform').symm
      refine .cons (hhead ▸ .absent h) (ih hkeys.2 fun form' hform' => ?_)
      exact hfound form' (List.mem_cons_of_mem _ hform')

theorem lookup_eq_head?_filter (fields : List (Text × Json)) (key : Text) :
    fields.lookup key = (fields.filter (·.1 == key)).head?.map Prod.snd := by
  induction fields with
  | nil => rfl
  | cons x fields ih =>
      obtain ⟨k, j⟩ := x
      by_cases hk : k = key
      · simp [hk]
      · rw [List.lookup_cons, beq_eq_false_iff_ne.2 (Ne.symm hk)]
        simpa [hk] using ih

theorem onlyField?_eq_some_iff {fields : List (Text × Json)} {key : String} {v : Option Json} :
    onlyField? fields key = some v ↔
      fields.countP (·.1 == key.toList) ≤ 1 ∧ field? fields key = v := by
  unfold onlyField?
  split
  · next h => simp [h]
  · next h => simp [h]

/-- The values of a record are read exactly if none of the keys stands more than once. -/
theorem values?_object_eq_some_iff {keys : List String} {least : Nat} {fields : List (Text × Json)}
    {found : List (Option Json)} :
    values? keys least (.object fields) = some found ↔
      (∀ key ∈ keys, fields.countP (·.1 == key.toList) ≤ 1) ∧ keys.map (field? fields) = found := by
  rw [values?]
  induction keys generalizing found with
  | nil => simp
  | cons key keys ih =>
      simp only [List.mapM_cons, Option.bind_eq_bind, Option.bind_eq_some_iff, ih,
        onlyField?_eq_some_iff, Option.pure_def, Option.some.injEq, List.forall_mem_cons,
        List.map_cons]
      constructor
      · rintro ⟨v, ⟨hkey, hv⟩, rest, ⟨hkeys, hrest⟩, rfl⟩
        exact ⟨⟨hkey, hkeys⟩, by rw [hv, hrest]⟩
      · rintro ⟨⟨hkey, hkeys⟩, rfl⟩
        exact ⟨_, ⟨hkey, rfl⟩, _, ⟨hkeys, rfl⟩, rfl⟩

example (j j' : Json) : values? ["title"] 0 (ofFields [("title", j), ("title", j')]) = none := rfl

/-- A rewritten record is read, and what stands under its keys is what was written there. -/
theorem RecordRewritten.found {forms : List FieldForm} {fields : List (String × Json)} {j : Json}
    (h : RecordRewritten forms (ofFields fields) j) (keys : List String)
    (hforms : forms.map FieldForm.key = keys) (hkeys : keys.Nodup) (least : Nat) :
    ∃ written, values? keys least j = some (keys.map (field? written)) ∧
      List.Forall₂ (fun form field => FieldRead form field.2 (field? written form.key))
        forms fields := by
  subst hforms
  cases h with
  | @intro _ kept others written hkept hothers horder =>
      have hnamed : ∀ form ∈ forms,
          written.filter (·.1 == form.key.toList) = kept.filter (·.1 == form.key.toList) :=
        fun form hform => hkept.filter_key_eq hkeys (fun x hx => hothers x hx form hform) horder
      refine ⟨written, values?_object_eq_some_iff.2 ⟨?_, rfl⟩,
        List.forall₂_map_right_iff.1 (hkept.fieldRead hkeys ?_)⟩
      · intro key hkey
        obtain ⟨form, hform, rfl⟩ := List.mem_map.1 hkey
        rw [List.countP_eq_length_filter, hnamed form hform]
        exact hkept.length_filter_key_le_one hkeys form.key.toList
      · intro form hform
        rw [field?, field?, lookup_eq_head?_filter, lookup_eq_head?_filter, hnamed form hform]

/-- A record is one of its own rewritings if its values are. -/
theorem RecordRewritten.refl {forms : List FieldForm} {fields : List (String × Json)}
    (hkeys : forms.map FieldForm.key = fields.map Prod.fst)
    (h : List.Forall₂ (fun form field => form.rewriting field.2 field.2) forms fields) :
    RecordRewritten forms (ofFields fields) (ofFields fields) := by
  have hkept : FieldsRewritten forms (fields.map fun f => (f.1.toList, f.2))
      (fields.map fun f => (f.1.toList, f.2)) := by
    induction h with
    | nil => exact .nil
    | @cons form field _ _ h _ ih =>
        obtain ⟨key, j⟩ := field
        obtain ⟨rfl, hrest⟩ := List.cons.inj hkeys
        exact .keep h (ih hrest)
  have hothers : ∀ x ∈ ([] : List (Text × Json)), ∀ form ∈ forms, x.1 ≠ form.key.toList := by simp
  exact .intro hkept hothers (by simp)

theorem bind_of_eq_some {α β : Type} {x : Option α} {f : α → Option β} {a : α} {y : Option β}
    (hx : x = some a) (hy : f a = y) : x >>= f = y := by
  rw [hx]
  exact hy

section FieldRead

variable {α : Type} {write : α → Json} {r : Rewriting} {read? : Json → Option α}
  {key : String} {found : Option Json}

theorem Recovers.required {a : α} (h : Recovers write r read?)
    (hfound : FieldRead (.required key r) (write a) found) : required? read? found = some a := by
  cases hfound with
  | given hj => exact h.read a _ hj
  | absent hj => cases hj

theorem Recovers.optional {a d : α} (h : Recovers write r read?)
    (hfound : FieldRead (.optional key r (write d)) (write a) found) :
    orElse? read? d found = some a := by
  cases hfound with
  | given hj => exact h.read a _ hj
  | absent hj =>
      have hd := h.read d _ (h.refl d)
      rw [Option.some.inj hj, h.read a _ (h.refl a)] at hd
      exact hd.symm

theorem Recovers.nullable {a? : Option α} (h : Recovers write r read?) (hnull : read? .null = none)
    (hfound : FieldRead (.nullable key r) (ofOption write a?) found) :
    nullable? read? found = some a? :=
  (h.orNull hnull).optional (d := none) hfound

end FieldRead

end MediaNaming.Json
