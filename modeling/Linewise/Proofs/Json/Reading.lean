import Linewise.Proofs.Json.Count
import Linewise.Proofs.Json.Value

namespace Linewise.Json

variable {α β σ : Type}

/-- The reader finds what the value stands for, wherever the value is written. -/
def Reads (read : Reader α) (value : Value) (found : α) : Prop :=
  ∀ rest, Closes rest → read (value.write.map some ++ rest) = .ok (found, rest)

/-- All that the reader finds has the property. -/
def Finds (read : Reader α) (property : α → Prop) : Prop :=
  ∀ source found rest, read source = .ok (found, rest) → property found

theorem closes_nil : Closes [] := by simp [Closes]

theorem closes_comma (rest : Source) : Closes (some ',' :: rest) := by
  rintro unit ⟨rfl⟩
  exact .inl rfl

theorem closes_list (rest : Source) : Closes (some ']' :: rest) := by
  rintro unit ⟨rfl⟩
  exact .inr (.inl rfl)

theorem closes_object (rest : Source) : Closes (some '\x7d' :: rest) := by
  rintro unit ⟨rfl⟩
  exact .inr (.inr rfl)

section

variable {read : Reader α} {value : Value} {found : α}

theorem Reads.map (h : Reads read value found) (f : α → β) :
    Reads (fun source ↦ (read source).map fun (item, rest) ↦ (f item, rest)) value (f found) := by
  intro rest hrest
  dsimp only
  rw [h rest hrest]
  rfl

theorem Finds.map {property : α → Prop} (h : Finds read property) (f : α → β)
    {property' : β → Prop} (hf : ∀ item, property item → property' (f item)) :
    Finds (fun source ↦ (read source).map fun (item, rest) ↦ (f item, rest)) property' := by
  intro source found rest hfound
  obtain ⟨⟨item, later⟩, hitem, hpair⟩ := map_eq_ok_iff.1 hfound
  obtain ⟨rfl, -⟩ := Prod.mk.inj hpair
  exact hf item (h source item later hitem)

theorem Finds.mono {property property' : α → Prop} (h : Finds read property)
    (hle : ∀ item, property item → property' item) : Finds read property' := by
  intro source found rest hfound
  exact hle found (h source found rest hfound)

theorem Reads.readDocument (h : Reads read value found) :
    readDocument read (.ofString (String.ofList value.write)) = .ok found := by
  have hread := h [] closes_nil
  rw [List.append_nil] at hread
  rw [Json.readDocument, Source.ofString, String.toList_ofList, hread]
  rfl

theorem Finds.readDocument {property : α → Prop} (h : Finds read property) {source : Source}
    (hfound : readDocument read source = .ok found) : property found := by
  obtain ⟨⟨item, rest⟩, hitem, hend⟩ := bind_eq_ok_iff.1 hfound
  dsimp only at hend
  split at hend
  · obtain rfl := Except.ok.inj hend
    exact h source item rest hitem
  · cases hend

end

theorem reads_text (text : String) : Reads readString (.text text) text := by
  intro rest _
  exact readString_writeText text rest

theorem reads_truth (value : Bool) : Reads readBool (.truth value) value := by
  intro rest _
  cases value <;> rfl

theorem reads_count {n : Nat} (hn : n < 2 ^ 64) : Reads readCount (.count n) n := by
  intro rest hrest
  exact readCount_repr hrest hn

theorem finds_any (read : Reader α) : Finds read fun _ ↦ True := by
  intro _ _ _ _
  trivial

theorem finds_count : Finds readCount (· < 2 ^ 64) := by
  intro source n rest h
  exact lt_of_readCount h

theorem reads_optional (text : String) :
    Reads (readOptional readString) (.text text) (some text) := by
  intro rest hrest
  exact (reads_text text).map some rest hrest

theorem exists_head_write (value : Value) :
    ∃ c chars, value.write = c :: chars ∧ isSpacing (some c) = false ∧ c ≠ ']' := by
  cases value with
  | text value => exact ⟨'"', _, rfl, rfl, by decide⟩
  | truth value => cases value <;> exact ⟨_, _, rfl, rfl, by decide⟩
  | count value =>
    obtain ⟨c, chars, hchars, hc⟩ := exists_digit_repr value
    refine ⟨c, chars, hchars, isSpacing_of_isDigit hc, ?_⟩
    rintro rfl
    exact absurd hc (by decide)
  | list items => exact ⟨'[', _, rfl, rfl, by decide⟩
  | object members => exact ⟨'\x7b', _, rfl, rfl, by decide⟩

theorem nextItem_write (first : Bool) (value : Value) (rest : Source) :
    nextItem first ((comma first).map some ++ (value.write.map some ++ rest)) =
      .ok (true, value.write.map some ++ rest) := by
  obtain ⟨c, chars, hwrite, hspacing, hc⟩ := exists_head_write value
  have hskip := skipBlanks_of_not_spacing hspacing (chars.map some ++ rest)
  rw [hwrite, List.map_cons, List.cons_append]
  cases first with
  | true => simp [nextItem, comma, hskip, hc]
  | false =>
    have hcomma : skipBlanks (some ',' :: some c :: (chars.map some ++ rest)) =
        some ',' :: some c :: (chars.map some ++ rest) := rfl
    simp [nextItem, comma, hcomma, hskip, hc]

section

variable {read : Reader α} {items : List Value} {found : List α}

theorem readItems_writeItems (h : List.Forall₂ (Reads read) items found) (rest : Source) :
    ∀ (first : Bool) (fuel : Nat), items.length < fuel →
      readItems read fuel first ((Value.writeItems first items).map some ++ some ']' :: rest) =
        .ok (found, rest) := by
  -- What is behind an item is the comma of the next or the end of the list, so the item reads back.
  induction h with
  | nil =>
    intro first fuel hfuel
    obtain ⟨fuel, rfl⟩ := Nat.exists_eq_add_of_lt hfuel
    rfl
  | @cons item value items found hitem hitems ih =>
    intro first fuel hfuel
    obtain ⟨fuel, rfl⟩ := Nat.exists_eq_add_of_lt hfuel
    have hcloses : Closes ((Value.writeItems false items).map some ++ some ']' :: rest) := by
      cases items with
      | nil => exact closes_list rest
      | cons item items => exact closes_comma _
    have hrest := ih false (items.length + 1 + fuel) (by omega)
    rw [Value.writeItems, List.map_append, List.map_append, List.append_assoc, List.append_assoc,
      readItems, nextItem_write]
    simp only [bind, Except.bind]
    rw [hitem _ hcloses]
    dsimp only
    rw [List.length_cons, hrest]

theorem length_le_writeItems (first : Bool) (items : List Value) :
    items.length ≤ (Value.writeItems first items).length := by
  induction items generalizing first with
  | nil => exact Nat.le_refl 0
  | cons item items ih =>
    have hrest := ih false
    obtain ⟨c, chars, hwrite, -, -⟩ := exists_head_write item
    simp only [Value.writeItems, hwrite, List.length_append, List.length_cons]
    omega

theorem reads_list (h : List.Forall₂ (Reads read) items found) :
    Reads (readList (some read)) (.list items) found := by
  intro rest _
  have hlength := length_le_writeItems true items
  have hskip : skipBlanks ((Value.write (.list items)).map some ++ rest) =
      some '[' :: ((Value.writeItems true items).map some ++ some ']' :: rest) := by
    simp only [Value.write, List.map_append, List.map_cons, List.map_nil, List.cons_append,
      List.append_assoc, List.nil_append]
    rfl
  rw [readList, hskip]
  apply readItems_writeItems h rest
  rw [List.length_append, List.length_map, List.length_cons]
  omega

theorem finds_readItems {property : α → Prop} (h : Finds read property) (fuel : Nat)
    (first : Bool) : Finds (readItems read fuel first) (∀ item ∈ ·, property item) := by
  induction fuel generalizing first with
  | zero =>
    intro source found rest hfound
    cases hfound
  | succ fuel ih =>
    intro source found rest hfound
    obtain ⟨⟨more, later⟩, -, hfound⟩ := bind_eq_ok_iff.1 hfound
    cases more with
    | false =>
      obtain ⟨_, -, hpair⟩ := bind_eq_ok_iff.1 hfound
      obtain ⟨rfl, -⟩ := Prod.mk.inj (Except.ok.inj hpair)
      exact List.forall_mem_nil property
    | true =>
      obtain ⟨⟨item, later⟩, hitem, hfound⟩ := bind_eq_ok_iff.1 hfound
      obtain ⟨⟨items, later⟩, hitems, hpair⟩ := bind_eq_ok_iff.1 hfound
      obtain ⟨rfl, -⟩ := Prod.mk.inj (Except.ok.inj hpair)
      exact List.forall_mem_cons.2 ⟨h _ _ _ hitem, ih false _ _ _ hitems⟩

theorem finds_list {property : α → Prop} (h : Finds read property) :
    Finds (readList (some read)) (∀ item ∈ ·, property item) := by
  intro source found rest hfound
  unfold readList at hfound
  split at hfound
  · exact finds_readItems h _ true _ _ _ hfound
  · cases hfound

theorem finds_readList_none : Finds (readList (none : Option (Reader α))) fun _ ↦ False := by
  intro source found rest hfound
  unfold readList at hfound
  split at hfound <;> cases hfound

end

/-- Members whose values are put into the draft one after the other and lead to the last draft. -/
inductive Fills (fields : List (Field σ)) : List (String × Value) → σ → σ → Prop where
  | nil (draft : σ) : Fills fields [] draft draft
  | cons {field : Field σ} {key : String} {value : Value} {put : σ → σ}
      {members : List (String × Value)} {draft last : σ}
      (hfield : fields.find? (·.name == key) = some field) (hnew : field.isSet draft = false)
      (hvalue : Reads field.read value put) (hrest : Fills fields members (put draft) last) :
      Fills fields ((key, value) :: members) draft last

theorem Fills.append {fields : List (Field σ)} {members members' : List (String × Value)}
    {draft middle last : σ} (h : Fills fields members draft middle)
    (h' : Fills fields members' middle last) : Fills fields (members ++ members') draft last := by
  induction h with
  | nil => exact h'
  | cons hfield hnew hvalue _ ih => exact .cons hfield hnew hvalue (ih h')

theorem nextKey_writeText (first : Bool) (key : String) (rest : Source) :
    nextKey first ((comma first).map some ++ ((writeText key).map some ++ rest)) =
      .ok (some key, rest) := by
  have hkey : nextKey.key ((key.toList.flatMap writtenChar ++ ['"']).map some ++ rest) =
      .ok (some key, rest) := by
    rw [nextKey.key, readText_written]
    rfl
  cases first <;> exact hkey

section

variable {fields : List (Field σ)} {members : List (String × Value)} {blank draft last : σ}

theorem readByKey_writeMembers (h : Fills fields members draft last) (rest : Source) :
    ∀ (first : Bool) (fuel : Nat), members.length < fuel →
      readByKey fields fuel first draft
        ((Value.writeMembers first members).map some ++ some '\x7d' :: rest) =
          .ok (last, rest) := by
  induction h with
  | nil draft =>
    intro first fuel hfuel
    obtain ⟨fuel, rfl⟩ := Nat.exists_eq_add_of_lt hfuel
    rfl
  | @cons field key value put members draft last hfield hnew hvalue hmembers ih =>
    intro first fuel hfuel
    obtain ⟨fuel, rfl⟩ := Nat.exists_eq_add_of_lt hfuel
    have hcloses : Closes ((Value.writeMembers false members).map some ++ some '\x7d' :: rest) := by
      cases members with
      | nil => exact closes_object rest
      | cons member members => exact closes_comma _
    have hcolon (source : Source) : readColon (some ':' :: source) = .ok source := rfl
    have hrest := ih false (members.length + 1 + fuel) (by omega)
    simp only [Value.writeMembers, List.map_append, List.map_cons, List.append_assoc,
      List.cons_append]
    rw [readByKey, nextKey_writeText]
    simp only [bind, Except.bind]
    rw [hfield]
    dsimp only
    rw [if_neg (by simp [hnew]), hcolon]
    dsimp only
    rw [hvalue _ hcloses]
    dsimp only
    rw [List.length_cons, hrest]

theorem length_le_writeMembers (first : Bool) (members : List (String × Value)) :
    members.length ≤ (Value.writeMembers first members).length := by
  induction members generalizing first with
  | nil => exact Nat.le_refl 0
  | cons member members ih =>
    have hrest := ih false
    obtain ⟨key, value⟩ := member
    simp only [Value.writeMembers, List.length_append, List.length_cons]
    omega

/-- A record reads back from an object whose members fill the draft and leave no required field
out. -/
theorem reads_object {name : String} (h : Fills fields members blank last)
    (hmissing : missingField? fields last = none) :
    Reads (readRecord name (some fields) blank) (.object members) last := by
  intro rest _
  have hlength := length_le_writeMembers true members
  have hskip : skipBlanks ((Value.write (.object members)).map some ++ rest) =
      some '\x7b' :: ((Value.writeMembers true members).map some ++ some '\x7d' :: rest) := by
    simp only [Value.write, List.map_append, List.map_cons, List.map_nil, List.cons_append,
      List.append_assoc, List.nil_append]
    rfl
  have hread := readByKey_writeMembers h rest true
    ((Value.writeMembers true members).map some ++ some '\x7d' :: rest).length (by
      rw [List.length_append, List.length_map, List.length_cons]
      omega)
  unfold readRecord
  rw [hskip]
  simp only [bind, Except.bind]
  rw [hread]
  dsimp only
  rw [hmissing]

def Keeps (fields : List (Field σ)) (property : σ → Prop) : Prop :=
  ∀ field ∈ fields, Finds field.read fun put ↦ ∀ draft, property draft → property (put draft)

variable {property : σ → Prop}

theorem Keeps.nil : Keeps [] property := List.forall_mem_nil _

theorem Keeps.cons {name : String} {required : Bool} {get : σ → Option α}
    {put : Option α → σ → σ} {read : Reader α} {wanted : α → Prop} (h : Finds read wanted)
    (hput : ∀ value, wanted value → ∀ draft, property draft → property (put (some value) draft))
    (hfields : Keeps fields property) :
    Keeps (.of name required get put read :: fields) property := by
  have hfield : Finds (Field.of name required get put read).read fun put ↦
      ∀ draft, property draft → property (put draft) :=
    h.map (fun value ↦ put (some value)) hput
  exact List.forall_mem_cons.2 ⟨hfield, hfields⟩

theorem finds_readInOrder {name : String} {count : Nat} (h : Keeps fields property) :
    ∀ index draft, property draft →
      Finds (readInOrder name count index fields draft) property := by
  induction fields with
  | nil =>
    intro index draft hdraft source found rest hfound
    obtain ⟨rfl, -⟩ := Prod.mk.inj (Except.ok.inj hfound)
    exact hdraft
  | cons field fields ih =>
    intro index draft hdraft source found rest hfound
    obtain ⟨hfield, hfields⟩ := List.forall_mem_cons.1 h
    -- The list may end before the fields do, and then the draft is left as it is.
    obtain ⟨⟨more, later⟩, -, hfound⟩ := bind_eq_ok_iff.1 hfound
    cases more with
    | true =>
      obtain ⟨⟨put, later⟩, hput, hfound⟩ := bind_eq_ok_iff.1 hfound
      exact ih hfields _ _ (hfield _ _ _ hput draft hdraft) _ _ _ hfound
    | false =>
      dsimp only at hfound
      split at hfound
      · cases hfound
      · exact ih hfields _ _ hdraft _ _ _ hfound

theorem finds_readByKey (h : Keeps fields property) (fuel : Nat) :
    ∀ first draft, property draft → Finds (readByKey fields fuel first draft) property := by
  induction fuel with
  | zero =>
    intro first draft _ source found rest hfound
    cases hfound
  | succ fuel ih =>
    intro first draft hdraft source found rest hfound
    obtain ⟨⟨key?, later⟩, -, hfound⟩ := bind_eq_ok_iff.1 hfound
    cases key? with
    | none =>
      obtain ⟨rfl, -⟩ := Prod.mk.inj (Except.ok.inj hfound)
      exact hdraft
    | some key =>
      dsimp only at hfound
      split at hfound
      · obtain ⟨_, -, hfound⟩ := bind_eq_ok_iff.1 hfound
        obtain ⟨_, -, hfound⟩ := bind_eq_ok_iff.1 hfound
        exact ih false draft hdraft _ _ _ hfound
      · next field hfield =>
        split at hfound
        · cases hfound
        · obtain ⟨_, -, hfound⟩ := bind_eq_ok_iff.1 hfound
          obtain ⟨⟨put, later⟩, hput, hfound⟩ := bind_eq_ok_iff.1 hfound
          have hkept := h field (List.mem_of_find?_eq_some hfield) _ _ _ hput draft hdraft
          exact ih false _ hkept _ _ _ hfound

/-- Whether it comes as a list or as an object, a record that is read has what its fields keep. -/
theorem finds_record {name : String} (h : Keeps fields property) (hblank : property blank) :
    Finds (readRecord name (some fields) blank) property := by
  intro source found rest hfound
  unfold readRecord at hfound
  split at hfound
  · next hfields => cases hfields
  · next hfields => cases hfields
  · next hfields =>
    obtain rfl := Option.some.inj hfields
    obtain ⟨⟨draft, later⟩, hdraft, hfound⟩ := bind_eq_ok_iff.1 hfound
    obtain ⟨_, -, hpair⟩ := bind_eq_ok_iff.1 hfound
    obtain ⟨rfl, -⟩ := Prod.mk.inj (Except.ok.inj hpair)
    exact finds_readInOrder h 0 blank hblank _ _ _ hdraft
  · next hfields =>
    obtain rfl := Option.some.inj hfields
    obtain ⟨⟨draft, later⟩, hdraft, hfound⟩ := bind_eq_ok_iff.1 hfound
    dsimp only at hfound
    split at hfound
    · cases hfound
    · obtain ⟨rfl, -⟩ := Prod.mk.inj (Except.ok.inj hfound)
      exact finds_readByKey h _ true blank hblank _ _ _ hdraft
  · cases hfound

theorem finds_readRecord_none {name : String} :
    Finds (readRecord name none blank) fun _ ↦ False := by
  intro source found rest hfound
  unfold readRecord at hfound
  split at hfound
  · cases hfound
  · cases hfound
  · next hfields => cases hfields
  · next hfields => cases hfields
  · cases hfound

end

end Linewise.Json
