import Linewise.Proofs.Json.Reading

namespace Linewise.Json

namespace Value

theorem depthOfMembers_append (members members' : List (String × Value)) :
    depthOfMembers (members ++ members') =
      max (depthOfMembers members) (depthOfMembers members') := by
  induction members with
  | nil => exact (Nat.zero_max _).symm
  | cons member members ih =>
    rw [List.cons_append, depthOfMembers, depthOfMembers, ih, Nat.max_assoc]

theorem depthOfItems_le_iff {items : List Value} {depth : Nat} :
    depthOfItems items ≤ depth ↔ ∀ item ∈ items, item.depth ≤ depth := by
  induction items with
  | nil => simp [depthOfItems]
  | cons item items ih => rw [depthOfItems, Nat.max_le, ih, List.forall_mem_cons]

theorem writeMembers_append (members members' : List (String × Value)) :
    writeMembers false (members ++ members') =
      writeMembers false members ++ writeMembers false members' := by
  induction members with
  | nil => rw [List.nil_append, writeMembers, List.nil_append]
  | cons member members ih =>
    rw [List.cons_append, writeMembers, writeMembers, ih]
    simp only [List.append_assoc, List.cons_append]

end Value

/-- The member that holds the parts of a thing. Without parts there is none. -/
def partsMembers : List Value → List (String × Value)
  | [] => []
  | part :: parts => [("parts", .list (part :: parts))]

theorem depth_partsMembers_eq_zero_iff {parts : List Value} :
    Value.depthOfMembers (partsMembers parts) = 0 ↔ parts = [] := by
  cases parts <;> simp [partsMembers, Value.depthOfMembers, Value.depth]

theorem depth_partsMembers_le_iff {parts : List Value} {depth : Nat} :
    Value.depthOfMembers (partsMembers parts) ≤ depth + 1 ↔ ∀ part ∈ parts, part.depth ≤ depth := by
  rw [← Value.depthOfItems_le_iff]
  cases parts <;> simp [partsMembers, Value.depthOfMembers, Value.depthOfItems, Value.depth]

/-- Things with parts, each of which is an object. Its parts, if it has any, come behind members in
which nothing is nested. -/
structure Parted (α : Type) where
  parts : α → List α
  value : α → Value
  values : List α → List Value
  write : α → List Char
  writeParts : List α → List Char
  writeMore : List α → List Char
  values_nil : values [] = []
  values_cons : ∀ thing things, values (thing :: things) = value thing :: values things
  writeParts_nil : writeParts [] = []
  writeParts_cons : ∀ part parts, writeParts (part :: parts) =
    ",\"parts\":[".toList ++ write part ++ writeMore parts ++ [']']
  writeMore_nil : writeMore [] = []
  writeMore_cons : ∀ thing things,
    writeMore (thing :: things) = ',' :: write thing ++ writeMore things
  exists_members : ∀ thing, ∃ member members, Value.depthOfMembers (member :: members) = 0 ∧
    value thing = .object (member :: members ++ partsMembers (values (parts thing))) ∧
    write thing = '\x7b' :: Value.writeMembers true (member :: members) ++
      writeParts (parts thing) ++ ['\x7d']

namespace Parted

variable {α : Type} (parted : Parted α) {thing : α}

theorem values_eq_map (things : List α) : parted.values things = things.map parted.value := by
  induction things with
  | nil => exact parted.values_nil
  | cons thing things ih => rw [parted.values_cons, ih, List.map_cons]

theorem depth_value : (parted.value thing).depth =
    Value.depthOfMembers (partsMembers (parted.values (parted.parts thing))) + 1 := by
  obtain ⟨member, members, hdepth, hvalue, -⟩ := parted.exists_members thing
  rw [hvalue, Value.depth, Value.depthOfMembers_append, hdepth, Nat.zero_max]

theorem depth_le_one_iff : (parted.value thing).depth ≤ 1 ↔ parted.parts thing = [] := by
  rw [depth_value, Nat.add_le_add_iff_right, Nat.le_zero, depth_partsMembers_eq_zero_iff,
    values_eq_map, List.map_eq_nil_iff]

theorem depth_le_iff {depth : Nat} : (parted.value thing).depth ≤ depth + 2 ↔
    ∀ part ∈ parted.parts thing, (parted.value part).depth ≤ depth := by
  rw [depth_value, Nat.add_le_add_iff_right, depth_partsMembers_le_iff, values_eq_map,
    List.forall_mem_map]

theorem induction {property : α → Prop}
    (h : ∀ thing, (∀ part ∈ parted.parts thing, property part) → property thing) (thing : α) :
    property thing := by
  have hdepth : ∀ depth thing, (parted.value thing).depth ≤ depth → property thing := by
    intro depth
    induction depth using Nat.twoStepInduction with
    | zero =>
      intro thing hle
      rw [depth_value] at hle
      omega
    | one =>
      intro thing hle
      apply h
      rw [parted.depth_le_one_iff.1 hle]
      exact List.forall_mem_nil _
    | more depth ih _ =>
      intro thing hle
      apply h
      intro part hpart
      exact ih part (parted.depth_le_iff.1 hle part hpart)
  exact hdepth _ thing (Nat.le_refl _)

theorem writeMore_of_write {things : List α}
    (h : ∀ thing ∈ things, parted.write thing = (parted.value thing).write) :
    parted.writeMore things = Value.writeItems false (parted.values things) := by
  induction things with
  | nil => rw [parted.writeMore_nil, parted.values_nil, Value.writeItems]
  | cons thing things ih =>
    obtain ⟨hthing, hthings⟩ := List.forall_mem_cons.1 h
    rw [parted.writeMore_cons, parted.values_cons, hthing, ih hthings, Value.writeItems]
    rfl

theorem writeParts_of_write {parts : List α}
    (h : ∀ part ∈ parts, parted.write part = (parted.value part).write) :
    parted.writeParts parts = Value.writeMembers false (partsMembers (parted.values parts)) := by
  cases parts with
  | nil => rw [parted.writeParts_nil, parted.values_nil, partsMembers, Value.writeMembers]
  | cons part parts =>
    obtain ⟨hpart, hparts⟩ := List.forall_mem_cons.1 h
    have hkey : ",\"parts\":[".toList = ',' :: (writeText "parts" ++ [':', '[']) := rfl
    rw [parted.writeParts_cons, parted.values_cons, partsMembers, hpart,
      parted.writeMore_of_write hparts, hkey]
    simp only [Value.writeMembers, Value.write, Value.writeItems, comma, List.cons_append,
      List.append_assoc, List.nil_append, List.append_nil, if_true, Bool.false_eq_true, if_false]

theorem write_eq (thing : α) : parted.write thing = (parted.value thing).write := by
  induction thing using parted.induction with
  | h thing ih =>
    obtain ⟨member, members, -, hvalue, hwrite⟩ := parted.exists_members thing
    rw [hwrite, hvalue, parted.writeParts_of_write ih, Value.write]
    simp only [Value.writeMembers, Value.writeMembers_append, List.append_assoc, List.cons_append]

theorem writeMore_eq (things : List α) :
    parted.writeMore things = Value.writeItems false (things.map parted.value) := by
  rw [← values_eq_map]
  exact parted.writeMore_of_write fun thing _ ↦ parted.write_eq thing

end Parted

/-- Things with parts, and how they are read where the list of their parts can be read or nothing
can be nested any more. `Whole` holds of all that is read. -/
structure PartedReader (α : Type) extends Parted α where
  readWith : Option (Reader (List α)) → Reader α
  read : Nat → Reader α
  read_zero : read 0 = readWith none
  read_one : read 1 = readWith (some (readList none))
  read_more : ∀ depth, read (depth + 2) = readWith (some (readList (some (read depth))))
  Whole : α → Prop
  whole_part : ∀ {thing}, Whole thing → ∀ part ∈ parts thing, Whole part
  reads : ∀ {thing readParts}, Whole thing →
    (parts thing ≠ [] → Reads readParts (.list ((parts thing).map value)) (parts thing)) →
    Reads (readWith (some readParts)) (value thing) thing
  finds : ∀ {property : α → Prop} {readParts},
    Finds readParts (∀ part ∈ ·, Whole part ∧ property part) →
    Finds (readWith (some readParts)) fun thing ↦ Whole thing ∧ ∀ part ∈ parts thing, property part
  finds_none : Finds (readWith none) fun _ ↦ False

namespace PartedReader

variable {α : Type} (reader : PartedReader α) {thing : α}

theorem reads_parts {read : Reader α} {parts : List α}
    (h : ∀ part ∈ parts, Reads read (reader.value part) part) :
    Reads (readList (some read)) (.list (parts.map reader.value)) parts := by
  apply reads_list
  rw [List.forall₂_map_left_iff, List.forall₂_same]
  exact h

theorem reads_read {depth : Nat} (hwhole : reader.Whole thing)
    (hdepth : (reader.value thing).depth ≤ depth) :
    Reads (reader.read depth) (reader.value thing) thing := by
  induction depth using Nat.twoStepInduction generalizing thing with
  | zero =>
    rw [reader.depth_value] at hdepth
    omega
  | one =>
    have hparts := reader.depth_le_one_iff.1 hdepth
    rw [reader.read_one]
    exact reader.reads hwhole fun h ↦ absurd hparts h
  | more depth ih _ =>
    have hparts := reader.depth_le_iff.1 hdepth
    rw [reader.read_more]
    apply reader.reads hwhole
    intro _
    apply reader.reads_parts
    intro part hpart
    exact ih (reader.whole_part hwhole part hpart) (hparts part hpart)

theorem finds_read (depth : Nat) : Finds (reader.read depth) fun thing ↦
    reader.Whole thing ∧ (reader.value thing).depth ≤ depth := by
  induction depth using Nat.twoStepInduction with
  | zero =>
    rw [reader.read_zero]
    exact reader.finds_none.mono fun _ h ↦ h.elim
  | one =>
    have hparts : Finds (readList (none : Option (Reader α)))
        (∀ part ∈ ·, reader.Whole part ∧ False) := finds_readList_none.mono fun _ h ↦ h.elim
    rw [reader.read_one]
    refine (reader.finds hparts).mono ?_
    intro thing hthing
    refine ⟨hthing.1, reader.depth_le_one_iff.2 ?_⟩
    exact List.eq_nil_iff_forall_not_mem.2 hthing.2
  | more depth ih _ =>
    rw [reader.read_more]
    refine (reader.finds (finds_list ih)).mono ?_
    intro thing hthing
    exact ⟨hthing.1, reader.depth_le_iff.2 hthing.2⟩

end PartedReader

end Linewise.Json
