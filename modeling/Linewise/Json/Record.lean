import Linewise.Json.Skip

namespace Linewise.Json

def wrongKind (wanted : String) (source : Source) : Fault :=
  let found (read : Except Fault Found) : Fault :=
    match read with
    | .ok found => .wrongKind found wanted
    | .error fault => fault
  match source with
  | [] => .endInValue
  | some 'n' :: rest => found ((readWord ['u', 'l', 'l'] rest).map fun _ ↦ .null)
  | some 't' :: rest => found ((readWord ['r', 'u', 'e'] rest).map fun _ ↦ .bool true)
  | some 'f' :: rest => found ((readWord ['a', 'l', 's', 'e'] rest).map fun _ ↦ .bool false)
  | some '"' :: rest => found ((readText rest).map fun (text, _) ↦ .string text)
  | some '[' :: _ => .wrongKind .list wanted
  | some '\x7b' :: _ => .wrongKind .object wanted
  | unit :: rest =>
    if unit == some '-' || (digit? unit).isSome then
      found ((readNumber (unit :: rest)).map fun (number, _) ↦ number.found)
    else .expectedValue

abbrev Reader (α : Type) := Source → Except Fault (α × Source)

def readString : Reader String := fun source ↦
  match skipBlanks source with
  | some '"' :: rest => readText rest
  | source => .error (wrongKind "a string" source)

theorem readString_writeText (text : String) (rest : Source) :
    readString ((writeText text).map some ++ rest) = .ok (text, rest) := by
  have h : skipBlanks ((writeText text).map some ++ rest) =
      some '"' :: ((text.toList.flatMap writtenChar ++ ['"']).map some ++ rest) := rfl
  rw [readString, h]
  exact readText_written text rest

def readBool : Reader Bool := fun source ↦
  match skipBlanks source with
  | some 't' :: rest => (readWord ['r', 'u', 'e'] rest).map (true, ·)
  | some 'f' :: rest => (readWord ['a', 'l', 's', 'e'] rest).map (false, ·)
  | source => .error (wrongKind "a boolean" source)

def readCount : Reader Nat := fun source ↦
  match skipBlanks source with
  | [] => .error .endInValue
  | unit :: rest =>
    if unit == some '-' || (digit? unit).isSome then
      match readNumber (unit :: rest) with
      | .error fault => .error fault
      | .ok (.integer (.ofNat n), rest) => .ok (n, rest)
      | .ok (.integer n, _) => .error (.wrongInteger n "usize")
      | .ok (.float x, _) => .error (.wrongKind (.float x) "usize")
    else .error (wrongKind "usize" (unit :: rest))

def readOptional (read : Reader α) : Reader (Option α) := fun source ↦
  match skipBlanks source with
  | some 'n' :: rest => (readWord ['u', 'l', 'l'] rest).map (none, ·)
  | source => (read source).map fun (value, rest) ↦ (some value, rest)

/-- Whether another item of a list follows, and the source at it or at the end of the list. `first`
says whether no item has come yet. -/
def nextItem (first : Bool) (source : Source) : Except Fault (Bool × Source) :=
  match skipBlanks source with
  | [] => .error .endInList
  | some ']' :: rest => .ok (false, some ']' :: rest)
  | unit :: rest =>
    if first then .ok (true, unit :: rest)
    else if unit == some ',' then
      match skipBlanks rest with
      | [] => .error .endInValue
      | some ']' :: _ => .error .trailingComma
      | rest => .ok (true, rest)
    else .error .expectedListEnd

def endList (source : Source) : Except Fault Source :=
  match skipBlanks source with
  | [] => .error .endInList
  | some ']' :: rest => .ok rest
  | some ',' :: rest =>
    match skipBlanks rest with
    | some ']' :: _ => .error .trailingComma
    | _ => .error .trailingCharacters
  | _ => .error .trailingCharacters

/-- The items of a list up to its end. `fuel` is at least the length of the source, so none is left
only where nothing is left to read. -/
def readItems (read : Reader α) : Nat → Bool → Reader (List α)
  | 0, _, _ => .error .endInList
  | fuel + 1, first, source => do
    match ← nextItem first source with
    | (false, rest) => .ok ([], ← endList rest)
    | (true, rest) =>
      let (item, rest) ← read rest
      let (items, rest) ← readItems read fuel false rest
      .ok (item :: items, rest)

/-- A list of values. Without a reader for its items it is nested too deep. -/
def readList (item? : Option (Reader α)) : Reader (List α) := fun source ↦
  match skipBlanks source with
  | some '[' :: rest =>
    match item? with
    | none => .error .tooDeep
    | some read => readItems read rest.length true rest
  | source => .error (wrongKind "a sequence" source)

structure Field (σ : Type) where
  name : String
  required : Bool
  isSet : σ → Bool
  read : Reader (σ → σ)

def Field.of (name : String) (required : Bool) (get : σ → Option α)
    (put : Option α → σ → σ) (read : Reader α) : Field σ where
  name := name
  required := required
  isSet draft := (get draft).isSome
  read source := (read source).map fun (value, rest) ↦ (put (some value), rest)

/-- The values of the fields from a list, where `index` fields have been passed. A field that is not
required may be missing at the end. -/
def readInOrder (record : String) (count : Nat) :
    Nat → List (Field σ) → σ → Source → Except Fault (σ × Source)
  | _, [], draft, source => .ok (draft, source)
  | index, field :: fields, draft, source => do
    match ← nextItem (index == 0) source with
    | (true, rest) =>
      let (put, rest) ← field.read rest
      readInOrder record count (index + 1) fields (put draft) rest
    | (false, rest) =>
      if field.required then .error (.tooShort index record count)
      else readInOrder record count (index + 1) fields draft rest

def nextKey (first : Bool) (source : Source) : Except Fault (Option String × Source) :=
  match skipBlanks source with
  | [] => .error .endInObject
  | some '\x7d' :: rest => .ok (none, rest)
  | unit :: rest =>
    if first then
      if unit == some '"' then key rest else .error .keyNotString
    else if unit == some ',' then
      match skipBlanks rest with
      | [] => .error .endInValue
      | some '"' :: rest => key rest
      | some '\x7d' :: _ => .error .trailingComma
      | _ => .error .keyNotString
    else .error .expectedObjectEnd
where
  key (rest : Source) : Except Fault (Option String × Source) :=
    (readText rest).map fun (text, rest) ↦ (some text, rest)

/-- The values of the fields from an object. Keys of no field are passed over with their values. A
field that comes twice is at fault. -/
def readByKey (fields : List (Field σ)) :
    Nat → Bool → σ → Source → Except Fault (σ × Source)
  | 0, _, _, _ => .error .endInObject
  | fuel + 1, first, draft, source => do
    match ← nextKey first source with
    | (none, rest) => .ok (draft, rest)
    | (some key, rest) =>
      match fields.find? (·.name == key) with
      | none =>
        let rest ← skipValue (← readColon rest)
        readByKey fields fuel false draft rest
      | some field =>
        if field.isSet draft then .error (.duplicateField key)
        else
          let (put, rest) ← field.read (← readColon rest)
          readByKey fields fuel false (put draft) rest

def missingField? (fields : List (Field σ)) (draft : σ) : Option String :=
  (fields.find? fun field ↦ field.required && !field.isSet draft).map Field.name

/-- A record comes as an object with the names of its fields as keys, or as a list of their values
in order. Without fields it is nested too deep. -/
def readRecord (record : String) (fields? : Option (List (Field σ))) (blank : σ) : Reader σ :=
  fun source ↦
    match skipBlanks source, fields? with
    | some '[' :: _, none => .error .tooDeep
    | some '\x7b' :: _, none => .error .tooDeep
    | some '[' :: rest, some fields => do
      let (draft, rest) ← readInOrder record fields.length 0 fields blank rest
      .ok (draft, ← endList rest)
    | some '\x7b' :: rest, some fields => do
      let (draft, rest) ← readByKey fields rest.length true blank rest
      match missingField? fields draft with
      | some name => .error (.missingField name)
      | none => .ok (draft, rest)
    | source, _ => .error (wrongKind ("struct " ++ record) source)

def readDocument (read : Reader α) (source : Source) : Except Fault α := do
  let (value, rest) ← read source
  if (skipBlanks rest).isEmpty then .ok value else .error .trailingCharacters

def depthLimit : Nat := 127

end Linewise.Json
