import Linewise.Regex.Reader.Escape
import Linewise.Unicode.Table

namespace Linewise.Regex

def asciiSets : List (String × CharSet) := [
  ("alnum", .ofTable ["30-39 41-5a 61-7a"]),
  ("alpha", .ofTable ["41-5a 61-7a"]),
  ("ascii", .ofTable ["0-7f"]),
  ("blank", .ofTable ["9 20"]),
  ("cntrl", .ofTable ["0-1f 7f"]),
  ("digit", .ofTable ["30-39"]),
  ("graph", .ofTable ["21-7e"]),
  ("lower", .ofTable ["61-7a"]),
  ("print", .ofTable ["20-7e"]),
  ("punct", .ofTable ["21-2f 3a-40 5b-60 7b-7e"]),
  ("space", .ofTable ["9-d 20"]),
  ("upper", .ofTable ["41-5a"]),
  ("word", .ofTable ["30-39 41-5a 5f 61-7a"]),
  ("xdigit", .ofTable ["30-39 41-46 61-66"])]

def readAsciiSet? (text : List Char) : Option (ClassForm × List Char) :=
  match text with
  | ':' :: rest => do
    let (negated, rest) :=
      match rest with
      | '^' :: rest => (true, rest)
      | _ => (false, rest)
    let (name, rest) := rest.span (· != ':')
    let set ← asciiSets.lookup (String.ofList name)
    match rest with
    | ':' :: ']' :: rest => some (.asciiSet set negated, rest)
    | _ => none
  | _ => none

/-- A class whose bracket is still open: whether it is negated, its items so far with the last one
first, and the operator before them with what stands to its left. -/
structure OpenClass where
  negated : Bool
  items : List ClassForm
  pending? : Option (SetOperator × ClassForm)

namespace OpenClass

def add (level : OpenClass) (item : ClassForm) : OpenClass :=
  { level with items := item :: level.items }

def content (level : OpenClass) : ClassForm :=
  match level.pending? with
  | none => .ofItems level.items
  | some (operator, left) => .operation operator left (.ofItems level.items)

def operate (level : OpenClass) (operator : SetOperator) : OpenClass :=
  { level with items := [], pending? := some (operator, level.content) }

end OpenClass

/-- The start of a class, behind its bracket. Hyphens there stand for themselves, and so does a
closing bracket if it comes first. -/
def readClassStart (spaced : Bool) (text : List Char) : Option (OpenClass × List Char) :=
  let (negated, rest) :=
    match skipSpacing spaced text with
    | '^' :: rest => (true, rest)
    | rest => (false, rest)
  let (hyphens, rest) := takeCounted spaced (· == '-') false rest
  let items := hyphens.map fun c ↦ ClassForm.char ⟨c, false⟩
  match rest with
  | [] => none
  | ']' :: rest =>
    if items.isEmpty then some (⟨negated, [.char ⟨']', false⟩], none⟩, rest)
    else some (⟨negated, items, none⟩, ']' :: rest)
  | rest => some (⟨negated, items, none⟩, rest)

def readClassAtom (spaced : Bool) : List Char → Option (ClassForm × List Char)
  | [] => none
  | '\\' :: rest => do
    match ← readEscape spaced rest with
    | (.char c, rest) => some (.char c, rest)
    | (.letterClass which negated, rest) => some (.letterClass which negated, rest)
    | (.named name negated, rest) => some (.named name negated, rest)
    | _ => none
  | c :: rest => some (.char ⟨c, false⟩, rest)

/-- The character behind a hyphen that decides whether it makes a range. Of a spaced pattern's
remarks only the first sign is passed over. -/
def peekBehindHyphen (spaced : Bool) (text : List Char) : Option Char :=
  if spaced then
    let rest :=
      match text.dropWhile isBlank with
      | '#' :: rest => rest.dropWhile isBlank
      | rest => rest
    rest.head? <|> text.head?
  else text.head?

def readClassItem (spaced : Bool) (text : List Char) : Option (ClassForm × List Char) := do
  let (first, rest) ← readClassAtom spaced text
  match skipSpacing spaced rest with
  | [] => none
  | '-' :: rest =>
    let decider := peekBehindHyphen spaced rest
    if decider == some ']' || decider == some '-' then some (first, '-' :: rest)
    else
      match first, ← readClassAtom spaced (skipSpacing spaced rest) with
      | .char first, (.char last, rest) =>
        if first.char ≤ last.char then some (.range first last, rest) else none
      | _, _ => none
  | rest => some (first, rest)

def stepClass (spaced : Bool) (level : OpenClass) (outer : List OpenClass) (text : List Char) :
    Option ((OpenClass × List OpenClass ⊕ Form) × List Char) :=
  match skipSpacing spaced text with
  | [] => none
  | '[' :: rest =>
    match readAsciiSet? rest with
    | some (item, rest) => some (.inl (level.add item, outer), rest)
    | none => do
      let (inner, rest) ← readClassStart spaced rest
      some (.inl (inner, level :: outer), rest)
  | ']' :: rest =>
    match outer with
    | [] => some (.inr (.bracketed level.negated level.content), rest)
    | enclosing :: outer =>
      some (.inl (enclosing.add (.bracketed level.negated level.content), outer), rest)
  | '&' :: '&' :: rest => some (.inl (level.operate .intersection, outer), rest)
  | '-' :: '-' :: rest => some (.inl (level.operate .difference, outer), rest)
  | '~' :: '~' :: rest => some (.inl (level.operate .exclusive, outer), rest)
  | rest => do
    let (item, rest) ← readClassItem spaced rest
    some (.inl (level.add item, outer), rest)

/-- The rest of a class. `bound` is the number of steps left; each step reads a character at least,
so the length of the text is enough. -/
def readClassRest (spaced : Bool) : (bound : Nat) → OpenClass → List OpenClass → List Char →
    Option (Form × List Char)
  | 0, _, _, _ => none
  | bound + 1, level, outer, text => do
    match ← stepClass spaced level outer text with
    | (.inr form, rest) => some (form, rest)
    | (.inl (level, outer), rest) => readClassRest spaced bound level outer rest

def readClass (spaced : Bool) (text : List Char) : Option (Form × List Char) := do
  let (level, rest) ← readClassStart spaced text
  readClassRest spaced rest.length level [] rest

end Linewise.Regex
