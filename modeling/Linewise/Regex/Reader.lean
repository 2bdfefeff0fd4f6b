import Linewise.Regex.Reader.Class
import Linewise.Unicode.Derived

namespace Linewise.Regex

def flagOfLetter? (c : Char) : Option Flag :=
  match c with
  | 'i' => some .anyCase
  | 'm' => some .manyLines
  | 's' => some .dotAll
  | 'U' => some .swapGreed
  | 'u' => some .unicode
  | 'R' => some .returns
  | 'x' => some .spaced
  | _ => none

/-- The flags of a group, up to the sign that ends them: a colon, or the parenthesis that closes
the group. `afterHyphen` says whether a hyphen came last, and `negated` whether one came at all. -/
def readFlags (change : FlagChange) (negated afterHyphen : Bool) :
    List Char → Option ((FlagChange × Char) × List Char)
  | [] => none
  | c :: rest =>
    if c == ':' || c == ')' then if afterHyphen then none else some ((change.reverse, c), rest)
    else if c == '-' then if negated then none else readFlags change true true rest
    else
      match flagOfLetter? c with
      | none => none
      | some flag =>
        if change.any (·.1 == flag) then none
        else readFlags ((flag, !negated) :: change) negated false rest

def startsName (c : Char) : Bool := c == '_' || alphabetic.contains c

def continuesName (c : Char) : Bool :=
  c == '_' || c == '.' || c == '[' || c == ']' || alphabetic.contains c ||
    Category.number.contains c

def readGroupName (text : List Char) : Option (List Char × List Char) :=
  match text.span (· != '>') with
  | (c :: name, _ :: rest) =>
    if startsName c && name.all continuesName then some (c :: name, rest) else none
  | _ => none

/-- A group that is still open: the flags it sets, and what came before it in the group around it,
with the last first. -/
structure OpenGroup where
  apart : Bool
  change : FlagChange
  choices : List Form
  items : List Form
  spaced : Bool

/-- How far a pattern has been read: the finished choices of the group that is open, the items of
its next choice, the groups around it, and the names of groups so far, all with the last first. -/
structure ReaderState where
  choices : List Form
  items : List Form
  outer : List OpenGroup
  names : List (List Char)
  spaced : Bool

namespace ReaderState

def start : ReaderState := ⟨[], [], [], [], false⟩

def add (state : ReaderState) (item : Form) : ReaderState :=
  { state with items := item :: state.items }

def row (state : ReaderState) : Form := .ofRow state.items.reverse

def body (state : ReaderState) : Form := .ofChoice (state.row :: state.choices).reverse

def enter (state : ReaderState) (apart : Bool) (change : FlagChange) : ReaderState :=
  { state with
    choices := []
    items := []
    outer := ⟨apart, change, state.choices, state.items, state.spaced⟩ :: state.outer
    spaced := (change.lookup .spaced).getD state.spaced }

def leave? (state : ReaderState) : Option ReaderState :=
  match state.outer with
  | [] => none
  | opened :: outer =>
    some { state with
      choices := opened.choices
      items := .group opened.apart opened.change state.body :: opened.items
      outer := outer
      spaced := opened.spaced }

def repeatLast? (state : ReaderState) (least : Nat) (most? : Option Nat) (greedy : Bool) :
    Option ReaderState :=
  match state.items with
  | [] => none
  | item :: items =>
    if item.canRepeat then
      some { state with items := .repetition item least most? greedy :: items }
    else none

end ReaderState

/-- What is left behind the sign that makes a repetition lazy, and whether there is none. -/
def readGreed : List Char → Bool × List Char
  | '?' :: rest => (false, rest)
  | rest => (true, rest)

def readGroupStart (state : ReaderState) (text : List Char) :
    Option (ReaderState × List Char) :=
  let named (rest : List Char) : Option (ReaderState × List Char) := do
    let (name, rest) ← readGroupName rest
    if state.names.contains name then none
    else some ({ state.enter true [] with names := name :: state.names }, rest)
  match text with
  | '?' :: 'P' :: '<' :: rest => named rest
  | '?' :: '<' :: rest => named rest
  | '?' :: rest => do
    let ((change, closer), rest) ← readFlags [] false false rest
    if closer == ':' then some (state.enter false change, rest)
    else if change.isEmpty then none
    else
      let spaced := (change.lookup .spaced).getD state.spaced
      some ({ state with spaced := spaced }.add (.flags change), rest)
  | rest => some (state.enter true [], rest)

def stepPattern (state : ReaderState) : List Char → Option (ReaderState × List Char)
  | [] => none
  | '(' :: rest => readGroupStart state (skipSpacing state.spaced rest)
  | ')' :: rest => state.leave?.map fun state ↦ (state, rest)
  | '|' :: rest =>
    some ({ state with choices := state.row :: state.choices, items := [] }, rest)
  | '[' :: rest => (readClass state.spaced rest).map fun (form, rest) ↦ (state.add form, rest)
  | '?' :: rest => repetition 0 (some 1) rest
  | '*' :: rest => repetition 0 none rest
  | '+' :: rest => repetition 1 none rest
  | '\x7b' :: rest => do
    let ((least, most?), rest) ← readBounds state.spaced rest
    repetition least most? (skipSpacing state.spaced rest)
  | '\\' :: rest => (readEscape state.spaced rest).map fun (form, rest) ↦ (state.add form, rest)
  | '.' :: rest => some (state.add .dot, rest)
  | '^' :: rest => some (state.add (.look .caret), rest)
  | '$' :: rest => some (state.add (.look .dollar), rest)
  | c :: rest => some (state.add (.char ⟨c, false⟩), rest)
where
  repetition (least : Nat) (most? : Option Nat) (rest : List Char) :
      Option (ReaderState × List Char) :=
    let (greedy, rest) := readGreed rest
    (state.repeatLast? least most? greedy).map fun state ↦ (state, rest)

/-- The rest of a pattern. `bound` is the number of steps left; each step reads a character at
least, so the length of the text is enough. -/
def readRest : (bound : Nat) → ReaderState → List Char → Option Form
  | bound, state, text =>
    match bound, skipSpacing state.spaced text with
    | _, [] => if state.outer.isEmpty then some state.body else none
    | 0, _ :: _ => none
    | bound + 1, c :: rest => do
      let (state, rest) ← stepPattern state (c :: rest)
      readRest bound state rest

def readForm? (pattern : String) : Option Form :=
  let text := pattern.toList
  (readRest text.length .start text).filter fun form ↦ form.depth ≤ Form.depthLimit

end Linewise.Regex
