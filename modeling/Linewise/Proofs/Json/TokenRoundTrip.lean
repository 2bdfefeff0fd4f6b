import Linewise.Proofs.Json.Parts
import Linewise.Proofs.TokenBounds
import Linewise.Token.Json

namespace Linewise.Token

open Json (Finds Reads Value)

/-- The places of the token and of all that it is made up of fit in 64 bits. -/
inductive Counted : Token → Prop where
  | mk {token : Token} (hstart : token.start < 2 ^ 64) (hrow : token.row < 2 ^ 64)
      (hparts : ∀ part ∈ token.parts, Counted part) : Counted token

mutual

def value : Token → Value
  | ⟨label, text, start, row, parts⟩ => .object
    ([("identifier", .text label), ("content", .text text), ("position", .count start),
      ("lineno", .count row)] ++ Json.partsMembers (values parts))

def values : List Token → List Value
  | [] => []
  | token :: tokens => token.value :: values tokens

end

def parted : Json.Parted Token where
  parts := parts
  value := value
  values := values
  write := write
  writeParts := writeParts
  writeMore := writeMore
  values_nil := rfl
  values_cons _ _ := rfl
  writeParts_nil := rfl
  writeParts_cons _ _ := rfl
  writeMore_nil := rfl
  writeMore_cons _ _ := rfl
  exists_members := by
    intro token
    obtain ⟨label, text, start, row, parts⟩ := token
    have hlabel : "\x7b\"identifier\":".toList =
      '\x7b' :: (Json.writeText "identifier" ++ [':']) := rfl
    have htext : ",\"content\":".toList = ',' :: (Json.writeText "content" ++ [':']) := rfl
    have hstart : ",\"position\":".toList = ',' :: (Json.writeText "position" ++ [':']) := rfl
    have hrow : ",\"lineno\":".toList = ',' :: (Json.writeText "lineno" ++ [':']) := rfl
    refine ⟨("identifier", .text label),
      [("content", .text text), ("position", .count start), ("lineno", .count row)], rfl, rfl, ?_⟩
    rw [write.eq_def]
    simp only [hlabel, htext, hstart, hrow, Value.writeMembers, Value.write, Json.comma,
      List.cons_append, List.append_assoc, List.nil_append, if_true, Bool.false_eq_true, if_false]

theorem value_eq (token : Token) : token.value = .object
    ([("identifier", .text token.label), ("content", .text token.text),
      ("position", .count token.start), ("lineno", .count token.row)] ++
      Json.partsMembers (token.parts.map value)) := by
  obtain ⟨label, text, start, row, parts⟩ := token
  have hvalues : values parts = parts.map value := parted.values_eq_map parts
  rw [value, hvalues]

theorem reads_value {token : Token} {readParts : Json.Reader (List Token)}
    (hcounted : token.Counted)
    (h : token.parts ≠ [] → Reads readParts (.list (token.parts.map value)) token.parts) :
    Reads (read.readWith (some readParts)) token.value token := by
  obtain ⟨hstart, hrow, -⟩ := hcounted
  obtain ⟨label, text, start, row, parts⟩ := token
  have hlabel := (Json.reads_text label).map fun label (draft : Draft) ↦
    { draft with label? := some label }
  have htext := (Json.reads_text text).map fun text (draft : Draft) ↦
    { draft with text? := some text }
  have hstart := (Json.reads_count hstart).map fun start (draft : Draft) ↦
    { draft with start? := some start }
  have hrow := (Json.reads_count hrow).map fun row (draft : Draft) ↦
    { draft with row? := some row }
  have hplain : Json.Fills (Draft.fields readParts)
      [("identifier", .text label), ("content", .text text), ("position", .count start),
        ("lineno", .count row)] .blank ⟨some label, some text, some start, some row, none⟩ :=
    .cons rfl rfl hlabel (.cons rfl rfl htext (.cons rfl rfl hstart (.cons rfl rfl hrow (.nil _))))
  rw [value_eq]
  cases parts with
  | nil => exact (Json.reads_object hplain rfl).map Draft.token
  | cons part parts =>
    have hparts := (h (List.cons_ne_nil part parts)).map fun parts (draft : Draft) ↦
      { draft with parts? := some parts }
    have hlast : Json.Fills (Draft.fields readParts)
        [("parts", .list ((part :: parts).map value))]
        ⟨some label, some text, some start, some row, none⟩
        ⟨some label, some text, some start, some row, some (part :: parts)⟩ :=
      .cons rfl rfl hparts (.nil _)
    exact (Json.reads_object (hplain.append hlast) rfl).map Draft.token

structure Draft.Keeps (draft : Draft) (property : List Token → Prop) : Prop where
  start : ∀ start ∈ draft.start?, start < 2 ^ 64
  row : ∀ row ∈ draft.row?, row < 2 ^ 64
  parts : ∀ parts ∈ draft.parts?, property parts

theorem finds_parts {readParts : Json.Reader (List Token)} {property : List Token → Prop}
    (hnil : property []) (h : Finds readParts property) :
    Finds (read.readWith (some readParts)) fun token ↦
      token.start < 2 ^ 64 ∧ token.row < 2 ^ 64 ∧ property token.parts := by
  have hkeeps : Json.Keeps (Draft.fields readParts) (Draft.Keeps · property) := by
    refine .cons (Json.finds_any _) ?_ (.cons (Json.finds_any _) ?_
      (.cons Json.finds_count ?_ (.cons Json.finds_count ?_ (.cons h ?_ .nil))))
    · exact fun _ _ _ hdraft ↦ ⟨hdraft.start, hdraft.row, hdraft.parts⟩
    · exact fun _ _ _ hdraft ↦ ⟨hdraft.start, hdraft.row, hdraft.parts⟩
    · intro start hstart draft hdraft
      refine ⟨?_, hdraft.row, hdraft.parts⟩
      rintro _ ⟨rfl⟩
      exact hstart
    · intro row hrow draft hdraft
      refine ⟨hdraft.start, ?_, hdraft.parts⟩
      rintro _ ⟨rfl⟩
      exact hrow
    · intro parts hparts draft hdraft
      refine ⟨hdraft.start, hdraft.row, ?_⟩
      rintro _ ⟨rfl⟩
      exact hparts
  have hblank : Draft.blank.Keeps property := by
    constructor <;> rintro _ ⟨⟩
  refine (Json.finds_record hkeeps hblank).map Draft.token ?_
  rintro ⟨label?, text?, start?, row?, parts?⟩ ⟨hstart, hrow, hparts⟩
  refine ⟨?_, ?_, ?_⟩
  · cases start? with
    | none => exact Nat.two_pow_pos 64
    | some start => exact hstart start rfl
  · cases row? with
    | none => exact Nat.two_pow_pos 64
    | some row => exact hrow row rfl
  · cases parts? with
    | none => exact hnil
    | some parts => exact hparts parts rfl

def reader : Json.PartedReader Token where
  toParted := parted
  readWith := read.readWith
  read := read
  read_zero := rfl
  read_one := rfl
  read_more _ := rfl
  Whole := Counted
  whole_part := fun ⟨_, _, hparts⟩ ↦ hparts
  reads := reads_value
  finds h := by
    refine (finds_parts (List.forall_mem_nil _) h).mono ?_
    rintro token ⟨hstart, hrow, hparts⟩
    exact ⟨⟨hstart, hrow, fun part hpart ↦ (hparts part hpart).1⟩,
      fun part hpart ↦ (hparts part hpart).2⟩
  finds_none := Json.finds_readRecord_none.map Draft.token fun _ ↦ id

theorem write_eq (token : Token) : token.write = token.value.write := parted.write_eq token

theorem nesting_toJson (token : Token) : Json.nesting token.toJson = token.value.depth := by
  rw [toJson, write_eq, Value.nesting_write]

theorem ofJson_of_counted {token : Token} (hcounted : token.Counted)
    (hdepth : token.value.depth ≤ Json.depthLimit) : ofJson token.toJson = .ok token := by
  have hread : Reads (read Json.depthLimit) token.value token := reader.reads_read hcounted hdepth
  rw [ofJson, toJson, write_eq, hread.readDocument]

theorem counted_of_ofJson {text : String} {token : Token} (h : ofJson text = .ok token) :
    token.Counted ∧ token.value.depth ≤ Json.depthLimit := by
  have hfinds : Finds (read Json.depthLimit) fun token ↦
      token.Counted ∧ token.value.depth ≤ Json.depthLimit := reader.finds_read Json.depthLimit
  exact hfinds.readDocument h

theorem depth_of_lex {lexer : Lexer} (hrules : ∀ rule ∈ lexer.rules, rule.HasPattern)
    {text : String} {lines : List (List Token)} (h : lexer.lex text = .ok lines)
    {tokens : List Token} (htokens : tokens ∈ lines) {token : Token} (htoken : token ∈ tokens) :
    token.value.depth ≤ 3 := by
  obtain ⟨-, hparts⟩ := Lexer.bounds_of_lex hrules h htokens htoken
  apply parted.depth_le_iff.2
  intro part hpart
  exact parted.depth_le_one_iff.2 (hparts part hpart).2.2

theorem counted_of_lex {lexer : Lexer} (hrules : ∀ rule ∈ lexer.rules, rule.HasPattern)
    {text : String} (hsize : text.utf8ByteSize < 2 ^ 64) {lines : List (List Token)}
    (h : lexer.lex text = .ok lines) {tokens : List Token} (htokens : tokens ∈ lines)
    {token : Token} (htoken : token ∈ tokens) : token.Counted := by
  obtain ⟨⟨hstart, hrow⟩, hparts⟩ := Lexer.bounds_of_lex hrules h htokens htoken
  refine ⟨hstart.trans hsize, hrow.trans hsize, ?_⟩
  intro part hpart
  obtain ⟨hstart, hrow, hnil⟩ := hparts part hpart
  refine ⟨hstart.trans hsize, hrow.trans hsize, ?_⟩
  rw [hnil]
  exact List.forall_mem_nil _

/-- A token reads back from its JSON if its places fit in 64 bits and it is not nested too deep. So
does any token that was read from a JSON text, and any token that rules with patterns find in a
text. Those are never nested too deep, and their places fit because the size of the text does. -/
theorem ofJson_toJson_token :
    (∀ token : Token, token.Counted → Json.nesting token.toJson ≤ Json.depthLimit →
      ofJson token.toJson = .ok token) ∧
    (∀ text token, ofJson text = .ok token → ofJson token.toJson = .ok token) ∧
    (∀ (lexer : Lexer) (text : String) (lines : List (List Token)),
      (∀ rule ∈ lexer.rules, rule.HasPattern) → lexer.lex text = .ok lines →
      ∀ tokens ∈ lines, ∀ token ∈ tokens, Json.nesting token.toJson ≤ Json.depthLimit ∧
        (text.utf8ByteSize < 2 ^ 64 → ofJson token.toJson = .ok token)) := by
  refine ⟨?_, ?_, ?_⟩
  · intro token hcounted hnesting
    rw [nesting_toJson] at hnesting
    exact ofJson_of_counted hcounted hnesting
  · intro text token h
    obtain ⟨hcounted, hdepth⟩ := counted_of_ofJson h
    exact ofJson_of_counted hcounted hdepth
  · intro lexer text lines hrules hlex tokens htokens token htoken
    have hdepth : token.value.depth ≤ Json.depthLimit :=
      (depth_of_lex hrules hlex htokens htoken).trans (by decide)
    rw [nesting_toJson]
    refine ⟨hdepth, fun hsize ↦ ?_⟩
    exact ofJson_of_counted (counted_of_lex hrules hsize hlex htokens htoken) hdepth

def pair : Token := ⟨"pair", "a1", 0, 0, [⟨"letter", "a", 0, 0, []⟩, ⟨"digit", "1", 1, 0, []⟩]⟩

theorem ofJson_toJson_pair :
    (pair.Counted ∧ Json.nesting pair.toJson ≤ Json.depthLimit ∧ ofJson pair.toJson = .ok pair) ∧
    (∃ text, ofJson text = .ok pair ∧ ofJson pair.toJson = .ok pair) ∧
    ((∀ rule ∈ Lexer.pairs.rules, rule.HasPattern) ∧ Lexer.pairs.lex "a1" = .ok [[pair]] ∧
      "a1".utf8ByteSize < 2 ^ 64 ∧ Json.nesting pair.toJson ≤ Json.depthLimit ∧
      ofJson pair.toJson = .ok pair) := by
  have hcounted : pair.Counted := by
    refine ⟨by decide, by decide, List.forall_mem_cons.2 ⟨?_, List.forall_mem_singleton.2 ?_⟩⟩ <;>
      exact ⟨by decide, by decide, List.forall_mem_nil _⟩
  have hnesting : Json.nesting pair.toJson ≤ Json.depthLimit := by
    rw [nesting_toJson]
    decide
  have hread : ofJson "[\"pair\", \"\\u00611\", 0, 0, [[\"letter\", \"a\", 0, 0, []],
      \x7b\"?\": [null], \"lineno\": 0, \"position\": 1, \"content\": \"1\",
        \"identifier\": \"digit\"\x7d]]" = .ok pair := by cbv
  have hrules : ∀ rule ∈ Lexer.pairs.rules, rule.HasPattern := by
    simp [Lexer.pairs, Rule.HasPattern]
  have hstep : Lexer.pairs.step? (.start "a1") 0 =
      some (.token pair, (Cursor.start "a1").forward 2) := rfl
  have hend : ((Cursor.start "a1").forward 2).atEnd = true := rfl
  have hlines : linesOf "a1" = ["a1"] := by decide
  have hlex : Lexer.pairs.lex "a1" = .ok [[pair]] := by
    rw [Lexer.lex_eq_ok_iff, hlines]
    refine .cons ?_ .nil
    rw [Lexer.tokensOfLine_eq, Lexer.stepsFrom_of_step? hstep, Lexer.stepsFrom_of_atEnd hend]
    rfl
  obtain ⟨hwritten, hfound, hlexed⟩ := ofJson_toJson_token
  obtain ⟨hlimit, hback⟩ := hlexed _ _ _ hrules hlex [pair] (by simp) pair (by simp)
  exact ⟨⟨hcounted, hnesting, hwritten pair hcounted hnesting⟩, ⟨_, hread, hfound _ _ hread⟩,
    hrules, hlex, by decide, hlimit, hback (by decide)⟩

end Linewise.Token
