import Linewise.Config.Json
import Linewise.Proofs.Json.Parts

namespace Linewise

open Json (Finds Reads Value)

namespace RuleConfig

mutual

def value : RuleConfig → Value
  | ⟨label, pattern, parts⟩ => .object
    ([("identifier", .text label), ("pattern", .text pattern)] ++ Json.partsMembers (values parts))

def values : List RuleConfig → List Value
  | [] => []
  | rule :: rules => rule.value :: values rules

end

def parted : Json.Parted RuleConfig where
  parts := parts
  value := value
  values := values
  write := write
  writeParts := writeParts
  writeMore := writeMore
  values_nil := rfl
  values_cons _ _ := rfl
  writeParts_nil := rfl
  writeParts_cons _ _ := rfl
  writeMore_nil := rfl
  writeMore_cons _ _ := rfl
  exists_members := by
    intro rule
    obtain ⟨label, pattern, parts⟩ := rule
    have hlabel : "\x7b\"identifier\":".toList =
      '\x7b' :: (Json.writeText "identifier" ++ [':']) := rfl
    have hpattern : ",\"pattern\":".toList = ',' :: (Json.writeText "pattern" ++ [':']) := rfl
    refine ⟨("identifier", .text label), [("pattern", .text pattern)], rfl, rfl, ?_⟩
    rw [write.eq_def]
    simp only [hlabel, hpattern, Value.writeMembers, Value.write, Json.comma, List.cons_append,
      List.append_assoc, List.nil_append, if_true, Bool.false_eq_true, if_false]

theorem value_eq (rule : RuleConfig) : rule.value = .object
    ([("identifier", .text rule.label), ("pattern", .text rule.pattern)] ++
      Json.partsMembers (rule.parts.map value)) := by
  obtain ⟨label, pattern, parts⟩ := rule
  have hvalues : values parts = parts.map value := parted.values_eq_map parts
  rw [value, hvalues]

theorem reads_value {rule : RuleConfig} {readParts : Json.Reader (List RuleConfig)}
    (h : rule.parts ≠ [] → Reads readParts (.list (rule.parts.map value)) rule.parts) :
    Reads (read.readWith (some readParts)) rule.value rule := by
  obtain ⟨label, pattern, parts⟩ := rule
  have hlabel := (Json.reads_text label).map fun label (draft : Draft) ↦
    { draft with label? := some label }
  have hpattern := (Json.reads_text pattern).map fun pattern (draft : Draft) ↦
    { draft with pattern? := some pattern }
  have hplain : Json.Fills (Draft.fields readParts)
      [("identifier", .text label), ("pattern", .text pattern)] .blank
      ⟨some label, some pattern, none⟩ :=
    .cons rfl rfl hlabel (.cons rfl rfl hpattern (.nil _))
  rw [value_eq]
  cases parts with
  | nil => exact (Json.reads_object hplain rfl).map Draft.rule
  | cons part parts =>
    have hparts := (h (List.cons_ne_nil part parts)).map fun parts (draft : Draft) ↦
      { draft with parts? := some parts }
    have hlast : Json.Fills (Draft.fields readParts)
        [("parts", .list ((part :: parts).map value))] ⟨some label, some pattern, none⟩
        ⟨some label, some pattern, some (part :: parts)⟩ :=
      .cons rfl rfl hparts (.nil _)
    exact (Json.reads_object (hplain.append hlast) rfl).map Draft.rule

theorem finds_parts {readParts : Json.Reader (List RuleConfig)} {property : List RuleConfig → Prop}
    (hnil : property []) (h : Finds readParts property) :
    Finds (read.readWith (some readParts)) fun rule ↦ property rule.parts := by
  have hkeeps : Json.Keeps (Draft.fields readParts) fun draft ↦
      ∀ parts ∈ draft.parts?, property parts := by
    refine .cons (Json.finds_any _) ?_ (.cons (Json.finds_any _) ?_ (.cons h ?_ .nil))
    · exact fun _ _ _ hdraft ↦ hdraft
    · exact fun _ _ _ hdraft ↦ hdraft
    · rintro parts hparts _ _ _ ⟨rfl⟩
      exact hparts
  have hblank : ∀ parts ∈ Draft.blank.parts?, property parts := by
    rintro parts ⟨⟩
  refine (Json.finds_record hkeeps hblank).map Draft.rule ?_
  rintro ⟨label?, pattern?, parts?⟩ hdraft
  cases parts? with
  | none => exact hnil
  | some parts => exact hdraft parts rfl

def reader : Json.PartedReader RuleConfig where
  toParted := parted
  readWith := read.readWith
  read := read
  read_zero := rfl
  read_one := rfl
  read_more _ := rfl
  Whole _ := True
  whole_part _ _ _ := trivial
  reads _ h := reads_value h
  finds h := by
    refine (finds_parts (List.forall_mem_nil _) h).mono ?_
    intro rule hrule
    exact ⟨trivial, fun part hpart ↦ (hrule part hpart).2⟩
  finds_none := Json.finds_readRecord_none.map Draft.rule fun _ ↦ id

end RuleConfig

namespace Config

def value (config : Config) : Value := .object
  ([("rules", .list (config.rules.map RuleConfig.value)),
      ("skip_whitespace", .truth config.skipBlanks)] ++
    match config.strayLabel? with
    | none => []
    | some label => [("unmatched_identifier", .text label)])

theorem writeRules_eq (rules : List RuleConfig) :
    writeRules rules = Value.write (.list (rules.map RuleConfig.value)) := by
  cases rules with
  | nil => rfl
  | cons rule rules =>
    have hrule : rule.write = rule.value.write := RuleConfig.parted.write_eq rule
    have hrules : RuleConfig.writeMore rules =
        Value.writeItems false (rules.map RuleConfig.value) := RuleConfig.parted.writeMore_eq rules
    rw [writeRules, hrule, hrules]
    rfl

theorem write_eq (config : Config) : config.write = config.value.write := by
  obtain ⟨rules, skipBlanks, strayLabel?⟩ := config
  have hrules : "\x7b\"rules\":".toList = '\x7b' :: (Json.writeText "rules" ++ [':']) := rfl
  have hskip : ",\"skip_whitespace\":".toList =
    ',' :: (Json.writeText "skip_whitespace" ++ [':']) := rfl
  have hstray : ",\"unmatched_identifier\":".toList =
    ',' :: (Json.writeText "unmatched_identifier" ++ [':']) := rfl
  -- The equation lemma of `write` would evaluate the texts of the keys.
  delta write
  cases strayLabel? <;>
    simp only [writeRules_eq, hrules, hskip, hstray, value, Value.write, Value.writeMembers,
      Json.comma, List.cons_append, List.append_assoc, List.nil_append, List.append_nil, if_true,
      Bool.false_eq_true, if_false]

theorem depth_value_le_iff {config : Config} {depth : Nat} :
    config.value.depth ≤ depth + 2 ↔ ∀ rule ∈ config.rules, rule.value.depth ≤ depth := by
  obtain ⟨rules, skipBlanks, strayLabel?⟩ := config
  rw [← List.forall_mem_map (P := fun value : Value ↦ value.depth ≤ depth),
    ← Value.depthOfItems_le_iff]
  cases strayLabel? <;> simp [value, Value.depth, Value.depthOfMembers]

theorem reads_value {config : Config} {depth : Nat} (hdepth : config.value.depth ≤ depth + 2) :
    Reads (read depth) config.value config := by
  have hparts : ∀ rule ∈ config.rules, Reads (RuleConfig.read depth) rule.value rule := by
    intro rule hrule
    exact RuleConfig.reader.reads_read trivial (depth_value_le_iff.1 hdepth rule hrule)
  obtain ⟨rules, skipBlanks, strayLabel?⟩ := config
  have hrules := (RuleConfig.reader.reads_parts hparts).map fun rules (draft : Draft) ↦
    { draft with rules? := some rules }
  have hskip := (Json.reads_truth skipBlanks).map fun skipBlanks (draft : Draft) ↦
    { draft with skipBlanks? := some skipBlanks }
  have hplain : Json.Fills (Draft.fields (Json.readList (some (RuleConfig.read depth))))
      [("rules", .list (rules.map RuleConfig.value)), ("skip_whitespace", .truth skipBlanks)]
      .blank ⟨some rules, some skipBlanks, none⟩ :=
    .cons rfl rfl hrules (.cons rfl rfl hskip (.nil _))
  cases strayLabel? with
  | none => exact (Json.reads_object hplain rfl).map Draft.config
  | some label =>
    have hstray := (Json.reads_optional label).map fun label? (draft : Draft) ↦
      { draft with strayLabel? := some label? }
    have hlast : Json.Fills (Draft.fields (Json.readList (some (RuleConfig.read depth))))
        [("unmatched_identifier", .text label)] ⟨some rules, some skipBlanks, none⟩
        ⟨some rules, some skipBlanks, some (some label)⟩ :=
      .cons rfl rfl hstray (.nil _)
    exact (Json.reads_object (hplain.append hlast) rfl).map Draft.config

theorem finds_depth (depth : Nat) :
    Finds (read depth) fun config ↦ config.value.depth ≤ depth + 2 := by
  have hrules : Finds (Json.readList (some (RuleConfig.read depth)))
      (∀ rule ∈ ·, rule.value.depth ≤ depth) :=
    Json.finds_list ((RuleConfig.reader.finds_read depth).mono fun _ h ↦ h.2)
  have hkeeps : Json.Keeps (Draft.fields (Json.readList (some (RuleConfig.read depth))))
      fun draft ↦ ∀ rules ∈ draft.rules?, ∀ rule ∈ rules, rule.value.depth ≤ depth := by
    refine .cons hrules ?_ (.cons (Json.finds_any _) ?_ (.cons (Json.finds_any _) ?_ .nil))
    · rintro rules hrules _ _ _ ⟨rfl⟩
      exact hrules
    · exact fun _ _ _ hdraft ↦ hdraft
    · exact fun _ _ _ hdraft ↦ hdraft
  have hblank : ∀ rules ∈ Draft.blank.rules?, ∀ rule ∈ rules, rule.value.depth ≤ depth := by
    rintro rules ⟨⟩
  refine (Json.finds_record hkeeps hblank).map Draft.config ?_
  rintro ⟨rules?, skipBlanks?, strayLabel?⟩ hdraft
  apply depth_value_le_iff.2
  cases rules? with
  | none => exact List.forall_mem_nil _
  | some rules => exact hdraft rules rfl

theorem ofJson_of_depth {config : Config} (h : config.value.depth ≤ Json.depthLimit) :
    ofJson config.toJson = .ok config := by
  have hread : Reads (read (Json.depthLimit - 2)) config.value config := reads_value h
  rw [ofJson, ofSource, toJson, write_eq, hread.readDocument]
  rfl

theorem depth_of_ofJson {text : String} {config : Config} (h : ofJson text = .ok config) :
    config.value.depth ≤ Json.depthLimit := by
  rw [ofJson, ofSource] at h
  cases hread : Json.readDocument (read (Json.depthLimit - 2)) (.ofString text) with
  | error fault =>
    rw [hread] at h
    cases h
  | ok found =>
    rw [hread] at h
    obtain rfl := Except.ok.inj h
    exact (finds_depth _).readDocument hread

/-- A configuration reads back from its JSON if that is not nested too deep, and so does any
configuration that was read from a JSON text. -/
theorem ofJson_toJson_config :
    (∀ config : Config, Json.nesting config.toJson ≤ Json.depthLimit →
      ofJson config.toJson = .ok config) ∧
    (∀ text config, ofJson text = .ok config → ofJson config.toJson = .ok config) := by
  constructor
  · intro config hnesting
    rw [toJson, write_eq, Value.nesting_write] at hnesting
    exact ofJson_of_depth hnesting
  · intro text config h
    exact ofJson_of_depth (depth_of_ofJson h)

def quotedPair : Config where
  rules := [⟨"a \"pair\"\n", "[a-z][0-9]", [⟨"letter", "[a-z]", []⟩, ⟨"digit", "[0-9]", []⟩]⟩]
  skipBlanks := false
  strayLabel? := some "é"

theorem ofJson_toJson_quotedPair :
    (Json.nesting quotedPair.toJson ≤ Json.depthLimit ∧
      ofJson quotedPair.toJson = .ok quotedPair) ∧
    ∃ text, ofJson text = .ok quotedPair ∧ ofJson quotedPair.toJson = .ok quotedPair := by
  have hnesting : Json.nesting quotedPair.toJson ≤ Json.depthLimit := by
    rw [toJson, write_eq, Value.nesting_write]
    decide
  -- The same with a list for each object but one, more escapes, and a key of no field.
  have hread : ofJson "[[[\"a \\\"pair\\\"\\u000a\", \"[a-z][0-9]\", [[\"letter\", \"[a-z]\"],
      \x7b\"?\": [null], \"pattern\": \"[0-9]\", \"identifier\": \"digit\", \"parts\": []\x7d]]],
      false, \"\\u00e9\"]" = .ok quotedPair := by cbv
  obtain ⟨hwritten, hfound⟩ := ofJson_toJson_config
  exact ⟨⟨hnesting, hwritten quotedPair hnesting⟩, _, hread, hfound _ _ hread⟩

end Config

end Linewise
