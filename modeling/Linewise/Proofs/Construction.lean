import Linewise.Config
import Linewise.Session
import Linewise.Proofs.LineByLine
import Linewise.Proofs.OneCharacter
import Linewise.Proofs.Outcome

namespace Linewise

def Compiles (source : String) : Prop := ∃ pattern, Pattern.compile source = .ok pattern

def sourceError? (source : String) : Option Error :=
  match Pattern.compile source with
  | .ok _ => none
  | .error fault => some (.invalidPattern source fault)

theorem sourceError?_eq_none_iff {source : String} :
    sourceError? source = none ↔ Compiles source := by
  unfold sourceError? Compiles
  cases Pattern.compile source <;> simp

section

variable {label source : String}

theorem Pattern.ofSource_eq_ok_iff {pattern : Pattern} :
    Pattern.ofSource source = .ok pattern ↔ Pattern.compile source = .ok pattern := by
  rw [ofSource]
  cases compile source <;> simp [Except.mapError]

theorem SimpleRule.ofSource_eq_ok_iff {rule : SimpleRule} :
    ofSource label source = .ok rule ↔
      rule.label = label ∧ Pattern.compile source = .ok rule.pattern := by
  obtain ⟨label', pattern'⟩ := rule
  rw [ofSource, ← Pattern.ofSource_eq_ok_iff]
  cases Pattern.ofSource source <;> simp [Except.map, eq_comm]

theorem Rule.ofParts_eq_ok_iff {parts : List SimpleRule} {rule : Rule} :
    ofParts label source parts = .ok rule ↔
      ∃ pattern, Pattern.compile source = .ok pattern ∧ rule = .compound label pattern parts := by
  simp only [← Pattern.ofSource_eq_ok_iff]
  rw [ofParts]
  cases Pattern.ofSource source <;> simp [Except.map, eq_comm]

theorem errorOf?_ofSource (label source : String) :
    errorOf? (SimpleRule.ofSource label source) = sourceError? source := by
  rw [SimpleRule.ofSource, errorOf?_map, Pattern.ofSource, sourceError?]
  cases Pattern.compile source <;> rfl

theorem errorOf?_ofParts (label source : String) (parts : List SimpleRule) :
    errorOf? (Rule.ofParts label source parts) = sourceError? source := by
  rw [Rule.ofParts, errorOf?_map, Pattern.ofSource, sourceError?]
  cases Pattern.compile source <;> rfl

end

inductive Check where
  | part (part : RuleConfig)
  | pattern (source : String)

/-- The error of a check that fails. In a part that has parts nothing else is looked at. -/
def Check.error? : Check → Option Error
  | .part ⟨_, source, []⟩ => sourceError? source
  | .part ⟨label, _, _ :: _⟩ => some (.nestedParts label)
  | .pattern source => sourceError? source

namespace RuleConfig

def checks (rule : RuleConfig) : List Check := rule.parts.map .part ++ [.pattern rule.pattern]

def StandsForPart (config : RuleConfig) (rule : SimpleRule) : Prop :=
  config.parts = [] ∧ rule.label = config.label ∧
    Pattern.compile config.pattern = .ok rule.pattern

/-- The rule that a configuration stands for: a simple one if it has no parts. -/
inductive StandsFor : RuleConfig → Rule → Prop
  | simple {label source : String} {pattern : Pattern}
      (hpattern : Pattern.compile source = .ok pattern) :
      StandsFor ⟨label, source, []⟩ (.simple ⟨label, pattern⟩)
  | compound {label source : String} {pattern : Pattern} {parts : List RuleConfig}
      {rules : List SimpleRule} (hne : parts ≠ [])
      (hparts : List.Forall₂ StandsForPart parts rules)
      (hpattern : Pattern.compile source = .ok pattern) :
      StandsFor ⟨label, source, parts⟩ (.compound label pattern rules)

theorem toRule_compound (label source : String) {parts : List RuleConfig} (hne : parts ≠ []) :
    toRule ⟨label, source, parts⟩ = (do Rule.ofParts label source (← parts.mapM toPart)) := by
  rw [toRule, if_neg (by simpa using hne)]

theorem errorOf?_toPart (config : RuleConfig) :
    errorOf? config.toPart = (Check.part config).error? := by
  obtain ⟨label, source, parts⟩ := config
  cases parts with
  | nil => exact errorOf?_ofSource label source
  | cons part parts => rfl

theorem errorOf?_toRule (config : RuleConfig) :
    errorOf? config.toRule = config.checks.findSome? Check.error? := by
  obtain ⟨label, source, parts⟩ := config
  have hpattern : [Check.pattern source].findSome? Check.error? = sourceError? source := by
    rw [List.findSome?_singleton]
    rfl
  rw [checks, List.findSome?_append, List.findSome?_map, hpattern]
  cases hparts : parts with
  | nil =>
    change errorOf? ((SimpleRule.ofSource label source).map Rule.simple) = _
    rw [errorOf?_map, errorOf?_ofSource, List.findSome?_nil, Option.none_or]
  | cons part rest =>
    rw [← hparts, toRule_compound label source (by simp [hparts]),
      errorOf?_bind (errorOf?_ofParts label source), errorOf?_mapM]
    simp only [errorOf?_toPart, Function.comp_def]

theorem toPart_eq_ok_iff {config : RuleConfig} {rule : SimpleRule} :
    config.toPart = .ok rule ↔ config.StandsForPart rule := by
  obtain ⟨label, source, parts⟩ := config
  cases parts with
  | nil =>
    change SimpleRule.ofSource label source = _ ↔ _
    rw [SimpleRule.ofSource_eq_ok_iff]
    simp [StandsForPart]
  | cons part parts => simp [toPart, StandsForPart]

theorem toRule_simple_eq_ok_iff {label source : String} {rule : Rule} :
    toRule ⟨label, source, []⟩ = .ok rule ↔
      ∃ pattern, Pattern.compile source = .ok pattern ∧ rule = .simple ⟨label, pattern⟩ := by
  change (SimpleRule.ofSource label source).map Rule.simple = _ ↔ _
  rw [map_eq_ok_iff]
  simp only [SimpleRule.ofSource_eq_ok_iff]
  constructor
  · rintro ⟨found, ⟨rfl, hpattern⟩, rfl⟩
    exact ⟨found.pattern, hpattern, rfl⟩
  · rintro ⟨pattern, hpattern, rfl⟩
    exact ⟨⟨label, pattern⟩, ⟨rfl, hpattern⟩, rfl⟩

theorem toRule_compound_eq_ok_iff {label source : String} {parts : List RuleConfig}
    (hne : parts ≠ []) {rule : Rule} :
    toRule ⟨label, source, parts⟩ = .ok rule ↔
      ∃ rules pattern, List.Forall₂ StandsForPart parts rules ∧
        Pattern.compile source = .ok pattern ∧ rule = .compound label pattern rules := by
  rw [toRule_compound label source hne, bind_eq_ok_iff]
  simp only [mapM_eq_ok_iff, toPart_eq_ok_iff, Rule.ofParts_eq_ok_iff]
  constructor
  · rintro ⟨rules, hrules, pattern, hpattern, rfl⟩
    exact ⟨rules, pattern, hrules, hpattern, rfl⟩
  · rintro ⟨rules, pattern, hrules, hpattern, rfl⟩
    exact ⟨rules, hrules, pattern, hpattern, rfl⟩

theorem toRule_eq_ok_iff {config : RuleConfig} {rule : Rule} :
    config.toRule = .ok rule ↔ config.StandsFor rule := by
  obtain ⟨label, source, parts⟩ := config
  by_cases hparts : parts = []
  · subst hparts
    rw [toRule_simple_eq_ok_iff]
    constructor
    · rintro ⟨pattern, hpattern, rfl⟩
      exact .simple hpattern
    · intro h
      cases h with
      | simple hpattern => exact ⟨_, hpattern, rfl⟩
      | compound hne => exact absurd rfl hne
  · rw [toRule_compound_eq_ok_iff hparts]
    constructor
    · rintro ⟨rules, pattern, hrules, hpattern, rfl⟩
      exact .compound hparts hrules hpattern
    · intro h
      cases h with
      | simple => exact absurd rfl hparts
      | compound _ hrules hpattern => exact ⟨_, _, hrules, hpattern, rfl⟩

inductive Gives : RuleConfig → RuleSource → Prop
  | simple (label source : String) : Gives ⟨label, source, []⟩ (.simple label source)
  | compound {label source : String} {parts : List RuleConfig} (hne : parts ≠ []) :
      Gives ⟨label, source, parts⟩
        (.compound label source (parts.map fun part ↦ (part.label, part.pattern)))
  | ready {config : RuleConfig} {rule : Rule} (hrule : config.StandsFor rule) :
      Gives config (.ready rule)

theorem compileParts_of_standsFor {parts : List RuleConfig} {rules : List SimpleRule}
    (h : List.Forall₂ StandsForPart parts rules) :
    compileParts (parts.map fun part ↦ (part.label, part.pattern)) = .ok rules := by
  rw [compileParts, mapM_eq_ok_iff, List.forall₂_map_left_iff]
  refine h.imp fun part rule hpart ↦ ?_
  exact SimpleRule.ofSource_eq_ok_iff.2 ⟨hpart.2.1, hpart.2.2⟩

theorem compile_of_gives {config : RuleConfig} {source : RuleSource} {rule : Rule}
    (hgives : config.Gives source) (hrule : config.StandsFor rule) :
    source.compile = .ok rule := by
  cases hgives with
  | simple label source =>
    obtain ⟨pattern, hpattern, rfl⟩ := toRule_simple_eq_ok_iff.1 (toRule_eq_ok_iff.2 hrule)
    rw [RuleSource.compile, map_eq_ok_iff]
    exact ⟨⟨label, pattern⟩, SimpleRule.ofSource_eq_ok_iff.2 ⟨rfl, hpattern⟩, rfl⟩
  | compound hne =>
    obtain ⟨rules, pattern, hrules, hpattern, rfl⟩ :=
      (toRule_compound_eq_ok_iff hne).1 (toRule_eq_ok_iff.2 hrule)
    rw [RuleSource.compile, bind_eq_ok_iff]
    exact ⟨rules, compileParts_of_standsFor hrules,
      Rule.ofParts_eq_ok_iff.2 ⟨pattern, hpattern, rfl⟩⟩
  | ready hready =>
    have hsame := (toRule_eq_ok_iff.2 hready).symm.trans (toRule_eq_ok_iff.2 hrule)
    exact hsame

theorem compile_of_forall₂_gives {configs : List RuleConfig} {sources : List RuleSource}
    {rules : List Rule} (hgives : List.Forall₂ Gives configs sources)
    (hrules : List.Forall₂ StandsFor configs rules) :
    List.Forall₂ (fun source rule ↦ RuleSource.compile source = .ok rule) sources rules := by
  induction hgives generalizing rules with
  | nil =>
    cases hrules
    exact .nil
  | cons hsource _ ih =>
    cases hrules with
    | cons hrule hrest => exact .cons (compile_of_gives hsource hrule) (ih hrest)

end RuleConfig

namespace Config

def checks (config : Config) : List Check := config.rules.flatMap RuleConfig.checks

theorem errorOf?_build (config : Config) :
    errorOf? config.build = config.checks.findSome? Check.error? := by
  have hok : ∀ rules, errorOf? (ε := Error)
      (.ok (⟨rules, config.skipBlanks, config.strayLabel?⟩ : Lexer)) = none := fun _ ↦ rfl
  rw [build, errorOf?_bind hok, Option.or_none, errorOf?_mapM, checks]
  simp only [RuleConfig.errorOf?_toRule]
  induction config.rules with
  | nil => rfl
  | cons rule rules ih =>
    rw [List.findSome?_cons, ih, List.flatMap_cons, List.findSome?_append]
    cases rule.checks.findSome? Check.error? <;> rfl

theorem build_eq_ok_iff {config : Config} {lexer : Lexer} :
    config.build = .ok lexer ↔
      List.Forall₂ RuleConfig.StandsFor config.rules lexer.rules ∧
        lexer.skipBlanks = config.skipBlanks ∧ lexer.strayLabel? = config.strayLabel? := by
  rw [build, bind_eq_ok_iff]
  simp only [mapM_eq_ok_iff, RuleConfig.toRule_eq_ok_iff, Except.ok.injEq]
  constructor
  · rintro ⟨rules, hrules, rfl⟩
    exact ⟨hrules, rfl, rfl⟩
  · rintro ⟨hrules, hskip, hlabel⟩
    obtain ⟨rules, skipBlanks, strayLabel?⟩ := lexer
    obtain rfl := hskip
    obtain rfl := hlabel
    exact ⟨rules, hrules, rfl⟩

end Config

def Command.IsSetting : Command → Prop
  | .addRule _ | .setSkipBlanks _ | .setStrayLabel _ => True
  | .build | .use _ | .lex _ => False

def Command.source? : Command → Option RuleSource
  | .addRule source => some source
  | _ => none

def Command.skipBlanks? : Command → Option Bool
  | .setSkipBlanks skip => some skip
  | _ => none

def Command.strayLabel? : Command → Option String
  | .setStrayLabel label => some label
  | _ => none

/-- The lexer with rules added behind its own, and with the last values that the flags are set to,
if they are set at all. -/
def Lexer.settle (lexer : Lexer) (rules : List Rule) (commands : List Command) : Lexer where
  rules := lexer.rules ++ rules
  skipBlanks := (commands.filterMap Command.skipBlanks?).getLast?.getD lexer.skipBlanks
  strayLabel? := (commands.filterMap Command.strayLabel?).getLast?.or lexer.strayLabel?

namespace Session

variable {session : Session} {commands : List Command}

theorem addRule_of_compile {source : RuleSource} {rule : Rule} (h : source.compile = .ok rule) :
    session.addRule source =
      ({ session with draft := session.draft.apply (.rule rule) }, .done) := by
  cases source with
  | simple label source =>
    dsimp only [addRule]
    rw [h]
  | compound label source parts =>
    rw [RuleSource.compile, bind_eq_ok_iff] at h
    obtain ⟨rules, hrules, hrule⟩ := h
    dsimp only [addRule]
    rw [hrules]
    dsimp only
    rw [hrule]
  | ready found =>
    dsimp only [addRule]
    rw [h]

theorem replies_settings {rules : List Rule} (h : ∀ command ∈ commands, command.IsSetting)
    (hrules : List.Forall₂ (fun source rule ↦ RuleSource.compile source = .ok rule)
      (commands.filterMap Command.source?) rules) (later : List Command) :
    session.replies (commands ++ later) =
      commands.map (fun _ ↦ .done) ++
        replies ⟨session.draft.settle rules commands, session.current⟩ later := by
  induction commands generalizing session rules with
  | nil =>
    cases hrules
    simp [Lexer.settle]
  | cons command commands ih =>
    obtain ⟨hsetting, hsettings⟩ := List.forall_mem_cons.1 h
    -- One command makes the draft what the first of the settled values are.
    cases command with
    | addRule source =>
      obtain ⟨rule, rest, hrule, hrest, rfl⟩ := List.forall₂_cons_left_iff.1 hrules
      have hstep : session.step (.addRule source) =
          ({ session with draft := session.draft.apply (.rule rule) }, .done) :=
        addRule_of_compile hrule
      rw [List.cons_append, replies, hstep]
      dsimp only
      rw [ih hsettings hrest]
      simp [Lexer.settle, Lexer.apply, Command.skipBlanks?, Command.strayLabel?]
    | setSkipBlanks skip =>
      rw [List.cons_append, replies, step]
      dsimp only
      rw [ih hsettings hrules]
      simp [Lexer.settle, Lexer.apply, Command.skipBlanks?, Command.strayLabel?,
        List.getLast?_cons]
    | setStrayLabel label =>
      rw [List.cons_append, replies, step]
      dsimp only
      rw [ih hsettings hrules]
      simp [Lexer.settle, Lexer.apply, Command.skipBlanks?, Command.strayLabel?,
        List.getLast?_cons]
    | build => exact hsetting.elim
    | use sources => exact hsetting.elim
    | lex text => exact hsetting.elim

theorem replies_lex (texts : List String) :
    session.replies (texts.map .lex) = texts.map fun text ↦ .lexed (session.current.lex text) := by
  induction texts with
  | nil => rfl
  | cons text texts ih =>
    rw [List.map_cons, replies, step]
    dsimp only
    rw [ih, List.map_cons]

end Session

namespace Config

/-- The commands add the rules of the configuration in its order and set the flags, in any order and
as often as they like. What is set last is what the configuration has. -/
structure IsMadeBy (config : Config) (commands : List Command) : Prop where
  settings : ∀ command ∈ commands, command.IsSetting
  sources : List.Forall₂ RuleConfig.Gives config.rules (commands.filterMap Command.source?)
  skipBlanks : (commands.filterMap Command.skipBlanks?).getLast?.getD false = config.skipBlanks
  strayLabel? : (commands.filterMap Command.strayLabel?).getLast? = config.strayLabel?

variable {config : Config}

theorem exists_build_iff :
    (∃ lexer, config.build = .ok lexer) ↔
      ∀ rule ∈ config.rules, Compiles rule.pattern ∧
        ∀ part ∈ rule.parts, part.parts = [] ∧ Compiles part.pattern := by
  have hpart (part : RuleConfig) :
      (Check.part part).error? = none ↔ part.parts = [] ∧ Compiles part.pattern := by
    obtain ⟨label, source, parts⟩ := part
    cases parts with
    | nil => simp [Check.error?, sourceError?_eq_none_iff]
    | cons part parts => simp [Check.error?]
  have hpattern (source : String) : (Check.pattern source).error? = none ↔ Compiles source :=
    sourceError?_eq_none_iff
  rw [← errorOf?_eq_none_iff, errorOf?_build, List.findSome?_eq_none_iff, checks]
  simp only [RuleConfig.checks, List.forall_mem_flatMap, List.forall_mem_append,
    List.forall_mem_map, List.forall_mem_singleton, hpart, hpattern, and_comm]

theorem build_eq_error_iff {error : Error} :
    config.build = .error error ↔
      ∃ earlier check later, config.checks = earlier ++ check :: later ∧
        check.error? = some error ∧ ∀ other ∈ earlier, other.error? = none := by
  rw [← errorOf?_eq_some_iff, errorOf?_build, List.findSome?_eq_some_iff]

theorem replies_of_isMadeBy {lexer : Lexer} (hbuild : config.build = .ok lexer)
    {commands : List Command} (h : config.IsMadeBy commands) {session : Session}
    (hdraft : session.draft = .bare) (texts : List String) :
    session.replies (commands ++ .build :: texts.map .lex) =
      commands.map (fun _ ↦ .done) ++
        .inUse lexer :: texts.map fun text ↦ .lexed (lexer.lex text) := by
  obtain ⟨hrules, hskip, hlabel⟩ := build_eq_ok_iff.1 hbuild
  have hcompiled := RuleConfig.compile_of_forall₂_gives h.sources hrules
  have hflag : (commands.filterMap Command.skipBlanks?).getLast?.getD Lexer.bare.skipBlanks =
      config.skipBlanks := h.skipBlanks
  have hname : (commands.filterMap Command.strayLabel?).getLast?.or Lexer.bare.strayLabel? =
      config.strayLabel? := by
    rw [h.strayLabel?]
    exact Option.or_none
  have hlexer : session.draft.settle lexer.rules commands = lexer := by
    rw [hdraft, Lexer.settle, hflag, hname, ← hskip, ← hlabel]
    rfl
  rw [Session.replies_settings h.settings hcompiled, hlexer, Session.replies, Session.step]
  dsimp only
  rw [Session.replies_lex]

/-- A configuration makes a lexer if all its checks hold, and otherwise it has the error of the
first that fails. The lexer has one rule for each of the configuration, and any commands that set
the same in a session make it too. -/
theorem build_outcome (config : Config) :
    ((∃ lexer, config.build = .ok lexer) ↔
      ∀ rule ∈ config.rules, Compiles rule.pattern ∧
        ∀ part ∈ rule.parts, part.parts = [] ∧ Compiles part.pattern) ∧
    (∀ error, config.build = .error error ↔
      ∃ earlier check later, config.checks = earlier ++ check :: later ∧
        check.error? = some error ∧ ∀ other ∈ earlier, other.error? = none) ∧
    (∀ lexer, config.build = .ok lexer →
      List.Forall₂ RuleConfig.StandsFor config.rules lexer.rules ∧
      lexer.skipBlanks = config.skipBlanks ∧ lexer.strayLabel? = config.strayLabel? ∧
      ∀ commands, config.IsMadeBy commands → ∀ session : Session, session.draft = .bare →
        ∀ texts : List String, session.replies (commands ++ .build :: texts.map .lex) =
          commands.map (fun _ ↦ .done) ++
            .inUse lexer :: texts.map fun text ↦ .lexed (lexer.lex text)) := by
  refine ⟨exists_build_iff, fun error ↦ build_eq_error_iff, fun lexer hbuild ↦ ?_⟩
  obtain ⟨hrules, hskip, hlabel⟩ := build_eq_ok_iff.1 hbuild
  refine ⟨hrules, hskip, hlabel, fun commands hmade session hdraft texts ↦ ?_⟩
  exact replies_of_isMadeBy hbuild hmade hdraft texts

def blanks : Config :=
  ⟨[⟨"blank", "\\s", []⟩, ⟨"any", "(?s).", [⟨"space", "\\s", []⟩]⟩], true, some "?"⟩

def blanksCommands : List Command := [
  .setSkipBlanks false, .addRule (.simple "blank" "\\s"), .setStrayLabel "x",
  .addRule (.compound "any" "(?s)." [("space", "\\s")]), .setStrayLabel "?", .setSkipBlanks true]

theorem build_outcome_blanks :
    ∃ lexer, blanks.build = .ok lexer ∧ blanks.IsMadeBy blanksCommands ∧
      Session.start.replies (blanksCommands ++ [.build, .lex "a b"]) =
        [.done, .done, .done, .done, .done, .done, .inUse lexer, .lexed (lexer.lex "a b")] := by
  have hmade : blanks.IsMadeBy blanksCommands := by
    refine ⟨?_, ?_, rfl, rfl⟩
    · simp [blanksCommands, Command.IsSetting]
    · refine .cons (.simple _ _) (.cons ?_ .nil)
      exact @RuleConfig.Gives.compound "any" "(?s)." [⟨"space", "\\s", []⟩] (by simp)
  obtain ⟨hbuilds, -, hbuilt⟩ := build_outcome blanks
  have hblank : Compiles "\\s" := ⟨_, Pattern.compile_blank⟩
  have hany : Compiles "(?s)." := ⟨_, Pattern.compile_any⟩
  obtain ⟨lexer, hlexer⟩ := hbuilds.2 (by simp [blanks, hblank, hany])
  obtain ⟨-, -, -, hreplies⟩ := hbuilt lexer hlexer
  exact ⟨lexer, hlexer, hmade, hreplies blanksCommands hmade .start rfl ["a b"]⟩

/-- What is deeper than a part is not looked at, nor are patterns behind it. -/
example : build ⟨[⟨"a", "(", [⟨"b", "(", [⟨"c", "(", []⟩]⟩]⟩], false, none⟩ =
    .error (.nestedParts "b") := rfl

end Config

end Linewise
