import Conformance.Pack.Standard
import Conformance.Proofs.PatternLanguages
import Conformance.Proofs.RuleFindings

/-!
# Naming conventions

What the patterns of the standard naming rules say about names: types and methods are named in camel
case, with a first letter that is large or small, and constants by nonempty parts of large letters
and digits with single underscores between them. Only the letters and digits of ASCII count, and a
line break at the end is as wrong as one inside. The rules flag exactly the declarations whose names
are not of that form.
-/

namespace Conformance

/-! ## The conventions -/

/-- A first letter as given, and then letters and digits only. -/
def isCamelCase (first : Char → Bool) (name : String) : Bool :=
  match name.toList with
  | [] => false
  | c :: rest => first c && rest.all Char.isAlphanum

/-- A large letter first, and nonempty parts of large letters and digits between underscores. -/
def isConstantCase (name : String) : Bool :=
  name.toList.head?.any Char.isUpper &&
    (name.toList.splitOn '_').all fun part =>
      !part.isEmpty && part.all fun c => c.isUpper || c.isDigit

/-! ## Classes of characters -/

namespace CharClass

def upper : CharClass := { items := [.range 65 90] }

def lower : CharClass := { items := [.range 97 122] }

def alphanumeric : CharClass := { items := [.range 65 90, .range 97 122, .range 48 57] }

def upperOrDigit : CharClass := { items := [.range 65 90, .range 48 57] }

def underscore : CharClass := { items := [.code 95] }

theorem codeOf_le_iff {c : Char} {low high : Nat} (h : high < 0xd800) :
    (low ≤ Text.codeOf c ∧ Text.codeOf c ≤ high) ↔ (low ≤ c.toNat ∧ c.toNat ≤ high) := by
  constructor
  · rintro ⟨hlow, hhigh⟩
    rw [(Text.codeOf_eq_iff (Nat.lt_of_le_of_lt hhigh h)).mp rfl]
    exact ⟨hlow, hhigh⟩
  · rintro ⟨hlow, hhigh⟩
    rw [(Text.codeOf_eq_iff (Nat.lt_of_le_of_lt hhigh h)).mpr rfl]
    exact ⟨hlow, hhigh⟩

section Admits
variable (c : Char)

theorem upper_admits : upper.admits c = c.isUpper := by
  rw [Bool.eq_iff_iff, Text.isUpper_iff, ← codeOf_le_iff (by decide)]
  simp [admits, upper, codesOf, ClassItem.admits]

theorem lower_admits : lower.admits c = c.isLower := by
  rw [Bool.eq_iff_iff, Text.isLower_iff, ← codeOf_le_iff (by decide)]
  simp [admits, lower, codesOf, ClassItem.admits]

theorem upperOrDigit_admits : upperOrDigit.admits c = (c.isUpper || c.isDigit) := by
  rw [Bool.eq_iff_iff, Bool.or_eq_true, Text.isUpper_iff, Text.isDigit_iff,
    ← codeOf_le_iff (by decide), ← codeOf_le_iff (by decide)]
  simp [admits, upperOrDigit, codesOf, ClassItem.admits]

theorem alphanumeric_admits : alphanumeric.admits c = c.isAlphanum := by
  rw [Bool.eq_iff_iff, Text.isAlphanum_eq, Bool.or_eq_true, Bool.or_eq_true, Text.isUpper_iff,
    Text.isLower_iff, Text.isDigit_iff, ← codeOf_le_iff (by decide), ← codeOf_le_iff (by decide),
    ← codeOf_le_iff (by decide), or_assoc]
  simp [admits, alphanumeric, codesOf, ClassItem.admits]

theorem underscore_admits : underscore.admits c = (c == '_') := by
  have hcode : (Text.codeOf c = 95) ↔ c = '_' :=
    (Text.codeOf_eq_iff (by decide)).trans (Char.toNat_inj (d := '_'))
  rw [Bool.eq_iff_iff, beq_iff_eq, ← hcode]
  simp [admits, underscore, codesOf, ClassItem.admits, eq_comm]

end Admits

end CharClass

/-! ## The patterns -/

namespace Pattern
open CharClass

/-- A character of the class, and then letters and digits. -/
def camelCase (first : CharClass) : Pattern :=
  .seq (.char first) (.repetition .greedy 0 none (.char alphanumeric))

/-- An underscore and a part of a constant. -/
def furtherPart : Pattern :=
  .seq (.char underscore) (.repetition .greedy 1 none (.char upperOrDigit))

def constantCase : Pattern :=
  .seq (.char upper) (.seq (.repetition .greedy 0 none (.char upperOrDigit))
    (.repetition .greedy 0 none furtherPart))

theorem parse_typePattern : parse Check.typePattern = .ok (camelCase upper) :=
  parse_of_toOption (by decide +kernel)

theorem parse_methodPattern : parse Check.methodPattern = .ok (camelCase lower) :=
  parse_of_toOption (by decide +kernel)

theorem parse_constantPattern : parse Check.constantPattern = .ok constantCase :=
  parse_of_toOption (by decide +kernel)

/-! ### Their languages -/

theorem mem_powers_char {least : Nat} {s : CharClass} {w : List Char} :
    w ∈ powers least none (char s).language ↔
      least ≤ w.length ∧ ∀ x ∈ w, s.admits x = true := by
  constructor
  · rintro ⟨n, hleast, -, hw⟩
    obtain ⟨rfl, hadmits⟩ := mem_char_pow.mp hw
    exact ⟨hleast, hadmits⟩
  · rintro ⟨hleast, hadmits⟩
    exact ⟨w.length, hleast, by simp, mem_char_pow.mpr ⟨rfl, hadmits⟩⟩

theorem mem_camelCase {first : CharClass} {w : List Char} :
    w ∈ (camelCase first).language ↔
      ∃ c rest, w = c :: rest ∧ first.admits c = true ∧ ∀ x ∈ rest, x.isAlphanum = true := by
  simp only [camelCase, language_seq, language_repetition, Language.mem_mul, mem_powers_char,
    alphanumeric_admits]
  constructor
  · rintro ⟨_, ⟨c, hc, rfl⟩, rest, ⟨-, hrest⟩, rfl⟩
    exact ⟨c, rest, rfl, hc, hrest⟩
  · rintro ⟨c, rest, rfl, hc, hrest⟩
    exact ⟨[c], ⟨c, hc, rfl⟩, rest, ⟨Nat.zero_le _, hrest⟩, rfl⟩

theorem matchesWhole_camelCase {first : CharClass} {large : Char → Bool}
    (h : ∀ c, first.admits c = large c) (name : String) :
    (camelCase first).matchesWhole name = isCamelCase large name := by
  rw [Bool.eq_iff_iff, matchesWhole_iff rfl, mem_camelCase, isCamelCase]
  cases name.toList with
  | nil => simp
  | cons c rest => simp [h]

/-- A part of a constant. -/
def IsPart (part : List Char) : Prop := part ≠ [] ∧ ∀ x ∈ part, (x.isUpper || x.isDigit) = true

theorem mem_furtherPart {w : List Char} :
    w ∈ furtherPart.language ↔ ∃ part, w = '_' :: part ∧ IsPart part := by
  simp only [furtherPart, language_seq, language_repetition, Language.mem_mul, mem_powers_char,
    upperOrDigit_admits]
  constructor
  · rintro ⟨_, ⟨c, hc, rfl⟩, part, ⟨hlength, hpart⟩, rfl⟩
    rw [underscore_admits, beq_iff_eq] at hc
    exact ⟨part, by rw [hc]; rfl, List.length_pos_iff.mp hlength, hpart⟩
  · rintro ⟨part, rfl, hne, hpart⟩
    exact ⟨['_'], ⟨'_', by rw [underscore_admits]; rfl, rfl⟩, part,
      ⟨List.length_pos_iff.mpr hne, hpart⟩, rfl⟩

theorem mem_powers_furtherPart {w : List Char} :
    w ∈ powers 0 none furtherPart.language ↔
      ∃ parts : List (List Char), w = (parts.map ('_' :: ·)).flatten ∧ ∀ p ∈ parts, IsPart p := by
  constructor
  · rintro ⟨n, -, -, hw⟩
    obtain ⟨words, rfl, -, hwords⟩ := Language.mem_pow.mp hw
    have hword : ∀ v ∈ words, '_' :: v.tail = v ∧ IsPart v.tail := by
      intro v hv
      obtain ⟨part, rfl, hpart⟩ := mem_furtherPart.mp (hwords v hv)
      exact ⟨rfl, hpart⟩
    refine ⟨words.map List.tail, ?_, ?_⟩
    · rw [List.map_map]
      exact congrArg _ ((List.map_id words).symm.trans
        (List.map_congr_left fun v hv => (hword v hv).1.symm))
    · intro p hp
      obtain ⟨v, hv, rfl⟩ := List.mem_map.mp hp
      exact (hword v hv).2
  · rintro ⟨parts, rfl, hparts⟩
    refine ⟨parts.length, Nat.zero_le _, by simp, Language.mem_pow.mpr ⟨_, rfl, by simp, ?_⟩⟩
    intro v hv
    obtain ⟨part, hpart, rfl⟩ := List.mem_map.mp hv
    exact mem_furtherPart.mpr ⟨part, rfl, hparts part hpart⟩

theorem intercalate_underscore (first : List Char) (parts : List (List Char)) :
    ['_'].intercalate (first :: parts) = first ++ (parts.map ('_' :: ·)).flatten := by
  induction parts generalizing first with
  | nil => simp
  | cons part rest ih => simp [List.intercalate_cons_cons, ih]

/-- A constant is its parts, joined by underscores; the first part starts with a letter. -/
theorem mem_constantCase {w : List Char} :
    w ∈ constantCase.language ↔
      ∃ c rest parts, w = ['_'].intercalate ((c :: rest) :: parts) ∧ c.isUpper = true ∧
        ∀ part ∈ (c :: rest) :: parts, IsPart part := by
  simp only [constantCase, language_seq, language_repetition, Language.mem_mul, mem_powers_char,
    mem_powers_furtherPart, upperOrDigit_admits, intercalate_underscore]
  constructor
  · rintro ⟨_, ⟨c, hc, rfl⟩, _, ⟨rest, ⟨-, hrest⟩, _, ⟨parts, rfl, hparts⟩, rfl⟩, rfl⟩
    rw [upper_admits] at hc
    have hfirst : IsPart (c :: rest) :=
      ⟨List.cons_ne_nil c rest, List.forall_mem_cons.mpr ⟨by rw [hc]; rfl, hrest⟩⟩
    exact ⟨c, rest, parts, rfl, hc, List.forall_mem_cons.mpr ⟨hfirst, hparts⟩⟩
  · rintro ⟨c, rest, parts, rfl, hc, hall⟩
    obtain ⟨hfirst, hparts⟩ := List.forall_mem_cons.mp hall
    exact ⟨[c], ⟨c, by rwa [upper_admits], rfl⟩, _,
      ⟨rest, ⟨Nat.zero_le _, (List.forall_mem_cons.mp hfirst.2).2⟩, _, ⟨parts, rfl, hparts⟩, rfl⟩,
      rfl⟩

theorem isConstantCase_iff {name : String} :
    isConstantCase name = true ↔
      (∃ c ∈ name.toList.head?, c.isUpper = true) ∧
        ∀ part ∈ name.toList.splitOn '_', IsPart part := by
  simp [isConstantCase, IsPart, Option.any_eq_true]

theorem matchesWhole_constantCase (name : String) :
    constantCase.matchesWhole name = isConstantCase name := by
  rw [Bool.eq_iff_iff, matchesWhole_iff rfl, mem_constantCase, isConstantCase_iff]
  constructor
  · rintro ⟨c, rest, parts, hname, hc, hall⟩
    have hsplit : name.toList.splitOn '_' = (c :: rest) :: parts := by
      rw [hname]
      apply List.splitOn_intercalate '_' _ (List.cons_ne_nil _ _)
      intro part hpart hmem
      exact absurd ((hall part hpart).2 '_' hmem) (by decide)
    refine ⟨⟨c, ?_, hc⟩, hsplit ▸ hall⟩
    rw [hname, intercalate_underscore]
    rfl
  · rintro ⟨⟨c, hhead, hc⟩, hall⟩
    have hjoin : ['_'].intercalate (name.toList.splitOn '_') = name.toList :=
      List.intercalate_splitOn '_'
    cases hsplit : name.toList.splitOn '_' with
    | nil => exact absurd hsplit (List.splitOn_ne_nil _ _)
    | cons first parts =>
      rw [hsplit] at hall hjoin
      cases first with
      | nil => exact absurd rfl (hall [] List.mem_cons_self).1
      | cons d rest =>
        rw [← hjoin, intercalate_underscore] at hhead
        cases hhead
        exact ⟨c, rest, parts, hjoin.symm, hc, hall⟩

end Pattern

/-! ## The checks -/

namespace Check

section Patterns
variable {context : Context} {text : String} {p : Pattern}
variable (given : context.params.get? "pattern" = some (.value (.str text)))
variable (parsed : Pattern.parse text = .ok p) (s : Site)
include given parsed

theorem nameMatchesPattern_eq :
    nameMatchesPattern (.declaration s) context = .ok (
      if !p.matchesWhole s.name then some { values := [("pattern", .str text)] } else none) := by
  have hvalue : context.params.valueOr "pattern" .null = .str text := by
    rw [Params.valueOr, given]
  simp only [nameMatchesPattern, patternOf, given, hvalue, Node.named, matchesPattern, parsed, bind,
    Except.bind]
  cases p.matchesWhole s.name <;> rfl

theorem constantName_eq :
    constantName (.declaration s) context = .ok (
      if s.header.hasModifier "static" && s.header.hasModifier "final" && !p.matchesWhole s.name
      then some { values := [("pattern", .str text)] } else none) := by
  simp only [constantName, Node.asSite, bind, Except.bind, nameMatchesPattern_eq given parsed]
  cases s.header.hasModifier "static" && s.header.hasModifier "final" <;> rfl

end Patterns

end Check

/-! ## The findings -/

namespace Standard

/-- The naming rules with the patterns that they have by default. -/
def defaultNamingRules : List Rule :=
  namingRules (.str Check.typePattern) (.str Check.methodPattern) (.str Check.constantPattern)

theorem rules_of_build_naming {p : Pack} (h : build "naming" [] = .ok p) :
    p.rules = defaultNamingRules.map Rule.toDraft := by
  cases h
  rfl

def typeNameRule : Rule := defaultNamingRules.get ⟨0, by decide⟩

def methodNameRule : Rule := defaultNamingRules.get ⟨1, by decide⟩

def constantNameRule : Rule := defaultNamingRules.get ⟨2, by decide⟩

theorem typeNameRule_mem : typeNameRule ∈ defaultNamingRules := List.get_mem _ _

theorem methodNameRule_mem : methodNameRule ∈ defaultNamingRules := List.get_mem _ _

theorem constantNameRule_mem : constantNameRule ∈ defaultNamingRules := List.get_mem _ _

/-- The message of each rule, from how it starts on. -/
theorem render_naming (config : Config) (node : Node) (unit : SourceUnit) {r : Rule}
    {subject pattern : String}
    (h : (r, subject, pattern) ∈ [(typeNameRule, "Type name", Check.typePattern),
      (methodNameRule, "Method name", Check.methodPattern),
      (constantNameRule, "Constant", Check.constantPattern)]) :
    (r.withOverride config).render node unit [("pattern", .str pattern)] =
      .ok (subject ++ " '" ++ node.name ++ "' does not match " ++ pattern) := by
  have hjoin : String.join [subject ++ " '", node.name, "' does not match ", pattern] =
      subject ++ " '" ++ node.name ++ "' does not match " ++ pattern := by
    simp [String.join]
  simp only [List.mem_cons, List.not_mem_nil, or_false, Prod.mk.injEq] at h
  have hmessage : (r.withOverride config).message =
      subject ++ " '\x7bname\x7d' does not match \x7bpattern\x7d" := by
    rcases h with ⟨rfl, rfl, -⟩ | ⟨rfl, rfl, -⟩ | ⟨rfl, rfl, -⟩ <;> rfl
  rw [← hjoin, Rule.render, hmessage]
  rcases h with ⟨-, rfl, rfl⟩ | ⟨-, rfl, rfl⟩ | ⟨-, rfl, rfl⟩ <;> rfl

end Standard

namespace Registry
open Standard

/-- The finding that the name of a declaration does not match. -/
def namingFinding (reg : Registry) (unit : SourceUnit) (id subject pattern : String) (s : Site) :
    Finding where
  rule := id
  severity := (reg.config.overrides.lookup id).getD .info
  unit := unit.path
  span := s.declaration.span
  message := subject ++ " '" ++ s.name ++ "' does not match " ++ pattern

section Naming
variable {packs : List Pack} {config : Config} {reg : Registry} {p : Pack} {unit : SourceUnit}
variable {result : UnitResult}
variable (built : ofPacks packs config = .ok reg) (pack : build "naming" [] = .ok p)
variable (hp : p ∈ packs)
variable (sound : unit.fault? = none) (evaluated : (reg.evaluate unit).outcome = .ok result)
include built pack hp sound evaluated

theorem findings_of_naming {r : Rule} (hr : r ∈ defaultNamingRules) (own : r.isEngine = false)
    (enabled : reg.isEnabled r.id = true) (info : r.severity = .info)
    {kind : NodeKind} (target : r.target = some kind)
    (declared : kind = .type ∨ kind = .method ∨ kind = .field)
    {check : Inspection} (predicate : r.predicate = some check.toPredicate)
    {flagged : Site → Bool} {text subject : String}
    (checks : ∀ s, check (.declaration s) (reg.context unit r) =
      .ok (if flagged s then some { values := [("pattern", .str text)] } else none))
    (filled : ∀ s, (r.withOverride reg.config).render (.declaration s) unit
      [("pattern", .str text)] = .ok (subject ++ " '" ++ s.name ++ "' does not match " ++ text)) :
    result.findings.filter (fun f => f.rule == r.id) =
      (unit.preorder.filter fun s => s.declaration.kind == kind && flagged s).map
        (reg.namingFinding unit r.id subject text) := by
  have hmem := mem_rules_of_pack built hp (rules_of_build_naming pack) hr own
  have hanswers (s : Site) : s.declaration.kind = kind →
      reg.answer unit (r.withOverride reg.config) (.declaration s) = if flagged s then
        .matched s.declaration.span (subject ++ " '" ++ s.name ++ "' does not match " ++ text)
        else .passes := fun _ => answer_of_flag predicate (checks s) (filled s)
  have hfindings := findings_on_declarations (ofPacks_eq_ok_iff.mp built) hmem own enabled sound
    evaluated target declared hanswers
  have hseverity : (r.withOverride reg.config).severity =
      (reg.config.overrides.lookup r.id).getD .info := by
    rw [← info]
    rfl
  rw [show r.id = (r.withOverride reg.config).id from rfl, hfindings]
  refine List.map_congr_left fun s _ => ?_
  rw [namingFinding, matchFinding, hseverity]
  rfl

end Naming

/-- With the patterns that the naming rules have by default, the types that are flagged are those
whose names are not in camel case with a large first letter, the methods those whose names are not
in camel case with a small one, and the static final fields those whose names are not made of parts
as constants are. -/
theorem evaluate_naming {packs : List Pack} {config : Config} {reg : Registry} {p : Pack}
    {unit : SourceUnit} (built : ofPacks packs config = .ok reg)
    (pack : build "naming" [] = .ok p) (hp : p ∈ packs)
    (enabled : ∀ r ∈ defaultNamingRules, reg.isEnabled r.id = true)
    (sound : unit.fault? = none) :
    ((∀ r ∈ reg.rules, r.isEngine = false → r.Steady) →
      ∃ result, (reg.evaluate unit).outcome = .ok result) ∧
    ∀ result, (reg.evaluate unit).outcome = .ok result →
      result.findings.filter (fun f => f.rule == "naming/type-name") =
        (unit.walk.filter fun s =>
            s.declaration.kind == .type && !isCamelCase Char.isUpper s.name).map
          (reg.namingFinding unit "naming/type-name" "Type name" Check.typePattern) ∧
      result.findings.filter (fun f => f.rule == "naming/method-name") =
        (unit.walk.filter fun s =>
            s.declaration.kind == .method && !isCamelCase Char.isLower s.name).map
          (reg.namingFinding unit "naming/method-name" "Method name" Check.methodPattern) ∧
      result.findings.filter (fun f => f.rule == "naming/constant-name") =
        (unit.walk.filter fun s =>
            s.declaration.kind == .field && (s.header.hasModifier "static" &&
              s.header.hasModifier "final" && !isConstantCase s.name)).map
          (reg.namingFinding unit "naming/constant-name" "Constant" Check.constantPattern) := by
  refine ⟨fun steady => ⟨_, (evaluate_sound sound).mpr ⟨run_escape_of_steady unit steady, rfl⟩⟩,
    fun result evaluated => ?_⟩
  rw [SourceUnit.walk_eq_preorder]
  refine ⟨?types, ?methods, ?constants⟩
  case types =>
    refine findings_of_naming built pack hp sound evaluated typeNameRule_mem rfl
      (enabled _ typeNameRule_mem) rfl rfl (.inl rfl) rfl (fun s => ?_) fun s => ?_
    · rw [Check.nameMatchesPattern_eq rfl Pattern.parse_typePattern,
        Pattern.matchesWhole_camelCase CharClass.upper_admits]
    · exact render_naming _ _ _ (by simp)
  case methods =>
    refine findings_of_naming built pack hp sound evaluated methodNameRule_mem rfl
      (enabled _ methodNameRule_mem) rfl rfl (.inr (.inl rfl)) rfl (fun s => ?_) fun s => ?_
    · rw [Check.nameMatchesPattern_eq rfl Pattern.parse_methodPattern,
        Pattern.matchesWhole_camelCase CharClass.lower_admits]
    · exact render_naming _ _ _ (by simp)
  case constants =>
    refine findings_of_naming built pack hp sound evaluated constantNameRule_mem rfl
      (enabled _ constantNameRule_mem) rfl rfl (.inr (.inr rfl)) rfl (fun s => ?_) fun s => ?_
    · rw [Check.constantName_eq rfl Pattern.parse_constantPattern,
        Pattern.matchesWhole_constantCase]
    · exact render_naming _ _ _ (by simp)

/-- Types, a method and constants, of which every second one is misnamed. -/
def misnamedUnit : SourceUnit where
  path := "A"
  package := ""
  lineLengths := [40, 40, 40]
  imports := []
  suppressions := []
  declarations := [
    .type ⟨"Shelf2", .ofInts 1 1 3 2, .pub, [], [], none⟩ "class" [] [
      .type ⟨"Étage", .ofInts 2 1 2 9, .pub, [], [], none⟩ "enum" [] [
        .method ⟨"open\n", .ofInts 2 2 2 8, .pub, [], [], none⟩ {
          parameters := [], returnType := .null, throws := [], handlers := []
          resourceScopes := [] }],
      .field ⟨"MAX_2_SIZE", .ofInts 2 10 2 12, .pub, ["static", "final"], [], none⟩ "int",
      .field ⟨"MAX__SIZE", .ofInts 2 13 2 15, .pub, ["final", "static"], [], none⟩ "int",
      .field ⟨"MAX__SIZE", .ofInts 2 16 2 18, .pub, ["final"], [], none⟩ "int",
      .field ⟨"MAX_", .ofInts 2 19 2 21, .pub, ["static", "final"], [], none⟩ "int"]]

theorem evaluate_naming_misnamedUnit :
    ∃ (p : Pack) (reg : Registry) (result : UnitResult),
      build "naming" [] = .ok p ∧ ofPacks [p] {} = .ok reg ∧
      (∀ r ∈ defaultNamingRules, reg.isEnabled r.id = true) ∧ misnamedUnit.fault? = none ∧
      (reg.evaluate misnamedUnit).outcome = .ok result ∧
      (result.findings.filter fun f => f.rule == "naming/type-name").map (·.span) =
        [.ofInts 2 1 2 9] ∧
      (result.findings.filter fun f => f.rule == "naming/method-name").map (·.span) =
        [.ofInts 2 2 2 8] ∧
      (result.findings.filter fun f => f.rule == "naming/constant-name").map (·.span) =
        [.ofInts 2 13 2 15, .ofInts 2 19 2 21] := by
  obtain ⟨p, pack⟩ : ∃ p, build "naming" [] = .ok p := ⟨_, rfl⟩
  have rules := rules_of_build_naming pack
  obtain ⟨reg, built⟩ : ∃ reg, ofPacks [p] {} = .ok reg := by
    cases pack
    exact ⟨_, rfl⟩
  have plain : ∀ r ∈ defaultNamingRules,
      r.isEngine = false ∧ ∃ check : Inspection, r.predicate = some check.toPredicate := by
    simp only [defaultNamingRules, namingRules, List.forall_mem_cons]
    exact ⟨⟨rfl, _, rfl⟩, ⟨rfl, _, rfl⟩, ⟨rfl, _, rfl⟩, List.forall_mem_nil _⟩
  have steady := steady_of_checks rules built fun r hr => (plain r hr).2
  have enabled : ∀ r ∈ defaultNamingRules, reg.isEnabled r.id = true :=
    fun r hr => isEnabled_of_default rules built hr (plain r hr).1
  have sound : misnamedUnit.fault? = none := by
    rw [SourceUnit.fault?, SourceUnit.firstFault?, SourceUnit.walk_eq_preorder]
    rfl
  obtain ⟨hresult, hall⟩ := evaluate_naming built pack List.mem_cons_self enabled sound
  obtain ⟨result, hresult⟩ := hresult steady
  obtain ⟨htypes, hmethods, hconstants⟩ := hall result hresult
  rw [SourceUnit.walk_eq_preorder] at htypes hmethods hconstants
  refine ⟨p, reg, result, pack, built, enabled, sound, hresult, ?_, ?_, ?_⟩
  · rw [htypes]
    rfl
  · rw [hmethods]
    rfl
  · rw [hconstants]
    rfl

end Registry

end Conformance
