import Conformance.Pack.Basic

/-!
# The standard packs

Seven packs come with the library. Each can be adapted by parameters.
-/

namespace Conformance

inductive BuildError where
  | policy (e : PolicyError)
  | fault (f : Fault)
  | rule (e : RuleError)
  | unexpected (builder parameter : String)
  /-- A parameter gives the name of the pack, which is given already. -/
  | secondName

def BuildError.message : BuildError → String
  | policy e => e.message
  | fault f => f.text
  | rule e => e.message
  | unexpected builder parameter =>
    s!"{builder}() got an unexpected keyword argument '{parameter}'"
  | secondName => "build_builtin_pack() got multiple values for argument 'name'"

namespace Standard

def allowed : TableEntry := { tier := .allowed }

def banned (reason : String) : TableEntry := { tier := .banned, reason }

/-- The entry of an annotation that must leave out sensitive members. -/
def explicitOnly (reason : String) : TableEntry where
  tier := .caution
  reason := reason
  requires := [(.str "onlyExplicitlyIncluded", .bool true)]
  whenMarked := .str "Sensitive"

def annotationTable : AnnotationTable :=
  (["Override", "Deprecated", "FunctionalInterface", "SafeVarargs", "SuppressWarnings", "Nullable",
    "NonNull", "GuardedBy", "ThreadSafe", "Immutable", "Sensitive", "Getter", "Builder"].map
      fun name => (name, allowed)) ++ [
    ("ToString", explicitOnly "generated toString would print sensitive fields"),
    ("EqualsAndHashCode", explicitOnly "generated equality must not depend on sensitive fields"),
    ("Data", banned "generates mutable accessors and unrestricted toString"),
    ("SneakyThrows", banned "hides checked exceptions from callers"),
    ("Cleanup", banned "use a resource scope instead")]

def annotationRules (table : AnnotationTable) : List Rule := [
  { id := "annotation/banned", category := .annotationPolicy, target := some .mark,
    severity := .error, message := "Annotation @\x7bannotation\x7d is banned: \x7breason\x7d",
    predicate := some Check.bannedMark.toPredicate,
    description := .str "Banned annotations are never allowed, whatever their arguments.",
    params := [(.str "table", .table table)] },
  { id := "annotation/unlisted", category := .annotationPolicy, target := some .mark,
    severity := .error, message := "Annotation @\x7bannotation\x7d is not on the allow-list",
    predicate := some Check.unlistedMark.toPredicate,
    description := .str
      "Closed-world policy: annotations missing from the table are banned unless permissive.",
    params := [(.str "table", .table table)] },
  { id := "annotation/caution-arguments", category := .annotationPolicy, target := some .mark,
    severity := .warning,
    message :=
      "Annotation @\x7bannotation\x7d on '\x7btarget\x7d' must set \x7bmissing\x7d " ++
        "(\x7breason\x7d)",
    predicate := some Check.cautionArguments.toPredicate,
    description := .str
      "Caution-tier annotations must carry the arguments their sub-policy requires.",
    params := [(.str "table", .table table)] }]

def nullnessRules (nullable nonNull : List Value) : List Rule := [
  { id := "annotation/conflicting-nullness", category := .annotationPolicy,
    target := some .declaration, severity := .error,
    message := "\x7bkind\x7d '\x7bname\x7d' is marked both @\x7bnullable\x7d and @\x7bnon_null\x7d",
    predicate := some Check.conflictingNullness.toPredicate,
    description := .str "A declaration cannot be nullable and non-null at once.",
    params := [
      (.str "nullable", .value (.list nullable)), (.str "non_null", .value (.list nonNull))] }]

def documentationRules (order single : List Value) (marker : Value)
    (missingSeverity : Severity) : List Rule := [
  { id := "doc/tag-order", category := .documentation, target := some .doc, severity := .warning,
    message := "Doc tag @\x7btag\x7d is out of order: \x7bdetail\x7d",
    predicate := some Check.tagOrder.toPredicate,
    description := .str
      "Block tags follow param*, return?, throws* (alphabetical), see*, since?, deprecated?.",
    params := [(.str "order", .value (.list order)), (.str "single", .value (.list single))] },
  { id := "doc/deprecation-mismatch", category := .documentation, target := some .declaration,
    severity := .error, message := "\x7bkind\x7d '\x7bname\x7d' \x7bdetail\x7d",
    predicate := some Check.deprecationMismatch.toPredicate,
    description := .str "The @deprecated tag and the deprecation annotation appear together.",
    params := [(.str "annotation", .value marker)] },
  { id := "doc/summary-period", category := .documentation, target := some .doc,
    severity := .warning, message := "Documentation of '\x7bowner\x7d': \x7bdetail\x7d",
    predicate := some Check.summaryPeriod.toPredicate,
    description := .str "The summary fragment ends at its first period followed by whitespace." },
  { id := "doc/missing-public", category := .documentation, target := some .declaration,
    severity := missingSeverity,
    message := "Public \x7bkind\x7d '\x7bqualified_name\x7d' has no documentation comment",
    predicate := some Check.missingPublicDoc.toPredicate,
    description := .str "Public types and methods carry a documentation comment.",
    params := [(.str "kinds", .value (.ofTexts Check.documentedKinds))] }]

def resourceRules (capabilities : List Value) (method : Value) : List Rule := [
  { id := "resource/close-throws", category := .resourceLifecycle, target := some .method,
    severity := .warning,
    message :=
      "\x7bowner\x7d.\x7bname\x7d() implements \x7bcapability\x7d but declares throws " ++
        "\x7bthrows\x7d; closing must not throw",
    predicate := some Check.closeThrows.toPredicate,
    description := .str
      "The zero-argument closing operation of an auto-closing type declares no checked exceptions.",
    params := [
      (.str "capabilities", .value (.list capabilities)), (.str "method", .value method)] }]

def concurrencyRules (markers : List Value) (marker : Value) : List Rule := [
  { id := "concurrency/guarded-by-unknown-lock", category := .concurrency, target := some .mark,
    severity := .error, message := "@\x7bname\x7d \x7bdetail\x7d",
    predicate := some Check.guardedByUnknownLock.toPredicate,
    description := .str
      "A guard annotation names 'this', a class literal, or a field of an enclosing type.",
    params := [(.str "annotation", .value marker)] },
  { id := "concurrency/immutable-mutable-field", category := .concurrency, target := some .field,
    severity := .warning,
    message :=
      "Field '\x7bname\x7d' of @\x7bmarker\x7d type \x7bowner\x7d is neither final nor guarded",
    predicate := some Check.immutableMutableField.toPredicate,
    description := .str "Fields of immutable or thread-safe types are final or explicitly guarded.",
    params := [(.str "markers", .value (.list markers))] }]

def namingRules (typePattern methodPattern constantPattern : Value) : List Rule := [
  { id := "naming/type-name", category := .naming, target := some .type, severity := .info,
    message := "Type name '\x7bname\x7d' does not match \x7bpattern\x7d",
    predicate := some Check.nameMatchesPattern.toPredicate,
    params := [(.str "pattern", .value typePattern)] },
  { id := "naming/method-name", category := .naming, target := some .method, severity := .info,
    message := "Method name '\x7bname\x7d' does not match \x7bpattern\x7d",
    predicate := some Check.nameMatchesPattern.toPredicate,
    params := [(.str "pattern", .value methodPattern)] },
  { id := "naming/constant-name", category := .naming, target := some .field, severity := .info,
    message := "Constant '\x7bname\x7d' does not match \x7bpattern\x7d",
    predicate := some Check.constantName.toPredicate,
    params := [(.str "pattern", .value constantPattern)] }]

def exceptionRules (broadTypes : List Value) : List Rule := [
  { id := "exception/empty-handler", category := .exceptionHandling, target := some .method,
    severity := .warning,
    message :=
      "Empty handler for \x7bcaught\x7d in '\x7bname\x7d' swallows the exception without a comment",
    predicate := some Check.emptyHandler.toPredicate },
  { id := "exception/broad-catch", category := .exceptionHandling, target := some .method,
    severity := .warning,
    message := "'\x7bname\x7d' catches \x7bcaught\x7d; catch the specific exceptions instead",
    predicate := some Check.broadCatch.toPredicate,
    params := [(.str "types", .value (.list broadTypes))] }]

abbrev Options := List (String × Value)

def itemsOr (options : Options) (name : String) (default : List String) :
    Except BuildError (List Value) :=
  match options.lookup name with
  | none => .ok (default.map .str)
  | some v =>
    match v.iterate with
    | .ok items => .ok items
    | .error f => .error (.fault f)

def valueOr (options : Options) (name default : String) : Value :=
  (options.lookup name).getD (.str default)

def buildAnnotationPolicy (options : Options) : Except BuildError (List Rule) :=
  match options.lookup "table" with
  | none => .ok (annotationRules annotationTable)
  | some .null => .ok (annotationRules annotationTable)
  | some v =>
    match AnnotationTable.ofValue v with
    | .ok table => .ok (annotationRules table)
    | .error e => .error (.policy e)

def buildNullness (options : Options) : Except BuildError (List Rule) := do
  let nullable ← itemsOr options "nullable" Check.nullableMarkers
  let nonNull ← itemsOr options "non_null" Check.nonNullMarkers
  return nullnessRules nullable nonNull

def buildDocumentation (options : Options) : Except BuildError (List Rule) := do
  let order ← itemsOr options "order" Check.canonicalTagOrder
  let single ← itemsOr options "single" Check.singleTags
  let marker := valueOr options "deprecation_annotation" "Deprecated"
  match Severity.parse (valueOr options "missing_doc_severity" "warning") with
  | .ok severity => return documentationRules order single marker severity
  | .error e => .error (.rule (.badSeverity e))

def buildResources (options : Options) : Except BuildError (List Rule) := do
  let capabilities ← itemsOr options "capabilities" Check.autoClosingTypes
  return resourceRules capabilities (valueOr options "method" Check.closingMethod)

def buildConcurrency (options : Options) : Except BuildError (List Rule) := do
  let markers ← itemsOr options "markers" Check.threadSafeMarkers
  return concurrencyRules markers (valueOr options "annotation" Check.guardName)

def buildNaming (options : Options) : Except BuildError (List Rule) :=
  .ok (namingRules (valueOr options "type_pattern" Check.typePattern)
    (valueOr options "method_pattern" Check.methodPattern)
    (valueOr options "constant_pattern" Check.constantPattern))

def buildExceptions (options : Options) : Except BuildError (List Rule) := do
  return exceptionRules (← itemsOr options "broad_types" Check.broadTypes)

structure Recipe where
  name : String
  builder : String := "build_pack"
  /-- The parameters it knows, besides name and version. -/
  parameters : List String
  build : Options → Except BuildError (List Rule)

def recipes : List Recipe := [
  { name := "annotation-policy", parameters := ["table"], build := buildAnnotationPolicy },
  { name := "nullness", builder := "build_nullness_pack", parameters := ["nullable", "non_null"],
    build := buildNullness },
  { name := "documentation",
    parameters := ["order", "single", "deprecation_annotation", "missing_doc_severity"],
    build := buildDocumentation },
  { name := "resource-lifecycle", parameters := ["capabilities", "method"],
    build := buildResources },
  { name := "concurrency", parameters := ["markers", "annotation"], build := buildConcurrency },
  { name := "naming", parameters := ["type_pattern", "method_pattern", "constant_pattern"],
    build := buildNaming },
  { name := "exception-handling", parameters := ["broad_types"], build := buildExceptions }]

def packNames : List String := (recipes.map (·.name)).mergeSort Text.atMost

def defaultNames : List String :=
  ["annotation-policy", "nullness", "documentation", "resource-lifecycle", "concurrency"]

def Recipe.make (recipe : Recipe) (options : Options) : Except BuildError Pack := do
  match options.find? fun o => !("version" :: recipe.parameters).contains o.1 with
  | some (name, _) => .error (.unexpected recipe.builder name)
  | none =>
    let rules ← recipe.build options
    return {
      name := .str recipe.name
      rules := rules.map Rule.toDraft
      version := valueOr options "version" "1" }

def build (name : String) (options : Options) : Except BuildError Pack :=
  if options.any (·.1 == "name") then .error .secondName
  else
    match recipes.find? (·.name == name) with
    | some recipe => recipe.make options
    | none => .error (.policy (.unknownPack name packNames))

end Standard

end Conformance
