import Conformance.Check.Access
import Conformance.Proofs.ReadErrors
import Conformance.Proofs.Traversal
import Mathlib.Data.List.Forall2

/-!
# Written units

A unit is written as a mapping with one entry for each of its parts, in any order and among any
other entries: `SourceUnit.WrittenIn` says which keys hold what, and `SourceUnit.entries` is one
such mapping. Every mapping that writes a unit is read back as that unit, unless its path is empty
or a tag is named with the sign in front, which reading takes off.
-/

namespace Conformance

/-- The four numbers of a span. -/
def Span.numbers (s : Span) : Value :=
  .list [.int s.start.line, .int s.start.column, .int s.stop.line, .int s.stop.column]

/-- Under the key stands a list that writes the given things in order, one mapping for each. -/
def Entries.Lists {α : Type} (m : Entries) (key : String) (writes : α → Entries → Prop)
    (xs : List α) : Prop :=
  ∃ ms : List Entries, m.get? key = some (.list (ms.map .map)) ∧ List.Forall₂ writes xs ms

/-- No tag of the comment is named with the sign in front. -/
def Header.TagsUnsigned (h : Header) : Prop :=
  ∀ d ∈ h.doc, ∀ t ∈ d.tags, t.kind.toList.head? ≠ some '@'

/-! ## The keys of each part -/

structure Annotation.WrittenIn (a : Annotation) (m : Entries) : Prop where
  name : m.get? "name" = some (.str a.name)
  span : m.get? "span" = some a.span.numbers
  arguments : m.get? "arguments" = some (.map a.arguments)

structure DocTag.WrittenIn (t : DocTag) (m : Entries) : Prop where
  kind : m.get? "kind" = some (.str t.kind)
  text : m.get? "text" = some (.str t.text)
  span : m.get? "span" = some t.span.numbers

structure DocComment.WrittenIn (d : DocComment) (m : Entries) : Prop where
  span : m.get? "span" = some d.span.numbers
  summary : m.get? "summary" = some (.str d.summary)
  tags : m.Lists "tags" DocTag.WrittenIn d.tags
  terminalPeriod : m.get? "terminal_period" = some (.bool d.terminalPeriod)

structure Parameter.WrittenIn (p : Parameter) (m : Entries) : Prop where
  name : m.get? "name" = some (.str p.name)
  typeName : m.get? "type" = some (.str p.typeName)

structure Handler.WrittenIn (h : Handler) (m : Entries) : Prop where
  caught : m.get? "caught" = some (.ofTexts h.caught)
  span : m.get? "span" = some h.span.numbers
  bodyEmpty : m.get? "empty" = some (.bool h.bodyEmpty)
  hasComment : m.get? "comment" = some (.bool h.hasComment)

structure ResourceScope.WrittenIn (s : ResourceScope) (m : Entries) : Prop where
  resources : m.get? "resources" = some (.ofTexts s.resources)
  span : m.get? "span" = some s.span.numbers

structure Import.WrittenIn (i : Import) (m : Entries) : Prop where
  name : m.get? "name" = some (.str i.name)
  span : m.get? "span" = some i.span.numbers
  static : m.get? "static" = some (.bool i.static)

structure Directive.WrittenIn (d : Directive) (m : Entries) : Prop where
  text : m.get? "text" = some (.str d.text)
  span : m.get? "span" = some d.span.numbers

/-- A comment that is absent is written as null, or has no entry at all. -/
inductive DocComment.WrittenUnder (m : Entries) : Option DocComment → Prop where
  | absent (h : Reading.optional m "doc" .null = .null) : WrittenUnder m none
  | present {d : DocComment} {q : Entries} (h : m.get? "doc" = some (.map q))
      (hd : d.WrittenIn q) : WrittenUnder m (some d)

structure Header.WrittenIn (h : Header) (m : Entries) : Prop where
  name : m.get? "name" = some (.str h.name)
  span : m.get? "span" = some h.span.numbers
  visibility : m.get? "visibility" = some (.str h.visibility.label)
  modifiers : m.get? "modifiers" = some (.ofTexts h.modifiers)
  annotations : m.Lists "annotations" Annotation.WrittenIn h.annotations
  doc : DocComment.WrittenUnder m h.doc

structure Signature.WrittenIn (s : Signature) (m : Entries) : Prop where
  parameters : m.Lists "parameters" Parameter.WrittenIn s.parameters
  returnType : m.get? "return_type" = some s.returnType
  throws : m.get? "throws" = some (.ofTexts s.throws)
  handlers : m.Lists "handlers" Handler.WrittenIn s.handlers
  resourceScopes : m.Lists "resource_scopes" ResourceScope.WrittenIn s.resourceScopes

/-- A declaration, its kind, and all that is declared in it. -/
inductive Declaration.WrittenIn : Declaration → Entries → Prop where
  | type {header : Header} {typeKind : String} {supertypes : List String}
      {members : List Declaration} {m : Entries} {ms : List Entries}
      (kind : m.get? "kind" = some (.str "type")) (hheader : header.WrittenIn m)
      (htypeKind : m.get? "type_kind" = some (.str typeKind))
      (hsupertypes : m.get? "supertypes" = some (.ofTexts supertypes))
      (hmembers : m.get? "members" = some (.list (ms.map .map)))
      (each : List.Forall₂ WrittenIn members ms) :
      WrittenIn (.type header typeKind supertypes members) m
  | method {header : Header} {signature : Signature} {m : Entries}
      (kind : m.get? "kind" = some (.str "method")) (hheader : header.WrittenIn m)
      (hsignature : signature.WrittenIn m) : WrittenIn (.method header signature) m
  | field {header : Header} {typeName : String} {m : Entries}
      (kind : m.get? "kind" = some (.str "field")) (hheader : header.WrittenIn m)
      (htypeName : m.get? "type" = some (.str typeName)) : WrittenIn (.field header typeName) m

structure SourceUnit.WrittenIn (u : SourceUnit) (m : Entries) : Prop where
  path : m.get? "path" = some (.str u.path)
  package : m.get? "package" = some (.str u.package)
  lineLengths : m.get? "line_lengths" = some (.list (u.lineLengths.map .int))
  imports : m.Lists "imports" Import.WrittenIn u.imports
  suppressions : m.Lists "suppressions" Directive.WrittenIn u.suppressions
  declarations : m.Lists "declarations" Declaration.WrittenIn u.declarations

/-! ## One mapping for each part -/

/-- A list of mappings, one for each of the given things. -/
def Value.ofEach {α : Type} (entries : α → Entries) (xs : List α) : Value :=
  .list (xs.map fun x => .map (entries x))

def Annotation.entries (a : Annotation) : Entries :=
  [(.str "name", .str a.name), (.str "span", a.span.numbers),
    (.str "arguments", .map a.arguments)]

def DocTag.entries (t : DocTag) : Entries :=
  [(.str "kind", .str t.kind), (.str "text", .str t.text), (.str "span", t.span.numbers)]

def DocComment.entries (d : DocComment) : Entries :=
  [(.str "span", d.span.numbers), (.str "summary", .str d.summary),
    (.str "tags", .ofEach DocTag.entries d.tags),
    (.str "terminal_period", .bool d.terminalPeriod)]

def Parameter.entries (p : Parameter) : Entries :=
  [(.str "name", .str p.name), (.str "type", .str p.typeName)]

def Handler.entries (h : Handler) : Entries :=
  [(.str "caught", .ofTexts h.caught), (.str "span", h.span.numbers),
    (.str "empty", .bool h.bodyEmpty), (.str "comment", .bool h.hasComment)]

def ResourceScope.entries (s : ResourceScope) : Entries :=
  [(.str "resources", .ofTexts s.resources), (.str "span", s.span.numbers)]

def Import.entries (i : Import) : Entries :=
  [(.str "name", .str i.name), (.str "span", i.span.numbers), (.str "static", .bool i.static)]

def Directive.entries (d : Directive) : Entries :=
  [(.str "text", .str d.text), (.str "span", d.span.numbers)]

/-- The entries that every declaration has, after its kind and before its own. -/
def Header.entries (h : Header) (kind : String) (own : Entries) : Entries :=
  (.str "kind", .str kind) :: (.str "name", .str h.name) :: (.str "span", h.span.numbers) ::
    (.str "visibility", .str h.visibility.label) :: (.str "modifiers", .ofTexts h.modifiers) ::
    (.str "annotations", .ofEach Annotation.entries h.annotations) ::
    (.str "doc", (h.doc.map fun d => Value.map d.entries).getD .null) :: own

def Signature.entries (s : Signature) : Entries :=
  [(.str "parameters", .ofEach Parameter.entries s.parameters), (.str "return_type", s.returnType),
    (.str "throws", .ofTexts s.throws), (.str "handlers", .ofEach Handler.entries s.handlers),
    (.str "resource_scopes", .ofEach ResourceScope.entries s.resourceScopes)]

namespace Declaration

mutual

def entries : Declaration → Entries
  | type header typeKind supertypes members =>
    header.entries "type"
      [(.str "type_kind", .str typeKind), (.str "supertypes", .ofTexts supertypes),
        (.str "members", .list ((memberEntries members).map .map))]
  | method header signature => header.entries "method" signature.entries
  | field header typeName => header.entries "field" [(.str "type", .str typeName)]

def memberEntries : List Declaration → List Entries
  | [] => []
  | d :: rest => d.entries :: memberEntries rest

end

end Declaration

def SourceUnit.entries (u : SourceUnit) : Entries :=
  [(.str "path", .str u.path), (.str "package", .str u.package),
    (.str "line_lengths", .list (u.lineLengths.map .int)),
    (.str "imports", .ofEach Import.entries u.imports),
    (.str "suppressions", .ofEach Directive.entries u.suppressions),
    (.str "declarations", .ofEach Declaration.entries u.declarations)]

/-! ## The mappings write the parts -/

theorem Entries.lists_of_get? {α : Type} {m : Entries} {key : String}
    {writes : α → Entries → Prop} {entries : α → Entries} {xs : List α}
    (h : m.get? key = some (.ofEach entries xs)) (each : ∀ x ∈ xs, writes x (entries x)) :
    m.Lists key writes xs := by
  refine ⟨xs.map entries, ?_, ?_⟩
  · rw [h, Value.ofEach, List.map_map, Function.comp_def]
  · rw [List.forall₂_map_right_iff, List.forall₂_same]
    exact each

theorem Annotation.writtenIn_entries (a : Annotation) : a.WrittenIn a.entries := by
  constructor <;> simp [entries, Entries.get?_cons]

theorem DocTag.writtenIn_entries (t : DocTag) : t.WrittenIn t.entries := by
  constructor <;> simp [entries, Entries.get?_cons]

theorem DocComment.writtenIn_entries (d : DocComment) : d.WrittenIn d.entries where
  span := by simp [entries, Entries.get?_cons]
  summary := by simp [entries, Entries.get?_cons]
  tags := Entries.lists_of_get? (by simp [entries, Entries.get?_cons])
    fun t _ => t.writtenIn_entries
  terminalPeriod := by simp [entries, Entries.get?_cons]

theorem Parameter.writtenIn_entries (p : Parameter) : p.WrittenIn p.entries := by
  constructor <;> simp [entries, Entries.get?_cons]

theorem Handler.writtenIn_entries (h : Handler) : h.WrittenIn h.entries := by
  constructor <;> simp [entries, Entries.get?_cons]

theorem ResourceScope.writtenIn_entries (s : ResourceScope) : s.WrittenIn s.entries := by
  constructor <;> simp [entries, Entries.get?_cons]

theorem Import.writtenIn_entries (i : Import) : i.WrittenIn i.entries := by
  constructor <;> simp [entries, Entries.get?_cons]

theorem Directive.writtenIn_entries (d : Directive) : d.WrittenIn d.entries := by
  constructor <;> simp [entries, Entries.get?_cons]

theorem Header.writtenIn_entries (h : Header) (kind : String) (own : Entries) :
    h.WrittenIn (h.entries kind own) where
  name := by simp [entries, Entries.get?_cons]
  span := by simp [entries, Entries.get?_cons]
  visibility := by simp [entries, Entries.get?_cons]
  modifiers := by simp [entries, Entries.get?_cons]
  annotations := Entries.lists_of_get? (by simp [entries, Entries.get?_cons])
    fun a _ => a.writtenIn_entries
  doc := by
    cases hdoc : h.doc with
    | none => exact .absent (by simp [entries, Reading.optional, Entries.get?_cons, hdoc])
    | some d => exact .present (by simp [entries, Entries.get?_cons, hdoc]) d.writtenIn_entries

theorem Header.get?_kind (h : Header) (kind : String) (own : Entries) :
    (h.entries kind own).get? "kind" = some (.str kind) := by
  simp [entries, Entries.get?_cons]

/-- What a declaration has of its own is found behind what every declaration has. -/
theorem Header.get?_own (h : Header) (kind : String) (own : Entries) {key : String}
    (hkey : key ∉ ["kind", "name", "span", "visibility", "modifiers", "annotations", "doc"]) :
    (h.entries kind own).get? key = own.get? key := by
  simp only [List.mem_cons, List.not_mem_nil, or_false, not_or, eq_comm (a := key)] at hkey
  simp [entries, Entries.get?_cons, hkey]

theorem Signature.writtenIn_entries (s : Signature) (h : Header) (kind : String) :
    s.WrittenIn (h.entries kind s.entries) where
  parameters := by
    apply Entries.lists_of_get? _ fun p _ => Parameter.writtenIn_entries p
    rw [Header.get?_own h kind _ (by decide)]
    simp [entries, Entries.get?_cons]
  returnType := by
    rw [Header.get?_own h kind _ (by decide)]
    simp [entries, Entries.get?_cons]
  throws := by
    rw [Header.get?_own h kind _ (by decide)]
    simp [entries, Entries.get?_cons]
  handlers := by
    apply Entries.lists_of_get? _ fun p _ => Handler.writtenIn_entries p
    rw [Header.get?_own h kind _ (by decide)]
    simp [entries, Entries.get?_cons]
  resourceScopes := by
    apply Entries.lists_of_get? _ fun p _ => ResourceScope.writtenIn_entries p
    rw [Header.get?_own h kind _ (by decide)]
    simp [entries, Entries.get?_cons]

namespace Declaration

mutual

theorem writtenIn_entries : (d : Declaration) → d.WrittenIn d.entries
  | type header typeKind supertypes members => by
    rw [entries]
    refine .type (header.get?_kind _ _) (header.writtenIn_entries _ _) ?_ ?_ ?_
      (forall₂_writtenIn members)
    all_goals
      rw [Header.get?_own header _ _ (by decide)]
      simp [Entries.get?_cons]
  | method header signature => by
    rw [entries]
    exact .method (header.get?_kind _ _) (header.writtenIn_entries _ _)
      (signature.writtenIn_entries header _)
  | field header typeName => by
    rw [entries]
    refine .field (header.get?_kind _ _) (header.writtenIn_entries _ _) ?_
    rw [Header.get?_own header _ _ (by decide)]
    simp [Entries.get?_cons]

theorem forall₂_writtenIn : (ds : List Declaration) →
    List.Forall₂ WrittenIn ds (memberEntries ds)
  | [] => .nil
  | d :: rest => .cons d.writtenIn_entries (forall₂_writtenIn rest)

end

end Declaration

theorem SourceUnit.writtenIn_entries (u : SourceUnit) : u.WrittenIn u.entries where
  path := by simp [entries, Entries.get?_cons]
  package := by simp [entries, Entries.get?_cons]
  lineLengths := by simp [entries, Entries.get?_cons]
  imports := Entries.lists_of_get? (by simp [entries, Entries.get?_cons])
    fun i _ => i.writtenIn_entries
  suppressions := Entries.lists_of_get? (by simp [entries, Entries.get?_cons])
    fun d _ => d.writtenIn_entries
  declarations := Entries.lists_of_get? (by simp [entries, Entries.get?_cons])
    fun d _ => d.writtenIn_entries

/-! ## Reading what is written -/

namespace Reading

variable {m : Entries} {key : String}

@[simp] theorem mapping_map (what : String) (m : Entries) : mapping what (.map m) = .ok m := rfl

theorem optional_written {v : Value} (h : m.get? key = some v) (default : Value) :
    optional m key default = v := by
  rw [optional, h, Option.getD_some]

theorem span_numbers (s : Span) : span s.numbers = .ok s := rfl

theorem spanOf_written {s : Span} (h : m.get? "span" = some s.numbers) : spanOf m = .ok s := by
  rw [spanOf, required, h]
  exact span_numbers s

theorem textOf_written {s : String} (h : m.get? key = some (.str s)) : textOf m key = .ok s := by
  rw [textOf, required, h]
  rfl

theorem textOr_written {s default : String} (h : m.get? key = some (.str s)) :
    textOr m key default = .ok s := by
  rw [textOr, optional_written h]
  rfl

theorem flag_written {b : Bool} (h : m.get? key = some (.bool b)) : flag m key = b := by
  rw [flag, optional_written h]
  rfl

theorem itemsUnder_written {vs : List Value} (h : m.get? key = some (.list vs)) :
    itemsUnder m key = .ok vs := by
  rw [itemsUnder, optional_written h]
  rfl

theorem mapM_written {ε α β : Type} {read : β → Except ε α} {xs : List α} {vs : List β}
    (h : List.Forall₂ (fun x v => read v = .ok x) xs vs) : vs.mapM read = .ok xs := by
  induction h with
  | nil => rfl
  | cons hx _ ih =>
    rw [List.mapM_cons, hx, ih]
    rfl

theorem mapM_map_written {ε α β : Type} (read : β → Except ε α) (write : α → β)
    (h : ∀ x, read (write x) = .ok x) (xs : List α) : (xs.map write).mapM read = .ok xs :=
  mapM_written (List.forall₂_map_right_iff.mpr (List.forall₂_same.mpr fun x _ => h x))

theorem textsUnder_written {texts : List String} (h : m.get? key = some (.ofTexts texts)) :
    textsUnder m key = .ok texts := by
  rw [textsUnder, itemsUnder_written h]
  exact mapM_map_written textOfValue .str (fun _ => rfl) texts

/-- If each thing is read back, then so is the list of them. -/
theorem listed_written {α : Type} {writes : α → Entries → Prop} {read : Value → Reading α}
    {xs : List α} (h : m.Lists key writes xs)
    (hread : ∀ x ∈ xs, ∀ q, writes x q → read (.map q) = .ok x) :
    ∃ vs, itemsUnder m key = .ok vs ∧ vs.mapM read = .ok xs := by
  obtain ⟨ms, hms, each⟩ := h
  refine ⟨_, itemsUnder_written hms, mapM_written ?_⟩
  rw [List.forall₂_map_right_iff]
  refine List.Forall₂.imp ?_ ((List.forall₂_and_left _ _).mpr ⟨fun x hx => hx, each⟩)
  rintro x q ⟨hx, hq⟩
  exact hread x hx q hq

theorem isTruthy_of_get? {q : Entries} {v : Value} (h : q.get? key = some v) :
    (Value.map q).isTruthy = true := by
  cases q with
  | nil => cases h
  | cons entry rest => rfl

theorem argumentsOf_written {arguments : Entries}
    (h : m.get? "arguments" = some (.map arguments)) : argumentsOf m = .ok arguments := by
  rw [argumentsOf, optional_written h]
  cases arguments with
  | nil => rfl
  | cons entry rest => rfl

theorem annotationOf_written {a : Annotation} (h : a.WrittenIn m) :
    annotationOf (.map m) = .ok a := by
  simp only [annotationOf, mapping_map, bind, Except.bind, argumentsOf_written h.arguments,
    textOf_written h.name, spanOf_written h.span]
  rfl

theorem tag_written {t : DocTag} (h : t.WrittenIn m) (unsigned : t.kind.toList.head? ≠ some '@') :
    tag (.map m) = .ok t := by
  have hkind : t.kind.toList.dropWhile (· == '@') = t.kind.toList := by
    cases hchars : t.kind.toList with
    | nil => rfl
    | cons c rest =>
      rw [hchars] at unsigned
      apply List.dropWhile_cons_of_neg
      simpa using unsigned
  simp only [tag, mapping_map, bind, Except.bind, textOf_written h.kind, textOr_written h.text,
    spanOf_written h.span, hkind, String.ofList_toList]
  rfl

theorem doc_written {d : DocComment} (h : d.WrittenIn m)
    (unsigned : ∀ t ∈ d.tags, t.kind.toList.head? ≠ some '@') : doc (.map m) = .ok d := by
  obtain ⟨vs, hvs, htags⟩ := listed_written h.tags fun t ht q hq => tag_written hq (unsigned t ht)
  simp only [doc, mapping_map, bind, Except.bind, hvs, htags, spanOf_written h.span,
    textOr_written h.summary, optional_written h.terminalPeriod]
  rfl

theorem parameter_written {p : Parameter} (h : p.WrittenIn m) : parameter (.map m) = .ok p := by
  simp only [parameter, mapping_map, bind, Except.bind, textOf_written h.name,
    textOr_written h.typeName]
  rfl

theorem handler_written {h : Handler} (hm : h.WrittenIn m) : handler (.map m) = .ok h := by
  simp only [handler, mapping_map, bind, Except.bind, textsUnder_written hm.caught,
    spanOf_written hm.span, flag_written hm.bodyEmpty, flag_written hm.hasComment]
  rfl

theorem scope_written {s : ResourceScope} (h : s.WrittenIn m) : scope (.map m) = .ok s := by
  simp only [scope, mapping_map, bind, Except.bind, textsUnder_written h.resources,
    spanOf_written h.span]
  rfl

theorem importEntry_written {i : Import} (h : i.WrittenIn m) : importEntry (.map m) = .ok i := by
  simp only [importEntry, mapping_map, bind, Except.bind, textOf_written h.name,
    spanOf_written h.span, flag_written h.static]
  rfl

theorem directive_written {d : Directive} (h : d.WrittenIn m) : directive (.map m) = .ok d := by
  simp only [directive, mapping_map, bind, Except.bind, textOf_written h.text,
    spanOf_written h.span]
  rfl

theorem visibility_label (v : Visibility) : visibility (.str v.label) = .ok v := by
  cases v <;> rfl

theorem header_written {h : Header} (hm : h.WrittenIn m) (unsigned : h.TagsUnsigned) :
    header m = .ok h := by
  obtain ⟨vs, hvs, hannotations⟩ :=
    listed_written hm.annotations fun a _ q hq => annotationOf_written hq
  obtain ⟨name, span, visibility, modifiers, annotations, doc⟩ := h
  simp only [header, bind, Except.bind, textOf_written hm.name, spanOf_written hm.span,
    optional_written hm.visibility, visibility_label, textsUnder_written hm.modifiers, hvs,
    hannotations]
  cases hm.doc with
  | absent hdoc =>
    simp only [hdoc]
    rfl
  | present hdoc hd =>
    simp only [optional_written hdoc, isTruthy_of_get? hd.span, doc_written hd (unsigned _ rfl)]
    rfl

theorem signature_written {s : Signature} (h : s.WrittenIn m) : signature m = .ok s := by
  obtain ⟨ps, hps, hparameters⟩ := listed_written h.parameters fun p _ q hq => parameter_written hq
  obtain ⟨hs, hhs, hhandlers⟩ := listed_written h.handlers fun x _ q hq => handler_written hq
  obtain ⟨rs, hrs, hscopes⟩ := listed_written h.resourceScopes fun r _ q hq => scope_written hq
  simp only [signature, bind, Except.bind, hps, hparameters, textsUnder_written h.throws, hhs,
    hhandlers, hrs, hscopes, optional_written h.returnType]
  rfl

/-! The recursion is over the declaration; what is around it only gives its tags their place. -/

mutual

theorem declaration_written (met : List Nat) (around : List TypeDeclaration) :
    (d : Declaration) → {m : Entries} → d.WrittenIn m →
    (∀ site ∈ d.preorder around, site.header.TagsUnsigned) →
    declaration met (.map m) = .ok d
  | .type header typeKind supertypes members, m, h, unsigned => by
    cases h with
    | type kind hheader htypeKind hsupertypes hmembers each =>
    rw [Declaration.preorder, List.forall_mem_cons] at unsigned
    rw [declaration]
    simp only [bind, Except.bind, textOr_written kind, header_written hheader unsigned.1,
      textOr_written htypeKind, textsUnder_written hsupertypes]
    rw [if_pos (by decide)]
    split
    · rename_i e he
      rw [itemsUnder_written hmembers] at he
      cases he
    · rename_i vs hvs
      rw [itemsUnder_written hmembers] at hvs
      cases hvs
      rw [declarations_written met _ members each unsigned.2]
      rfl
  | .method header signature, m, h, unsigned => by
    cases h with
    | method kind hheader hsignature =>
    rw [Declaration.preorder, List.forall_mem_singleton] at unsigned
    rw [declaration]
    simp only [bind, Except.bind, textOr_written kind, header_written hheader unsigned,
      signature_written hsignature]
    rw [if_neg (by decide), if_pos (by decide)]
    rfl
  | .field header typeName, m, h, unsigned => by
    cases h with
    | field kind hheader htypeName =>
    rw [Declaration.preorder, List.forall_mem_singleton] at unsigned
    rw [declaration]
    simp only [bind, Except.bind, textOr_written kind, header_written hheader unsigned,
      textOr_written htypeName]
    rw [if_neg (by decide), if_neg (by decide), if_pos (by decide)]
    rfl

theorem declarations_written (met : List Nat) (around : List TypeDeclaration) :
    (ds : List Declaration) → {ms : List Entries} → List.Forall₂ Declaration.WrittenIn ds ms →
    (∀ site ∈ Declaration.preorders around ds, site.header.TagsUnsigned) →
    declarations met (ms.map .map) = .ok ds
  | [], _, .nil, _ => by
    rw [List.map_nil, declarations]
  | d :: rest, _, .cons hd hrest, unsigned => by
    rw [Declaration.preorders, List.forall_mem_append] at unsigned
    rw [List.map_cons, declarations, declaration_written met around d hd unsigned.1,
      declarations_written met around rest hrest unsigned.2]
    rfl

end

theorem lineLengths_written {lengths : List Int}
    (h : m.get? "line_lengths" = some (.list (lengths.map .int))) :
    lineLengths m = .ok lengths := by
  rw [lineLengths, h]
  exact mapM_map_written integer .int (fun _ => rfl) lengths

end Reading

namespace SourceUnit

variable {u : SourceUnit} {m : Entries}

theorem pathOf_written (h : m.get? "path" = some (.str u.path)) (named : u.path ≠ "") :
    pathOf m = .ok u.path := by
  have htruthy : (Value.str u.path).isTruthy = true := by simpa [Value.isTruthy] using named
  simp only [pathOf, Reading.optional_written h, htruthy, if_true, Value.text_str]

theorem packageOf_written (h : m.get? "package" = some (.str u.package)) :
    packageOf m = .ok u.package := by
  simp only [packageOf, Reading.optional_written h]
  split
  · rfl
  · rename_i hfalsy
    rw [show u.package = "" by simpa [Value.isTruthy] using hfalsy]

theorem ofEntries_written (h : u.WrittenIn m)
    (unsigned : ∀ site ∈ u.walk, site.header.TagsUnsigned) : ofEntries u.path m = .ok u := by
  obtain ⟨is, his, himports⟩ :=
    Reading.listed_written h.imports fun i _ q hq => Reading.importEntry_written hq
  obtain ⟨ss, hss, hsuppressions⟩ :=
    Reading.listed_written h.suppressions fun s _ q hq => Reading.directive_written hq
  obtain ⟨ms, hms, each⟩ := h.declarations
  rw [walk_eq_preorder, preorder] at unsigned
  rw [ofEntries, Reading.within_eq_ok_iff]
  simp only [bind, Except.bind, packageOf_written h.package,
    Reading.lineLengths_written h.lineLengths, his, himports, hss, hsuppressions,
    Reading.itemsUnder_written hms, Reading.declarations_written [] [] _ each unsigned]
  rfl

/-- A unit is read back from its own entries. -/
theorem ofDocument_entries (named : u.path ≠ "")
    (unsigned : ∀ site ∈ u.walk, site.header.TagsUnsigned) :
    ofDocument (.map u.entries) = .ok u := by
  have written := u.writtenIn_entries
  simp only [ofDocument, Value.bare, pathOf_written written.path named,
    ofEntries_written written unsigned]

theorem ofDocument_undocumented (named : u.path ≠ "")
    (plain : ∀ site ∈ u.walk, site.header.doc = none) : ofDocument (.map u.entries) = .ok u := by
  refine ofDocument_entries named ?_
  intro site hsite d hd
  rw [plain site hsite] at hd
  cases hd

/-- A unit with a path can be written, and whatever mapping writes it, in whatever order and however
deep its types are nested, is read as the very same unit. -/
theorem written_read_back (u : SourceUnit) (named : u.path ≠ "")
    (unsigned : ∀ site ∈ u.walk, site.header.TagsUnsigned) :
    u.WrittenIn u.entries ∧ ∀ m, u.WrittenIn m → ofDocument (.map m) = .ok u := by
  refine ⟨u.writtenIn_entries, ?_⟩
  intro m h
  simp only [ofDocument, Value.bare, pathOf_written h.path named, ofEntries_written h unsigned]

/-- A shelf with a latch in it: every part of a unit, and types two deep. -/
def shelfUnit : SourceUnit where
  path := "lib/Shelf.java"
  package := ""
  lineLengths := [40, 0, 52, 31]
  imports := [⟨"java.util.List", .ofInts 1 1 1 20, false⟩,
    ⟨"lib.Locks.take", .ofInts 1 21 1 40, true⟩]
  suppressions := [⟨"naming/type-name", .ofInts 2 1 2 1⟩]
  declarations := [
    .type
      { name := "Shelf", span := .ofInts 3 1 4 31, visibility := .pub, modifiers := ["final"]
        annotations := [⟨"GuardedBy", .ofInts 3 1 3 10,
          [(.str "value", .null), (.str "order", .list [.int 2, .bool false]), (.int 0, .str "")]⟩]
        doc := some ⟨.ofInts 3 1 3 5, "A shelf", [⟨"since", "", .ofInts 3 2 3 3⟩], true⟩ }
      "class" ["Iterable<Book>", ""]
      [.type
        { name := "Latch", span := .ofInts 4 1 4 30, visibility := .pack, modifiers := []
          annotations := [], doc := some ⟨.ofInts 4 1 4 2, "", [], false⟩ }
        "enum" []
        [.method
          { name := "open", span := .ofInts 4 2 4 20, visibility := .prot, modifiers := []
            annotations := [], doc := none }
          { parameters := [⟨"key", "Key"⟩, ⟨"rest", ""⟩], returnType := .bool false
            throws := ["Jam"], handlers := [⟨[], .ofInts 4 3 4 4, true, false⟩]
            resourceScopes := [⟨["lamp"], .ofInts 4 5 4 6⟩] }],
      .field
        { name := "width", span := .ofInts 4 21 4 22, visibility := .priv, modifiers := []
          annotations := [], doc := none }
        ""]]

theorem shelfUnit_read_back :
    shelfUnit.path ≠ "" ∧ (∀ site ∈ shelfUnit.walk, site.header.TagsUnsigned) ∧
      shelfUnit.WrittenIn shelfUnit.entries ∧
      ofDocument (.map shelfUnit.entries) = .ok shelfUnit := by
  have named : shelfUnit.path ≠ "" := by decide
  have unsigned : ∀ site ∈ shelfUnit.walk, site.header.TagsUnsigned := by
    rw [walk_eq_preorder]
    simp [preorder, shelfUnit, Declaration.preorders, Declaration.preorder, Site.header,
      Declaration.header, Header.TagsUnsigned]
  obtain ⟨written, read⟩ := written_read_back shelfUnit named unsigned
  exact ⟨named, unsigned, written, read _ written⟩

end SourceUnit

end Conformance
