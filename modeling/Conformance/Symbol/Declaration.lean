import Conformance.Document.Value
import Conformance.Span
import Conformance.Text.Blank

/-!
# Declarations

The named elements of a source unit as a parser reports them: types with their members, methods and
fields, together with annotations and documentation.
-/

namespace Conformance

structure Annotation where
  name : String
  span : Span
  arguments : Entries := []

def Annotation.simpleName (a : Annotation) : String := Text.simpleName a.name

structure DocTag where
  kind : String
  text : String
  span : Span

/-- The first word of the tag: the name of a parameter or of an exception. -/
def DocTag.subject (t : DocTag) : String := Text.firstWord t.text

/-- Where the first sentence ends: the start and the end of a full stop with the white space after
it, or of a full stop that ends the text. -/
def sentenceEnd? : List Char → Option (Nat × Nat)
  | [] => none
  | '.' :: rest =>
    match rest with
    | [] => some (0, 1)
    | c :: _ => if Text.isBlank c then some (0, 2) else (sentenceEnd? rest).map next
  | _ :: rest => (sentenceEnd? rest).map next
where
  next (found : Nat × Nat) : Nat × Nat := (found.1 + 1, found.2 + 1)

def endsSentence (s : String) : Bool := (sentenceEnd? s.toList).isSome

structure DocComment where
  span : Span
  summary : String
  tags : List DocTag
  terminalPeriod : Bool

def DocComment.hasTag (d : DocComment) (kind : String) : Bool :=
  d.tags.any fun tag => tag.kind == kind

structure Handler where
  caught : List String
  span : Span
  bodyEmpty : Bool
  hasComment : Bool

structure ResourceScope where
  resources : List String
  span : Span

/-- A parameter of a method; the type may be unknown. -/
structure Parameter where
  name : String
  typeName : String := ""
  deriving DecidableEq, Repr

inductive Visibility where
  | pub
  | prot
  | priv
  | pack
  deriving DecidableEq, Repr

namespace Visibility

def label : Visibility → String
  | pub => "public"
  | prot => "protected"
  | priv => "private"
  | pack => "package"

def ofLabel? : String → Option Visibility
  | "public" => some pub
  | "protected" => some prot
  | "private" => some priv
  | "package" => some pack
  | _ => none

@[simp] theorem ofLabel?_label (v : Visibility) : ofLabel? v.label = some v := by cases v <;> rfl

end Visibility

structure Header where
  name : String
  span : Span
  visibility : Visibility
  modifiers : List String
  annotations : List Annotation
  doc : Option DocComment

structure Signature where
  parameters : List Parameter
  returnType : Value
  throws : List String
  handlers : List Handler
  resourceScopes : List ResourceScope

/-- A declaration; types hold further declarations. -/
inductive Declaration where
  | type (header : Header) (typeKind : String) (supertypes : List String)
      (members : List Declaration)
  | method (header : Header) (signature : Signature)
  | field (header : Header) (typeName : String)

structure TypeDeclaration where
  header : Header
  typeKind : String
  supertypes : List String
  members : List Declaration

/-- The kinds of node that a rule can look at; a mark is an annotation, and a declaration is a type,
a method or a field. -/
inductive NodeKind where
  | type
  | method
  | field
  | declaration
  | mark
  | doc
  deriving DecidableEq, Repr

namespace NodeKind

def label : NodeKind → String
  | type => "type"
  | method => "method"
  | field => "field"
  | declaration => "declaration"
  | mark => "annotation"
  | doc => "doc"

def ofLabel? : String → Option NodeKind
  | "type" => some type
  | "method" => some method
  | "field" => some field
  | "declaration" => some declaration
  | "annotation" => some mark
  | "doc" => some doc
  | _ => none

@[simp] theorem ofLabel?_label (k : NodeKind) : ofLabel? k.label = some k := by cases k <;> rfl

end NodeKind

namespace Header

/-- The annotations of the given name, which may be qualified on either side. -/
def findAnnotations (h : Header) (name : String) : List Annotation :=
  h.annotations.filter fun a => a.name == name || a.simpleName == Text.simpleName name

def carries (h : Header) (name : String) : Bool := !(h.findAnnotations name).isEmpty

def hasModifier (h : Header) (modifier : String) : Bool := h.modifiers.contains modifier

end Header

namespace TypeDeclaration

def toDeclaration (t : TypeDeclaration) : Declaration :=
  .type t.header t.typeKind t.supertypes t.members

/-- The name of a supertype without its arguments. -/
def baseName (supertype : String) : String :=
  Text.trim (String.ofList (supertype.toList.takeWhile (· != '<')))

/-- Whether the type names the given one among its supertypes, qualified or not on either side. -/
def implements (t : TypeDeclaration) (name : String) : Bool :=
  t.supertypes.any fun supertype =>
    baseName supertype == name || Text.simpleName (baseName supertype) == Text.simpleName name

end TypeDeclaration

namespace Declaration

def header : Declaration → Header
  | type h _ _ _ => h
  | method h _ => h
  | field h _ => h

def name (d : Declaration) : String := d.header.name

def span (d : Declaration) : Span := d.header.span

def kind : Declaration → NodeKind
  | type .. => .type
  | method .. => .method
  | field .. => .field

def members : Declaration → List Declaration
  | type _ _ _ ms => ms
  | _ => []

mutual

def size : Declaration → Nat
  | type _ _ _ members => sizes members + 1
  | method _ _ => 1
  | field _ _ => 1

def sizes : List Declaration → Nat
  | [] => 0
  | d :: rest => size d + sizes rest

end

theorem sizes_append (ds es : List Declaration) : sizes (ds ++ es) = sizes ds + sizes es := by
  induction ds with
  | nil => simp [sizes]
  | cons d rest ih => simp [sizes, ih, Nat.add_assoc]

def asType? : Declaration → Option TypeDeclaration
  | type header typeKind supertypes members => some { header, typeKind, supertypes, members }
  | _ => none

@[simp] theorem asType?_toDeclaration (t : TypeDeclaration) :
    t.toDeclaration.asType? = some t := rfl

end Declaration

namespace TypeDeclaration

def memberNames (t : TypeDeclaration) (kind : NodeKind) : List String :=
  (t.members.filter fun m => m.kind == kind).map Declaration.name

end TypeDeclaration

end Conformance
