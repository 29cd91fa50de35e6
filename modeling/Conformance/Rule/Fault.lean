import Conformance.Pattern.Defect
import Conformance.Template.Format
import Conformance.Template.Syntax

/-!
# Faults

What can go wrong while a rule looks at a node or fills its message. A fault is reported with the
name of its family and a text.
-/

namespace Conformance

inductive FaultFamily where
  | feature
  | index
  | key
  | memory
  | overflow
  | pattern
  | recursion
  | runtime
  | kind
  | value
  deriving DecidableEq, Repr

def FaultFamily.label : FaultFamily → String
  | feature => "AttributeError"
  | index => "IndexError"
  | key => "KeyError"
  | memory => "MemoryError"
  | overflow => "OverflowError"
  | pattern => "error"
  | recursion => "RecursionError"
  | runtime => "RuntimeError"
  | kind => "TypeError"
  | value => "ValueError"

inductive Fault where
  /-- A mapping has no key with this literal form. -/
  | missingKey (shown : String)
  | missingFeature (kind name : String)
  | missingKindFeature (kind name : String)
  | notIterable (kind : String)
  | notContainer (kind : String)
  | unhashable (kind : String)
  | notPattern
  | badPattern (error : Pattern.Error)
  | badTemplate (defect : Template.Defect)
  | badFormat (error : Template.FormatError)
  | positionalField
  | deepTemplate
  | unknownConversion (conversion : Char)
  | emptyAccessor
  | strayAfterIndex
  | outOfRange (what : String)
  | textIndex
  /-- A list or a list of fixed length is looked into by a name. -/
  | sequenceIndex (kind : String)
  | notSubscriptable (kind : String)
  | kindNotSubscriptable (kind : String)
  | notGeneric (shown : String)
  /-- A text is searched for in bytes. -/
  | bytesNeeded
  | bytesPattern
  | unwritable (cause : Unwritable)
  | endless
  /-- A fault that a rule reports in its own words. -/
  | raised (family : FaultFamily) (text : String)
  deriving Repr

namespace Fault

def family : Fault → FaultFamily
  | missingKey _ => .key
  | missingFeature .. => .feature
  | missingKindFeature .. => .feature
  | notIterable _ => .kind
  | notContainer _ => .kind
  | unhashable _ => .kind
  | notPattern => .kind
  | badPattern (.defect ..) => .pattern
  | badPattern .largeRepetition => .overflow
  | badPattern .largeCode => .overflow
  | badPattern _ => .value
  | badTemplate _ => .value
  | badFormat (.unsupported _) => .kind
  | badFormat .notCharacter => .overflow
  | badFormat .outsideCodes => .overflow
  | badFormat .tooLarge => .overflow
  | badFormat .tooWide => .memory
  | badFormat _ => .value
  | positionalField => .value
  | deepTemplate => .value
  | unknownConversion _ => .value
  | emptyAccessor => .value
  | strayAfterIndex => .value
  | outOfRange _ => .index
  | textIndex => .kind
  | sequenceIndex _ => .kind
  | notSubscriptable _ => .kind
  | kindNotSubscriptable _ => .kind
  | notGeneric _ => .kind
  | bytesNeeded => .kind
  | bytesPattern => .kind
  | unwritable _ => .value
  | endless => .recursion
  | raised family _ => family

def text : Fault → String
  | missingKey shown => shown
  | missingFeature kind name => s!"'{kind}' object has no attribute '{name}'"
  | missingKindFeature kind name => s!"type object '{kind}' has no attribute '{name}'"
  | notIterable kind => s!"'{kind}' object is not iterable"
  | notContainer kind => s!"argument of type '{kind}' is not iterable"
  | unhashable kind => s!"unhashable type: '{kind}'"
  | notPattern => "first argument must be string or compiled pattern"
  | badPattern error => error.message
  | badTemplate defect => defect.message
  | badFormat error => error.message
  | positionalField => "Format string contains positional fields"
  | deepTemplate => "Max string recursion exceeded"
  | unknownConversion conversion =>
    s!"Unknown conversion specifier {Template.codeText 127 conversion}"
  | emptyAccessor => "Empty attribute in format string"
  | strayAfterIndex => "Only '.' or '[' may follow ']' in format field specifier"
  | outOfRange what => s!"{what} index out of range"
  | textIndex => "string indices must be integers, not 'str'"
  | sequenceIndex kind => s!"{kind} indices must be integers or slices, not str"
  | notSubscriptable kind => s!"'{kind}' object is not subscriptable"
  | kindNotSubscriptable kind => s!"type '{kind}' is not subscriptable"
  | notGeneric shown => s!"{shown} is not a generic class"
  | bytesNeeded => "a bytes-like object is required, not 'str'"
  | bytesPattern => "cannot use a bytes pattern on a string-like object"
  | unwritable cause => cause.message
  | endless => "maximum recursion depth exceeded in comparison"
  | raised .key text => Text.quoted text
  | raised _ text => text

def describe (f : Fault) : String := s!"{f.family.label}: {f.text}"

end Fault

end Conformance
