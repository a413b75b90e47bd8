import Workflow.Value.Basic
import Workflow.Text.Quoted

/-!
# Faults

A fault is a failure that no step turns into an error of its own: a value of the wrong type,
a text that cannot be read, or whatever a collaborator raises.  A fault has a class, which the
error report names, and a text.
-/

namespace Workflow

/-- The classes of faults. -/
inductive FaultClass where
  | value
  | type
  | attribute
  | key
  | overflow
  | runtime
  | recursion
  | index
  | unassigned
  | os
  | connectionRefused
  | timeout
  | malformedJson
  | malformedUtf8
  | relay
  | relayConnection
  | signature
  | settings
  | named (name : String)
deriving DecidableEq

/-- The name by which reports call a class of faults. -/
def FaultClass.name : FaultClass → String
  | .value => "ValueError"
  | .type => "TypeError"
  | .attribute => "AttributeError"
  | .key => "KeyError"
  | .overflow => "OverflowError"
  | .runtime => "RuntimeError"
  | .recursion => "RecursionError"
  | .index => "IndexError"
  | .unassigned => "UnboundLocalError"
  | .os => "OSError"
  | .connectionRefused => "ConnectionRefusedError"
  | .timeout => "TimeoutError"
  | .malformedJson => "JSONDecodeError"
  | .malformedUtf8 => "UnicodeDecodeError"
  | .relay => "SMTPException"
  | .relayConnection => "SMTPConnectError"
  | .signature => "JWSError"
  | .settings => "SettingsError"
  | .named name => name

namespace FaultClass

/-- The classes that are not just named. -/
def known : List FaultClass :=
  [.value, .type, .attribute, .key, .overflow, .runtime, .recursion, .index, .unassigned, .os,
    .connectionRefused, .timeout, .malformedJson, .malformedUtf8, .relay, .relayConnection,
    .signature, .settings]

/-- The class that reports call by a name. -/
def ofName (name : String) : FaultClass := (known.find? (·.name = name)).getD (.named name)

end FaultClass

/-- The faults, by cause. -/
inductive Fault where
  /-- Going through the items of a value that has none. -/
  | notIterable (type : ValueType)
  /-- Asking a value for an operation that its type lacks. -/
  | noOperation (type : ValueType) (operation : String)
  /-- Using an array or an object as a name. -/
  | unhashable (type : ValueType)
  /-- An item of a list of pairs that is no pair at all. -/
  | notAPair (index : Nat)
  /-- An item of a list of pairs with the wrong number of parts. -/
  | pairLength (index length : Nat)
  /-- Looking for placeholders in something that is not text. -/
  | notText (type : ValueType)
  /-- Writing an integer with too many digits. -/
  | integerTooLong
  /-- Reading an integer with too many digits. -/
  | integerTextTooLong (digits : Nat)
  /-- Taking a field of an array. -/
  | arrayIndex
  /-- Taking a field of a text. -/
  | textIndex
  /-- Taking a field of a value that has no parts. -/
  | noParts (type : ValueType)
  /-- Setting a field of a value that has none. -/
  | noAssignment (type : ValueType)
  /-- Taking a field that is absent. -/
  | missingField (name : String)
  /-- A number was wanted and the value cannot be made one. -/
  | notANumber (type : ValueType)
  /-- A fault of a class with a text of its own. -/
  | reported (kind : FaultClass) (text : String)
deriving DecidableEq

namespace Fault

/-- The class of a fault. -/
def kind : Fault → FaultClass
  | .notIterable _ | .unhashable _ | .notAPair _ | .notText _ | .arrayIndex | .textIndex
  | .noParts _ | .noAssignment _ | .notANumber _ => .type
  | .noOperation .. => .attribute
  | .pairLength .. | .integerTooLong | .integerTextTooLong _ => .value
  | .missingField _ => .key
  | .reported kind _ => kind

/-- The text of a fault. -/
def text : Fault → String
  | .notIterable type => s!"'{type.name}' object is not iterable"
  | .noOperation type operation => s!"'{type.name}' object has no attribute '{operation}'"
  | .unhashable type => s!"unhashable type: '{type.name}'"
  | .notAPair index =>
    s!"cannot convert dictionary update sequence element #{index} to a sequence"
  | .pairLength index length =>
    s!"dictionary update sequence element #{index} has length {length}; 2 is required"
  | .notText type => s!"expected string or bytes-like object, got '{type.name}'"
  | .integerTooLong =>
    "Exceeds the limit (4300 digits) for integer string conversion; " ++
      "use sys.set_int_max_str_digits() to increase the limit"
  | .integerTextTooLong digits =>
    "Exceeds the limit (4300 digits) for integer string conversion: " ++
      s!"value has {digits} digits; use sys.set_int_max_str_digits() to increase the limit"
  | .arrayIndex => "list indices must be integers or slices, not str"
  | .textIndex => "string indices must be integers, not 'str'"
  | .noParts type => s!"'{type.name}' object is not subscriptable"
  | .noAssignment type => s!"'{type.name}' object does not support item assignment"
  | .missingField name => Text.quoted name
  | .notANumber type =>
    "int() argument must be a string, a bytes-like object or a real number, not " ++
      s!"'{type.name}'"
  | .reported .key text => Text.quoted text
  | .reported _ text => text

end Fault

end Workflow
