import GameNight.Text.Line

namespace GameNight
namespace Messages

open Text

/-!
# What values can do

A template may ask for the parts of a value.  What parts a value has depends on its
kind, and the kinds are those of the language that the templates are written for.
-/

/-!
## Kinds of values

Every value that a template can lead to has a kind.  Kinds are values too: a
template may ask for the kind of an argument, for the name of that kind, for
what is said about it, for its measures, and for what its values are able to
do.

All kinds build on the plain kind.  Most do so directly; the truth values
build on the numbers.
-/

/-- The kinds of the values that a template can lead to: the arguments and
what they are made of, the kinds themselves and collections of values, and
the abilities of values.  An ability is bound where a value was asked for it,
and loose where a kind was. -/
inductive Kind where
  | plain
  | text
  | number
  | truth
  | nothing
  | ofKinds
  | marked
  | row
  | table
  | overview
  | boundFunction
  | boundOperation
  | looseFunction
  | looseOperation
  | looseDatum
  | looseSlot
  | looseShared
  | detachedFunction
  deriving DecidableEq, Repr

/-- How the values of a kind are stored: their size, the size of each of
their items, marks of the kind that are counted together as bits, and where
their own tables and weak references are found. -/
structure Measures where
  size : Nat
  itemSize : Nat
  flags : Nat
  tableOffset : Nat
  weakOffset : Nat
  deriving DecidableEq, Repr

namespace Kind

def name : Kind → String
  | .plain => "object"
  | .text => "str"
  | .number => "int"
  | .truth => "bool"
  | .nothing => "NoneType"
  | .ofKinds => "type"
  | .marked => "GenericAlias"
  | .row => "tuple"
  | .table => "dict"
  | .overview => "mappingproxy"
  | .boundFunction => "builtin_function_or_method"
  | .boundOperation => "method-wrapper"
  | .looseFunction => "method_descriptor"
  | .looseOperation => "wrapper_descriptor"
  | .looseDatum => "getset_descriptor"
  | .looseSlot => "member_descriptor"
  | .looseShared => "classmethod_descriptor"
  | .detachedFunction => "staticmethod"

def home : Kind → String
  | .marked => "types"
  | _ => "builtins"

/-- The word for a kind in texts.  It names the home of the kind if that is
not the common one. -/
def word (kind : Kind) : String :=
  if kind.home = "builtins" then kind.name else kind.home ++ "." ++ kind.name

def lineage : Kind → List Kind
  | .plain => [.plain]
  | .truth => [.truth, .number, .plain]
  | kind => [kind, .plain]

def bases (kind : Kind) : List Kind :=
  (kind.lineage.drop 1).take 1

/-- What a kind asks for to make one of its values, where that is known. -/
def signature? : Kind → Option String
  | .plain => some "()"
  | .row => some "(iterable=(), /)"
  | _ => none

/-- How the values of a kind are stored. -/
def measures : Kind → Measures
  | .plain => ⟨16, 0, 529664, 0, 0⟩
  | .text => ⟨80, 0, 273159424, 0, 0⟩
  | .number => ⟨24, 4, 21501184, 0, 0⟩
  | .truth => ⟨32, 4, 21500160, 0, 0⟩
  | .nothing => ⟨16, 0, 528640, 0, 0⟩
  | .ofKinds => ⟨904, 40, 2148031744, 264, 368⟩
  | .marked => ⟨64, 0, 548096, 0, 40⟩
  | .row => ⟨24, 8, 71849248, 0, 0⟩
  | .table => ⟨48, 0, 541611328, 0, 0⟩
  | .overview => ⟨24, 0, 545088, 0, 0⟩
  | .boundFunction => ⟨56, 0, 547200, 0, 40⟩
  | .boundOperation => ⟨32, 0, 545152, 0, 0⟩
  | .looseFunction => ⟨56, 0, 678272, 0, 0⟩
  | .looseOperation => ⟨56, 0, 676224, 0, 0⟩
  | .looseDatum => ⟨48, 0, 545152, 0, 0⟩
  | .looseSlot => ⟨48, 0, 545152, 0, 0⟩
  | .looseShared => ⟨56, 0, 545152, 0, 0⟩
  | .detachedFunction => ⟨32, 0, 546048, 24, 0⟩

/-- What is said about a kind, line by line.  Of some kinds nothing is said. -/
def about : Kind → List String
  | .plain => [
    "The base class of the class hierarchy.", "",
    "When called, it accepts no arguments and returns a new featureless",
    "instance that has no instance attributes and cannot be given any.", ""]
  | .text => [
    "str(object='') -> str",
    "str(bytes_or_buffer[, encoding[, errors]]) -> str", "",
    "Create a new string object from the given object. If encoding or",
    "errors is specified, then the object must expose a data buffer",
    "that will be decoded using the given encoding and error handler.",
    "Otherwise, returns the result of object.__str__() (if defined)",
    "or repr(object).",
    "encoding defaults to sys.getdefaultencoding().",
    "errors defaults to 'strict'."]
  | .number => [
    "int([x]) -> integer",
    "int(x, base=10) -> integer", "",
    "Convert a number or string to an integer, or return 0 if no arguments",
    "are given.  If x is a number, return x.__int__().  For floating point",
    "numbers, this truncates towards zero.", "",
    "If x is not a number or if base is given, then x must be a string,",
    "bytes, or bytearray instance representing an integer literal in the",
    "given base.  The literal can be preceded by '+' or '-' and be surrounded",
    "by whitespace.  The base defaults to 10.  Valid bases are 0 and 2-36.",
    "Base 0 means to interpret the base from the string as an integer literal.",
    ">>> int('0b100', base=0)",
    "4"]
  | .truth => [
    "bool(x) -> bool", "",
    "Returns True when the argument x is true, False otherwise.",
    "The builtins True and False are the only two instances of the class bool.",
    "The class bool is a subclass of the class int, and cannot be subclassed."]
  | .ofKinds => [
    "type(object) -> the object's type",
    "type(name, bases, dict, **kwds) -> a new type"]
  | .marked => [
    "Represent a PEP 585 generic type", "",
    "E.g. for t = list[int], t.__origin__ is list and t.__args__ is (int,)."]
  | .row => [
    "Built-in immutable sequence.", "",
    "If no argument is given, the constructor returns an empty tuple.",
    "If iterable is specified the tuple is initialized from iterable's items.", "",
    "If the argument is a tuple, the return value is the same object."]
  | .table => [
    "dict() -> new empty dictionary",
    "dict(mapping) -> new dictionary initialized from a mapping object's",
    "    (key, value) pairs",
    "dict(iterable) -> new dictionary initialized as if via:",
    "    d = \x7b\x7d",
    "    for k, v in iterable:",
    "        d[k] = v",
    "dict(**kwargs) -> new dictionary initialized with the name=value pairs",
    "    in the keyword argument list.  For example:  dict(one=1, two=2)"]
  | .detachedFunction => [
    "staticmethod(function) -> method", "",
    "Convert a function to be a static method.", "",
    "A static method does not receive an implicit first argument.",
    "To declare a static method, use this idiom:", "",
    "     class C:",
    "         @staticmethod",
    "         def f(arg1, arg2, ...):",
    "             ...", "",
    "It can be called either on the class (e.g. C.f()) or on an instance",
    "(e.g. C().f()). Both the class and the instance are ignored, and",
    "neither is passed implicitly as the first argument to the method.", "",
    "Static methods in Python are similar to those found in Java or C++.",
    "For a more advanced concept, see the classmethod builtin."]
  | _ => []

end Kind

/-!
## Abilities

An ability is something that the values of a kind are able to do or to tell.
It belongs to the kind that provides it, and it has a name.  Where it is
known, an ability also tells what it asks for and what is said about it.

Operations are the abilities that have a sign or a fixed use of their own.
What they ask for and what is said about them depends on their name alone,
whatever kind provides them.
-/

/-- How a kind provides an ability: as an operation, as a function of a
value, as a function of the kind which is asked, as a function that has no
holder, as the maker of its values, as a datum that is worked out, as a datum
that is kept in a slot, or as a remark, which is the same for all values. -/
inductive AbilityForm where
  | operation
  | function
  | shared
  | detached
  | maker
  | datum
  | slot
  | remark
  deriving DecidableEq, Repr

/-- Something that the values of a kind are able to do or to tell, with what
it asks for and what is said about it line by line. -/
structure Ability where
  owner : Kind
  name : String
  form : AbilityForm
  signature : Option String
  about : List String
  deriving DecidableEq, Repr

/-- What is said, written as one text, if anything is. -/
def wording? (about : List String) : Option String :=
  if about.isEmpty then none else some (joinWith "\n" about)

def listed (words : String) : List String :=
  (splitOn ' ' words.toList).map String.ofList

namespace Ability

/-- What an ability asks for that needs nothing but its holder. -/
def alone : String := "($self, /)"

def withValue : String := "($self, value, /)"

/-- What an ability asks for that takes whatever it is given. -/
def withAnything : String := "($self, /, *args, **kwargs)"

/-- What the operations ask for and what is said about them, by name. -/
def operationNotes : List (String × String × String) := [
  ("__abs__", alone, "abs(self)"),
  ("__add__", withValue, "Return self+value."),
  ("__and__", withValue, "Return self&value."),
  ("__bool__", alone, "True if self else False"),
  ("__call__", withAnything, "Call self as a function."),
  ("__contains__", "($self, key, /)", "Return key in self."),
  ("__delattr__", "($self, name, /)", "Implement delattr(self, name)."),
  ("__delete__", "($self, instance, /)", "Delete an attribute of instance."),
  ("__delitem__", "($self, key, /)", "Delete self[key]."),
  ("__divmod__", withValue, "Return divmod(self, value)."),
  ("__eq__", withValue, "Return self==value."),
  ("__float__", alone, "float(self)"),
  ("__floordiv__", withValue, "Return self//value."),
  ("__ge__", withValue, "Return self>=value."),
  ("__get__", "($self, instance, owner=None, /)",
    "Return an attribute of instance, which is of type owner."),
  ("__getattribute__", "($self, name, /)", "Return getattr(self, name)."),
  ("__getitem__", "($self, key, /)", "Return self[key]."),
  ("__gt__", withValue, "Return self>value."),
  ("__hash__", alone, "Return hash(self)."),
  ("__index__", alone,
    "Return self converted to an integer, if self is suitable for use as an index into a list."),
  ("__init__", withAnything, "Initialize self.  See help(type(self)) for accurate signature."),
  ("__int__", alone, "int(self)"),
  ("__invert__", alone, "~self"),
  ("__ior__", withValue, "Return self|=value."),
  ("__iter__", alone, "Implement iter(self)."),
  ("__le__", withValue, "Return self<=value."),
  ("__len__", alone, "Return len(self)."),
  ("__lshift__", withValue, "Return self<<value."),
  ("__lt__", withValue, "Return self<value."),
  ("__mod__", withValue, "Return self%value."),
  ("__mul__", withValue, "Return self*value."),
  ("__ne__", withValue, "Return self!=value."),
  ("__neg__", alone, "-self"),
  ("__or__", withValue, "Return self|value."),
  ("__pos__", alone, "+self"),
  ("__pow__", "($self, value, mod=None, /)", "Return pow(self, value, mod)."),
  ("__radd__", withValue, "Return value+self."),
  ("__rand__", withValue, "Return value&self."),
  ("__rdivmod__", withValue, "Return divmod(value, self)."),
  ("__repr__", alone, "Return repr(self)."),
  ("__rfloordiv__", withValue, "Return value//self."),
  ("__rlshift__", withValue, "Return value<<self."),
  ("__rmod__", withValue, "Return value%self."),
  ("__rmul__", withValue, "Return value*self."),
  ("__ror__", withValue, "Return value|self."),
  ("__rpow__", "($self, value, mod=None, /)", "Return pow(value, self, mod)."),
  ("__rrshift__", withValue, "Return value>>self."),
  ("__rshift__", withValue, "Return self>>value."),
  ("__rsub__", withValue, "Return value-self."),
  ("__rtruediv__", withValue, "Return value/self."),
  ("__rxor__", withValue, "Return value^self."),
  ("__set__", "($self, instance, value, /)", "Set an attribute of instance to value."),
  ("__setattr__", "($self, name, value, /)", "Implement setattr(self, name, value)."),
  ("__setitem__", "($self, key, value, /)", "Set self[key] to value."),
  ("__str__", alone, "Return str(self)."),
  ("__sub__", withValue, "Return self-value."),
  ("__truediv__", withValue, "Return self/value."),
  ("__xor__", withValue, "Return self^value.")]

def operation (name : String) (owner : Kind) : Ability :=
  match operationNotes.lookup name with
  | some (signature, line) => ⟨owner, name, .operation, signature, [line]⟩
  | none => ⟨owner, name, .operation, none, []⟩

def function (name : String) (signature : Option String) (about : List String)
    (owner : Kind) : Ability :=
  ⟨owner, name, .function, signature, about⟩

/-- A function of the kind which is asked. -/
def shared (name : String) (signature : Option String) (about : List String)
    (owner : Kind) : Ability :=
  ⟨owner, name, .shared, signature, about⟩

/-- A function that has no holder. -/
def detached (name : String) (signature : Option String) (about : List String)
    (owner : Kind) : Ability :=
  ⟨owner, name, .detached, signature, about⟩

def maker (owner : Kind) : Ability :=
  ⟨owner, "__new__", .maker, some "($type, *args, **kwargs)",
    ["Create and return a new object.  See help(type) for accurate signature."]⟩

/-- A datum that is worked out. -/
def datum (name : String) (about : List String) (owner : Kind) : Ability :=
  ⟨owner, name, .datum, none, about⟩

/-- A datum that is kept in a slot. -/
def slot (name : String) (owner : Kind) : Ability :=
  ⟨owner, name, .slot, none, []⟩

/-- The remark of what is said about the kind. -/
def described (owner : Kind) : Ability :=
  ⟨owner, "__doc__", .remark, none, owner.about⟩

def lacking (name : String) (owner : Kind) : Ability :=
  ⟨owner, name, .remark, none, []⟩

def operations (names : String) : List (Kind → Ability) :=
  (listed names).map operation

end Ability

def Kind.provide (owner : Kind) (groups : List (List (Kind → Ability))) : List Ability :=
  groups.flatten.map (· owner)

end Messages
end GameNight
