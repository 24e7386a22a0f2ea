import GameNight.Messages.Ability

namespace GameNight
namespace Messages
namespace Kind

open Ability

/-!
# The repertoires of all kinds

Each kind provides abilities of its own, which are listed here kind by kind, with the
words in which they introduce themselves.
-/

/-!
## Abilities of all values and of kinds

All values have the abilities that the plain kind provides.  A kind is a value
as well, and has abilities that other values have not; so has a kind that was
marked with an item.
-/

def plainAbilities : List Ability :=
  provide .plain [
    [maker],
    (operations <|
      "__repr__ __hash__ __str__ __getattribute__ __setattr__ __delattr__ __lt__ __le__ " ++
      "__eq__ __ne__ __gt__ __ge__ __init__"),
    [ function "__reduce_ex__" "($self, protocol, /)" ["Helper for pickle."],
      function "__reduce__" alone ["Helper for pickle."],
      function "__getstate__" alone ["Helper for pickle."],
      shared "__subclasshook__" none [
        "Abstract classes can override this to customize issubclass().", "",
        "This is invoked early on by abc.ABCMeta.__subclasscheck__().",
        "It should return True, False or NotImplemented.  If it returns",
        "NotImplemented, the normal algorithm is used.  Otherwise, it",
        "overrides the normal algorithm (and the outcome is cached).", ""],
      shared "__init_subclass__" none [
        "This method is called when a class is subclassed.", "",
        "The default implementation does nothing. It may be",
        "overridden to extend subclasses.", ""],
      function "__format__" "($self, format_spec, /)" ["Default object formatter."],
      function "__sizeof__" alone ["Size of object in memory, in bytes."],
      function "__dir__" alone ["Default dir() implementation."],
      datum "__class__" ["the object's class"],
      described]]

def kindAbilities : List Ability :=
  provide .ofKinds [
    [maker],
    operations
      "__repr__ __call__ __getattribute__ __setattr__ __delattr__ __init__ __or__ __ror__",
    [ function "mro" alone ["Return a type's method resolution order."],
      function "__subclasses__" alone ["Return a list of immediate subclasses."],
      shared "__prepare__" none [
        "__prepare__() -> dict",
        "used to create the namespace for the class statement"],
      function "__instancecheck__" "($self, instance, /)" ["Check if an object is an instance."],
      function "__subclasscheck__" "($self, subclass, /)" ["Check if a class is a subclass."],
      function "__dir__" alone ["Specialized __dir__ implementation for types."],
      function "__sizeof__" alone ["Return memory consumption of the type object."],
      slot "__basicsize__", slot "__itemsize__", slot "__flags__", slot "__weakrefoffset__",
      slot "__base__", slot "__dictoffset__", slot "__mro__", datum "__name__" [],
      datum "__qualname__" [], datum "__bases__" [], datum "__module__" [],
      datum "__abstractmethods__" [], datum "__dict__" [], datum "__doc__" [],
      datum "__text_signature__" [], datum "__annotations__" []]]

def markedAbilities : List Ability :=
  provide .marked [
    [maker],
    (operations <|
      "__repr__ __hash__ __call__ __getattribute__ __lt__ __le__ __eq__ __ne__ __gt__ " ++
      "__ge__ __iter__ __or__ __ror__ __getitem__"),
    [ function "__mro_entries__" none [], function "__instancecheck__" none [],
      function "__subclasscheck__" none [], function "__reduce__" none [],
      function "__dir__" none [], slot "__origin__", slot "__args__", slot "__unpacked__",
      datum "__parameters__" ["Type variables in the GenericAlias."],
      datum "__typing_unpacked_tuple_args__" [],
      described]]

def nothingAbilities : List Ability :=
  provide .nothing [
    [maker],
    operations "__repr__ __bool__",
    [described]]

/-!
## Abilities of numbers

Whole numbers are reckoned with, and they tell the parts which they have in
common with numbers of other sorts.  Truth values are numbers that are
written and joined in their own way.
-/

def numberAbilities : List Ability :=
  provide .number [
    [maker],
    (operations <|
      "__repr__ __hash__ __getattribute__ __lt__ __le__ __eq__ __ne__ __gt__ __ge__ __add__ " ++
      "__radd__ __sub__ __rsub__ __mul__ __rmul__ __mod__ __rmod__ __divmod__ __rdivmod__ " ++
      "__pow__ __rpow__ __neg__ __pos__ __abs__ __bool__ __invert__ __lshift__ __rlshift__ " ++
      "__rshift__ __rrshift__ __and__ __rand__ __xor__ __rxor__ __or__ __ror__ __int__ " ++
      "__float__ __floordiv__ __rfloordiv__ __truediv__ __rtruediv__ __index__"),
    [ function "conjugate" none ["Returns self, the complex conjugate of any int."],
      function "bit_length" alone [
        "Number of bits necessary to represent self in binary.", "",
        ">>> bin(37)",
        "'0b100101'",
        ">>> (37).bit_length()",
        "6"],
      function "bit_count" alone [
        "Number of ones in the binary representation of the absolute value of self.", "",
        "Also known as the population count.", "",
        ">>> bin(13)",
        "'0b1101'",
        ">>> (13).bit_count()",
        "3"],
      function "to_bytes" "($self, /, length=1, byteorder='big', *, signed=False)" [
        "Return an array of bytes representing an integer.", "",
        "  length",
        "    Length of bytes object to use.  An OverflowError is raised if the",
        "    integer is not representable with the given number of bytes.  Default",
        "    is length 1.",
        "  byteorder",
        "    The byte order used to represent the integer.  If byteorder is 'big',",
        "    the most significant byte is at the beginning of the byte array.  If",
        "    byteorder is 'little', the most significant byte is at the end of the",
        "    byte array.  To request the native byte order of the host system, use",
        "    `sys.byteorder' as the byte order value.  Default is to use 'big'.",
        "  signed",
        "    Determines whether two's complement is used to represent the integer.",
        "    If signed is False and a negative integer is given, an OverflowError",
        "    is raised."],
      shared "from_bytes" "($type, /, bytes, byteorder='big', *, signed=False)" [
        "Return the integer represented by the given array of bytes.", "",
        "  bytes",
        "    Holds the array of bytes to convert.  The argument must either",
        "    support the buffer protocol or be an iterable object producing bytes.",
        "    Bytes and bytearray are examples of built-in objects that support the",
        "    buffer protocol.",
        "  byteorder",
        "    The byte order used to represent the integer.  If byteorder is 'big',",
        "    the most significant byte is at the beginning of the byte array.  If",
        "    byteorder is 'little', the most significant byte is at the end of the",
        "    byte array.  To request the native byte order of the host system, use",
        "    `sys.byteorder' as the byte order value.  Default is to use 'big'.",
        "  signed",
        "    Indicates whether two's complement is used to represent the integer."],
      function "as_integer_ratio" alone [
        "Return integer ratio.", "",
        "Return a pair of integers, whose ratio is exactly equal to the original int",
        "and with a positive denominator.", "",
        ">>> (10).as_integer_ratio()",
        "(10, 1)",
        ">>> (-10).as_integer_ratio()",
        "(-10, 1)",
        ">>> (0).as_integer_ratio()",
        "(0, 1)"],
      function "__trunc__" none ["Truncating an Integral returns itself."],
      function "__floor__" none ["Flooring an Integral returns itself."],
      function "__ceil__" none ["Ceiling of an Integral returns itself."],
      function "__round__" "($self, ndigits=<unrepresentable>, /)" [
        "Rounding an Integral returns itself.", "",
        "Rounding with an ndigits argument also returns an integer."],
      function "__getnewargs__" alone [],
      function "__format__" "($self, format_spec, /)" [],
      function "__sizeof__" alone ["Returns size in memory, in bytes."],
      datum "real" ["the real part of a complex number"],
      datum "imag" ["the imaginary part of a complex number"],
      datum "numerator" ["the numerator of a rational number in lowest terms"],
      datum "denominator" ["the denominator of a rational number in lowest terms"],
      described]]

def truthAbilities : List Ability :=
  provide .truth [
    [maker],
    operations "__repr__ __and__ __rand__ __xor__ __rxor__ __or__ __ror__",
    [described]]

/-!
## Abilities of texts

Texts are compared, joined, searched, cut and put in other forms.
-/

def textAbilities : List Ability :=
  provide .text [
    [maker],
    (operations <|
      "__repr__ __hash__ __str__ __getattribute__ __lt__ __le__ __eq__ __ne__ __gt__ __ge__ " ++
      "__iter__ __mod__ __rmod__ __len__ __getitem__ __add__ __mul__ __rmul__ __contains__"),
    [ function "encode" "($self, /, encoding='utf-8', errors='strict')" [
        "Encode the string using the codec registered for encoding.", "",
        "  encoding",
        "    The encoding in which to encode the string.",
        "  errors",
        "    The error handling scheme to use for encoding errors.",
        "    The default is 'strict' meaning that encoding errors raise a",
        "    UnicodeEncodeError.  Other possible values are 'ignore', 'replace' and",
        "    'xmlcharrefreplace' as well as any other name registered with",
        "    codecs.register_error that can handle UnicodeEncodeErrors."],
      function "replace" "($self, old, new, count=-1, /)" [
        "Return a copy with all occurrences of substring old replaced by new.", "",
        "  count",
        "    Maximum number of occurrences to replace.",
        "    -1 (the default value) means replace all occurrences.", "",
        "If the optional argument count is given, only the first count occurrences are",
        "replaced."],
      function "split" "($self, /, sep=None, maxsplit=-1)" [
        "Return a list of the substrings in the string, using sep as the separator string.", "",
        "  sep",
        "    The separator used to split the string.", "",
        "    When set to None (the default value), will split on any whitespace",
        "    character (including \\\\n \\\\r \\\\t \\\\f and spaces) and will discard",
        "    empty strings from the result.",
        "  maxsplit",
        "    Maximum number of splits (starting from the left).",
        "    -1 (the default value) means no limit.", "",
        "Note, str.split() is mainly useful for data that has been intentionally",
        "delimited.  With natural text that includes punctuation, consider using",
        "the regular expression module."],
      function "rsplit" "($self, /, sep=None, maxsplit=-1)" [
        "Return a list of the substrings in the string, using sep as the separator string.", "",
        "  sep",
        "    The separator used to split the string.", "",
        "    When set to None (the default value), will split on any whitespace",
        "    character (including \\\\n \\\\r \\\\t \\\\f and spaces) and will discard",
        "    empty strings from the result.",
        "  maxsplit",
        "    Maximum number of splits (starting from the left).",
        "    -1 (the default value) means no limit.", "",
        "Splitting starts at the end of the string and works to the front."],
      function "join" "($self, iterable, /)" [
        "Concatenate any number of strings.", "",
        "The string whose method is called is inserted in between each given string.",
        "The result is returned as a new string.", "",
        "Example: '.'.join(['ab', 'pq', 'rs']) -> 'ab.pq.rs'"],
      function "capitalize" alone [
        "Return a capitalized version of the string.", "",
        "More specifically, make the first character have upper case and the rest lower",
        "case."],
      function "casefold" alone [
        "Return a version of the string suitable for caseless comparisons."],
      function "title" alone [
        "Return a version of the string where each word is titlecased.", "",
        "More specifically, words start with uppercased characters and all remaining",
        "cased characters have lower case."],
      function "center" "($self, width, fillchar=' ', /)" [
        "Return a centered string of length width.", "",
        "Padding is done using the specified fill character (default is a space)."],
      function "count" none [
        "S.count(sub[, start[, end]]) -> int", "",
        "Return the number of non-overlapping occurrences of substring sub in",
        "string S[start:end].  Optional arguments start and end are",
        "interpreted as in slice notation."],
      function "expandtabs" "($self, /, tabsize=8)" [
        "Return a copy where all tab characters are expanded using spaces.", "",
        "If tabsize is not given, a tab size of 8 characters is assumed."],
      function "find" none [
        "S.find(sub[, start[, end]]) -> int", "",
        "Return the lowest index in S where substring sub is found,",
        "such that sub is contained within S[start:end].  Optional",
        "arguments start and end are interpreted as in slice notation.", "",
        "Return -1 on failure."],
      function "partition" "($self, sep, /)" [
        "Partition the string into three parts using the given separator.", "",
        "This will search for the separator in the string.  If the separator is found,",
        "returns a 3-tuple containing the part before the separator, the separator",
        "itself, and the part after it.", "",
        "If the separator is not found, returns a 3-tuple containing the original string",
        "and two empty strings."],
      function "index" none [
        "S.index(sub[, start[, end]]) -> int", "",
        "Return the lowest index in S where substring sub is found,",
        "such that sub is contained within S[start:end].  Optional",
        "arguments start and end are interpreted as in slice notation.", "",
        "Raises ValueError when the substring is not found."],
      function "ljust" "($self, width, fillchar=' ', /)" [
        "Return a left-justified string of length width.", "",
        "Padding is done using the specified fill character (default is a space)."],
      function "lower" alone ["Return a copy of the string converted to lowercase."],
      function "lstrip" "($self, chars=None, /)" [
        "Return a copy of the string with leading whitespace removed.", "",
        "If chars is given and not None, remove characters in chars instead."],
      function "rfind" none [
        "S.rfind(sub[, start[, end]]) -> int", "",
        "Return the highest index in S where substring sub is found,",
        "such that sub is contained within S[start:end].  Optional",
        "arguments start and end are interpreted as in slice notation.", "",
        "Return -1 on failure."],
      function "rindex" none [
        "S.rindex(sub[, start[, end]]) -> int", "",
        "Return the highest index in S where substring sub is found,",
        "such that sub is contained within S[start:end].  Optional",
        "arguments start and end are interpreted as in slice notation.", "",
        "Raises ValueError when the substring is not found."],
      function "rjust" "($self, width, fillchar=' ', /)" [
        "Return a right-justified string of length width.", "",
        "Padding is done using the specified fill character (default is a space)."],
      function "rstrip" "($self, chars=None, /)" [
        "Return a copy of the string with trailing whitespace removed.", "",
        "If chars is given and not None, remove characters in chars instead."],
      function "rpartition" "($self, sep, /)" [
        "Partition the string into three parts using the given separator.", "",
        "This will search for the separator in the string, starting at the end. If",
        "the separator is found, returns a 3-tuple containing the part before the",
        "separator, the separator itself, and the part after it.", "",
        "If the separator is not found, returns a 3-tuple containing two empty strings",
        "and the original string."],
      function "splitlines" "($self, /, keepends=False)" [
        "Return a list of the lines in the string, breaking at line boundaries.", "",
        "Line breaks are not included in the resulting list unless keepends is given and",
        "true."],
      function "strip" "($self, chars=None, /)" [
        "Return a copy of the string with leading and trailing whitespace removed.", "",
        "If chars is given and not None, remove characters in chars instead."],
      function "swapcase" alone [
        "Convert uppercase characters to lowercase and lowercase characters to uppercase."],
      function "translate" "($self, table, /)" [
        "Replace each character in the string using the given translation table.", "",
        "  table",
        "    Translation table, which must be a mapping of Unicode ordinals to",
        "    Unicode ordinals, strings, or None.", "",
        "The table must implement lookup/indexing via __getitem__, for instance a",
        "dictionary or list.  If this operation raises LookupError, the character is",
        "left untouched.  Characters mapped to None are deleted."],
      function "upper" alone ["Return a copy of the string converted to uppercase."],
      function "startswith" none [
        "S.startswith(prefix[, start[, end]]) -> bool", "",
        "Return True if S starts with the specified prefix, False otherwise.",
        "With optional start, test S beginning at that position.",
        "With optional end, stop comparing S at that position.",
        "prefix can also be a tuple of strings to try."],
      function "endswith" none [
        "S.endswith(suffix[, start[, end]]) -> bool", "",
        "Return True if S ends with the specified suffix, False otherwise.",
        "With optional start, test S beginning at that position.",
        "With optional end, stop comparing S at that position.",
        "suffix can also be a tuple of strings to try."],
      function "removeprefix" "($self, prefix, /)" [
        "Return a str with the given prefix string removed if present.", "",
        "If the string starts with the prefix string, return string[len(prefix):].",
        "Otherwise, return a copy of the original string."],
      function "removesuffix" "($self, suffix, /)" [
        "Return a str with the given suffix string removed if present.", "",
        "If the string ends with the suffix string and that suffix is not empty,",
        "return string[:-len(suffix)]. Otherwise, return a copy of the original",
        "string."],
      function "isascii" alone [
        "Return True if all characters in the string are ASCII, False otherwise.", "",
        "ASCII characters have code points in the range U+0000-U+007F.",
        "Empty string is ASCII too."],
      function "islower" alone [
        "Return True if the string is a lowercase string, False otherwise.", "",
        "A string is lowercase if all cased characters in the string are lowercase and",
        "there is at least one cased character in the string."],
      function "isupper" alone [
        "Return True if the string is an uppercase string, False otherwise.", "",
        "A string is uppercase if all cased characters in the string are uppercase and",
        "there is at least one cased character in the string."],
      function "istitle" alone [
        "Return True if the string is a title-cased string, False otherwise.", "",
        "In a title-cased string, upper- and title-case characters may only",
        "follow uncased characters and lowercase characters only cased ones."],
      function "isspace" alone [
        "Return True if the string is a whitespace string, False otherwise.", "",
        "A string is whitespace if all characters in the string are whitespace and there",
        "is at least one character in the string."],
      function "isdecimal" alone [
        "Return True if the string is a decimal string, False otherwise.", "",
        "A string is a decimal string if all characters in the string are decimal and",
        "there is at least one character in the string."],
      function "isdigit" alone [
        "Return True if the string is a digit string, False otherwise.", "",
        "A string is a digit string if all characters in the string are digits and there",
        "is at least one character in the string."],
      function "isnumeric" alone [
        "Return True if the string is a numeric string, False otherwise.", "",
        "A string is numeric if all characters in the string are numeric and there is at",
        "least one character in the string."],
      function "isalpha" alone [
        "Return True if the string is an alphabetic string, False otherwise.", "",
        "A string is alphabetic if all characters in the string are alphabetic and there",
        "is at least one character in the string."],
      function "isalnum" alone [
        "Return True if the string is an alpha-numeric string, False otherwise.", "",
        "A string is alpha-numeric if all characters in the string are alpha-numeric and",
        "there is at least one character in the string."],
      function "isidentifier" alone [
        "Return True if the string is a valid Python identifier, False otherwise.", "",
        "Call keyword.iskeyword(s) to test whether string s is a reserved identifier,",
        "such as \"def\" or \"class\"."],
      function "isprintable" alone [
        "Return True if the string is printable, False otherwise.", "",
        "A string is printable if all of its characters are considered printable in",
        "repr() or if it is empty."],
      function "zfill" "($self, width, /)" [
        "Pad a numeric string with zeros on the left, to fill a field of the given width.", "",
        "The string is never truncated."],
      function "format" none [
        "S.format(*args, **kwargs) -> str", "",
        "Return a formatted version of S, using substitutions from args and kwargs.",
        "The substitutions are identified by braces ('\x7b' and '\x7d')."],
      function "format_map" none [
        "S.format_map(mapping) -> str", "",
        "Return a formatted version of S, using substitutions from mapping.",
        "The substitutions are identified by braces ('\x7b' and '\x7d')."],
      function "__format__" "($self, format_spec, /)" [
        "Return a formatted version of the string as described by format_spec."],
      detached "maketrans" "(x, y=<unrepresentable>, z=<unrepresentable>, /)" [
        "Return a translation table usable for str.translate().", "",
        "If there is only one argument, it must be a dictionary mapping Unicode",
        "ordinals (integers) or characters to Unicode ordinals, strings or None.",
        "Character keys will be then converted to ordinals.",
        "If there are two arguments, they must be strings of equal length, and",
        "in the resulting dictionary, each character in x will be mapped to the",
        "character at the same position in y. If there is a third argument, it",
        "must be a string, whose characters will be mapped to None in the result."],
      function "__sizeof__" alone ["Return the size of the string in memory, in bytes."],
      function "__getnewargs__" none [], described]]

/-!
## Abilities of collections

Rows hold values one after another, tables hold them under keys, and an
overview shows a table that cannot be changed through it.
-/

def rowAbilities : List Ability :=
  provide .row [
    [maker],
    (operations <|
      "__repr__ __hash__ __getattribute__ __lt__ __le__ __eq__ __ne__ __gt__ __ge__ " ++
      "__iter__ __len__ __getitem__ __add__ __mul__ __rmul__ __contains__"),
    [ function "__getnewargs__" alone [],
      function "index" "($self, value, start=0, stop=sys.maxsize, /)" [
        "Return first index of value.", "",
        "Raises ValueError if the value is not present."],
      function "count" withValue ["Return number of occurrences of value."],
      shared "__class_getitem__" none ["See PEP 585"],
      described]]

def tableAbilities : List Ability :=
  provide .table [
    [maker],
    operations "__repr__",
    [lacking "__hash__"],
    (operations <|
      "__getattribute__ __lt__ __le__ __eq__ __ne__ __gt__ __ge__ __iter__ __init__ __or__ " ++
      "__ror__ __ior__ __len__"),
    [function "__getitem__" none ["x.__getitem__(y) <==> x[y]"]],
    operations "__setitem__ __delitem__",
    [ function "__contains__" "($self, key, /)" [
        "True if the dictionary has the specified key, else False."],
      function "__sizeof__" none ["D.__sizeof__() -> size of D in memory, in bytes"],
      function "get" "($self, key, default=None, /)" [
        "Return the value for key if key is in the dictionary, else default."],
      function "setdefault" "($self, key, default=None, /)" [
        "Insert key with a value of default if key is not in the dictionary.", "",
        "Return the value for key if key is in the dictionary, else default."],
      function "pop" "($self, key, default=<unrepresentable>, /)" [
        "D.pop(k[,d]) -> v, remove specified key and return the corresponding value.", "",
        "If the key is not found, return the default if given; otherwise,",
        "raise a KeyError."],
      function "popitem" alone [
        "Remove and return a (key, value) pair as a 2-tuple.", "",
        "Pairs are returned in LIFO (last-in, first-out) order.",
        "Raises KeyError if the dict is empty."],
      function "keys" none ["D.keys() -> a set-like object providing a view on D's keys"],
      function "items" none ["D.items() -> a set-like object providing a view on D's items"],
      function "values" none ["D.values() -> an object providing a view on D's values"],
      function "update" none [
        "D.update([E, ]**F) -> None.  Update D from dict/iterable E and F.",
        "If E is present and has a .keys() method, then does:  for k in E: D[k] = E[k]",
        "If E is present and lacks a .keys() method, then does:  for k, v in E: D[k] = v",
        "In either case, this is followed by: for k in F:  D[k] = F[k]"],
      shared "fromkeys" "($type, iterable, value=None, /)" [
        "Create a new dictionary with keys from iterable and values set to value."],
      function "clear" none ["D.clear() -> None.  Remove all items from D."],
      function "copy" none ["D.copy() -> a shallow copy of D"],
      function "__reversed__" alone ["Return a reverse iterator over the dict keys."],
      shared "__class_getitem__" none ["See PEP 585"],
      described]]

def overviewAbilities : List Ability :=
  provide .overview [
    [maker],
    (operations <|
      "__repr__ __str__ __getattribute__ __lt__ __le__ __eq__ __ne__ __gt__ __ge__ __iter__ " ++
      "__or__ __ror__ __ior__ __len__ __getitem__ __contains__"),
    [ function "get" none ["D.get(k[,d]) -> D[k] if k in D, else d.  d defaults to None."],
      function "keys" none ["D.keys() -> a set-like object providing a view on D's keys"],
      function "values" none ["D.values() -> an object providing a view on D's values"],
      function "items" none ["D.items() -> a set-like object providing a view on D's items"],
      function "copy" none ["D.copy() -> a shallow copy of D"],
      shared "__class_getitem__" none ["See PEP 585"],
      function "__reversed__" none ["D.__reversed__() -> reverse iterator"],
      described, lacking "__hash__"]]

/-!
## Abilities of abilities

Abilities are values too.  A bound ability knows its holder, a loose one the
kind that provides it, and all but the detached ones know their own name.
-/

def boundFunctionAbilities : List Ability :=
  provide .boundFunction [
    (operations <|
      "__repr__ __hash__ __call__ __getattribute__ __lt__ __le__ __eq__ __ne__ __gt__ " ++
      "__ge__"),
    [ function "__reduce__" none [], slot "__module__", datum "__doc__" [], datum "__name__" [],
      datum "__qualname__" [], datum "__self__" [], datum "__text_signature__" []]]

def boundOperationAbilities : List Ability :=
  provide .boundOperation [
    (operations <|
      "__repr__ __hash__ __call__ __getattribute__ __lt__ __le__ __eq__ __ne__ __gt__ " ++
      "__ge__"),
    [ function "__reduce__" none [], slot "__self__", datum "__objclass__" [],
      datum "__name__" [], datum "__qualname__" [], datum "__doc__" [],
      datum "__text_signature__" []]]

def looseFunctionAbilities : List Ability :=
  provide .looseFunction [
    operations "__repr__ __call__ __getattribute__ __get__",
    [ function "__reduce__" none [], slot "__objclass__", slot "__name__", datum "__doc__" [],
      datum "__qualname__" [], datum "__text_signature__" []]]

def looseOperationAbilities : List Ability :=
  provide .looseOperation [
    operations "__repr__ __call__ __getattribute__ __get__",
    [ function "__reduce__" none [], slot "__objclass__", slot "__name__", datum "__doc__" [],
      datum "__qualname__" [], datum "__text_signature__" []]]

def looseDatumAbilities : List Ability :=
  provide .looseDatum [
    operations "__repr__ __getattribute__ __get__ __set__ __delete__",
    [slot "__objclass__", slot "__name__", datum "__doc__" [], datum "__qualname__" []]]

def looseSlotAbilities : List Ability :=
  provide .looseSlot [
    operations "__repr__ __getattribute__ __get__ __set__ __delete__",
    [ function "__reduce__" none [], slot "__objclass__", slot "__name__", datum "__doc__" [],
      datum "__qualname__" []]]

def looseSharedAbilities : List Ability :=
  provide .looseShared [
    operations "__repr__ __call__ __getattribute__ __get__",
    [ slot "__objclass__", slot "__name__", datum "__doc__" [], datum "__qualname__" [],
      datum "__text_signature__" []]]

def detachedFunctionAbilities : List Ability :=
  provide .detachedFunction [
    [maker],
    operations "__repr__ __call__ __get__ __init__",
    [ slot "__func__", slot "__wrapped__", datum "__isabstractmethod__" [], datum "__dict__" [],
      described]]

/-!
## The repertoire of a kind

The values of a kind have the abilities which the kind provides itself, and
beside them those of the kinds that it builds on.  Where two of these provide
an ability of one name, the nearer kind prevails.
-/

def abilities : Kind → List Ability
  | .plain => plainAbilities
  | .text => textAbilities
  | .number => numberAbilities
  | .truth => truthAbilities
  | .nothing => nothingAbilities
  | .ofKinds => kindAbilities
  | .marked => markedAbilities
  | .row => rowAbilities
  | .table => tableAbilities
  | .overview => overviewAbilities
  | .boundFunction => boundFunctionAbilities
  | .boundOperation => boundOperationAbilities
  | .looseFunction => looseFunctionAbilities
  | .looseOperation => looseOperationAbilities
  | .looseDatum => looseDatumAbilities
  | .looseSlot => looseSlotAbilities
  | .looseShared => looseSharedAbilities
  | .detachedFunction => detachedFunctionAbilities

def ownAbility? (kind : Kind) (name : String) : Option Ability :=
  kind.abilities.find? fun ability => ability.name = name

def ability? (kind : Kind) (name : String) : Option Ability :=
  kind.lineage.findSome? fun provider => provider.ownAbility? name

end Kind
end Messages
end GameNight
