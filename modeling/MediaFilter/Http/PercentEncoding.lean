/-!
Percent-encoding: a byte is written as a percent sign and two hexadecimal digits.  Which characters
are written that way differs between a path, a query, and the form in which fields stand in a query.
-/

namespace MediaFilter.Http

def upperHexDigit (n : Nat) : Char := (Nat.digitChar n).toUpper

def percentByte (byte : UInt8) : List Char :=
  ['%', upperHexDigit (byte.toNat / 16), upperHexDigit (byte.toNat % 16)]

def percentChar (c : Char) : List Char := (String.utf8EncodeChar c).flatMap percentByte

def percentEncode (isEncoded : Char → Bool) (cs : List Char) : List Char :=
  cs.flatMap fun c => if isEncoded c then percentChar c else [c]

/-- Control characters and all that is not ASCII. -/
def isForeign (c : Char) : Bool := c.toNat < 0x20 || 0x7E < c.toNat

def isEncodedInPath (c : Char) : Bool :=
  isForeign c || [' ', '"', '#', '<', '>', '?', '`', '{', '}'].contains c

def isEncodedInQuery (c : Char) : Bool :=
  isForeign c || [' ', '"', '#', '<', '>', '\''].contains c

def isFormChar (c : Char) : Bool := c.isAlphanum || ['*', '-', '.', '_'].contains c

/-- The text of a name or a value among the fields of a query. -/
def formEncode (cs : List Char) : List Char :=
  cs.flatMap fun c => if c = ' ' then ['+'] else if isFormChar c then [c] else percentChar c

def formField (field : String × String) : List Char :=
  formEncode field.1.toList ++ '=' :: formEncode field.2.toList

def formFields (fields : List (String × String)) : List Char :=
  ['&'].intercalate (fields.map formField)

end MediaFilter.Http
