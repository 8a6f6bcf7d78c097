import MediaFilter.Http.PercentEncoding

/-!
Addresses of the web, taken apart as a client does: tabs and line ends do not count, a backslash is
as good as a slash, and the segments of a path that stand for the same or the upper directory are
carried out.  What follows a number sign is never sent.
-/

namespace MediaFilter.Http

structure Address where
  authority : String
  /-- Begins with a slash. -/
  path : List Char
  /-- Without the question mark in front. -/
  query : Option (List Char)
  deriving DecidableEq, Repr

namespace Address

def isLineEnd (c : Char) : Bool := c = '\t' || c = '\n' || c = '\r'

def isPadding (c : Char) : Bool := c.toNat ≤ 0x20

/-- Takes off what does not count. -/
def cleaned (cs : List Char) : List Char :=
  (((cs.dropWhile isPadding).reverse.dropWhile isPadding).reverse).filter fun c => !isLineEnd c

def isSlash (c : Char) : Bool := c = '/' || c = '\\'

def isAuthorityEnd (c : Char) : Bool := isSlash c || c = '?' || c = '#'

def afterScheme? (cs : List Char) : Option (List Char) :=
  if "http://".toList.isPrefixOf cs then some (cs.drop 7)
  else if "https://".toList.isPrefixOf cs then some (cs.drop 8)
  else none

/-- A dot may be written as a percent code. -/
def plainDots : List Char → List Char
  | '%' :: '2' :: 'e' :: rest => '.' :: plainDots rest
  | '%' :: '2' :: 'E' :: rest => '.' :: plainDots rest
  | c :: rest => c :: plainDots rest
  | [] => []

def isSame (segment : List Char) : Bool := plainDots segment = ['.']

def isUpper (segment : List Char) : Bool := plainDots segment = ['.', '.']

/-- The segments of a path after those found already, which come last first.  A path that ends in
a segment for a directory ends in a slash. -/
def resolve (found : List (List Char)) : List (List Char) → List (List Char)
  | [] => found.reverse
  | segment :: rest =>
    let found :=
      if isUpper segment then found.drop 1
      else if isSame segment then found
      else percentEncode isEncodedInPath segment :: found
    if rest.isEmpty && (isUpper segment || isSame segment) then resolve ([] :: found) rest
    else resolve found rest

def resolvedPath (cs : List Char) : List Char :=
  '/' :: ['/'].intercalate (resolve [] (cs.splitOnP isSlash))

def splitAt (mark : Char) (cs : List Char) : List Char × Option (List Char) :=
  match cs.dropWhile (· ≠ mark) with
  | [] => (cs, none)
  | _ :: rest => (cs.takeWhile (· ≠ mark), some rest)

def ofChars? (cs : List Char) : Option Address := do
  let rest ← afterScheme? (cleaned cs)
  let rest := rest.dropWhile isSlash
  let authority := rest.takeWhile fun c => !isAuthorityEnd c
  if authority.isEmpty then none
  else
    let sent := (splitAt '#' (rest.dropWhile fun c => !isAuthorityEnd c)).1
    let (path, query) := splitAt '?' sent
    some
      { authority := String.ofList authority
        path := resolvedPath (path.drop 1)
        query := query.map (percentEncode isEncodedInQuery) }

/-- Puts fields behind those that are in the query already. -/
def withFields (fields : List (String × String)) (address : Address) : Address :=
  match address.query with
  | none => { address with query := some (formFields fields) }
  | some [] => { address with query := some (formFields fields) }
  | some query => { address with query := some (query ++ '&' :: formFields fields) }

def target (address : Address) : String :=
  String.ofList (address.path ++ address.query.elim [] fun query => '?' :: query)

end Address

end MediaFilter.Http
