import Formula.Text.Utf8

/-!
The paths of requests: what a server makes of the address that a client asks for, and its segments.
-/

namespace Formula.Api

/-! ### Escapes -/

def hexDigits : List Char := "0123456789abcdef".toList

def hexByte? (high low : Char) : Option Nat := do
  let h ← hexDigits.findIdx? (· == high.toLower)
  let l ← hexDigits.findIdx? (· == low.toLower)
  return h * 16 + l

def bytesOf (c : Char) : List Nat := (String.utf8EncodeChar c).map UInt8.toNat

/-- The bytes of a path, of which some are written as a percent sign and two digits. -/
def pathBytes : List Char → List Nat
  | [] => []
  | '%' :: high :: low :: rest =>
      match hexByte? high low with
      | some byte => byte :: pathBytes rest
      | none => bytesOf '%' ++ pathBytes (high :: low :: rest)
  | c :: rest => bytesOf c ++ pathBytes rest

def unescape (path : List Char) : List Char := Text.decodeUtf8 (pathBytes path)

/-! ### Addresses -/

def pieces (path : List Char) : List (List Char) := path.splitOn '/'

/-- The last of the pieces that stay, which come first here, gives way, unless it is the root. -/
def leaveParent : List (List Char) → List (List Char)
  | [] => []
  | [[]] => [[]]
  | _ :: rest => rest

/-- Pieces that stay put or go to the parent are taken out; `done` are those before, the last
first. -/
def withoutDots (done : List (List Char)) : List (List Char) → List (List Char)
  | [] => done.reverse
  | ['.'] :: rest => withoutDots done rest
  | ['.', '.'] :: rest => withoutDots (leaveParent done) rest
  | piece :: rest => withoutDots (piece :: done) rest

/-- What follows the name of a host, if two slashes announce one. -/
def dropHost : List Char → List Char
  | '/' :: '/' :: rest => rest.dropWhile (· != '/')
  | path => path

/-- The path of an address without query and fragment, from its first slash on. -/
def bare (address : List Char) : List Char :=
  let path := dropHost (address.takeWhile fun c => c != '?' && c != '#')
  let rooted := '/' :: path.dropWhile (· == '/')
  ['/'].intercalate (withoutDots [] (pieces rooted))

/-- The path that a server sees. Escapes are read twice, by the client and by the server. -/
def serverPath (address : List Char) : List Char := unescape (unescape (bare address))

def segments (path : List Char) : List String := ((pieces path).drop 1).map String.ofList

def dropSlashes (path : List Char) : List Char :=
  (path.reverse.dropWhile (· == '/')).reverse

def dropNewline (s : String) : String :=
  let cs := s.toList
  if cs.getLast? = some '\n' then String.ofList cs.dropLast else s

def withoutNewline (path : List String) : List String :=
  path.dropLast ++ (path.getLast?.map dropNewline).toList

end Formula.Api
