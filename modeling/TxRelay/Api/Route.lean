import TxRelay.Url.Percent

/-!
# Routes

What a request is about is said by its path and its method. A path may stand
behind a scheme and a host, which do not matter. It is compared as it is, up to
a question mark; only the parts of it that are arguments are decoded. Of the
two arguments of a route the first may be empty, but the second may not.

The method OPTIONS is answered for every path, and HEAD is allowed wherever GET
is.

## Main definitions

* `Api.Resource`: What a path names.
* `Api.Resource.ofPath?`: Reads a path.
* `Api.Resource.allows`: The methods of a resource.
-/

namespace TxRelay

namespace Api

/-- What a path names. -/
inductive Resource where
  /-- Whether the program runs. -/
  | health
  /-- Whether the program can work. -/
  | ready
  /-- What the program is doing. -/
  | status
  /-- Nonces, of which one can be had. -/
  | nonces
  /-- The nonce of an account on a chain, both as they stand in the path. -/
  | nonce (chain account : List Char)
  /-- Transactions, which can be submitted. -/
  | transactions
  deriving DecidableEq

namespace Resource

/-- What stands behind a scheme and a host, if they are named. -/
def behindHost (target : List Char) : List Char :=
  match target.dropWhile fun c => c.isAlphanum || c == '+' || c == '-' || c == '.' with
  | ':' :: '/' :: '/' :: rest => rest.dropWhile fun c => c != '/' && c != '?' && c != '#'
  | _ => target

/-- A path without the query. -/
def bare (path : String) : List Char :=
  (behindHost path.toList).takeWhile fun c => c != '?' && c != '#'

/-- Reads the two arguments of a nonce. -/
def arguments? (text : List Char) : Option Resource :=
  match text.dropWhile (· != '/') with
  | _ :: account =>
    if account.isEmpty || account.contains '/' then none
    else some (.nonce (text.takeWhile (· != '/')) account)
  | [] => none

/-- Reads a path. -/
def ofPath? (path : String) : Option Resource :=
  let text := bare path
  match String.ofList text with
  | "/health" => some .health
  | "/ready" => some .ready
  | "/status" => some .status
  | "/nonces" => some .nonces
  | "/transactions" => some .transactions
  | _ =>
    let front := "/nonces/".toList
    if front.isPrefixOf text then arguments? (text.drop front.length) else none

/-- Whether a resource has a method. -/
def allows (method : String) : Resource → Bool
  | .health | .ready | .status => method == "GET" || method == "HEAD"
  | .nonces | .transactions => method == "POST"
  | .nonce .. => method == "DELETE"

end Resource

/-- An argument of a path, decoded. -/
def decodeArgument? (text : List Char) : Option String :=
  String.fromUTF8? ⟨(Url.percentDecode (String.ofList text).toUTF8.toList).toArray⟩

/-- The number of a chain in a path. A plus sign may stand before it. -/
def chainArgument? (text : String) : Option ChainId :=
  let digits := match text.toList with
    | '+' :: rest => rest
    | all => all
  if digits.isEmpty || !digits.all Char.isDigit then none
  else
    let n : Nat := digits.foldl (fun acc c => acc * 10 + (c.toNat - 48)) 0
    if n < UInt64.size then some n.toUInt64 else none

end Api

end TxRelay
