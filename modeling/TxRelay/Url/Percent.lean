import TxRelay.Bytes.Hex

/-!
# Percent Encoding

Characters that a part of a URL cannot hold are written as the bytes of their
UTF-8 form, each as a percent sign and two capital digits. Which characters
those are depends on the part. A percent sign stands for itself, so a text
that was encoded before stays as it is.

## Main definitions

* `Url.encodeWith`: Encodes the characters of a set.
* `Url.inOpaque`, `Url.inPath`, `Url.inQuery`, `Url.inFragment`,
  `Url.inUserInfo`: What is encoded in which part.
* `Url.percentDecode`: The bytes behind an encoded text.
-/

namespace TxRelay

namespace Url

/-- A byte as a percent sign and two digits. -/
def percentByte (b : UInt8) : List Char :=
  '%' :: (Hex.digits [b]).map Char.toUpper

/-- Encodes the characters of a set. -/
def encodeWith (encoded : Char → Bool) (text : List Char) : List Char :=
  text.flatMap fun c =>
    if encoded c then c.toString.toUTF8.toList.flatMap percentByte else [c]

/-- What is encoded everywhere: controls, and all that is not ASCII. -/
def inOpaque (c : Char) : Bool :=
  c.toNat < 32 || 126 < c.toNat

/-- What is encoded in a fragment. -/
def inFragment (c : Char) : Bool :=
  inOpaque c || [' ', '"', '<', '>', Char.ofNat 96].contains c

/-- What is encoded in a path. -/
def inPath (c : Char) : Bool :=
  inFragment c || ['#', '?', '\x7b', '\x7d'].contains c

/-- What is encoded in the credentials. -/
def inUserInfo (c : Char) : Bool :=
  inPath c || ['/', ':', ';', '=', '@', '[', '\\', ']', '^', '|'].contains c

/-- What is encoded in a query. The schemes of the web also encode the single
    quote. -/
def inQuery (web : Bool) (c : Char) : Bool :=
  inOpaque c || [' ', '"', '#', '<', '>'].contains c || (web && c.toNat == 39)

/-- The bytes behind an encoded text. A percent sign without two digits behind
    it stands for itself. -/
def percentDecode : Bytes → Bytes
  | 37 :: a :: b :: rest =>
    match Hex.digit? a, Hex.digit? b with
    | some x, some y => (x <<< 4 ||| y) :: percentDecode rest
    | _, _ => 37 :: percentDecode (a :: b :: rest)
  | c :: rest => c :: percentDecode rest
  | [] => []

end Url

end TxRelay
