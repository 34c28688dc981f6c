/-!
# Byte Strings

Raw transactions are byte strings of any length; transaction hashes and
account addresses have a fixed one. Both are lists of bytes, the fixed ones
with the length carried in the type, so that a hash can never be confused
with an address and no code has to check a length twice.

## Main definitions

* `Bytes`: A byte string.
* `FixedBytes`: A byte string of a given length.
* `Hash`: The hash of a transaction, 32 bytes.
* `Address`: An account on a chain, 20 bytes.
* `ChainId`: The number of a chain.
-/

namespace TxRelay

/-- A byte string. -/
abbrev Bytes := List UInt8

/-- A byte string of exactly `n` bytes. -/
structure FixedBytes (n : Nat) where
  /-- The bytes, the most significant one first. -/
  toList : Bytes
  /-- Their number. -/
  length_toList : toList.length = n
  deriving DecidableEq

namespace FixedBytes

/-- The byte string as one of fixed length, if it has that length. -/
def ofList? (n : Nat) (bytes : Bytes) : Option (FixedBytes n) :=
  if h : bytes.length = n then some ⟨bytes, h⟩ else none

/-- The same byte `n` times. -/
def repeated (n : Nat) (byte : UInt8) : FixedBytes n :=
  ⟨List.replicate n byte, List.length_replicate⟩

instance (n : Nat) : Inhabited (FixedBytes n) :=
  ⟨repeated n 0⟩

/-- The byte string cut or filled with zeros to the fixed length. Total, for
    callers that know the length by construction. -/
def ofListPadded (n : Nat) (bytes : Bytes) : FixedBytes n :=
  ⟨(bytes ++ List.replicate n 0).take n, by
    simp only [List.length_take, List.length_append, List.length_replicate]
    omega⟩

end FixedBytes

/-- The hash of a transaction. -/
abbrev Hash := FixedBytes 32

/-- An account on a chain. -/
abbrev Address := FixedBytes 20

/-- The number that identifies a chain. -/
abbrev ChainId := UInt64

end TxRelay
