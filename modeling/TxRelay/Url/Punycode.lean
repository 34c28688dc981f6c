/-!
# Names Beyond ASCII

A label of a domain name that is not ASCII is written as its ASCII characters
followed by a code of the others. The code lists the other characters from the
smallest on, each by its distance from the last one, in a number system of 36
digits whose thresholds adapt to the size of the distances.

## Main definitions

* `Punycode.encode`: The code of a label.
* `Punycode.decode?`: The label of a code.
-/

namespace TxRelay

namespace Punycode

/-- The digit of a value: letters first, then figures. -/
def digit (v : Nat) : Char :=
  if v < 26 then Char.ofNat (97 + v) else Char.ofNat (22 + v)

/-- The value of a digit. -/
def value? (c : Char) : Option Nat :=
  if 'a' ≤ c && c ≤ 'z' then some (c.toNat - 97)
  else if 'A' ≤ c && c ≤ 'Z' then some (c.toNat - 65)
  else if c.isDigit then some (c.toNat - 22)
  else none

/-- The threshold of the digit at a place that counts in steps of 36. -/
def threshold (place bias : Nat) : Nat :=
  min 26 (max 1 (place - bias))

/-- Divides a distance until it is small, and counts how often. -/
def shrink : Nat → Nat → Nat → Nat
  | 0, count, _ => count
  | n + 1, count, delta =>
    if 455 < delta then shrink n (count + 36) (delta / 35) else count + 36 * delta / (delta + 38)

/-- The bias after a distance, with the number of characters known by then. -/
def adapt (delta known : Nat) (first : Bool) : Nat :=
  let delta := if first then delta / 700 else delta / 2
  let delta := delta + delta / known
  shrink (delta.log2 + 1) 0 delta

/-- The digits of a distance. As many rounds as the number has bits are
    enough. -/
def distanceWithin : Nat → Nat → Nat → Nat → List Char
  | 0, _, _, _ => []
  | n + 1, bias, place, rest =>
    let t := threshold place bias
    if rest < t then [digit rest]
    else digit (t + (rest - t) % (36 - t)) :: distanceWithin n bias (place + 36) ((rest - t) / (36 - t))

/-- The state of an encoder: the distance so far, the bias, and the number of
    characters written. -/
structure Progress where
  /-- The distance from the last character. -/
  delta : Nat
  /-- The bias. -/
  bias : Nat
  /-- How many characters are written. -/
  written : Nat
  /-- The code so far. -/
  code : List Char

/-- Goes over a label once and writes the characters with one code. -/
def Progress.pass (n basic : Nat) (label : List Nat) (p : Progress) : Progress :=
  label.foldl
    (fun p c =>
      if c < n then { p with delta := p.delta + 1 }
      else if c = n then
        { delta := 0
          bias := adapt p.delta (p.written + 1) (p.written == basic)
          written := p.written + 1
          code := p.code ++ distanceWithin (p.delta.log2 + 2) p.bias 36 p.delta }
      else p) p

/-- The code of a label. -/
def encode (label : List Char) : List Char :=
  let codes := label.map Char.toNat
  let basic := label.filter fun c => c.toNat < 128
  let others := ((codes.filter (128 ≤ ·)).mergeSort (· ≤ ·)).eraseDups
  let start : Progress := ⟨0, 72, basic.length, if basic.isEmpty then [] else basic ++ ['-']⟩
  let r := others.foldl
    (fun (s : Nat × Progress) n =>
      let p := { s.2 with delta := s.2.delta + (n - s.1) * (s.2.written + 1) }
      let p := p.pass n basic.length codes
      (n + 1, { p with delta := p.delta + 1 })) (128, start)
  r.2.code

/-- Reads a distance. -/
def readDistance (bias : Nat) : Nat → Nat → Nat → List Char → Option (Nat × List Char)
  | _, _, _, [] => none
  | place, weight, sum, c :: rest => do
    let v ← value? c
    let sum := sum + v * weight
    let t := threshold place bias
    if v < t then pure (sum, rest) else readDistance bias (place + 36) (weight * (36 - t)) sum rest

/-- Reads the distances of a code and puts their characters in place. Every
    distance takes a digit, so as many rounds as digits are enough. -/
def readWithin : Nat → Nat → Nat → Nat → List Nat → List Char → Option (List Nat)
  | _, _, _, _, label, [] => some label
  | 0, _, _, _, _, _ => none
  | rounds + 1, n, i, bias, label, code => do
    let d ← readDistance bias 36 1 0 code
    let size := label.length + 1
    let i' := i + d.1
    let n' := n + i' / size
    let place := i' % size
    if n' < 0xD800 || (0xE000 ≤ n' && n' < 0x110000) then
      readWithin rounds n' (place + 1) (adapt d.1 size (i == 0))
        (label.take place ++ n' :: label.drop place) d.2
    else none

/-- The label of a code: what stands before the last hyphen, and the
    characters behind it. -/
def decode? (code : List Char) : Option (List Char) :=
  let tail := (code.reverse.takeWhile (· != '-')).reverse
  let basic := code.take (code.length - tail.length - 1)
  (readWithin tail.length 128 0 72 (basic.map Char.toNat) tail).map fun label =>
    label.map Char.ofNat

end Punycode

end TxRelay
