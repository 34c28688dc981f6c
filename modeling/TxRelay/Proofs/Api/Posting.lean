import TxRelay.Proofs.Api.Errand
import TxRelay.Proofs.Api.Move
import TxRelay.Proofs.Bytes.Denotation
import TxRelay.Proofs.Json.Written

/-!
# Posting a Signed Transaction

A signed transaction is posted as a text of hexadecimal digits. Its bytes are what is
broadcast and hashed, so the text has to mean exactly one byte string or nothing. It is
read as the bytes that its digits denote, if there are digits at all, in pairs, behind
at most one `0x`. Every other text is refused, and the refusal says what is wrong with
it.

A text gets to the service inside a JSON body, and any text can: what cannot stand in
quotes is escaped, and the body is read as it was written. Only its length is limited. A
body that is too long is not read, whatever the text, and is refused as such.

## Main definitions

* `Api.Legible`: A text is a signed transaction.
* `Api.Refusal`: What is said of a text that is none.
* `Api.Request.Carries`: A request posts a text for a chain.
* `Api.Service.Received`: What comes of it.

## Theorems

* `Api.readRaw_eq_ok`, `Api.readRaw_eq_error`: How a text is read.
* `Api.carries_posting`: Any text can be posted that fits into a body.
* `Api.Service.received`: What comes of posting it.
* `Api.Service.handle_oversized`: What comes of a body that is too long.
* `Api.raw_transaction_read_exactly`: All of this.
-/

namespace TxRelay

namespace Api

/-- A text is a signed transaction: behind at most one `0x` it has digits of either
    case, an even number of them, and at least two. -/
structure Legible (text : String) : Prop where
  /-- It has something behind `0x`. -/
  nonempty : Hex.behind0x text.toList ≠ []
  /-- What it has comes in pairs. -/
  even : (Hex.behind0x text.toList).length % 2 = 0
  /-- All of it are digits. -/
  digits : ∀ c ∈ Hex.behind0x text.toList, c ∈ Hex.numerals

/-- What is said of a text that is no signed transaction. -/
inductive Refusal (text : String) : String → Prop where
  /-- It has no digits. -/
  | empty (nothing : Hex.behind0x text.toList = []) : Refusal text "empty raw transaction"
  /-- Its bytes are no digits in pairs. -/
  | mistake {f : Hex.Fault} (mistake : Hex.Mistake (Hex.octets (Hex.behind0x text.toList)) f) :
      Refusal text ("invalid raw transaction: " ++ rawFault f)

section Reading

variable {text : String}

-- The bytes of the text play no part.
theorem decode_strip0x (text : String) :
    Hex.decode (Hex.strip0x text.toUTF8.toList) =
      Hex.decode (Hex.octets (Hex.behind0x text.toList)) := by
  rw [Hex.toUTF8_toList, Hex.strip0x_octets]

/-- A text is read as the bytes that its digits denote, if there are any. -/
theorem readRaw_eq_ok {raw : Bytes} :
    readRaw text = .ok raw ↔ raw ≠ [] ∧ Hex.Denotes (Hex.behind0x text.toList) raw := by
  rw [← Hex.decode_octets, readRaw, decode_strip0x]
  cases read : Hex.decode (Hex.octets (Hex.behind0x text.toList)) with
  | error f => exact iff_of_false (by simp) (by simp)
  | ok bytes =>
    rcases bytes with _ | ⟨b, rest⟩
    · refine iff_of_false (by simp) ?_
      rintro ⟨nonempty, same⟩
      exact nonempty (Except.ok.inj same).symm
    · constructor
      · intro same
        obtain rfl := Except.ok.inj same
        exact ⟨List.cons_ne_nil _ _, rfl⟩
      · rintro ⟨-, same⟩
        exact congrArg Except.ok (Except.ok.inj same)

/-- Any other text is refused, for what is wrong with it. -/
theorem readRaw_eq_error {f : Failure} :
    readRaw text = .error f ↔ ∃ message, f = .invalidRequest message ∧ Refusal text message := by
  rw [readRaw, decode_strip0x]
  cases read : Hex.decode (Hex.octets (Hex.behind0x text.toList)) with
  | error g =>
    have mistake := Hex.decode_eq_error.mp read
    constructor
    · intro same
      exact ⟨_, (Except.error.inj same).symm, .mistake mistake⟩
    · rintro ⟨_, rfl, nothing | other⟩
      · rw [nothing] at read
        exact absurd read (by simp [Hex.decode, Hex.decodePairs])
      · obtain rfl := Except.error.inj (read.symm.trans (Hex.decode_eq_error.mpr other))
        rfl
  | ok bytes =>
    have sound {g : Hex.Fault} : ¬Hex.Mistake (Hex.octets (Hex.behind0x text.toList)) g :=
      fun mistake => by simp [Hex.decode_eq_error.mpr mistake] at read
    rcases bytes with _ | ⟨b, rest⟩
    · constructor
      · intro same
        have nothing := (Hex.decode_octets.mp read).eq_nil_iff.mp rfl
        exact ⟨_, (Except.error.inj same).symm, .empty nothing⟩
      · rintro ⟨_, rfl, _ | mistake⟩
        · rfl
        · exact absurd mistake sound
    · refine iff_of_false (by simp) ?_
      rintro ⟨_, rfl, nothing | mistake⟩
      · rw [nothing] at read
        exact absurd read (by simp [Hex.decode, Hex.decodePairs])
      · exact absurd mistake sound

/-- The texts that are read. -/
theorem legible_iff : (∃ raw, readRaw text = .ok raw) ↔ Legible text := by
  constructor
  · rintro ⟨raw, read⟩
    obtain ⟨nonempty, denotes⟩ := readRaw_eq_ok.mp read
    obtain ⟨even, digits⟩ := Hex.exists_denotes.mp ⟨raw, denotes⟩
    exact ⟨mt denotes.eq_nil_iff.mpr nonempty, even, digits⟩
  · rintro ⟨nonempty, even, digits⟩
    obtain ⟨raw, denotes⟩ := Hex.exists_denotes.mpr ⟨even, digits⟩
    exact ⟨raw, readRaw_eq_ok.mpr ⟨mt denotes.eq_nil_iff.mp nonempty, denotes⟩⟩

/-- Two texts are read as the same bytes exactly if they differ in case and `0x` only. -/
theorem readRaw_same {other : String} :
    (∃ raw, readRaw text = .ok raw ∧ readRaw other = .ok raw) ↔
      Legible text ∧ Legible other ∧
        (Hex.behind0x text.toList).map Char.toLower =
          (Hex.behind0x other.toList).map Char.toLower := by
  constructor
  · rintro ⟨raw, read, read'⟩
    refine ⟨legible_iff.mp ⟨raw, read⟩, legible_iff.mp ⟨raw, read'⟩, ?_⟩
    exact (Hex.denotes_iff_lower.mp (readRaw_eq_ok.mp read).2).trans
      (Hex.denotes_iff_lower.mp (readRaw_eq_ok.mp read').2).symm
  · rintro ⟨legible, -, same⟩
    obtain ⟨raw, read⟩ := legible_iff.mpr legible
    obtain ⟨nonempty, denotes⟩ := readRaw_eq_ok.mp read
    refine ⟨raw, read, readRaw_eq_ok.mpr ⟨nonempty, Hex.denotes_iff_lower.mpr ?_⟩⟩
    exact same.symm.trans (Hex.denotes_iff_lower.mp denotes)

end Reading

namespace Request

/-- A request posts a text for a chain. -/
structure Carries (r : Request) (chain : ChainId) (text : String) : Prop where
  /-- It goes to the right place. -/
  posts : r.Posts
  /-- Its body is said to be JSON. -/
  json : r.mediaType.any isJson = true
  /-- Its body names the chain and the text. -/
  body : Body.read "raw_transaction" r.body = .ok ⟨chain, text⟩

/-- The request that posts a text for a chain as callers usually do. -/
def posting (chain : ChainId) (text : String) : Request :=
  { method := "POST"
    path := "/transactions"
    mediaType := some "application/json"
    body := (Json.Value.obj
      [("chain_id", .nat chain.toNat), ("raw_transaction", .str text)]).render }

-- The characters of its body.
theorem toList_posting (chain : ChainId) (text : String) :
    (posting chain text).body.toList =
      '\x7b' :: ((Json.Value.quote "chain_id").toList ++ ':' ::
        (Nat.toDigits 10 chain.toNat ++ ',' ::
          ((Json.Value.quote "raw_transaction").toList ++ ':' ::
            ((Json.Value.quote text).toList ++ ['\x7d'])))) := by
  have two (a b : String) : String.intercalate "," [a, b] = a ++ "," ++ b := rfl
  simp [posting, Json.Value.render, Json.Value.renderFields, Json.Value.nat, Json.Number.render,
    Json.Number.ofNat, two]

/-- Its body is read as it was written. -/
theorem tokens_posting (chain : ChainId) (text : String) :
    Json.tokens (posting chain text).body =
      [.openObject, .str (some "chain_id"), .colon, .num (.ofNat chain.toNat), .comma,
        .str (some "raw_transaction"), .colon, .str (some text), .closeObject] := by
  unfold Json.tokens
  dsimp only
  rw [toList_posting]
  -- There is a character for each of the nine tokens, and more.
  obtain ⟨n, rounds⟩ : ∃ n, ('\x7b' :: ((Json.Value.quote "chain_id").toList ++ ':' ::
      (Nat.toDigits 10 chain.toNat ++ ',' ::
        ((Json.Value.quote "raw_transaction").toList ++ ':' ::
          ((Json.Value.quote text).toList ++ ['\x7d']))))).length = n + 9 := by
    refine Nat.exists_eq_add_of_le' ?_
    have name := Json.two_le_length_quote "chain_id"
    have name' := Json.two_le_length_quote "raw_transaction"
    have value := Json.two_le_length_quote text
    simp only [List.length_cons, List.length_append, List.length_nil]
    omega
  rw [rounds, Json.tokensWithin_token _ _ (by decide) rfl, Json.tokensWithin_quote,
    Json.tokensWithin_token _ _ (by decide) rfl, Json.tokensWithin_digits _ _ _ (by decide),
    Json.tokensWithin_token _ _ (by decide) rfl, Json.tokensWithin_quote,
    Json.tokensWithin_token _ _ (by decide) rfl, Json.tokensWithin_quote,
    Json.tokensWithin_token _ _ (by decide) rfl]
  cases n <;> rfl

-- The field with the chain, and the one with the text.
theorem readField_chain (chain : ChainId) (rest : List Json.Token) :
    Body.readField "raw_transaction" "chain_id" (.colon :: .num (.ofNat chain.toNat) :: rest)
      ⟨none, none⟩ = .ok (⟨some chain, none⟩, rest) := by
  have small : chain.toNat < UInt64.size := chain.toNat_lt
  have number : Body.chainId (.num (.ofNat chain.toNat) :: rest) = .ok (chain, rest) := by
    simp [Body.chainId, Json.Number.toNat?_ofNat, small]
  simp only [Body.readField, if_true, Option.isSome_none, Bool.false_eq_true, if_false, Body.colon]
  show (do let v ← Body.chainId (.num (.ofNat chain.toNat) :: rest); pure _) = _
  rw [number]
  rfl

theorem readField_text (chain : ChainId) (text : String) (rest : List Json.Token) :
    Body.readField "raw_transaction" "raw_transaction" (.colon :: .str (some text) :: rest)
      ⟨some chain, none⟩ = .ok (⟨some chain, some text⟩, rest) :=
  rfl

/-- Any text can be posted that fits into a body, for any chain. -/
theorem carries_posting (chain : ChainId) (text : String)
    (fits : (posting chain text).body.utf8ByteSize ≤ Body.limit) :
    (posting chain text).Carries chain text := by
  have path : Resource.ofPath? "/transactions" = some .transactions := by decide
  have json : isJson "application/json" = true := by decide
  refine ⟨⟨rfl, path⟩, json, ?_⟩
  unfold Body.read
  rw [if_pos fits, tokens_posting]
  simp only [Body.ofTokens, List.length_cons, List.length_nil]
  rw [Body.fieldsWithin, readField_chain]
  show Body.fieldsWithin "raw_transaction" _ _ _ = _
  rw [Body.fieldsWithin, readField_text]
  rfl

-- A text in quotes, which have to be escaped.
example : (posting 5 "\"0xab\"").Carries 5 "\"0xab\"" := carries_posting 5 _ (by decide)

end Request

namespace Service

variable {σ : Type} {c : Setup σ} {s : Service σ} {r : Request} {chain : ChainId} {text : String}

/-- What comes of a text that is posted for a chain. -/
inductive Received (c : Setup σ) (s : Service σ) (chain : ChainId) (text : String) :
    Reaction × Service σ → Prop where
  /-- It is refused, and nothing changes. -/
  | refused {message : String} (refusal : Refusal text message) :
      Received c s chain text (.now (.ofFailure (.invalidRequest message)), s)
  /-- Nobody can broadcast it, and nothing changes. -/
  | unknown (legible : Legible text) (absent : s.fleet.provider? chain = none) :
      Received c s chain text (.now (.ofFailure (.chainNotFound chain)), s)
  /-- The queue is given the bytes that it denotes. -/
  | taken {raw : Bytes} (nonempty : raw ≠ [])
      (denotes : Hex.Denotes (Hex.behind0x text.toList) raw)
      (connected : (s.fleet.provider? chain).isSome) :
      Received c s chain text (.later s.queue.asked,
        { s with
          queue := (s.queue.enqueue c.queue.places (.relay chain raw)).settle c.queue })

/-- What comes of posting a text is decided by the text alone, unless the chain is not
    connected. -/
theorem received (carries : r.Carries chain text) : Received c s chain text (s.handle c r) := by
  rw [handle_posts carries.posts, withBody, if_pos carries.json, carries.body]
  dsimp only
  unfold submit
  cases read : readRaw text with
  | error f =>
    obtain ⟨message, rfl, refusal⟩ := readRaw_eq_error.mp read
    exact .refused refusal
  | ok raw =>
    dsimp only
    cases connected : s.fleet.provider? chain with
    | none => exact .unknown (legible_iff.mp ⟨raw, read⟩) connected
    | some p =>
      obtain ⟨nonempty, denotes⟩ := readRaw_eq_ok.mp read
      exact .taken nonempty denotes (by rw [connected]; rfl)

/-- A body that is too long is refused, whatever it holds, and nothing changes. -/
theorem handle_oversized (posts : r.Posts) (json : r.mediaType.any isJson = true)
    (long : Body.limit < r.body.utf8ByteSize) : s.handle c r = (.now (.bare 413), s) := by
  rw [handle_posts posts, withBody, if_pos json, Body.read, if_neg (Nat.not_le_of_lt long)]

end Service

/-- How a signed transaction is read, whatever the text. It is read exactly if it has an
    even number of digits of either case, and not none, behind at most one `0x`, and then
    as the bytes that they denote; any other text is refused as a request that makes no
    sense, and told why. Bytes that are written in digits of any case, with `0x` or
    without, are read as they were, so two texts are read as the same bytes exactly if
    they differ in the case of their digits and in `0x` only. All this holds of what is
    posted to a service: any text can be that fits into a body, and a service hands the
    bytes to its queue, refuses the text, or knows nobody who could broadcast it. A body
    that is too long is refused as such, and its text is not read. -/
theorem raw_transaction_read_exactly (text : String) :
    (∀ raw, readRaw text = .ok raw ↔ raw ≠ [] ∧ Hex.Denotes (Hex.behind0x text.toList) raw) ∧
    ((∃ raw, readRaw text = .ok raw) ↔ Legible text) ∧
    (¬Legible text ↔ ∃ message, readRaw text = .error (.invalidRequest message)) ∧
    (∀ message, readRaw text = .error (.invalidRequest message) ↔ Refusal text message) ∧
    (∀ raw, readRaw text = .ok raw ↔ raw ≠ [] ∧ Hex.Spells text raw) ∧
    (∀ other, (∃ raw, readRaw text = .ok raw ∧ readRaw other = .ok raw) ↔
      Legible text ∧ Legible other ∧
        (Hex.behind0x text.toList).map Char.toLower =
          (Hex.behind0x other.toList).map Char.toLower) ∧
    (∀ chain, (Request.posting chain text).body.utf8ByteSize ≤ Body.limit →
      (Request.posting chain text).Carries chain text) ∧
    ∀ {σ : Type} (c : Setup σ) (s : Service σ) (r : Request),
      (∀ chain, r.Carries chain text → Service.Received c s chain text (s.handle c r)) ∧
      (r.Posts → r.mediaType.any isJson = true → Body.limit < r.body.utf8ByteSize →
        s.handle c r = (.now (.bare 413), s)) := by
  refine ⟨fun raw => readRaw_eq_ok, legible_iff, ?_, fun message => ?_, fun raw => ?_,
    fun other => readRaw_same, fun chain fits => Request.carries_posting chain text fits,
    fun c s r => ⟨fun chain carries => Service.received carries,
      fun posts json long => Service.handle_oversized posts json long⟩⟩
  · rw [← legible_iff]
    cases read : readRaw text with
    | ok raw => simp
    | error f =>
      obtain ⟨message, rfl, -⟩ := readRaw_eq_error.mp read
      exact iff_of_true (by simp) ⟨message, rfl⟩
  · rw [readRaw_eq_error]
    constructor
    · rintro ⟨_, same, refusal⟩
      exact Failure.invalidRequest.inj same ▸ refusal
    · exact fun refusal => ⟨message, rfl, refusal⟩
  · rw [Hex.spells_iff]
    exact readRaw_eq_ok

end Api

end TxRelay
