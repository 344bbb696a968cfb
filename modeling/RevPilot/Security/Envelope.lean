import RevPilot.Approval.Digest
import RevPilot.Library.Bytes
import RevPilot.Library.Outcome
import RevPilot.Library.Separators
import RevPilot.Security.Broker

/-! The envelope encryption of secrets: a keystream of HMAC blocks, a tag over the plain
concatenation of ciphertext, nonce and associated data, and a wrapped key. HMAC-SHA256 is a
parameter. -/
namespace RevPilot.Security.EnvelopeEncryptionService
open Library Library.Bytes Library.Outcome Shared Approval

/-- The two errors that `decrypt` raises itself, or the cause of the one it wraps. -/
inductive EnvelopeDecryptionError : Type
  | invalidWrappedDek
  | integrity
  | caused (err : PyError)

/-- `block_index.to_bytes(4, byteorder="big")` below 2^32. -/
def counterBytes (blockIndex : Nat) : List UInt8 :=
  (List.range 4).map fun i => UInt8.ofNat (blockIndex / 256 ^ (3 - i) % 256)

/-- The random bytes and the clock of one encryption. -/
structure EncryptReadings where
  dek : Vector UInt8 32
  nonce : Vector UInt8 12
  dekNonce : Vector UInt8 12
  createdAt : UtcDateTime

section service
variable (hmac : List UInt8 → List UInt8 → Vector UInt8 32)

def keystreamBlock (key nonce : List UInt8) (counterPrefix : String) (blockIndex : Nat) : Vector UInt8 32 :=
  hmac key (nonce ++ utf8 counterPrefix ++ counterBytes blockIndex)

def xorKeystream (data key nonce : List UInt8) (counterPrefix : String) : Except PyError (List UInt8) :=
  match xorStream (2 ^ 32) (keystreamBlock hmac key nonce counterPrefix) data.length 0 data with
  | some out => .ok out
  | none => .error .overflowError

def computeAuthTag (dek ciphertext nonce aad : List UInt8) : String :=
  hex (hmac dek (ciphertext ++ nonce ++ aad)).toList

/-- `f"ver={version}:kek={kek_id}"`. -/
def associatedData (version : Int) (kekId : String) : List UInt8 := utf8 ("ver=" ++ version.repr ++ ":kek=" ++ kekId)

def encrypt (plaintext : String) (kek : List UInt8) (kekId : String) (version : Int) (readings : EncryptReadings) :
    Except PyError EnvelopeEncryptedSecret :=
  if kek.length < 16 then .error .valueError
  else do
    let dek := readings.dek.toList
    let nonce := readings.nonce.toList
    let ciphertext ← xorKeystream hmac (utf8 plaintext) dek nonce "data"
    let tagHex := computeAuthTag hmac dek ciphertext nonce (associatedData version kekId)
    let wrappedDek ← xorKeystream hmac dek kek readings.dekNonce.toList "dek"
    pure {
      ciphertextB64 := ofAscii (b64encode ciphertext)
      nonceB64 := ofAscii (b64encode nonce)
      tagHex := tagHex
      wrappedDekB64 := ofAscii (b64encode (readings.dekNonce.toList ++ wrappedDek))
      kekId := kekId
      version := version
      createdAt := readings.createdAt }

/-- `base64.b64decode(text.encode("utf-8"))`. -/
def decode64 (text : String) : Except PyError (List UInt8) :=
  match b64decode (utf8 text) with
  | some bs => .ok bs
  | none => .error .valueError

/-- The fields of an envelope once its key is unwrapped. -/
structure Opened where
  dek : List UInt8
  ciphertext : List UInt8
  nonce : List UInt8

/-- What the tag is computed from besides the key. -/
def Opened.tagged (o : Opened) (version : Int) (kekId : String) : List UInt8 :=
  o.ciphertext ++ o.nonce ++ associatedData version kekId

def openEnvelope (envelope : EnvelopeEncryptedSecret) (kek : List UInt8) : Except EnvelopeDecryptionError Opened := do
  let wrappedFull ← (decode64 envelope.wrappedDekB64).mapError .caused
  if wrappedFull.length < 12 + 32 then throw .invalidWrappedDek
  let dek ← (xorKeystream hmac (wrappedFull.drop 12) kek (wrappedFull.take 12) "dek").mapError .caused
  let ciphertext ← (decode64 envelope.ciphertextB64).mapError .caused
  let nonce ← (decode64 envelope.nonceB64).mapError .caused
  pure ⟨dek,ciphertext,nonce⟩

def decrypt (envelope : EnvelopeEncryptedSecret) (kek : List UInt8) : Except EnvelopeDecryptionError String := do
  let opened ← openEnvelope hmac envelope kek
  let expectedTag := computeAuthTag hmac opened.dek opened.ciphertext opened.nonce
    (associatedData envelope.version envelope.kekId)
  let same ← (compareDigest envelope.tagHex expectedTag).mapError .caused
  if !same then throw .integrity
  let decrypted ← (xorKeystream hmac opened.ciphertext opened.dek opened.nonce "data").mapError .caused
  match decodeUtf8 decrypted with
  | some plaintext => pure plaintext
  | none => throw (.caused .valueError)

end service

section keystream
variable {hmac : List UInt8 → List UInt8 → Vector UInt8 32} {data out key nonce : List UInt8} {counterPrefix : String}

theorem xorKeystream_eq_ok : xorKeystream hmac data key nonce counterPrefix = .ok out ↔
    xorStream (2 ^ 32) (keystreamBlock hmac key nonce counterPrefix) data.length 0 data = some out := by
  unfold xorKeystream
  split
  next found => rw [found,Except.ok.injEq,Option.some.injEq]
  next found =>
    rw [found]
    exact iff_of_false nofun nofun

/-- The counter of four bytes reaches 2^37 bytes. -/
theorem xorKeystream_returns (hmac : List UInt8 → List UInt8 → Vector UInt8 32) (data key nonce : List UInt8)
    (counterPrefix : String) : (∃ out, xorKeystream hmac data key nonce counterPrefix = .ok out) ↔ data.length ≤ 2 ^ 37 := by
  have reach : (xorStream (2 ^ 32) (keystreamBlock hmac key nonce counterPrefix) data.length 0 data).isSome ↔
      data.length ≤ 32 * (2 ^ 32 - 0) := xorStream_isSome (by decide) le_rfl
  have size : 32 * (2 ^ 32 - 0) = 2 ^ 37 := by norm_num
  rw [size,Option.isSome_iff_exists] at reach
  simp only [xorKeystream_eq_ok]
  exact reach

theorem xorKeystream_overflow (long : 2 ^ 37 < data.length) :
    xorKeystream hmac data key nonce counterPrefix = .error .overflowError := by
  have stuck := (not_congr (xorKeystream_returns hmac data key nonce counterPrefix)).mpr (Nat.not_le.mpr long)
  unfold xorKeystream at stuck ⊢
  split at stuck
  next out _ => exact absurd ⟨out,rfl⟩ stuck
  next => rfl

theorem xorKeystream_twice (ok : xorKeystream hmac data key nonce counterPrefix = .ok out) :
    out.length = data.length ∧ xorKeystream hmac out key nonce counterPrefix = .ok data := by
  rw [xorKeystream_eq_ok] at ok
  have size := xorStream_length le_rfl (by decide) ok
  refine ⟨size,?_⟩
  rw [xorKeystream_eq_ok,size]
  exact xorStream_twice le_rfl (by decide) ok

/-- A key of 32 bytes is masked by the first block. -/
theorem xorKeystream_key (size : data.length = 32) : xorKeystream hmac data key nonce counterPrefix =
    .ok (xorBytes data (keystreamBlock hmac key nonce counterPrefix 0).toList) := by
  rw [xorKeystream_eq_ok]
  exact xorStream_block (by decide) size (size ▸ by decide) (by decide)

end keystream

theorem decode64_encode (bs : List UInt8) : decode64 (ofAscii (b64encode bs)) = .ok bs := by
  rw [decode64,utf8_ofAscii (b64encode_ascii bs),b64decode_encode]

/-- The version is the number between the first `=` and the first colon behind it. -/
theorem associatedData_injective {version version' : Int} {kekId kekId' : String}
    (same : associatedData version kekId = associatedData version' kekId') : version = version' ∧ kekId = kekId' := by
  have texts := congrArg String.toList (utf8_injective same)
  have mark : ":kek=".toList = ':' :: "kek=".toList := by rfl
  have free (v : Int) : ':' ∉ v.repr.toList := by
    intro inside
    exact absurd (JsonText.int_numeric v ':' inside) (by decide)
  simp only [String.toList_append,List.append_assoc,mark,List.cons_append,List.append_cancel_left_eq] at texts
  obtain ⟨versions,ids⟩ := Separators.head_unique (free version) (free version') texts
  exact ⟨Int.repr_injective (String.toList_injective versions),
    String.toList_injective (List.append_cancel_left ids)⟩

section encryptions
variable {hmac : List UInt8 → List UInt8 → Vector UInt8 32}

/-- The message of the block that wraps a key. -/
def wrapMessage (readings : EncryptReadings) : List UInt8 := readings.dekNonce.toList ++ utf8 "dek" ++ counterBytes 0

/-- The key that another key-encryption key unwraps. -/
def unwrapped (hmac : List UInt8 → List UInt8 → Vector UInt8 32) (kek kek' : List UInt8) (readings : EncryptReadings) :
    List UInt8 :=
  xorBytes (xorBytes readings.dek.toList (hmac kek (wrapMessage readings)).toList) (hmac kek' (wrapMessage readings)).toList

theorem unwrapped_self (kek : List UInt8) (readings : EncryptReadings) :
    unwrapped hmac kek kek readings = readings.dek.toList := xorBytes_twice (by simp)

theorem unwrapped_apart {kek kek' : List UInt8} {readings : EncryptReadings}
    (apart : hmac kek (wrapMessage readings) ≠ hmac kek' (wrapMessage readings)) :
    unwrapped hmac kek kek' readings ≠ unwrapped hmac kek kek readings := by
  intro same
  have keys := xorBytes_key_injective (by simp [xorBytes_length]) (by simp [xorBytes_length]) same
  exact apart (Vector.toList_inj.mp keys).symm

variable {plaintext : String} {kek : List UInt8} {kekId : String} {version : Int} {readings : EncryptReadings}
  {envelope : EnvelopeEncryptedSecret}

/-- What an encryption stores. -/
structure Stores (hmac : List UInt8 → List UInt8 → Vector UInt8 32) (plaintext : String) (kek : List UInt8)
    (kekId : String) (version : Int) (readings : EncryptReadings) (envelope : EnvelopeEncryptedSecret)
    (ciphertext : List UInt8) : Prop where
  long : 16 ≤ kek.length
  enciphered : xorKeystream hmac (utf8 plaintext) readings.dek.toList readings.nonce.toList "data" = .ok ciphertext
  ciphertextB64 : envelope.ciphertextB64 = ofAscii (b64encode ciphertext)
  nonceB64 : envelope.nonceB64 = ofAscii (b64encode readings.nonce.toList)
  tagHex : envelope.tagHex = computeAuthTag hmac readings.dek.toList ciphertext readings.nonce.toList
    (associatedData version kekId)
  wrappedDekB64 : envelope.wrappedDekB64 = ofAscii (b64encode (readings.dekNonce.toList ++
    xorBytes readings.dek.toList (hmac kek (wrapMessage readings)).toList))
  kekId : envelope.kekId = kekId
  version : envelope.version = version

theorem encrypt_stores (ok : encrypt hmac plaintext kek kekId version readings = .ok envelope) :
    ∃ ciphertext, Stores hmac plaintext kek kekId version readings envelope ciphertext := by
  unfold encrypt at ok
  split_ifs at ok with short
  obtain ⟨ciphertext,enciphered,ok⟩ := bind_eq_ok.mp ok
  rw [xorKeystream_key (by simp)] at ok
  cases ok
  exact ⟨ciphertext,Nat.not_lt.mp short,enciphered,rfl,rfl,rfl,rfl,rfl,rfl⟩

theorem encrypt_returns (hmac : List UInt8 → List UInt8 → Vector UInt8 32) (kekId : String) (version : Int)
    (readings : EncryptReadings) (long : 16 ≤ kek.length) (short : (utf8 plaintext).length ≤ 2 ^ 37) :
    ∃ envelope, encrypt hmac plaintext kek kekId version readings = .ok envelope := by
  obtain ⟨ciphertext,enciphered⟩ := (xorKeystream_returns hmac (utf8 plaintext) readings.dek.toList
    readings.nonce.toList "data").mpr short
  unfold encrypt
  rw [if_neg (Nat.not_lt.mpr long)]
  dsimp only
  rw [enciphered,xorKeystream_key (by simp)]
  exact ⟨_,rfl⟩

theorem encrypt_overflow (long : 16 ≤ kek.length) (big : 2 ^ 37 < (utf8 plaintext).length) :
    encrypt hmac plaintext kek kekId version readings = .error .overflowError := by
  unfold encrypt
  rw [if_neg (Nat.not_lt.mpr long)]
  dsimp only
  rw [xorKeystream_overflow big]
  rfl

/-- An envelope with the stored key opens under every key-encryption key, to the key that this one unwraps. -/
theorem openEnvelope_wrapped {wrapped : List UInt8} (size : wrapped.length = 32) (kek' ciphertext nonce : List UInt8)
    (key : envelope.wrappedDekB64 = ofAscii (b64encode (readings.dekNonce.toList ++ wrapped)))
    (text : envelope.ciphertextB64 = ofAscii (b64encode ciphertext)) (start : envelope.nonceB64 = ofAscii (b64encode nonce)) :
    openEnvelope hmac envelope kek' =
      .ok ⟨xorBytes wrapped (hmac kek' (wrapMessage readings)).toList,ciphertext,nonce⟩ := by
  have cut : (readings.dekNonce.toList ++ wrapped).drop 12 = wrapped := List.drop_left' (by simp)
  have first : (readings.dekNonce.toList ++ wrapped).take 12 = readings.dekNonce.toList := List.take_left' (by simp)
  have whole : ¬ (readings.dekNonce.toList ++ wrapped).length < 12 + 32 := by simp [size]
  unfold openEnvelope
  rw [key,text,start,decode64_encode,decode64_encode,decode64_encode]
  simp only [Except.mapError,bind,Except.bind,whole,if_false,cut,first,xorKeystream_key size]
  rfl

theorem Stores.opens {ciphertext : List UInt8} (stores : Stores hmac plaintext kek kekId version readings envelope ciphertext)
    (kek' : List UInt8) (version' : Int) (kekId' : String) :
    openEnvelope hmac { envelope with version := version', kekId := kekId' } kek' =
      .ok ⟨unwrapped hmac kek kek' readings,ciphertext,readings.nonce.toList⟩ :=
  openEnvelope_wrapped (by simp [xorBytes_length]) kek' ciphertext readings.nonce.toList stores.wrappedDekB64
    stores.ciphertextB64 stores.nonceB64

end encryptions

section decryption
variable {hmac : List UInt8 → List UInt8 → Vector UInt8 32} {envelope : EnvelopeEncryptedSecret} {kek : List UInt8}
  {o : Opened}

/-- The tag of an envelope is that of its fields. -/
def Verifies (hmac : List UInt8 → List UInt8 → Vector UInt8 32) (envelope : EnvelopeEncryptedSecret) (o : Opened) : Prop :=
  envelope.tagHex = hex (hmac o.dek (o.tagged envelope.version envelope.kekId)).toList

theorem decrypt_verified (opens : openEnvelope hmac envelope kek = .ok o) (verifies : Verifies hmac envelope o)
    {plaintext : String} : decrypt hmac envelope kek = .ok plaintext ↔
      ∃ decrypted, xorKeystream hmac o.ciphertext o.dek o.nonce "data" = .ok decrypted ∧
        decodeUtf8 decrypted = some plaintext := by
  have same : compareDigest envelope.tagHex (computeAuthTag hmac o.dek o.ciphertext o.nonce
      (associatedData envelope.version envelope.kekId)) = .ok true := by
    rw [verifies]
    unfold compareDigest computeAuthTag
    rw [hex_ascii,hex_ascii]
    exact congrArg Except.ok (beq_self_eq_true _)
  unfold decrypt
  rw [opens]
  simp only [bind,Except.bind,same,Except.mapError,Bool.not_true,Bool.false_eq_true,if_false]
  cases xorKeystream hmac o.ciphertext o.dek o.nonce "data" with
  | error e => exact iff_of_false nofun (by rintro ⟨_,impossible,_⟩; cases impossible)
  | ok decrypted =>
    dsimp only
    cases decoded : decodeUtf8 decrypted with
    | none => exact iff_of_false nofun (by
      rintro ⟨_,same',read⟩
      rw [← Except.ok.inj same',decoded] at read
      cases read)
    | some text =>
      constructor
      · rintro ⟨⟩
        exact ⟨decrypted,rfl,decoded⟩
      · rintro ⟨_,same',read⟩
        rw [← Except.ok.inj same',decoded] at read
        exact congrArg Except.ok (Option.some.inj read)

theorem decrypt_unverified (opens : openEnvelope hmac envelope kek = .ok o) (forged : ¬ Verifies hmac envelope o) :
    decrypt hmac envelope kek = .error (if Text.isAscii envelope.tagHex then .integrity else .caused .typeError) := by
  unfold decrypt
  rw [opens]
  simp only [bind,Except.bind,compareDigest,computeAuthTag,hex_ascii,Bool.and_true]
  cases Text.isAscii envelope.tagHex with
  | false => rfl
  | true =>
    have apart : (envelope.tagHex == hex (hmac o.dek (o.ciphertext ++ o.nonce ++
        associatedData envelope.version envelope.kekId)).toList) = false := beq_eq_false_iff_ne.mpr forged
    simp only [if_true,Except.mapError,apart]
    rfl

end decryption

/-- The keys and messages that an encryption and a decryption of its envelope give to HMAC, the keystream of the
plaintext apart. -/
def hmacInputs (hmac : List UInt8 → List UInt8 → Vector UInt8 32) (kek kek' : List UInt8) (readings : EncryptReadings)
    (ciphertext : List UInt8) (version version' : Int) (kekId kekId' : String) : Set (List UInt8 × List UInt8) :=
  let o : Opened := ⟨readings.dek.toList,ciphertext,readings.nonce.toList⟩
  {(kek,wrapMessage readings),(kek',wrapMessage readings),(readings.dek.toList,o.tagged version kekId),
    (unwrapped hmac kek kek' readings,o.tagged version' kekId')}

/-- A secret of at most 2^37 bytes is encrypted and decrypted again; another key-encryption key, version or key
identifier is an error as long as HMAC keeps the inputs of the two calls apart. -/
theorem envelope_round_trip (hmac : List UInt8 → List UInt8 → Vector UInt8 32) (plaintext : String) (kek : List UInt8)
    (kekId : String) (version : Int) (readings : EncryptReadings) (long : 16 ≤ kek.length)
    (short : (utf8 plaintext).length ≤ 2 ^ 37) :
    ∃ envelope, encrypt hmac plaintext kek kekId version readings = .ok envelope ∧
      decrypt hmac envelope kek = .ok plaintext ∧
      ∀ kek' version' kekId', kek' ≠ kek ∨ version' ≠ version ∨ kekId' ≠ kekId →
        (∀ ciphertext, b64decode (utf8 envelope.ciphertextB64) = some ciphertext → Set.InjOn (fun p => hmac p.1 p.2)
          (hmacInputs hmac kek kek' readings ciphertext version version' kekId kekId')) →
        decrypt hmac { envelope with version := version', kekId := kekId' } kek' = .error .integrity := by
  obtain ⟨envelope,ok⟩ := encrypt_returns hmac kekId version readings long short
  obtain ⟨ciphertext,stores⟩ := encrypt_stores ok
  refine ⟨envelope,ok,?_,?_⟩
  · have opens := stores.opens kek envelope.version envelope.kekId
    rw [unwrapped_self] at opens
    have verifies : Verifies hmac envelope ⟨readings.dek.toList,ciphertext,readings.nonce.toList⟩ := by
      rw [Verifies,stores.tagHex,Opened.tagged,stores.version,stores.kekId]
      rfl
    rw [decrypt_verified opens verifies]
    exact ⟨utf8 plaintext,(xorKeystream_twice stores.enciphered).2,decodeUtf8_utf8 plaintext⟩
  · intro kek' version' kekId' altered apart
    have decoded : b64decode (utf8 envelope.ciphertextB64) = some ciphertext := by
      rw [stores.ciphertextB64,utf8_ofAscii (b64encode_ascii ciphertext),b64decode_encode]
    have injective := apart ciphertext decoded
    have opens := stores.opens kek' version' kekId'
    have forged : ¬ Verifies hmac { envelope with version := version', kekId := kekId' }
        ⟨unwrapped hmac kek kek' readings,ciphertext,readings.nonce.toList⟩ := by
      intro verifies
      have tags := verifies
      rw [Verifies] at tags
      have stored := stores.tagHex
      rw [computeAuthTag] at stored
      have digests := Vector.toList_inj.mp (hex_injective (stored.symm.trans tags))
      have inputs := injective (.inr (.inr (.inl rfl))) (.inr (.inr (.inr rfl))) digests
      obtain ⟨keys,messages⟩ := Prod.mk.inj inputs
      have data := associatedData_injective (List.append_cancel_left messages)
      rcases altered with other | other | other
      · have blocks : hmac kek (wrapMessage readings) ≠ hmac kek' (wrapMessage readings) := by
          intro same
          have pairs := injective (.inl rfl) (.inr (.inl rfl)) same
          exact other (Prod.mk.inj pairs).1.symm
        exact unwrapped_apart blocks (keys.symm.trans (unwrapped_self kek readings).symm)
      · exact other data.1.symm
      · exact other data.2.symm
    rw [decrypt_unverified opens forged]
    have ascii : Text.isAscii envelope.tagHex = true := by
      rw [stores.tagHex]
      exact hex_ascii _
    dsimp only
    rw [ascii]
    rfl

/-- The least secret whose keystream needs a fifth counter byte is not encrypted. -/
theorem huge_secret_overflows : ∃ plaintext, ∀ hmac readings,
    encrypt hmac plaintext (List.replicate 16 0) "k" 1 readings = .error .overflowError := by
  refine ⟨String.ofList (List.replicate (2 ^ 37 + 1) 'a'),?_⟩
  intro hmac readings
  have sizes (n : Nat) : (utf8 (String.ofList (List.replicate n 'a'))).length = n := by
    rw [utf8,String.toList_ofList,List.length_flatMap,List.map_replicate,List.sum_replicate]
    exact Nat.mul_one n
  refine encrypt_overflow (by rw [List.length_replicate]) ?_
  rw [sizes]
  exact Nat.lt_succ_self _

section samples

/-- A digest of the first byte of the key and the last byte of the message. -/
def edgeDigest (key message : List UInt8) : Vector UInt8 32 :=
  Vector.replicate 32 (key.headD 0 + message.getLastD 0)

theorem edgeDigest_injective {key key' message message' : List UInt8}
    (same : edgeDigest key message = edgeDigest key' message') :
    key.headD 0 + message.getLastD 0 = key'.headD 0 + message'.getLastD 0 := by
  have firsts := congrArg (fun v : Vector UInt8 32 => v[0]) same
  simpa only [edgeDigest,Vector.getElem_replicate] using firsts

def zeroReadings : EncryptReadings :=
  ⟨Vector.replicate 32 0,Vector.replicate 12 0,Vector.replicate 12 0,⟨0⟩⟩

theorem tagged_last (o : Opened) (version : Int) (kekId : String) (last : UInt8)
    (ends : (associatedData version kekId).getLast? = some last) : (o.tagged version kekId).getLastD 0 = last := by
  rw [List.getLastD_eq_getLast?,Opened.tagged,List.getLast?_append,ends]
  rfl

/-- A secret that is encrypted, decrypted, and not decrypted under another key identifier. -/
theorem short_secret_round_trip : ∃ envelope,
    encrypt edgeDigest "secret" (List.replicate 16 0) "a" 1 zeroReadings = .ok envelope ∧
    decrypt edgeDigest envelope (List.replicate 16 0) = .ok "secret" ∧
    decrypt edgeDigest { envelope with version := 1, kekId := "b" } (List.replicate 16 0) = .error .integrity := by
  obtain ⟨envelope,ok,back,altered⟩ := envelope_round_trip edgeDigest "secret" (List.replicate 16 0) "a" 1 zeroReadings
    (by decide) (by decide)
  refine ⟨envelope,ok,back,altered _ 1 "b" (.inr (.inr (by decide))) ?_⟩
  intro ciphertext _
  have wrap : (wrapMessage zeroReadings).getLastD 0 = 0 := by decide
  have first := tagged_last ⟨zeroReadings.dek.toList,ciphertext,zeroReadings.nonce.toList⟩ 1 "a" 97 (by decide)
  have second := tagged_last ⟨zeroReadings.dek.toList,ciphertext,zeroReadings.nonce.toList⟩ 1 "b" 98 (by decide)
  have zero : (List.replicate 16 (0 : UInt8)).headD 0 = 0 := by rfl
  have zero' : zeroReadings.dek.toList.headD 0 = 0 := by rfl
  unfold hmacInputs
  rw [unwrapped_self]
  intro p inside q inside' same
  have edges := edgeDigest_injective same
  rcases inside with rfl | rfl | rfl | rfl <;> rcases inside' with rfl | rfl | rfl | rfl <;>
    simp only [wrap,first,second,zero,zero'] at edges <;>
    first | exact absurd edges (by decide) | rfl

end samples

section authenticity
variable {hmac : List UInt8 → List UInt8 → Vector UInt8 32} {kek : List UInt8}

/-- An envelope with the call that produced it. -/
structure Encryption (hmac : List UInt8 → List UInt8 → Vector UInt8 32) (kek : List UInt8) where
  plaintext : String
  kekId : String
  version : Int
  readings : EncryptReadings
  envelope : EnvelopeEncryptedSecret
  done : encrypt hmac plaintext kek kekId version readings = .ok envelope

/-- Without the keys, only bytes that were tagged under a key verify under it. -/
def Unforged (produced : List (Encryption hmac kek)) (envelope : EnvelopeEncryptedSecret) (o : Opened) : Prop :=
  Verifies hmac envelope o → ∃ c ∈ produced, ∃ q, openEnvelope hmac c.envelope kek = .ok q ∧ q.dek = o.dek ∧
    q.tagged c.envelope.version c.envelope.kekId = o.tagged envelope.version envelope.kekId

/-- The fields of an envelope are those of another one. -/
def SameFields (envelope other : EnvelopeEncryptedSecret) (o q : Opened) : Prop :=
  o.ciphertext = q.ciphertext ∧ o.nonce = q.nonce ∧ envelope.kekId = other.kekId ∧ envelope.version = other.version

theorem Encryption.opens (c : Encryption hmac kek) : ∃ ciphertext,
    xorKeystream hmac (utf8 c.plaintext) c.readings.dek.toList c.readings.nonce.toList "data" = .ok ciphertext ∧
    openEnvelope hmac c.envelope kek = .ok ⟨c.readings.dek.toList,ciphertext,c.readings.nonce.toList⟩ := by
  obtain ⟨ciphertext,stores⟩ := encrypt_stores c.done
  have opens := stores.opens kek c.envelope.version c.envelope.kekId
  rw [unwrapped_self] at opens
  exact ⟨ciphertext,stores.enciphered,opens⟩

theorem sameFields_iff {envelope other : EnvelopeEncryptedSecret} {o q : Opened} : SameFields envelope other o q ↔
    q.tagged other.version other.kekId = o.tagged envelope.version envelope.kekId ∧
      q.ciphertext.length = o.ciphertext.length ∧ q.nonce.length = o.nonce.length := by
  constructor
  · rintro ⟨ciphertexts,nonces,ids,versions⟩
    unfold Opened.tagged
    rw [ciphertexts,nonces,ids,versions]
    exact ⟨rfl,rfl,rfl⟩
  · rintro ⟨bytes,texts,starts⟩
    unfold Opened.tagged at bytes
    obtain ⟨front,data⟩ := List.append_inj bytes (by rw [List.length_append,List.length_append,texts,starts])
    obtain ⟨ciphertexts,nonces⟩ := List.append_inj front texts
    obtain ⟨versions,ids⟩ := associatedData_injective data
    exact ⟨ciphertexts.symm,nonces.symm,ids.symm,versions.symm⟩

/-- The envelope with its ciphertext moved in front of its nonce. -/
def movedCiphertext (envelope : EnvelopeEncryptedSecret) (ciphertext nonce : List UInt8) : EnvelopeEncryptedSecret :=
  { envelope with ciphertextB64 := ofAscii (b64encode []), nonceB64 := ofAscii (b64encode (ciphertext ++ nonce)) }

/-- Moving the ciphertext into the nonce makes the empty secret of any other one. -/
theorem movedCiphertext_accepted (c : Encryption hmac kek) : ∃ ciphertext,
    xorKeystream hmac (utf8 c.plaintext) c.readings.dek.toList c.readings.nonce.toList "data" = .ok ciphertext ∧
    openEnvelope hmac (movedCiphertext c.envelope ciphertext c.readings.nonce.toList) kek =
      .ok ⟨c.readings.dek.toList,[],ciphertext ++ c.readings.nonce.toList⟩ ∧
    decrypt hmac (movedCiphertext c.envelope ciphertext c.readings.nonce.toList) kek = .ok "" ∧
    Unforged [c] (movedCiphertext c.envelope ciphertext c.readings.nonce.toList)
      ⟨c.readings.dek.toList,[],ciphertext ++ c.readings.nonce.toList⟩ := by
  obtain ⟨ciphertext,stores⟩ := encrypt_stores c.done
  have own := stores.opens kek c.envelope.version c.envelope.kekId
  rw [unwrapped_self] at own
  have moved : openEnvelope hmac (movedCiphertext c.envelope ciphertext c.readings.nonce.toList) kek =
      .ok ⟨unwrapped hmac kek kek c.readings,[],ciphertext ++ c.readings.nonce.toList⟩ :=
    openEnvelope_wrapped (by simp [xorBytes_length]) kek [] (ciphertext ++ c.readings.nonce.toList) stores.wrappedDekB64
      rfl rfl
  rw [unwrapped_self] at moved
  have verifies : Verifies hmac (movedCiphertext c.envelope ciphertext c.readings.nonce.toList)
      ⟨c.readings.dek.toList,[],ciphertext ++ c.readings.nonce.toList⟩ := by
    have tag := stores.tagHex
    rw [← stores.version,← stores.kekId] at tag
    exact tag
  refine ⟨ciphertext,stores.enciphered,moved,?_,?_⟩
  · rw [decrypt_verified moved verifies]
    exact ⟨[],rfl,decodeUtf8_utf8 ""⟩
  · intro _
    exact ⟨c,List.mem_singleton_self c,_,own,rfl,rfl⟩

theorem secret_encrypted : ∃ c : Encryption edgeDigest (List.replicate 16 0), c.plaintext = "secret" := by
  have long : 16 ≤ (List.replicate 16 (0 : UInt8)).length := by decide
  have short : (utf8 "secret").length ≤ 2 ^ 37 := by decide
  obtain ⟨envelope,ok⟩ := encrypt_returns edgeDigest "a" 1 zeroReadings long short
  exact ⟨⟨"secret","a",1,zeroReadings,envelope,ok⟩,rfl⟩

end authenticity
end RevPilot.Security.EnvelopeEncryptionService
