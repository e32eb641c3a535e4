import HamLogger.Core.BundleHash
import HamLogger.Core.ContestCatalog
import HamLogger.Core.ContestSerde
import HamLogger.Sync.LanExposure

/-! Signed packs of contest definitions. The signature is checked over the
pack as it was understood, written again, and not over the bytes received. -/
namespace HamLogger

/-- `serde_json::from_str` up to the derived code: the document of a text, and
the message where a text is not read as the expected type. -/
class PackJson where
  parse : String → Option Value
  errorText : String → String

/-- The errors of loading a signed pack: those of a pack that is not signed,
and those of its signature. -/
inductive SignedPackError where
  | schema (error : ContestSchemaError)
  | signatureRequired
  | unknownSigningKey (keyId : String)
  | signatureInvalid
  | digestMismatch
  deriving DecidableEq

inductive PackSignatureAlgorithm where
  | hmacSha256
  deriving DecidableEq

structure ContestPackSignature where
  keyId : String
  algorithm : PackSignatureAlgorithm
  digest : String
  signature : String
  deriving DecidableEq

structure ContestPackEnvelope where
  pack : ContestDefinitionPack
  signature : Option ContestPackSignature := none
  deriving DecidableEq

structure ContestPackTrustStore where
  keys : KeyMap String (List UInt8) := ∅
  allowUnsigned : Bool := false

namespace ContestSerde

def decodeAlgorithm : Value → Option PackSignatureAlgorithm :=
  decodeEnum [("hmac_sha256", .hmacSha256)]

def encodeAlgorithm : PackSignatureAlgorithm → Value
  | .hmacSha256 => .string "hmac_sha256"

def decodeSignature (value : Value) : Option ContestPackSignature := do
  let members ← structFields ["key_id", "algorithm", "digest", "signature"] value
  return { keyId := ← required decodeString members "key_id"
           algorithm := ← required decodeAlgorithm members "algorithm"
           digest := ← required decodeString members "digest"
           signature := ← required decodeString members "signature" }

def encodeSignature (signature : ContestPackSignature) : Value :=
  .object [("key_id", .string signature.keyId), ("algorithm", encodeAlgorithm signature.algorithm),
    ("digest", .string signature.digest), ("signature", .string signature.signature)]

theorem decodeSignature_encodeSignature (signature : ContestPackSignature) :
    decodeSignature (encodeSignature signature) = some signature := by
  have hAlgorithm (algorithm : PackSignatureAlgorithm) :
      decodeAlgorithm (encodeAlgorithm algorithm) = some algorithm := by
    cases algorithm
    rfl
  refine Eq.trans (bind_structFields (by rfl) (by decide) _) ?_
  simp [required_ne, hAlgorithm]

section Envelope
variable [ChronoSerde]

def decodeEnvelope (value : Value) : Option ContestPackEnvelope := do
  let members ← structFields ["pack", "signature"] value
  return { pack := ← required decodePack members "pack"
           signature := ← withDefault none (decodeOption decodeSignature) members "signature" }

def encodeEnvelope (envelope : ContestPackEnvelope) : Value :=
  .object [("pack", encodePack envelope.pack),
    ("signature", encodeOption encodeSignature envelope.signature)]

theorem decodeEnvelope_encodeEnvelope {envelope : ContestPackEnvelope}
    (h : ∀ time ∈ times envelope.pack, TimeReadsBack time) :
    decodeEnvelope (encodeEnvelope envelope) = some envelope := by
  have hSignature : decodeOption decodeSignature (encodeOption encodeSignature envelope.signature) =
      some envelope.signature := by
    cases envelope.signature with
    | none => rfl
    | some signature =>
        change (decodeSignature (encodeSignature signature)).map some = _
        rw [decodeSignature_encodeSignature]
        rfl
  refine Eq.trans (bind_structFields (by rfl) (by decide) _) ?_
  simp [withDefault_ne, decodePack_encodePack h, hSignature]

end Envelope
end ContestSerde

/-! ### Signatures -/

namespace ContestPackSignature
open BundleBytes (asBytes asBytes_injective bytesToHex_injective)

def constantTimeEq (left right : List UInt8) : Bool :=
  if left.length ≠ right.length then false
  else (left.zip right).foldl (fun accumulator pair => accumulator ||| (pair.1 ^^^ pair.2)) 0 = 0

theorem foldl_or_eq_zero_iff (pairs : List (UInt8 × UInt8)) (accumulator : UInt8) :
    pairs.foldl (fun accumulator pair => accumulator ||| (pair.1 ^^^ pair.2)) accumulator = 0 ↔
      accumulator = 0 ∧ ∀ pair ∈ pairs, pair.1 = pair.2 := by
  induction pairs generalizing accumulator with
  | nil => simp
  | cons pair rest ih =>
      rw [List.foldl_cons, ih, UInt8.or_eq_zero_iff, UInt8.xor_eq_zero_iff, List.forall_mem_cons,
        and_assoc]

/-- Texts of one length are equal when no place differs. -/
theorem constantTimeEq_iff (left right : List UInt8) :
    constantTimeEq left right = true ↔ left = right := by
  unfold constantTimeEq
  by_cases hLength : left.length = right.length
  · rw [if_neg (not_not_intro hLength), decide_eq_true_iff, foldl_or_eq_zero_iff]
    constructor
    · rintro ⟨_, hPairs⟩
      refine List.ext_getElem hLength fun index hLeft hRight => ?_
      exact hPairs (left[index], right[index])
        (List.mem_iff_getElem.mpr ⟨index, by simp [hLeft, hRight], List.getElem_zip⟩)
    · rintro rfl
      refine ⟨rfl, fun pair hMem => ?_⟩
      obtain ⟨index, hIndex, rfl⟩ := List.mem_iff_getElem.mp hMem
      rw [List.getElem_zip]
  · rw [if_pos hLength]
    refine ⟨fun h => absurd h Bool.false_ne_true, fun h => absurd (congrArg List.length h) hLength⟩

section Signing
variable [ChronoSerde] [Sha2Crate] [HmacCrate]

/-- The compact JSON text of a pack. -/
def canonicalBytes (pack : ContestDefinitionPack) : List UInt8 :=
  Crates.toBytes (Crates.writeValue (ContestSerde.encodePack pack))

def digestOf (canonical : List UInt8) : String :=
  bytesToHex (Sha2Crate.digest canonical)

def signCanonicalBytes (secret canonical : List UInt8) : String :=
  bytesToHex (HmacCrate.mac secret canonical)

def signDefinitionPack (pack : ContestDefinitionPack) (keyId : String) (secret : List UInt8) :
    ContestPackSignature where
  keyId := keyId
  algorithm := .hmacSha256
  digest := digestOf (canonicalBytes pack)
  signature := signCanonicalBytes secret (canonicalBytes pack)

def verify (trust : ContestPackTrustStore) (pack : ContestDefinitionPack)
    (signature : Option ContestPackSignature) : Except SignedPackError Unit :=
  match signature with
  | none => if trust.allowUnsigned then .ok () else .error .signatureRequired
  | some signature =>
      match trust.keys.lookup signature.keyId with
      | none => .error (.unknownSigningKey signature.keyId)
      | some secret =>
          if constantTimeEq (asBytes (digestOf (canonicalBytes pack)))
              (asBytes signature.digest) = false then .error .digestMismatch
          else if constantTimeEq (asBytes (signCanonicalBytes secret (canonicalBytes pack)))
              (asBytes signature.signature) = false then .error .signatureInvalid
          else .ok ()

def loadSignedDefinitionPack [PackJson] (json : String) (trust : ContestPackTrustStore) :
    Except SignedPackError ContestDefinitionPack :=
  match (PackJson.parse json).bind ContestSerde.decodeEnvelope with
  | none => .error (.schema (.invalidJson (PackJson.errorText json)))
  | some envelope =>
      match verify trust envelope.pack envelope.signature with
      | .error error => .error error
      | .ok () =>
          match envelope.pack.validate with
          | .error error => .error (.schema error)
          | .ok () => .ok envelope.pack

/-- A signature passes exactly when its key is known and it is, up to the
algorithm, the one that this key makes for the pack. -/
theorem verify_some_iff (trust : ContestPackTrustStore) (pack : ContestDefinitionPack)
    (signature : ContestPackSignature) :
    verify trust pack (some signature) = .ok () ↔
      ∃ secret, trust.keys.lookup signature.keyId = some secret ∧
        signature.digest = digestOf (canonicalBytes pack) ∧
        signature.signature = signCanonicalBytes secret (canonicalBytes pack) := by
  have hText (left right : String) :
      constantTimeEq (asBytes left) (asBytes right) = true ↔ right = left := by
    rw [constantTimeEq_iff, asBytes_injective.eq_iff]
    exact eq_comm
  cases hKey : trust.keys.lookup signature.keyId with
  | none => simp [verify, hKey]
  | some secret =>
      have hVerify : verify trust pack (some signature) =
          if constantTimeEq (asBytes (digestOf (canonicalBytes pack)))
              (asBytes signature.digest) = false then .error .digestMismatch
          else if constantTimeEq (asBytes (signCanonicalBytes secret (canonicalBytes pack)))
              (asBytes signature.signature) = false then .error .signatureInvalid
          else .ok () := by
        simp only [verify, hKey]
      rw [hVerify]
      by_cases hDigest : signature.digest = digestOf (canonicalBytes pack)
      · rw [if_neg (by rw [(hText _ _).mpr hDigest]; exact Bool.noConfusion)]
        by_cases hTag : signature.signature = signCanonicalBytes secret (canonicalBytes pack)
        · rw [if_neg (by rw [(hText _ _).mpr hTag]; exact Bool.noConfusion)]
          simp [hDigest, hTag]
        · rw [if_pos (Bool.eq_false_iff.mpr fun h => hTag ((hText _ _).mp h))]
          simp [hTag]
      · rw [if_pos (Bool.eq_false_iff.mpr fun h => hDigest ((hText _ _).mp h))]
        simp [hDigest]

section Loading
variable [PackJson]

/-- What is known of a pack that was loaded with its signature. -/
structure SignedUnder (trust : ContestPackTrustStore) (json : String)
    (pack : ContestDefinitionPack) (signature : ContestPackSignature) (secret : List UInt8) :
    Prop where
  document : (PackJson.parse json).bind ContestSerde.decodeEnvelope = some ⟨pack, some signature⟩
  trusted : trust.keys.lookup signature.keyId = some secret
  valid : pack.validate = .ok ()
  tag : signature.signature = signCanonicalBytes secret (canonicalBytes pack)
  /-- Bytes that were signed with this result are the pack's canonical bytes,
  unless the code under the key collides on the two. -/
  signed : ∀ bytes, signCanonicalBytes secret bytes = signature.signature →
    (HmacCrate.mac secret bytes = HmacCrate.mac secret (canonicalBytes pack) →
      bytes = canonicalBytes pack) → bytes = canonicalBytes pack

/-- The document of a valid pack with the signature of a trusted key is
loaded as the pack. -/
theorem load_of_signed {trust : ContestPackTrustStore} {pack : ContestDefinitionPack}
    {keyId : String} {secret : List UInt8} {json : String} (hValid : pack.validate = .ok ())
    (hKey : trust.keys.lookup keyId = some secret)
    (hTimes : ∀ time ∈ ContestSerde.times pack, ContestSerde.TimeReadsBack time)
    (hJson : PackJson.parse json = some
      (ContestSerde.encodeEnvelope ⟨pack, some (signDefinitionPack pack keyId secret)⟩)) :
    loadSignedDefinitionPack json trust = .ok pack := by
  have hVerify : verify trust pack (some (signDefinitionPack pack keyId secret)) = .ok () :=
    (verify_some_iff _ _ _).mpr ⟨secret, hKey, rfl, rfl⟩
  unfold loadSignedDefinitionPack
  rw [hJson, Option.bind_some, ContestSerde.decodeEnvelope_encodeEnvelope hTimes]
  dsimp only
  rw [hVerify, hValid]

theorem signed_of_load {trust : ContestPackTrustStore} {json : String}
    {pack : ContestDefinitionPack} (hTrust : trust.allowUnsigned = false)
    (h : loadSignedDefinitionPack json trust = .ok pack) :
    ∃ signature secret, SignedUnder trust json pack signature secret := by
  unfold loadSignedDefinitionPack at h
  cases hParsed : (PackJson.parse json).bind ContestSerde.decodeEnvelope with
  | none =>
      rw [hParsed] at h
      cases h
  | some envelope =>
      rw [hParsed] at h
      obtain ⟨found, signature⟩ := envelope
      dsimp only at h
      cases hVerify : verify trust found signature with
      | error error =>
          rw [hVerify] at h
          cases h
      | ok done =>
          rw [hVerify] at h
          dsimp only at h
          cases hValid : found.validate with
          | error error =>
              rw [hValid] at h
              cases h
          | ok checked =>
              rw [hValid] at h
              obtain rfl := Except.ok.inj h
              cases signature with
              | none =>
                  unfold verify at hVerify
                  rw [hTrust] at hVerify
                  cases hVerify
              | some signature =>
                  obtain ⟨secret, hKey, _, hTag⟩ := (verify_some_iff _ _ _).mp hVerify
                  refine ⟨signature, secret, hParsed, hKey, hValid, hTag, ?_⟩
                  intro bytes hBytes hCollision
                  exact hCollision (bytesToHex_injective (hBytes.trans hTag))

/-- A valid pack signed under a trusted key is loaded as it is; and a pack
that is loaded where unsigned packs are not allowed has the canonical bytes
that were signed under the trusted key its document names. -/
theorem signed_packs_load_as_signed (trust : ContestPackTrustStore) :
    (∀ pack keyId secret json, pack.validate = .ok () → trust.keys.lookup keyId = some secret →
      (∀ time ∈ ContestSerde.times pack, ContestSerde.TimeReadsBack time) →
      PackJson.parse json = some
        (ContestSerde.encodeEnvelope ⟨pack, some (signDefinitionPack pack keyId secret)⟩) →
      loadSignedDefinitionPack json trust = .ok pack) ∧
    (trust.allowUnsigned = false → ∀ json pack, loadSignedDefinitionPack json trust = .ok pack →
      ∃ signature secret, SignedUnder trust json pack signature secret) :=
  ⟨fun _ _ _ _ hValid hKey hTimes hJson => load_of_signed hValid hKey hTimes hJson,
    fun hTrust _ _ h => signed_of_load hTrust h⟩

end Loading
end Signing
end ContestPackSignature

namespace Crates
open ContestDefinitionCatalog (samplePack)
open ContestPackSignature

scoped instance chronoSerde : ChronoSerde where
  serialize := displayInstant
  deserialize := parseInstant

/-- A trusted key, and the document of a pack signed under it. -/
def clubTrust : ContestPackTrustStore where
  keys := AList.insert "club" [107, 101, 121] ∅

def signedDocument : Value :=
  ContestSerde.encodeEnvelope
    ⟨samplePack "p" 1, some (signDefinitionPack (samplePack "p" 1) "club" [107, 101, 121])⟩

def signedText : String := String.ofList (writeValue signedDocument)

/-- A reader that knows the text of this document. -/
@[reducible] def signedTextReader : PackJson where
  parse text := if text = signedText then some signedDocument else none
  errorText _ := "expected value at line 1 column 1"

theorem signed_sample_loads_as_signed :
    @loadSignedDefinitionPack _ _ _ signedTextReader signedText clubTrust =
        .ok (samplePack "p" 1) ∧
      ∃ signature secret, @SignedUnder _ _ signedTextReader clubTrust signedText
        (samplePack "p" 1) signature secret := by
  have hBoth := @signed_packs_load_as_signed _ _ _ signedTextReader clubTrust
  have hLoaded := hBoth.1 (samplePack "p" 1) "club" [107, 101, 121] signedText
    (by decide +kernel) (by decide +kernel)
    (by unfold ContestSerde.TimeReadsBack; decide +kernel) (if_pos rfl)
  exact ⟨hLoaded, hBoth.2 rfl signedText _ hLoaded⟩

end Crates
end HamLogger
