import Nstu.Control.Pairing
import Nstu.Core.RoundTrip

/-!
# What a pairing transcript binds

The messages of `pairing.cpp` both ways, and the transcript that is made of them.  A transcript's encoding determines every
field of it, so two sides that derive from one encoding have seen one hello and one offer (**`pairing_binding`**).
-/

namespace Nstu.Control.Pairing

open Wire Reader List

def readPairingOffer : Reader PairingOffer := do
  let version : UInt16 ← readLe
  let rawAgreement : UInt16 ← readLe
  let serverPublicKey ← readBlob
  let serverNonce ← readBlock 32
  let left ← remaining
  require (left = 0)
  require (version ≠ 0)
  let agreement ← ofOption (KeyAgreement.ofRaw rawAgreement)
  require (validPublicKey serverPublicKey = true)
  require (allZero serverNonce.toList = false)
  pure ⟨version, agreement, serverPublicKey, serverNonce⟩

def decodePairingOffer (payload : Bytes) : Option PairingOffer :=
  if payload.length > kMaximumPairingMessageBytes then none
  else (readPairingOffer.run payload).map Prod.fst

/-! ## Blobs -/

/-- A length and as many bytes, as `append_le` and `append_bytes` write them. -/
def blob (text : Bytes) : Bytes := le (UInt16.ofNat text.length) ++ text

@[simp] lemma length_blob (text : Bytes) : (blob text).length = 2 + text.length := by simp [blob]

lemma run_bind_readBlob_iff {α : Type} {f : Bytes → Reader α} {s : Bytes} {q : α × Bytes} :
    (readBlob >>= f).run s = some q ↔
      ∃ text r, text.length < 65536 ∧ s = blob text ++ r ∧ (f text).run r = some q := by
  simp only [readBlob, bind_assoc, run_bind_readLe_iff, run_bind_readBytes_iff]
  constructor
  · rintro ⟨length, _, rfl, text, r, rfl, hl, hr⟩
    refine ⟨text, r, hl ▸ length.toNat_lt, ?_, hr⟩
    rw [blob, hl, UInt16.ofNat_toNat, append_assoc]
  · rintro ⟨text, r, hl, rfl, hr⟩
    exact ⟨_, _, by rw [blob, append_assoc], text, r, rfl, (toNat_ofNat_length hl).symm, hr⟩

lemma blob_append_inj {a b r r' : Bytes} (ha : a.length < 65536) (hb : b.length < 65536)
    (h : blob a ++ r = blob b ++ r') : a = b ∧ r = r' := by
  rw [blob, blob, append_assoc, append_assoc] at h
  obtain ⟨hl, h⟩ := append_inj h (by simp)
  refine append_inj h ?_
  rw [← toNat_ofNat_length ha, le_injective hl, toNat_ofNat_length hb]

lemma ofRaw_iff {value : UInt16} {agreement : KeyAgreement} :
    KeyAgreement.ofRaw value = some agreement ↔ value = agreement.raw := by
  constructor
  · intro h
    have hr := find?_some h
    exact (beq_iff_eq.mp hr).symm
  · rintro rfl
    cases agreement <;> rfl

lemma raw_injective : Function.Injective KeyAgreement.raw := fun _ _ h =>
  Option.some.inj ((ofRaw_iff.mpr rfl).symm.trans (ofRaw_iff.mpr h))

lemma length_of_validIdentity {value : Bytes} (h : validIdentity value) : value.length ≤ 128 := by
  simp only [validIdentity, Bool.and_eq_true] at h
  exact of_decide_eq_true h.1.2

lemma length_of_validPublicKey {key : Bytes} (h : validPublicKey key) : key.length ≤ 256 := by
  simp only [validPublicKey, Bool.and_eq_true] at h
  exact of_decide_eq_true h.2

/-! ## Messages -/

lemma encodePairingHello_eq (hello : PairingHello) : encodePairingHello hello =
    if validIdentity hello.clientUuid ∧ validIdentity hello.clientHostname ∧
        validPublicKey hello.clientPublicKey ∧ hello.version ≠ 0 ∧ allZero hello.clientNonce.toList = false then
      le hello.version ++ (le hello.agreement.raw ++ (blob hello.clientUuid ++ (blob hello.clientHostname ++
        (blob hello.clientPublicKey ++ hello.clientNonce.toList)))) else [] := by
  simp only [encodePairingHello]
  split_ifs <;> simp_all [blob]

lemma encodePairingOffer_eq (offer : PairingOffer) : encodePairingOffer offer =
    if validPublicKey offer.serverPublicKey ∧ offer.version ≠ 0 ∧ allZero offer.serverNonce.toList = false then
      le offer.version ++ (le offer.agreement.raw ++ (blob offer.serverPublicKey ++ offer.serverNonce.toList)) else [] := by
  simp only [encodePairingOffer]
  split_ifs <;> simp_all [blob]

lemma decodePairingHello_iff (payload : Bytes) (hello : PairingHello) : decodePairingHello payload = some hello ↔
    encodePairingHello hello ≠ [] ∧ payload = encodePairingHello hello := by
  simp only [decodePairingHello, run_unless_iff, readPairingHello, run_bind_readLe_iff, run_bind_require_iff,
    run_bind_readBlock_iff, run_bind_readBlob_iff, run_bind_remaining_iff, run_bind_ofOption_iff, run_pure_iff,
    length_eq_zero_iff, ofRaw_iff, encodePairingHello_eq]
  constructor
  · rintro ⟨-, _, _, _, rfl, _, _, rfl, _, _, -, rfl, _, _, -, rfl, _, _, -, rfl, _, _, rfl, rfl, hvers, _, rfl,
      huuid, hhost, hkey, hnonce, rfl, -⟩
    simp [huuid, hhost, hkey, hvers, hnonce, le, leBytes]
  · rintro ⟨hne, rfl⟩
    split_ifs at hne ⊢ with hvalid
    · obtain ⟨huuid, hhost, hkey, hvers, hnonce⟩ := hvalid
      have huuidL := length_of_validIdentity huuid
      have hhostn := length_of_validIdentity hhost
      have hkeyLe := length_of_validPublicKey hkey
      refine ⟨?_, [], _, _, rfl, _, _, rfl, _, _, by omega, rfl, _, _, by omega, rfl, _, _, by omega, rfl,
        _, _, (append_nil _).symm, rfl, hvers, _, rfl, huuid, hhost, hkey, hnonce, rfl, rfl⟩
      simp only [kMaximumPairingMessageBytes, length_append, le_length, length_blob, Block.length_toList, size_uint16]
      omega
    · exact absurd rfl hne

lemma decodePairingOffer_iff (payload : Bytes) (offer : PairingOffer) : decodePairingOffer payload = some offer ↔
    encodePairingOffer offer ≠ [] ∧ payload = encodePairingOffer offer := by
  simp only [decodePairingOffer, run_unless_iff, readPairingOffer, run_bind_readLe_iff, run_bind_require_iff,
    run_bind_readBlock_iff, run_bind_readBlob_iff, run_bind_remaining_iff, run_bind_ofOption_iff, run_pure_iff,
    length_eq_zero_iff, ofRaw_iff, encodePairingOffer_eq]
  constructor
  · rintro ⟨-, _, _, _, rfl, _, _, rfl, _, _, -, rfl, _, _, rfl, rfl, hv, _, rfl, hk, hn, rfl, -⟩
    simp [hk, hv, hn, le, leBytes]
  · rintro ⟨hne, rfl⟩
    split_ifs at hne ⊢ with hva
    · obtain ⟨hk, hv, hn⟩ := hva
      have hke := length_of_validPublicKey hk
      refine ⟨?_, [], _, _, rfl, _, _, rfl, _, _, by omega, rfl, _, _, (append_nil _).symm, rfl, hv, _, rfl, hk,
        hn, rfl, rfl⟩
      simp only [kMaximumPairingMessageBytes, length_append, le_length, length_blob, Block.length_toList, size_uint16]
      omega
    · exact absurd rfl hne

/-! ## Transcripts -/

lemma encodeTranscript_inj {a b : PairingTranscript} {encoded : Bytes} (ha : encodeTranscript a = some encoded)
    (hb : encodeTranscript b = some encoded) : a = b := by
  simp only [encodeTranscript, flatten_cons, flatten_nil, append_nil] at ha hb
  split_ifs at ha hb with hvali hvalid
  simp only [validTranscript, Bool.not_eq_true', Bool.not_eq_false, Bool.and_eq_true] at hvali hvalid
  obtain ⟨⟨⟨⟨⟨⟨-, huuidA⟩, hhost⟩, hclie⟩, hserv⟩, -⟩, -⟩ := hvali
  obtain ⟨⟨⟨⟨⟨⟨-, huuidB⟩, hhostn⟩, hclien⟩, hserve⟩, -⟩, -⟩ := hvalid
  have hiden {value : Bytes} (h : validIdentity value) : value.length < 65536 :=
    (length_of_validIdentity h).trans_lt (by decide)
  have hkey {key : Bytes} (h : validPublicKey key) : key.length < 65536 :=
    (length_of_validPublicKey h).trans_lt (by decide)
  have h := (Option.some.inj ha).trans (Option.some.inj hb).symm
  have hblob : ∀ text rest : Bytes, le (UInt16.ofNat text.length) ++ (text ++ rest) = blob text ++ rest := by simp [blob]
  simp only [append_cancel_left_eq, hblob] at h
  obtain ⟨hvers, h⟩ := append_inj h (by simp)
  obtain ⟨hagre, h⟩ := append_inj h (by simp)
  obtain ⟨huuid, h⟩ := blob_append_inj (hiden huuidA) (hiden huuidB) h
  obtain ⟨hhostna, h⟩ := blob_append_inj (hiden hhost) (hiden hhostn) h
  obtain ⟨hclient, h⟩ := blob_append_inj (hkey hclie) (hkey hclien) h
  obtain ⟨hserver, h⟩ := blob_append_inj (hkey hserv) (hkey hserve) h
  obtain ⟨hclientN, hserverN⟩ := append_inj h (by simp)
  obtain ⟨version, agreement, uuid, hostname, clientKey, serverKey, clientNonce, serverNonce⟩ := a
  obtain rfl := le_injective hvers
  obtain rfl := raw_injective (le_injective hagre)
  obtain rfl := Block.toList_injective hclientN
  obtain rfl := Block.toList_injective hserverN
  obtain rfl := huuid
  obtain rfl := hhostna
  obtain rfl := hclient
  obtain rfl := hserver
  rfl

/-- What two sides have seen of a pairing. -/
def SameView (hello hello' : PairingHello) (offer offer' : PairingOffer) : Prop := hello = hello' ∧ offer = offer'

lemma sameView_iff {hello hello' : PairingHello} {offer offer' : PairingOffer} {transcript transcript' : PairingTranscript}
    (h : makeTranscript hello offer = some transcript) (h' : makeTranscript hello' offer' = some transcript') :
    transcript = transcript' ↔ SameView hello hello' offer offer' := by
  obtain ⟨version, agreement, uuid, hostname, key, nonce⟩ := hello
  obtain ⟨version', agreement', uuid', hostname', key', nonce'⟩ := hello'
  obtain ⟨offered, offeredAgreement, serverKey, serverNonce⟩ := offer
  obtain ⟨offered', offeredAgreement', serverKey', serverNonce'⟩ := offer'
  simp only [makeTranscript] at h h'
  split_ifs at h h'
  grind [SameView]

/-- **The binding of pairing transcripts.**  Both messages round trip and the transcript's encoding is injective.  Where each
side makes a transcript of a hello and an offer, what is hashed to the salt of the secrets, that salt (unless the two texts
collide) and what the tags of a role are computed of are equal on both sides exactly where hellos and offers are. -/
theorem pairing_binding : RoundTrips (encodePairingHello · ≠ []) encodePairingHello decodePairingHello ∧
    RoundTrips (encodePairingOffer · ≠ []) encodePairingOffer decodePairingOffer ∧
    (∀ a b encoded, encodeTranscript a = some encoded → encodeTranscript b = some encoded → a = b) ∧
    ∀ hello hello' offer offer' transcript transcript', makeTranscript hello offer = some transcript →
      makeTranscript hello' offer' = some transcript' → ∃ encoded encoded', encodeTranscript transcript = some encoded ∧
      encodeTranscript transcript' = some encoded' ∧ (encoded = encoded' ↔ SameView hello hello' offer offer') ∧
      (∀ sha256 : Bytes → Digest, (sha256 encoded = sha256 encoded' → encoded = encoded') →
        (sha256 encoded = sha256 encoded' ↔ SameView hello hello' offer offer')) ∧
      ∀ role : ConfirmationRole, (labelBytes role.label ++ encoded = labelBytes role.label ++ encoded' ↔
        SameView hello hello' offer offer') := by
  refine ⟨roundTrips_of_iff decodePairingHello_iff rfl, roundTrips_of_iff decodePairingOffer_iff rfl,
    fun a b encoded ha hb => encodeTranscript_inj ha hb, fun hello hello' offer offer' transcript transcript' h h' => ?_⟩
  have hencoded {hello offer transcript} (h : makeTranscript hello offer = some transcript) :
      ∃ encoded, encodeTranscript transcript = some encoded := by
    simp only [makeTranscript] at h
    split_ifs at h with hsame hvalid
    obtain rfl := Option.some.inj h
    exact ⟨_, by rw [encodeTranscript, hvalid]; rfl⟩
  obtain ⟨encoded, hencode⟩ := hencoded h
  obtain ⟨encoded', hencode'⟩ := hencoded h'
  have hsame : encoded = encoded' ↔ SameView hello hello' offer offer' := by
    rw [← sameView_iff h h']
    constructor
    · rintro rfl
      exact encodeTranscript_inj hencode hencode'
    · rintro rfl
      exact Option.some.inj (hencode.symm.trans hencode')
  exact ⟨encoded, encoded', hencode, hencode', hsame, fun sha256 hfree => ⟨fun h => hsame.mp (hfree h), fun h => congrArg sha256 (hsame.mpr h)⟩,
    fun role => by rw [List.append_cancel_left_eq, hsame]⟩

/-- The hello of a client. -/
def offeredHello : PairingHello :=
  ⟨1, .x25519, labelBytes "u", labelBytes "h", (Block.fill 32 3).toList, Block.fill 32 4⟩

/-- What the server offers it. -/
def madeOffer : PairingOffer := ⟨1, .x25519, (Block.fill 32 5).toList, Block.fill 32 6⟩

/-- The same with the key of someone in between. -/
def replacedOffer : PairingOffer := { madeOffer with serverPublicKey := (Block.fill 32 7).toList }

/-- SHA-256 on the transcripts of both. -/
def offersSha256 (message : Bytes) : Digest :=
  if (makeTranscript offeredHello replacedOffer).bind encodeTranscript = some message then
    ⟨leBytes 32 0xa8f4c2a50b24a93ccffcf8f5772698e762ead33e5aed9c303a821145a0568f0d, leBytes_length _ _⟩
  else ⟨leBytes 32 0xb3f29c35ca74f9601ff376e46473ee935307dbc0720e260dc116c24696438e56, leBytes_length _ _⟩

/-- An offer with another key gives another salt. -/
theorem pairing_binding_replaced : ∃ transcript transcript' encoded encoded',
    makeTranscript offeredHello madeOffer = some transcript ∧
      makeTranscript offeredHello replacedOffer = some transcript' ∧ encodeTranscript transcript = some encoded ∧
      encodeTranscript transcript' = some encoded' ∧ offersSha256 encoded ≠ offersSha256 encoded' := by
  have hmade : (makeTranscript offeredHello madeOffer).isSome := by decide
  have hreplaced : (makeTranscript offeredHello replacedOffer).isSome := by decide
  obtain ⟨transcript, hmade⟩ := Option.isSome_iff_exists.mp hmade
  obtain ⟨transcript', hreplaced⟩ := Option.isSome_iff_exists.mp hreplaced
  obtain ⟨encoded, encoded', hencode, hencode', hsame, hsalt, -⟩ :=
    pairing_binding.2.2.2 _ _ _ _ transcript transcript' hmade hreplaced
  have hviews : ¬ SameView offeredHello offeredHello madeOffer replacedOffer := by
    rintro ⟨-, hoffer⟩
    exact absurd hoffer (by decide)
  have hdigest : offersSha256 encoded ≠ offersSha256 encoded' := by
    have htext : (makeTranscript offeredHello replacedOffer).bind encodeTranscript = some encoded' := by
      rw [hreplaced, Option.bind_some, hencode']
    have hother : (makeTranscript offeredHello replacedOffer).bind encodeTranscript ≠ some encoded := by
      rw [htext, ne_eq, Option.some.injEq]
      exact fun heq => hviews (hsame.mp heq.symm)
    rw [offersSha256, offersSha256, if_neg hother, if_pos htext]
    decide
  exact ⟨transcript, transcript', encoded, encoded', hmade, hreplaced, hencode, hencode',
    fun heq => hviews ((hsalt offersSha256 (absurd · hdigest)).mp heq)⟩

end Nstu.Control.Pairing
