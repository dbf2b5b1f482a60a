import Nstu.Core.Mac
import Nstu.Core.RoundTrip
import Nstu.Exam.Control

/-!
# What an instructor's ticket binds

The wire form of the ticket in `exam_auth.cpp` and its canonical transcript.  Both determine the ticket, the transcript
all of it but the signature; so the exam that a ticket admits is one that was signed
(**`instructorTicket_binding`**).
-/

namespace Nstu

open Wire Reader Control List

def kTicketFixedHeaderBytes : ℕ := 110
def kMaximumTicketPayloadBytes : ℕ := 4096

def encodeInstructorTicket (ticket : InstructorAuthorizationTicket) : Bytes :=
  if !validateTicket ticket then []
  else
    let output := [le (0x5449434B : UInt32), le (1 : UInt16), le (0 : UInt16), le ticket.validFromMs,
      le ticket.validUntilMs, ticket.packageDigest.toList, ticket.sessionId.toList, ticket.instructorSignature.toList,
      le (UInt16.ofNat ticket.instructorId.length), le (UInt16.ofNat ticket.packageId.length),
      le (UInt16.ofNat ticket.candidateId.length), ticket.instructorId, ticket.packageId, ticket.candidateId].flatten
    if output.length > kMaximumTicketPayloadBytes then [] else output

def readInstructorTicket : Reader InstructorAuthorizationTicket := do
  let magic : UInt32 ← readLe
  let version : UInt16 ← readLe
  let reserved : UInt16 ← readLe
  require (magic = 0x5449434B ∧ version = 1 ∧ reserved = 0)
  let validFromMs : UInt64 ← readLe
  let validUntilMs : UInt64 ← readLe
  let packageDigest ← readBlock 32
  let sessionId ← readBlock 16
  let instructorSignature ← readBlock 32
  let instructorLen : UInt16 ← readLe
  let packageLen : UInt16 ← readLe
  let candidateLen : UInt16 ← readLe
  let left ← remaining
  require (instructorLen.toNat + packageLen.toNat + candidateLen.toNat = left)
  let instructorId ← readBytes instructorLen.toNat
  let packageId ← readBytes packageLen.toNat
  let candidateId ← readBytes candidateLen.toNat
  let ticket : InstructorAuthorizationTicket := ⟨instructorId, packageId, packageDigest, sessionId, candidateId,
    validFromMs, validUntilMs, instructorSignature⟩
  require (validateTicket ticket = true)
  pure ticket

def decodeInstructorTicket (wire : Bytes) : Option InstructorAuthorizationTicket :=
  if wire.length < kTicketFixedHeaderBytes ∨ wire.length > kMaximumTicketPayloadBytes then none
  else (readInstructorTicket.run wire).map Prod.fst

variable {ticket other : InstructorAuthorizationTicket}

lemma lengths_of_validateTicket (h : validateTicket ticket) : ticket.instructorId.length ≤ 128 ∧
    ticket.packageId.length ≤ 128 ∧ ticket.candidateId.length ≤ 128 := by
  simp only [validateTicket, validTicketText, Bool.and_eq_true, Bool.or_eq_true, decide_eq_true_eq,
    kMaximumInstructorIdBytes, kMaximumPackageIdBytes, kMaximumCandidateIdBytes, List.isEmpty_iff] at h
  obtain ⟨⟨⟨⟨⟨⟨⟨-, hi, -⟩, -⟩, hp, -⟩, hc⟩, -⟩, -⟩, -⟩ := h
  refine ⟨of_decide_eq_true hi, of_decide_eq_true hp, ?_⟩
  rcases hc with he | ⟨hl, -⟩
  · simp [he]
  · exact of_decide_eq_true hl

lemma decodeInstructorTicket_iff (wire : Bytes) (ticket : InstructorAuthorizationTicket) :
    decodeInstructorTicket wire = some ticket ↔ validateTicket ticket ∧ wire = encodeInstructorTicket ticket := by
  simp only [decodeInstructorTicket, encodeInstructorTicket, gt_iff_lt, run_unless_iff, not_or, not_lt, readInstructorTicket,
    run_bind_readLe_iff, run_bind_require_iff, run_bind_readBlock_iff, run_bind_readBytes_iff, run_bind_remaining_iff,
    run_pure_iff, flatten_cons, flatten_nil]
  constructor
  · rintro ⟨⟨-, hs⟩, _, _, _, rfl, _, _, rfl, _, _, rfl, ⟨rfl, rfl, rfl⟩, _, _, rfl, _, _, rfl, _, _, rfl, _, _, rfl,
      _, _, rfl, _, _, rfl, _, _, rfl, _, _, rfl, hl, _, _, rfl, hi, _, _, rfl, hp, _, tail, rfl,
      hc, hv, rfl, -⟩
    simp only [length_append] at hl
    obtain rfl : tail = [] := eq_nil_of_length_eq_zero (by omega)
    refine ⟨hv, ?_⟩
    simp only [hv, Bool.not_true, Bool.false_eq_true, if_false, hi, hp, hc, UInt16.ofNat_toNat]
    rw [if_neg hs.not_gt]
  · rintro ⟨hv, rfl⟩
    obtain ⟨hi, hp, hc⟩ := lengths_of_validateTicket hv
    have hw {text : Bytes} (h : text.length ≤ 128) : (UInt16.ofNat text.length).toNat = text.length :=
      toNat_ofNat_length (by omega)
    simp only [hv, Bool.not_true, Bool.false_eq_true, if_false]
    rw [if_neg]
    · refine ⟨?_, [], _, _, rfl, _, _, rfl, _, _, rfl, ⟨rfl, rfl, rfl⟩, _, _, rfl, _, _, rfl, _, _, rfl, _, _, rfl,
        _, _, rfl, _, _, rfl, _, _, rfl, _, _, rfl, by simp [hw hi, hw hp, hw hc, add_assoc],
        _, _, rfl, (hw hi).symm, _, _, rfl, (hw hp).symm, _, _, rfl, (hw hc).symm,
        hv, rfl, rfl⟩
      simp only [kTicketFixedHeaderBytes, kMaximumTicketPayloadBytes, length_append, length_nil, le_length,
        Block.length_toList, size_uint64, size_uint32, size_uint16]
      omega
    · simp only [kMaximumTicketPayloadBytes, length_append, length_nil, le_length, Block.length_toList,
        size_uint64, size_uint32, size_uint16]
      omega

/-- **A transcript determines the ticket but for the signature**, even where only one of the two is well formed: the
lengths of the other cannot have wrapped. -/
lemma transcript_inj (hvalid : validateTicket ticket)
    (h : computeTicketCanonicalTranscript other = computeTicketCanonicalTranscript ticket) :
    { other with instructorSignature := ticket.instructorSignature } = ticket := by
  obtain ⟨hinst, hpack, hcand⟩ := lengths_of_validateTicket hvalid
  have hleng := congrArg length h
  obtain ⟨instructorId, packageId, packageDigest, sessionId, candidateId, validFromMs, validUntilMs, signature⟩ := ticket
  obtain ⟨instructorId', packageId', packageDigest', sessionId', candidateId', validFromMs', validUntilMs', _⟩ := other
  simp only [computeTicketCanonicalTranscript, flatten_cons, flatten_nil, append_nil,
    append_cancel_left_eq] at h
  simp only [computeTicketCanonicalTranscript, flatten_cons, flatten_nil, append_nil,
    length_append, le_length, Block.length_toList] at hleng hinst hpack hcand
  obtain ⟨hfrom, h⟩ := append_inj h (by simp)
  obtain ⟨huntil, h⟩ := append_inj h (by simp)
  obtain ⟨hdige, h⟩ := append_inj h (by simp)
  obtain ⟨hsess, h⟩ := append_inj h (by simp)
  obtain ⟨hinstr, h⟩ := append_inj h (by simp)
  obtain ⟨hpacka, h⟩ := append_inj h (by simp)
  obtain ⟨-, h⟩ := append_inj h (by simp)
  have hsame {a b : Bytes} (ha : a.length < 65536) (hb : b.length < 65536)
      (hle : le (UInt16.ofNat a.length) = le (UInt16.ofNat b.length)) : a.length = b.length := by
    rw [← toNat_ofNat_length ha, le_injective hle, toNat_ofNat_length hb]
  have hsum : instructorId'.length + packageId'.length + candidateId'.length =
      instructorId.length + packageId.length + candidateId.length := by omega
  have hinstru := hsame (by omega) (by omega) hinstr
  have hpackag := hsame (by omega) (by omega) hpacka
  obtain ⟨hinstruc, h⟩ := append_inj h hinstru
  obtain ⟨hpackageI, hcandi⟩ := append_inj h hpackag
  subst hinstruc hpackageI hcandi
  obtain rfl := le_injective hfrom
  obtain rfl := le_injective huntil
  obtain rfl := Block.toList_injective hdige
  obtain rfl := Block.toList_injective hsess
  rfl

section Binding

variable (hmac : Bytes → Bytes → Digest) (key : Bytes)

/-- The pairs of the key with the transcript of one of the tickets. -/
def transcriptsOf (tickets : Set InstructorAuthorizationTicket) : Set (Bytes × Bytes) :=
  (fun ticket => (key, computeTicketCanonicalTranscript ticket)) '' tickets

/-- The tickets among these whose signature is found right. -/
def verifiedOf (presented : Set InstructorAuthorizationTicket) : Set InstructorAuthorizationTicket :=
  { ticket | ticket ∈ presented ∧ verifyTicketSignature hmac key ticket = true }

/-- **The binding of instructor tickets.**  The wire form is exact in both directions and the transcript is injective.
Where `signed` are the tickets that `sign_ticket` was called with and `presented` those an exam was started with, no one
forges a tag and no two of these transcripts have one tag, every admitted exam is one that was signed. -/
theorem instructorTicket_binding :
    RoundTrips (validateTicket · = true) encodeInstructorTicket decodeInstructorTicket ∧
    (∀ a b, validateTicket a = true → validateTicket b = true →
      computeTicketCanonicalTranscript a = computeTicketCanonicalTranscript b →
      { a with instructorSignature := b.instructorSignature } = b) ∧
    ∀ signed presented : Set InstructorAuthorizationTicket,
      Mac.Unforgeable hmac (transcriptsOf key signed) (transcriptsOf key (verifiedOf hmac key presented)) →
      Mac.CollisionFree hmac (transcriptsOf key (signed ∪ presented)) →
      ∀ ticket ∈ presented, ∀ request now, now ≠ 0 → verifyTicketForExam hmac key ticket request now = .valid →
      (∃ grant ∈ signed, { grant with instructorSignature := ticket.instructorSignature } = ticket) ∧
      ticket.packageId = request.packageId ∧ ticket.packageDigest = request.packageDigest ∧
      ticket.sessionId = request.sessionId ∧ (ticket.candidateId = [] ∨ ticket.candidateId = request.candidateId) ∧
      ticket.validFromMs ≤ now ∧ now ≤ ticket.validUntilMs := by
  refine ⟨roundTrips_of_iff decodeInstructorTicket_iff rfl, fun a b _ hb h => transcript_inj hb h,
    fun signed presented hunforgeable hfree ticket hpresented request now hnow h => ?_⟩
  have hpositive : now > 0 := UInt64.pos_iff_ne_zero.mpr hnow
  rw [verifyTicketForExam] at h
  split_ifs at h with hvalid hearly hlate hsignature hpackage hsession hcandidate
  simp only [Bool.not_eq_true', Bool.not_eq_false] at hvalid hsignature
  refine ⟨?_, ?_⟩
  · have hsub : transcriptsOf key (verifiedOf hmac key presented) ⊆ transcriptsOf key signed :=
      Mac.sent_of_accepted hunforgeable hfree (Set.image_mono Set.subset_union_left)
        (Set.image_mono fun _ hverified => Or.inr hverified.1)
    obtain ⟨grant, hgrant, heq⟩ := hsub ⟨ticket, ⟨hpresented, hsignature⟩, rfl⟩
    exact ⟨grant, hgrant, transcript_inj hvalid (Prod.ext_iff.mp heq).2⟩
  · simp only [not_or, not_not, not_and, List.isEmpty_iff] at hpackage hsession hcandidate hearly hlate
    refine ⟨hpackage.1, hpackage.2, hsession, ?_, UInt64.not_lt.mp (hearly hpositive), UInt64.not_lt.mp (hlate hpositive)⟩
    by_cases hempty : ticket.candidateId = []
    · exact Or.inl hempty
    · exact Or.inr (hcandidate hempty)

end Binding

/-- The key of the instructor. -/
def ticketKey : Bytes := (Block.fill 32 9).toList

/-- A ticket for any candidate, signed with HMAC-SHA-256 under `ticketKey`. -/
def grantedTicket : InstructorAuthorizationTicket :=
  ⟨labelBytes "i", labelBytes "p", Block.fill 32 1, Block.fill 16 2, [], 1, 5,
    ⟨leBytes 32 0x17cc6353c41960a091842c6da0fe255e1b8958476861f822fc0d18a101def062, leBytes_length _ _⟩⟩

/-- The same for the candidate `d` only. -/
def restrictedTicket : InstructorAuthorizationTicket :=
  { grantedTicket with
    candidateId := labelBytes "d"
    instructorSignature :=
      ⟨leBytes 32 0xaacad1819947ae8c0d9122f24aca604ae89da02ebce28fa06b8a40d92f5a6f49, leBytes_length _ _⟩ }

/-- HMAC-SHA-256 on the transcripts of both. -/
def ticketHmac (key message : Bytes) : Digest :=
  if (key, message) = (ticketKey, computeTicketCanonicalTranscript restrictedTicket) then
    restrictedTicket.instructorSignature
  else grantedTicket.instructorSignature

def grantedRequest : ExamStartRequest :=
  ⟨labelBytes "r", [], [], labelBytes "p", labelBytes "c", Block.fill 32 1, Block.fill 16 3, Block.fill 16 2⟩

/-- Both tickets are signed and presented.  The candidate `c` is admitted with the one for any candidate. -/
theorem instructorTicket_binding_granted :
    verifyTicketForExam ticketHmac ticketKey grantedTicket grantedRequest 2 = .valid ∧
      verifyTicketForExam ticketHmac ticketKey restrictedTicket grantedRequest 2 = .candidateMismatch ∧
      ∃ grant ∈ ({grantedTicket, restrictedTicket} : Set InstructorAuthorizationTicket),
        { grant with instructorSignature := grantedTicket.instructorSignature } = grantedTicket := by
  have hvalid : verifyTicketForExam ticketHmac ticketKey grantedTicket grantedRequest 2 = .valid := by decide +kernel
  refine ⟨hvalid, by decide +kernel, ((instructorTicket_binding ticketHmac ticketKey).2.2
    {grantedTicket, restrictedTicket} {grantedTicket, restrictedTicket} ?_ ?_ grantedTicket
    (Set.mem_insert _ _) grantedRequest 2 (by decide) hvalid).1⟩
  · rintro _ ⟨ticket, hverified, rfl⟩
    exact ⟨_, ⟨ticket, hverified.1, rfl⟩, rfl⟩
  · rw [Set.union_self, transcriptsOf, Set.image_pair, Mac.CollisionFree, Set.injOn_pair]
    intro htag
    exact absurd htag (by decide +kernel)

end Nstu
