import Mathlib.Data.List.Sort
import Nstu.Web.Event

/-!
# The durable state of the exam page

What `exam/web/app.js` keeps in `localStorage` to survive a reload: the events that wait for the
server, the drafts that have not become events yet, and the cursor that says how far the server has
confirmed.  Every change is written through `persistDurableState`, which may fail; a function that
meets a failure puts back what it had changed.

`repairPendingChain` brings the pending events in line with a state the server has sent.
`quarantineMismatchedDurableEntries` takes out what belongs to another exam.

Left out are the quarantined records, which are only kept for a teacher to look at, and everything
the page does to its display and its timers.
-/

namespace Nstu.Web

open Wire Text List

/-! ## The page and its exam -/

/-- A question that `normalizeManifest` has left in the manifest, with what `questionRevision` makes
of its revision. -/
structure Question where
  id : Utf16
  revision : ℕ
  idBounds : id ≠ [] ∧ id.length ≤ 128
  revisionBounds : 0 < revision ∧ revision ≤ 0xffffffff

/-- `examContext`, which `normalizeExamContext` has made: hashes and ids are in normal form or
empty, and the next sequence is a positive safe integer. -/
structure ExamContext where
  packageId : Utf16
  packageDigestHex : Utf16
  clientIdHex : Utf16
  sessionIdHex : Utf16
  previousEventHashHex : Utf16
  candidateId : Utf16
  nextSequence : ℕ
  packageDigestNormal : normalizeNonZeroHex packageDigestHex 32 = packageDigestHex
  clientIdNormal : normalizeNonZeroHex clientIdHex 16 = clientIdHex
  sessionIdNormal : normalizeNonZeroHex sessionIdHex 16 = sessionIdHex
  previousNormal : normalizeNonZeroHex previousEventHashHex 32 = previousEventHashHex
  nextSequenceSafe : isSafePositive nextSequence = true
  packageIdFits : 0 ∉ packageId ∧ utf8ByteLength packageId ≤ 128
  candidateIdFits : 0 ∉ candidateId ∧ utf8ByteLength candidateId ≤ 128

/-- The manifest of the loaded package and the context the host has bound it to. -/
structure ExamPage where
  manifestId : Utf16
  questions : List Question
  context : ExamContext

def ExamPage.questionById (page : ExamPage) (id : Utf16) : Option Question :=
  page.questions.find? fun item => item.id == id

def ExamPage.bridgeReady (page : ExamPage) : Bool :=
  !page.context.packageId.isEmpty && page.context.packageId == page.manifestId &&
    !page.context.packageDigestHex.isEmpty && !page.context.clientIdHex.isEmpty &&
    !page.context.sessionIdHex.isEmpty && !page.context.candidateId.isEmpty

def ExamPage.contextKey (page : ExamPage) : Utf16 :=
  let context := page.context
  if context.packageId != page.manifestId || context.packageDigestHex.isEmpty ||
      context.clientIdHex.isEmpty || context.sessionIdHex.isEmpty || context.candidateId.isEmpty then
    []
  else (Json.array [.string context.packageId, .string context.packageDigestHex,
    .string context.clientIdHex, .string context.sessionIdHex,
    .string context.candidateId]).stringify

def eventMatchesContext (page : ExamPage) (event : PageEvent) : Bool :=
  event.packageId == page.context.packageId && event.packageDigestHex == page.context.packageDigestHex &&
    event.clientIdHex == page.context.clientIdHex &&
    event.candidateId == page.context.candidateId &&
    event.sessionIdHex == page.context.sessionIdHex

/-! ## Drafts -/

structure Draft where
  value : Json
  questionRevision : ℕ
  contextKey : Utf16

def answerText : Json → Utf16
  | .null => []
  | .boolean value => ascii (if value then "true" else "false")
  | .number text => text
  | .string text => text
  | .array items => (Json.array items).stringify
  | .object members => (Json.object members).stringify

/-- The characters `String.prototype.trim` removes. -/
def isWhiteSpace (unit : UInt16) : Bool :=
  (9 ≤ unit && unit ≤ 13) || unit == 32 || unit == 0xA0 || unit == 0x1680 ||
    (0x2000 ≤ unit && unit ≤ 0x200A) || unit == 0x2028 || unit == 0x2029 || unit == 0x202F ||
    unit == 0x205F || unit == 0x3000 || unit == 0xFEFF

def answerIsEmpty : Json → Bool
  | .null => true
  | .array items => items.isEmpty
  | .string text => text.all isWhiteSpace
  | .boolean _ | .number _ | .object _ => false

/-! ## The state -/

structure Durable where
  nextSequence : ℕ
  previousEventHashHex : Utf16
  serverHighestSequence : ℕ
  serverLastEventHashHex : Utf16
  serverStateHashHex : Utf16
  serverFinalized : Bool
  contextKey : Utf16
  pending : List PageEvent
  /-- In the order of `Object.keys`. -/
  drafts : List (Utf16 × Draft)
  finalizeRequested : Bool

/-- An answer of a state response that has passed `validateRecoveredAnswer`. -/
structure RecoveredAnswer where
  questionId : Utf16
  questionRevision : ℕ
  sequence : ℕ
  kind : PageKind
  answer : Utf16
  eventHashHex : Utf16
  deriving DecidableEq

/-- `pending.sort((left, right) => left.sequence - right.sequence)`. -/
def sortBySequence (pending : List PageEvent) : List PageEvent :=
  pending.insertionSort fun left right => left.sequence ≤ right.sequence

/-! ## Repair -/

/-- `acceptedBySequence.get`: of several answers for one sequence the last one. -/
def acceptedBySequence (answers : List RecoveredAnswer) (sequence : ℕ) : Option RecoveredAnswer :=
  answers.reverse.find? fun answer => isSafePositive answer.sequence && answer.sequence == sequence

/-- The events follow each other without a gap, from `expected` on. -/
def contiguousFrom : ℕ → List PageEvent → Bool
  | _, [] => true
  | expected, event :: rest => event.sequence == expected && contiguousFrom (expected + 1) rest

section Repair

variable (sha256 : Bytes → Digest) (page : ExamPage)

/-- The hash the page has for an event. -/
def localHash (event : PageEvent) : Utf16 :=
  let stored := normalizeNonZeroHex event.eventHashHex 32
  if stored.isEmpty then eventHashHex sha256 event else stored

/-- The server's hash for a covered event: its last hash, or that of the accepted answer. -/
def expectedHash (lastHash : Utf16) (highest : ℕ) (answers : List RecoveredAnswer) (event : PageEvent) : Utf16 :=
  if event.sequence == highest then lastHash
  else match acceptedBySequence answers event.sequence with
  | some accepted => normalizeNonZeroHex accepted.eventHashHex 32
  | none => []

/-- The accepted answer for a sequence is the one the event gives. -/
def sameAnswer (answers : List RecoveredAnswer) (event : PageEvent) : Bool :=
  (acceptedBySequence answers event.sequence).any fun accepted =>
    accepted.questionId == event.questionId && accepted.questionRevision == event.questionRevision &&
      accepted.kind == event.kind && accepted.answer == event.answer

/-- A covered event may be discarded: the server has its very hash. -/
def hashVerified (lastHash : Utf16) (highest : ℕ) (answers : List RecoveredAnswer) (event : PageEvent) : Bool :=
  let expected := expectedHash lastHash highest answers event
  (event.sequence == highest || sameAnswer answers event) &&
    !(localHash sha256 event).isEmpty && !expected.isEmpty && localHash sha256 event == expected

/-- `event.previousEventHashHex = previous; event.eventHashHex = eventHashHex(event)`. -/
def withPredecessor (previous : Utf16) (event : PageEvent) : PageEvent :=
  let linked := { event with previousEventHashHex := previous }
  { linked with eventHashHex := eventHashHex sha256 linked }

/-- One step of the loop below on an event that stays. -/
def relinkEvent (previous : Utf16) (event : PageEvent) : PageEvent :=
  if event.previousEventHashHex != previous || event.eventHashHex.isEmpty then
    withPredecessor sha256 previous event
  else event

/-- The loop that gives the first remaining event its predecessor and the later ones none. -/
def relinkPending (lastHash : Utf16) (highest : ℕ) : Bool → List PageEvent → Option (List PageEvent)
  | _, [] => some []
  | first, event :: rest =>
    if !eventMatchesContext page event || event.sequence ≤ highest then
      (relinkPending lastHash highest first rest).map (event :: ·)
    else
      let linked := relinkEvent sha256 (if first then lastHash else []) event
      if linked.eventHashHex.isEmpty then none
      else (relinkPending lastHash highest false rest).map (linked :: ·)

/-- The same loop as the source runs it, on the events in place.  It stops at an event it cannot
hash, which has lost its hashes by then; the flag says whether it has come to its end. -/
def relinkInPlace (lastHash : Utf16) (highest : ℕ) : Bool → List PageEvent → List PageEvent × Bool
  | _, [] => ([], true)
  | first, event :: rest =>
    if !eventMatchesContext page event || event.sequence ≤ highest then
      let (relinked, done) := relinkInPlace lastHash highest first rest
      (event :: relinked, done)
    else
      let linked := relinkEvent sha256 (if first then lastHash else []) event
      if linked.eventHashHex.isEmpty then (linked :: rest, false)
      else
        let (relinked, done) := relinkInPlace lastHash highest false rest
        (linked :: relinked, done)

/-- Puts back the fields a repair has kept before it changed them. -/
def Durable.restoreChain (durable before : Durable) : Durable :=
  { durable with
    pending := before.pending
    previousEventHashHex := before.previousEventHashHex
    nextSequence := before.nextSequence
    serverHighestSequence := before.serverHighestSequence
    serverLastEventHashHex := before.serverLastEventHashHex
    serverStateHashHex := before.serverStateHashHex }

/-- `repairPendingChain`.  The durable state is changed before it is known whether every event can be
hashed and whether the write succeeds; where not, `restoreChain` takes the changes back. -/
def repairPendingChain (stored : Bool) (durable : Durable) (lastHash : Utf16) (highest : ℕ)
    (answers : List RecoveredAnswer) (stateHash : Utf16) : Durable × Bool :=
  let normalizedHash := normalizeNonZeroHex lastHash 32
  let normalizedStateHash := normalizeNonZeroHex stateHash 32
  if highest > maxSafeInteger || (highest > 0 && (normalizedHash.isEmpty || normalizedStateHash.isEmpty)) ||
      (highest == 0 && (!normalizedHash.isEmpty || !normalizedStateHash.isEmpty)) then
    (durable, false)
  else
    let current := sortBySequence (durable.pending.filter (eventMatchesContext page))
    if !(current.filter (·.sequence ≤ highest)).all
        (hashVerified sha256 normalizedHash highest answers) then (durable, false)
    else if !contiguousFrom (highest + 1) (current.filter (·.sequence > highest)) then
      (durable, false)
    else
      let kept := sortBySequence (durable.pending.filter fun event =>
        !eventMatchesContext page event || event.sequence > highest)
      let changed := { durable with
        pending := kept
        previousEventHashHex := if highest == 0 then [] else normalizedHash
        nextSequence := max durable.nextSequence (if highest == maxSafeInteger then highest else highest + 1)
        serverHighestSequence := highest
        serverLastEventHashHex := if highest == 0 then [] else normalizedHash
        serverStateHashHex := if highest == 0 then [] else normalizedStateHash }
      let (pending, relinked) := relinkInPlace sha256 page (if highest == 0 then [] else normalizedHash)
        highest true changed.pending
      let changed := { changed with pending }
      if !relinked || !stored then (changed.restoreChain durable, false) else (changed, true)

lemma relinkPending_eq (lastHash : Utf16) (highest : ℕ) (first : Bool) (pending : List PageEvent) :
    relinkPending sha256 page lastHash highest first pending =
      if (relinkInPlace sha256 page lastHash highest first pending).2 then
        some (relinkInPlace sha256 page lastHash highest first pending).1
      else none := by
  induction pending generalizing first with
  | nil => rfl
  | cons event rest ih =>
    simp only [relinkPending, relinkInPlace]
    split
    · rw [ih]
      split <;> rfl
    · generalize relinkEvent sha256 (if first then lastHash else []) event = linked
      cases linked.eventHashHex.isEmpty with
      | true => rfl
      | false =>
        simp only [Bool.false_eq_true, if_false]
        rw [ih]
        split <;> rfl

/-- **A repair that fails has changed nothing**: what is put back is all that was changed.  One that
succeeds has relinked every event that stays. -/
lemma repairPendingChain_eq (stored : Bool) (durable : Durable) (lastHash : Utf16) (highest : ℕ)
    (answers : List RecoveredAnswer) (stateHash : Utf16) :
    repairPendingChain sha256 page stored durable lastHash highest answers stateHash =
      let normalizedHash := normalizeNonZeroHex lastHash 32
      let normalizedStateHash := normalizeNonZeroHex stateHash 32
      if highest > maxSafeInteger || (highest > 0 && (normalizedHash.isEmpty || normalizedStateHash.isEmpty)) ||
          (highest == 0 && (!normalizedHash.isEmpty || !normalizedStateHash.isEmpty)) then
        (durable, false)
      else
        let current := sortBySequence (durable.pending.filter (eventMatchesContext page))
        if !(current.filter (·.sequence ≤ highest)).all
            (hashVerified sha256 normalizedHash highest answers) then (durable, false)
        else if !contiguousFrom (highest + 1) (current.filter (·.sequence > highest)) then
          (durable, false)
        else
          let kept := sortBySequence (durable.pending.filter fun event =>
            !eventMatchesContext page event || event.sequence > highest)
          match relinkPending sha256 page normalizedHash highest true kept with
          | none => (durable, false)
          | some pending =>
            if !stored then (durable, false)
            else
              ({ durable with
                pending
                previousEventHashHex := normalizedHash
                nextSequence := max durable.nextSequence (if highest == maxSafeInteger then highest else highest + 1)
                serverHighestSequence := highest
                serverLastEventHashHex := normalizedHash
                serverStateHashHex := normalizedStateHash }, true) := by
  simp only [repairPendingChain]
  split
  · rfl
  rename_i hcursor
  -- at the sequence 0 the server has no hashes
  have hempty : (if highest == 0 then [] else normalizeNonZeroHex lastHash 32) = normalizeNonZeroHex lastHash 32 ∧
      (if highest == 0 then [] else normalizeNonZeroHex stateHash 32) = normalizeNonZeroHex stateHash 32 := by
    by_cases hz : highest = 0
    · subst hz
      simp at hcursor
      simp [hcursor]
    · simp [hz]
  simp only [hempty.1, hempty.2, relinkPending_eq]
  split
  · rfl
  split
  · rfl
  cases (relinkInPlace sha256 page (normalizeNonZeroHex lastHash 32) highest true _).2 with
  | false => rfl
  | true => cases stored <;> rfl

end Repair

/-! ## What a repair does -/

/-- An event without the two hashes that a repair may change. -/
def PageEvent.content (event : PageEvent) : PageEvent :=
  { event with eventHashHex := [], previousEventHashHex := [] }

/-- An event carries its own hash. -/
def PageEvent.Hashed (sha256 : Bytes → Digest) (event : PageEvent) : Prop :=
  event.eventHashHex = Web.eventHashHex sha256 event ∧ event.eventHashHex ≠ []

/-- What holds of the durable state between two calls: the pending events are in the order of their
sequences, each with its own hash. -/
structure Durable.Sound (sha256 : Bytes → Digest) (durable : Durable) : Prop where
  ordered : durable.pending.Pairwise fun left right => left.sequence < right.sequence
  hashed : ∀ event ∈ durable.pending, event.Hashed sha256
  cursor : durable.serverHighestSequence ≤ maxSafeInteger
  previous : normalizeNonZeroHex durable.previousEventHashHex 32 = durable.previousEventHashHex

/-- The server has given this hash for this sequence. -/
def Confirms (lastHash : Utf16) (highest : ℕ) (answers : List RecoveredAnswer) (sequence : ℕ) (hash : Utf16) : Prop :=
  if sequence = highest then hash = normalizeNonZeroHex lastHash 32
  else ∃ accepted ∈ answers, accepted.sequence = sequence ∧ hash = normalizeNonZeroHex accepted.eventHashHex 32

open PageEvent

/-- A repair for a watermark has made `after` of `before`. -/
structure Repaired (sha256 : Bytes → Digest) (page : ExamPage) (lastHash : Utf16) (highest : ℕ)
    (answers : List RecoveredAnswer) (before after : Durable) : Prop where
  /-- Only events the server has confirmed are gone. -/
  removed : ∀ event ∈ before.pending, event.content ∉ after.pending.map content →
    eventMatchesContext page event = true ∧ event.sequence ≤ highest ∧ eventHashHex sha256 event ≠ [] ∧
      Confirms lastHash highest answers event.sequence (eventHashHex sha256 event)
  /-- The others are there, in their order, and differ in their hashes at most. -/
  unchanged : (after.pending.map content).Sublist (before.pending.map content)
  others : after.pending.filter (fun event => !eventMatchesContext page event) =
    before.pending.filter fun event => !eventMatchesContext page event
  remaining : contiguousFrom (highest + 1) (after.pending.filter (eventMatchesContext page)) = true
  first : ∀ event ∈ (after.pending.filter (eventMatchesContext page)).head?,
    event.previousEventHashHex = normalizeNonZeroHex lastHash 32 ∧ event.eventHashHex = eventHashHex sha256 event

section RepairLemmas

variable {sha256 : Bytes → Digest} {page : ExamPage}

variable {pending : List PageEvent}

lemma sortBySequence_of_ordered (h : pending.Pairwise fun left right => left.sequence < right.sequence) :
    sortBySequence pending = pending :=
  List.Pairwise.insertionSort_eq (h.imp fun hl => Nat.le_of_lt hl)

variable {event : PageEvent}

lemma localHash_of_hashed (h : event.eventHashHex = eventHashHex sha256 event) :
    localHash sha256 event = eventHashHex sha256 event := by
  simp only [localHash]
  split
  · rfl
  rename_i hs
  rw [h] at hs ⊢
  simp only [eventHashHex] at hs ⊢
  split at hs
  · rename_i bytes hb
    rw [normalizeNonZeroHex, normalizeHex_hexString] at hs ⊢
    split
    · rfl
    · rename_i hz
      rw [if_neg hz] at hs
      exact absurd rfl hs
  · exact absurd rfl hs

/-- An event and what the loop of the repair makes of it. -/
structure Relinks (sha256 : Bytes → Digest) (page : ExamPage) (highest : ℕ)
    (event output : PageEvent) : Prop where
  content : output.content = event.content
  other : eventMatchesContext page event = false ∨ event.sequence ≤ highest → output = event
  hashed : event.Hashed sha256 → output.Hashed sha256

variable {output : PageEvent}

lemma sequence_content (h : output.content = event.content) : output.sequence = event.sequence := by
  show output.content.sequence = event.content.sequence
  rw [h]

lemma eventMatchesContext_content (h : output.content = event.content) :
    eventMatchesContext page output = eventMatchesContext page event := by
  show eventMatchesContext page output.content = eventMatchesContext page event.content
  rw [h]

lemma eventHashHex_ne_nil_iff : eventHashHex sha256 event ≠ [] ↔ (canonicalEventBytes event).isSome := by
  simp only [eventHashHex]
  cases canonicalEventBytes event with
  | none => simp
  | some bytes =>
    simp only [Option.isSome_some, iff_true]
    rw [← length_pos_iff, length_hexString, Block.length_toList]
    omega

lemma canonicalEventBytes_isSome_iff : (canonicalEventBytes event).isSome ↔
      (hexBytes event.packageDigestHex 32).isSome ∧ (hexBytes event.clientIdHex 16).isSome ∧
        (hexBytes event.sessionIdHex 16).isSome ∧
        (event.previousEventHashHex = [] ∨ (hexBytes event.previousEventHashHex 32).isSome) ∧
        canonicalFields event := by
  have hp : (if event.previousEventHashHex.isEmpty then some (replicate 32 0)
      else hexBytes event.previousEventHashHex 32).isSome ↔
      event.previousEventHashHex = [] ∨ (hexBytes event.previousEventHashHex 32).isSome := by
    cases event.previousEventHashHex <;> simp
  rw [← hp]
  simp only [canonicalEventBytes]
  generalize (if event.previousEventHashHex.isEmpty then some (replicate 32 0)
    else hexBytes event.previousEventHashHex 32) = previous
  split
  · rename_i packageDigest clientId sessionId previousHash hd hc hs
    simp only [hd, hc, hs, Option.isSome_some, true_and]
    cases canonicalFields event <;> simp
  · rename_i hn
    simp only [Option.isSome_none, Bool.false_eq_true, false_iff]
    rintro ⟨hd, hc, hs, hp, -⟩
    rw [Option.isSome_iff_exists] at hd hc hs hp
    obtain ⟨digest, hd⟩ := hd
    obtain ⟨client, hc⟩ := hc
    obtain ⟨session, hs⟩ := hs
    obtain ⟨previousHash, hp⟩ := hp
    exact hn digest client session previousHash hd hc hs hp

variable {previous : Utf16}

lemma hashed_withPredecessor (h : event.Hashed sha256) (hp : normalizeNonZeroHex previous 32 = previous) :
    (withPredecessor sha256 previous event).Hashed sha256 := by
  refine ⟨rfl, ?_⟩
  have hs := canonicalEventBytes_isSome_iff.mp (eventHashHex_ne_nil_iff.mp (h.1 ▸ h.2))
  show eventHashHex sha256 _ ≠ []
  rw [eventHashHex_ne_nil_iff, canonicalEventBytes_isSome_iff]
  refine ⟨hs.1, hs.2.1, hs.2.2.1, ?_, hs.2.2.2.2⟩
  by_cases he : previous = []
  · exact .inl he
  · have hh : NonZeroHex 32 previous := hp ▸ nonZeroHex_of_normalize (by rwa [hp])
    exact .inr (hh.hexBytes_isSome he)

lemma relinkEvent_spec {highest : ℕ}
    (hm : eventMatchesContext page event) (hs : highest < event.sequence)
    (he : (relinkEvent sha256 previous event).eventHashHex ≠ []) :
    Relinks sha256 page highest event (relinkEvent sha256 previous event) ∧
      (relinkEvent sha256 previous event).previousEventHashHex = previous := by
  have hk : ¬(eventMatchesContext page event = false ∨ event.sequence ≤ highest) := by
    simp [hm, hs]
  simp only [relinkEvent] at he ⊢
  split
  · rename_i hc
    rw [if_pos hc] at he
    exact ⟨⟨rfl, fun h => absurd h hk, fun _ => ⟨rfl, he⟩⟩, rfl⟩
  · rename_i hsa
    simp only [Bool.or_eq_true, bne_iff_ne, ne_eq, not_or, not_not] at hsa
    exact ⟨⟨rfl, fun _ => rfl, fun h => h⟩, hsa.1⟩

lemma relinkEvent_ne_nil (h : event.Hashed sha256) (hp : normalizeNonZeroHex previous 32 = previous) :
    (relinkEvent sha256 previous event).eventHashHex ≠ [] := by
  simp only [relinkEvent]
  split
  · exact (hashed_withPredecessor h hp).2
  · exact h.2

variable {first : Bool}

lemma relinkPending_isSome {lastHash : Utf16} {highest : ℕ} (hh : ∀ event ∈ pending, event.Hashed sha256)
    (hl : normalizeNonZeroHex lastHash 32 = lastHash) :
    (relinkPending sha256 page lastHash highest first pending).isSome := by
  induction pending generalizing first with
  | nil => rfl
  | cons event rest ih =>
    rw [forall_mem_cons] at hh
    have hp : normalizeNonZeroHex (if first then lastHash else []) 32 =
        if first then lastHash else [] := by
      split
      · exact hl
      · rfl
    have hli := relinkEvent_ne_nil hh.1 hp
    simp only [relinkPending]
    split
    · simpa using ih hh.2
    · simpa [hli] using ih hh.2

lemma relinkPending_spec {lastHash : Utf16} {highest : ℕ} :
    ∀ {output}, relinkPending sha256 page lastHash highest first pending = some output →
      List.Forall₂ (Relinks sha256 page highest) pending output ∧ ∀ event ∈ (output.filter fun event =>
          eventMatchesContext page event && highest < event.sequence).head?,
          event.previousEventHashHex = if first then lastHash else [] := by
  fun_induction relinkPending sha256 page lastHash highest first pending with
  | case1 first =>
    intro output h
    cases h
    simp
  | case2 first event rest hskip ih =>
    intro output h
    obtain ⟨tail, htail, rfl⟩ := Option.map_eq_some_iff.mp h
    obtain ⟨hall, hhead⟩ := ih htail
    refine ⟨.cons ⟨rfl, fun _ => rfl, fun h => h⟩ hall, ?_⟩
    rwa [filter_cons_of_neg]
    simp only [Bool.or_eq_true, Bool.not_eq_true', decide_eq_true_eq] at hskip
    simp only [Bool.and_eq_true, decide_eq_true_eq, not_and, Nat.not_lt]
    intro hmatc
    exact hskip.resolve_left (by simp [hmatc])
  | case3 first event rest hskip linked =>
    intro output h
    cases h
  | case4 first event rest hskip linked hempty =>
    rename_i ih
    intro output h
    obtain ⟨tail, htail, rfl⟩ := Option.map_eq_some_iff.mp h
    simp only [Bool.or_eq_true, Bool.not_eq_true', decide_eq_true_eq, not_or, Nat.not_le, Bool.not_eq_false] at hskip
    obtain ⟨hlinks, hprev⟩ : Relinks sha256 page highest event linked ∧
        linked.previousEventHashHex = if first then lastHash else [] :=
      relinkEvent_spec hskip.1 hskip.2 (by simpa using hempty)
    refine ⟨.cons hlinks (ih htail).1, ?_⟩
    have hkeep : (eventMatchesContext page linked && decide (highest < linked.sequence)) := by
      rw [eventMatchesContext_content hlinks.content, sequence_content hlinks.content, hskip.1]
      simpa using hskip.2
    rw [filter_cons_of_pos (by exact hkeep)]
    simpa using hprev

section Relinked

variable {highest : ℕ} {left right : List PageEvent}

lemma map_content_of_relinks (h : List.Forall₂ (Relinks sha256 page highest) left right) :
    right.map content = left.map content := by
  induction h with
  | nil => rfl
  | cons hl hr ih => rw [map_cons, map_cons, hl.content, ih]

lemma filter_others_of_relinks (h : List.Forall₂ (Relinks sha256 page highest) left right) :
    right.filter (fun event => !eventMatchesContext page event) =
      left.filter fun event => !eventMatchesContext page event := by
  induction h with
  | nil => rfl
  | @cons event output left right hl hr ih =>
    rw [filter_cons, filter_cons, eventMatchesContext_content hl.content, ih]
    cases hm : eventMatchesContext page event with
    | true => rfl
    | false => rw [hl.other (.inl hm)]

lemma hashed_of_relinks (h : List.Forall₂ (Relinks sha256 page highest) left right)
    (hh : ∀ event ∈ left, event.Hashed sha256) : ∀ event ∈ right, event.Hashed sha256 := by
  induction h with
  | nil => simp
  | cons hl hr ih =>
    rw [forall_mem_cons] at hh ⊢
    exact ⟨hl.hashed hh.1, ih hh.2⟩

end Relinked

lemma map_content_filter {left right : List PageEvent} {p : PageEvent → Bool} (hp : ∀ event, p event.content = p event)
    (h : right.map content = left.map content) :
    (right.filter p).map content = (left.filter p).map content := by
  have hf : ∀ events : List PageEvent,
      (events.filter p).map content = (events.map content).filter p := by
    intro events
    rw [filter_map]
    exact congrArg _ (filter_congr fun event _ => (hp event).symm)
  rw [hf, hf, h]

lemma map_sequence_of_content {left right : List PageEvent}
    (h : right.map content = left.map content) :
    right.map sequence = left.map sequence := by
  have hs : ∀ events : List PageEvent,
      (events.map content).map sequence = events.map sequence := by
    intro events
    rw [map_map]
    rfl
  rw [← hs right, h, hs]

lemma contiguousFrom_congr {left right : List PageEvent}
    (h : right.map sequence = left.map sequence) (expected : ℕ) :
    contiguousFrom expected right = contiguousFrom expected left := by
  induction left generalizing right expected with
  | nil => rw [map_eq_nil_iff.mp h]
  | cons event rest ih =>
    obtain ⟨output, tail, rfl, hh, ht⟩ := map_eq_cons_iff.mp h
    rw [contiguousFrom, contiguousFrom, hh, ih ht]

lemma acceptedBySequence_mem {answers : List RecoveredAnswer} {sequence : ℕ}
    {accepted : RecoveredAnswer} (h : acceptedBySequence answers sequence = some accepted) :
    accepted ∈ answers ∧ accepted.sequence = sequence := by
  have hf := find?_some h
  simp only [Bool.and_eq_true, beq_iff_eq] at hf
  exact ⟨mem_reverse.mp (mem_of_find?_eq_some h), hf.2⟩

lemma confirms_of_hashVerified {lastHash : Utf16} {highest : ℕ} {answers : List RecoveredAnswer}
    (hhash : event.eventHashHex = eventHashHex sha256 event)
    (h : hashVerified sha256 (normalizeNonZeroHex lastHash 32) highest answers event) :
    eventHashHex sha256 event ≠ [] ∧ Confirms lastHash highest answers event.sequence (eventHashHex sha256 event) := by
  simp only [hashVerified, localHash_of_hashed hhash, Bool.and_eq_true, Bool.not_eq_true',
    isEmpty_eq_false_iff, beq_iff_eq] at h
  obtain ⟨⟨⟨-, hlocal⟩, hexpe⟩, hequal⟩ := h
  refine ⟨hlocal, ?_⟩
  rw [hequal]
  simp only [Confirms, expectedHash, beq_iff_eq] at hexpe ⊢
  split
  · rfl
  · rename_i hbelow
    rw [if_neg hbelow] at hexpe
    split
    · rename_i accepted hacce
      obtain ⟨hmem, hsequ⟩ := acceptedBySequence_mem hacce
      exact ⟨accepted, hmem, hsequ, rfl⟩
    · rename_i hnone
      rw [hnone] at hexpe
      exact absurd rfl hexpe

/-- An event stays in a repair for this watermark. -/
def staysPending (page : ExamPage) (highest : ℕ) (event : PageEvent) : Bool :=
  !eventMatchesContext page event || highest < event.sequence

section Outcome

variable {stored : Bool} {durable after : Durable} {lastHash stateHash : Utf16} {highest : ℕ}
variable {answers : List RecoveredAnswer}

lemma repairPendingChain_eq_false
    (h : repairPendingChain sha256 page stored durable lastHash highest answers stateHash =
      (after, false)) : after = durable := by
  simp only [repairPendingChain_eq] at h
  split at h
  · exact (Prod.mk.inj h).1.symm
  split at h
  · exact (Prod.mk.inj h).1.symm
  split at h
  · exact (Prod.mk.inj h).1.symm
  split at h
  · exact (Prod.mk.inj h).1.symm
  split at h
  · exact (Prod.mk.inj h).1.symm
  · cases (Prod.mk.inj h).2

lemma repairPendingChain_eq_true (hs : durable.Sound sha256)
    (h : repairPendingChain sha256 page stored durable lastHash highest answers stateHash = (after, true)) :
    highest ≤ maxSafeInteger ∧
      (∀ event ∈ durable.pending, eventMatchesContext page event → event.sequence ≤ highest →
        hashVerified sha256 (normalizeNonZeroHex lastHash 32) highest answers event) ∧
      contiguousFrom (highest + 1) (durable.pending.filter fun event =>
        eventMatchesContext page event && highest < event.sequence) ∧
      ∃ pending, relinkPending sha256 page (normalizeNonZeroHex lastHash 32) highest true
          (durable.pending.filter (staysPending page highest)) = some pending ∧
        after = { durable with
          pending
          previousEventHashHex := normalizeNonZeroHex lastHash 32
          nextSequence := max durable.nextSequence (if highest == maxSafeInteger then highest else highest + 1)
          serverHighestSequence := highest
          serverLastEventHashHex := normalizeNonZeroHex lastHash 32
          serverStateHashHex := normalizeNonZeroHex stateHash 32 } := by
  simp only [repairPendingChain_eq] at h
  rw [sortBySequence_of_ordered (hs.ordered.filter _), sortBySequence_of_ordered (hs.ordered.filter _)] at h
  split at h
  · cases (Prod.mk.inj h).2
  rename_i hr
  split at h
  · cases (Prod.mk.inj h).2
  rename_i hv
  split at h
  · cases (Prod.mk.inj h).2
  rename_i hc
  split at h
  · cases (Prod.mk.inj h).2
  rename_i pending hre
  split at h
  · cases (Prod.mk.inj h).2
  simp only [Bool.or_eq_true, decide_eq_true_eq, not_or, Nat.not_lt] at hr
  simp only [Bool.not_eq_true', Bool.not_eq_false, all_eq_true, mem_filter,
    decide_eq_true_eq, and_imp] at hv
  simp only [Bool.not_eq_true', Bool.not_eq_false, filter_filter, gt_iff_lt] at hc
  refine ⟨hr.1.1, hv, ?_, pending, hre, (Prod.mk.inj h).1.symm⟩
  simpa only [Bool.and_comm] using hc

/-- **Chain repair never discards an unconfirmed answer.** -/
lemma repaired_of_repairPendingChain (hsound : durable.Sound sha256)
    (h : repairPendingChain sha256 page stored durable lastHash highest answers stateHash = (after, true)) :
    Repaired sha256 page lastHash highest answers durable after ∧ after.Sound sha256 ∧
      after.serverHighestSequence = highest := by
  obtain ⟨hrange, hveri, hcont, pending, hreli, rfl⟩ :=
    repairPendingChain_eq_true hsound h
  obtain ⟨hlinks, hfirst⟩ := relinkPending_spec hreli
  have hconte := map_content_of_relinks hlinks
  have hhash := hashed_of_relinks hlinks fun event hevent =>
    hsound.hashed event (mem_of_mem_filter hevent)
  -- every event that is still there stays
  have hstays : ∀ event ∈ pending, staysPending page highest event := by
    intro event hevent
    have hmem : event.content ∈ pending.map content := mem_map_of_mem hevent
    rw [hconte] at hmem
    obtain ⟨original, horig, hsame⟩ := mem_map.mp hmem
    have := (mem_filter.mp horig).2
    simp only [staysPending] at this ⊢
    rwa [← eventMatchesContext_content hsame, ← sequence_content hsame]
  have hcurr : pending.filter (eventMatchesContext page) = pending.filter fun event =>
      eventMatchesContext page event && highest < event.sequence := by
    refine filter_congr fun event hevent => ?_
    have := hstays event hevent
    simp only [staysPending] at this
    cases hmatc : eventMatchesContext page event <;> simp_all
  refine ⟨⟨?_, ?_, ?_, ?_, ?_⟩, ⟨?_, hhash, hrange, normalizeNonZeroHex_idem _ _⟩, rfl⟩
  · intro event hevent hgone
    have hnotS : staysPending page highest event = false := by
      by_contra hkept
      rw [Bool.not_eq_false] at hkept
      refine hgone ?_
      rw [hconte]
      exact mem_map_of_mem (mem_filter.mpr ⟨hevent, hkept⟩)
    simp only [staysPending, Bool.or_eq_false_iff, Bool.not_eq_false', decide_eq_false_iff_not,
      Nat.not_lt] at hnotS
    exact ⟨hnotS.1, hnotS.2, confirms_of_hashVerified (hsound.hashed event hevent).1
      (hveri event hevent hnotS.1 hnotS.2)⟩
  · rw [hconte]
    exact filter_sublist.map _
  · rw [filter_others_of_relinks hlinks, filter_filter]
    refine filter_congr fun event _ => ?_
    simp only [staysPending]
    cases eventMatchesContext page event <;> rfl
  · rw [← hcont]
    refine contiguousFrom_congr ?_ _
    refine (map_sequence_of_content (map_content_filter (fun _ => rfl) hconte)).trans ?_
    rw [filter_filter]
    refine congrArg _ (filter_congr fun event _ => ?_)
    simp only [staysPending]
    cases eventMatchesContext page event <;> simp
  · intro event hevent
    have hmem := mem_of_mem_head? hevent
    rw [hcurr] at hevent
    exact ⟨hfirst event hevent, (hhash event (mem_of_mem_filter hmem)).1⟩
  · have hpair := (hsound.ordered.filter (staysPending page highest))
    rw [← pairwise_map (R := (· < ·))] at hpair ⊢
    rwa [map_sequence_of_content hconte]

end Outcome

end RepairLemmas

end Nstu.Web
