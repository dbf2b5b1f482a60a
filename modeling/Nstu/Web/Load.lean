import Nstu.Web.Durable

/-!
# Loading the durable state

What `loadDurableState` makes of the value it finds in storage, whatever that is: entries that do not
pass their check are left out, a conflict about a sequence takes out both events, and a cursor from
the time before there were cursors is inferred from the pending events.

The durable state that is loaded is sound (`loadDurableState_sound`).
-/

namespace Nstu.Web

open Wire Text

def MAX_DURABLE_EVENTS : ℕ := 256

/-! ## What storage may hold -/

/-- What storage may hold in the place of a draft; the value is absent or any JSON. -/
structure StoredDraft where
  value : Option Json
  questionRevision : JsValue
  contextKey : JsValue

/-- What storage may hold in the place of the durable state.  Of `pending` and `drafts` the entries
are given, `none` for one that is no object. -/
structure StoredState where
  nextSequence : JsValue
  previousEventHashHex : JsValue
  serverHighestSequence : JsValue
  serverLastEventHashHex : JsValue
  serverStateHashHex : JsValue
  serverFinalized : JsValue
  contextKey : JsValue
  pending : List (Option StoredValue)
  drafts : List (Utf16 × Option StoredDraft)
  finalizeRequested : JsValue

/-- `value === true`. -/
def isTrue : JsValue → Bool
  | .boolean value => value
  | _ => false

/-- `Number.isSafeInteger(value) && value >= 0 ? value : 0`. -/
def safeOrZero (value : JsValue) : ℕ := (safePositive value).getD 0

/-- `normalizeNonZeroHex` of any value. -/
def hashOrEmpty (value : JsValue) : Utf16 := (nonZeroHexOf value 32).getD []

/-- `validStoredDraft` of an object; anything else is refused. -/
def validStoredDraft (id : Utf16) (value : StoredDraft) : Option Draft := do
  let _ ← validIdentifier (.string id) 128 false
  let questionRevision ← (safePositive value.questionRevision).filter (· ≤ 0xffffffff)
  let draftValue ← value.value
  let contextKey := ((asString value.contextKey).filter (·.length ≤ 512)).getD []
  let draft : Json := .object [(ascii "value", draftValue),
    (ascii "questionRevision", .number ((decimal questionRevision).map UInt16.ofNat)),
    (ascii "contextKey", .string contextKey)]
  if utf8ByteLength (answerText draftValue) > MAX_ANSWER_BYTES || boundedJsonSize draft > MAX_DURABLE_BYTES then none
  else some { value := draftValue, questionRevision, contextKey }

/-! ## Loading -/

section Load

variable (sha256 : Bytes → Digest) (page : ExamPage)

/-- One entry of the loop over the stored events.  Of two events for one sequence the second is
dropped, and the first with it unless their hashes agree. -/
def loadEvent (pending : List PageEvent) (value : Option StoredValue) : List PageEvent :=
  match value.bind (validStoredEvent sha256) with
  | none => pending
  | some event =>
    match pending.find? fun candidate => candidate.sequence == event.sequence with
    | none => pending ++ [event]
    | some duplicate =>
      if duplicate.eventHashHex != event.eventHashHex then
        pending.eraseP fun candidate => candidate.sequence == event.sequence
      else pending

/-- The cursor of a state that has none: the last event before the first pending one, if its hash
is known. -/
def inferredHighest (pending : List PageEvent) (nextSequence : ℕ) : ℕ :=
  let firstPendingSequence :=
    pending.foldl (fun minimum event => min minimum event.sequence) maxSafeInteger
  if firstPendingSequence != maxSafeInteger then firstPendingSequence - 1 else nextSequence - 1

/-- The watermark and its hash, after a cursor has been inferred where there is none. -/
def inferCursor (highest : ℕ) (lastHash previousHash : Utf16) (pending : List PageEvent)
    (nextSequence : ℕ) : ℕ × Utf16 :=
  let inferred := inferredHighest pending nextSequence
  if highest == 0 && lastHash.isEmpty && !previousHash.isEmpty && isSafePositive inferred then
    (inferred, previousHash)
  else (highest, lastHash)

/-- `loadDurableState()` of the value in storage, `none` for a value that is no object. -/
def loadDurableState (value : Option StoredState) : Durable :=
  match value with
  | none =>
    { nextSequence := page.context.nextSequence
      previousEventHashHex := []
      serverHighestSequence := 0
      serverLastEventHashHex := []
      serverStateHashHex := []
      serverFinalized := false
      contextKey := page.contextKey
      pending := []
      drafts := []
      finalizeRequested := false }
  | some value =>
    let pending := (value.pending.take (MAX_DURABLE_EVENTS * 2)).foldl (loadEvent sha256) []
    let drafts := (value.drafts.take (MAX_DURABLE_EVENTS * 2)).filterMap fun entry =>
      (entry.2.bind (validStoredDraft entry.1)).map fun draft => (entry.1, draft)
    let nextSequence := (safePositive value.nextSequence).getD page.context.nextSequence
    let previousEventHashHex := hashOrEmpty value.previousEventHashHex
    let cursor := inferCursor (safeOrZero value.serverHighestSequence)
      (hashOrEmpty value.serverLastEventHashHex) previousEventHashHex pending nextSequence
    let tracked := cursor.1 != 0 && !cursor.2.isEmpty
    { nextSequence
      previousEventHashHex
      serverHighestSequence := if tracked then cursor.1 else 0
      serverLastEventHashHex := if tracked then cursor.2 else []
      serverStateHashHex := if tracked then hashOrEmpty value.serverStateHashHex else []
      serverFinalized := isTrue value.serverFinalized
      contextKey :=
        match asString value.contextKey with
        | some key => if key.isEmpty then page.contextKey else key.take 512
        | none => page.contextKey
      pending := (sortBySequence pending).take MAX_DURABLE_EVENTS
      drafts
      finalizeRequested := isTrue value.finalizeRequested }

def adoptTrustedContextCursor (durable : Durable) : Durable :=
  let previousEventHashHex :=
    if durable.previousEventHashHex.isEmpty then page.context.previousEventHashHex
    else durable.previousEventHashHex
  let cursor := inferCursor durable.serverHighestSequence durable.serverLastEventHashHex
    previousEventHashHex durable.pending page.context.nextSequence
  { durable with
    nextSequence := max durable.nextSequence page.context.nextSequence
    previousEventHashHex
    serverHighestSequence := cursor.1
    serverLastEventHashHex := cursor.2 }

end Load

/-! ## What is loaded -/

section Sound

variable {sha256 : Bytes → Digest}

/-- No two events have the same sequence, and each has its own hash. -/
structure LoadedEvents (sha256 : Bytes → Digest) (pending : List PageEvent) : Prop where
  distinct : pending.Pairwise fun left right => left.sequence ≠ right.sequence
  hashed : ∀ event ∈ pending, event.Hashed sha256

lemma hashOrEmpty_normal (value : JsValue) : normalizeNonZeroHex (hashOrEmpty value) 32 = hashOrEmpty value := by
  simp only [hashOrEmpty]
  cases hv : nonZeroHexOf value 32 with
  | none => rfl
  | some text =>
    simp only [nonZeroHexOf, Option.filter_eq_some_iff, Option.map_eq_some_iff] at hv
    obtain ⟨⟨original, -, rfl⟩, -⟩ := hv
    exact normalizeNonZeroHex_idem original 32

variable {pending : List PageEvent}

lemma loadEvent_loaded (h : LoadedEvents sha256 pending)
    (value : Option StoredValue) : LoadedEvents sha256 (loadEvent sha256 pending value) := by
  simp only [loadEvent]
  split
  · exact h
  rename_i event he
  split
  · rename_i hn
    rw [List.find?_eq_none] at hn
    obtain ⟨stored, -, hv⟩ := Option.bind_eq_some_iff.mp he
    refine ⟨List.pairwise_append.mpr ⟨h.distinct, List.pairwise_singleton _ _, ?_⟩, ?_⟩
    · intro left hl right hr
      rw [List.mem_singleton.mp hr]
      simpa using hn left hl
    · intro found hf
      rcases List.mem_append.mp hf with hf | hf
      · exact h.hashed found hf
      · rw [List.mem_singleton.mp hf]
        exact ⟨(acceptedEvent_of_validStoredEvent hv).hash, (acceptedEvent_of_validStoredEvent hv).hashed⟩
  · split
    · exact ⟨h.distinct.sublist List.eraseP_sublist, fun found hf =>
        h.hashed found (List.mem_of_mem_eraseP hf)⟩
    · exact h

lemma foldl_loadEvent_loaded (values : List (Option StoredValue)) (h : LoadedEvents sha256 pending) :
    LoadedEvents sha256 (values.foldl (loadEvent sha256) pending) := by
  induction values generalizing pending with
  | nil => exact h
  | cons value rest ih => exact ih (loadEvent_loaded h value)

lemma sortBySequence_ordered (h : pending.Pairwise fun left right => left.sequence ≠ right.sequence) :
    (sortBySequence pending).Pairwise fun left right => left.sequence < right.sequence := by
  have hs : (sortBySequence pending).Pairwise fun left right => left.sequence ≤ right.sequence := by
    have : Std.Total fun left right : PageEvent => left.sequence ≤ right.sequence :=
      ⟨fun left right => Nat.le_total _ _⟩
    have : IsTrans PageEvent fun left right => left.sequence ≤ right.sequence :=
      ⟨fun _ _ _ => Nat.le_trans⟩
    exact List.pairwise_insertionSort _ pending
  have hd : (sortBySequence pending).Pairwise fun left right => left.sequence ≠ right.sequence :=
    (List.perm_insertionSort _ pending).symm.pairwise h fun hn => hn.symm
  exact (hs.and hd).imp fun h => Nat.lt_of_le_of_ne h.1 h.2

lemma inferCursor_le {highest nextSequence : ℕ} {lastHash previousHash : Utf16} (h : highest ≤ maxSafeInteger) :
    (inferCursor highest lastHash previousHash pending nextSequence).1 ≤ maxSafeInteger := by
  simp only [inferCursor]
  split
  · rename_i hi
    simp only [Bool.and_eq_true] at hi
    exact (isSafePositive_iff.mp hi.2).2
  · exact h

/-- **Whatever storage holds, the durable state that is loaded is sound.** -/
lemma loadDurableState_sound (page : ExamPage) (value : Option StoredState) :
    (loadDurableState sha256 page value).Sound sha256 := by
  cases value with
  | none => exact ⟨List.Pairwise.nil, by simp [loadDurableState], Nat.zero_le _, rfl⟩
  | some value =>
    have hl : LoadedEvents sha256 ((value.pending.take (MAX_DURABLE_EVENTS * 2)).foldl (loadEvent sha256) []) :=
      foldl_loadEvent_loaded _ ⟨List.Pairwise.nil, by simp⟩
    refine ⟨(sortBySequence_ordered hl.distinct).sublist (List.take_sublist _ _), ?_, ?_, hashOrEmpty_normal _⟩
    · intro event he
      exact hl.hashed event ((List.mem_insertionSort _).mp (List.mem_of_mem_take he))
    · simp only [loadDurableState]
      split
      · refine inferCursor_le ?_
        simp only [safeOrZero]
        cases hv : safePositive value.serverHighestSequence with
        | none => exact Nat.zero_le _
        | some number => exact (safePositive_eq_some hv).2
      · exact Nat.zero_le _

lemma adoptTrustedContextCursor_sound {durable : Durable} (page : ExamPage)
    (h : durable.Sound sha256) : (adoptTrustedContextCursor page durable).Sound sha256 := by
  refine ⟨h.ordered, h.hashed, inferCursor_le h.cursor, ?_⟩
  simp only [adoptTrustedContextCursor]
  split
  · exact page.context.previousNormal
  · exact h.previous

end Sound

end Nstu.Web
