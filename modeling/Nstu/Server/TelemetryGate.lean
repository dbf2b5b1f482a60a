import Nstu.Server.ExamGate
import Nstu.Telemetry.BatchCodec
import Nstu.Telemetry.Messages

/-!
# The telemetry gate

`telemetry_is_eligible` of `control_plane.cpp` and its two callers.  An exam comes with a telemetry
authorization, which ends 25 hours later, on the wall clock or on the steady one, whichever is first.

The wall clock may be set back, so an authorization that is found to have ended is marked.  When a
client is authenticated anew the stored authorization is looked at, and the mark stays.  For a batch a
copy of it is looked at, and the mark is lost with the copy (**`staysExpired_iff`**).
-/

namespace Nstu.Server.TelemetryGate

open Wire Telemetry

def kTelemetryMaxActiveContextHours : ℕ := 25

def kTelemetryMaxActiveContextMs : ℕ := kTelemetryMaxActiveContextHours * 60 * 60 * 1000

/-- `telemetry_detail::ClockSnapshot`.  The steady clock counts nanoseconds. -/
structure ClockSnapshot where
  wallMs : UInt64
  steady : ℤ

/-- `telemetry_detail::Authorization`. -/
structure Authorization where
  createdWallMs : UInt64 := 0
  deadline : ℤ := 0
  expired : Bool := false
  deriving DecidableEq

/-- The authorization that `start_exam` installs. -/
def Authorization.startedAt (created : ClockSnapshot) : Authorization :=
  ⟨created.wallMs, created.steady + kTelemetryMaxActiveContextHours * 3600 * 1000000000, false⟩

/-- One of the two clocks says that the authorization has ended. -/
def Authorization.Ended (authorization : Authorization) (now : ClockSnapshot) : Prop :=
  authorization.deadline ≤ now.steady ∨ authorization.createdWallMs ≤ now.wallMs ∧
    kTelemetryMaxActiveContextMs ≤ (now.wallMs - authorization.createdWallMs).toNat

instance (authorization : Authorization) (now : ClockSnapshot) : Decidable (authorization.Ended now) :=
  inferInstanceAs (Decidable (_ ∨ _ ∧ _))

/-- `telemetry_is_eligible`, with the authorization as it leaves it. -/
def telemetryIsEligible (authorization : Authorization) (now : ClockSnapshot) : Authorization × Bool :=
  if authorization.expired || authorization.createdWallMs == 0 then (authorization, false)
  else if authorization.Ended now then ({ authorization with expired := true }, false)
  else (authorization, authorization.createdWallMs ≤ now.wallMs)

/-- An active exam with its telemetry authorization. -/
structure ActiveExamContext extends Server.ActiveExamContext where
  telemetry : Authorization

abbrev Contexts := Std.ExtTreeMap UInt64 ActiveExamContext

/-- `active_exam_for`: a copy of what is stored. -/
def activeExamFor (contexts : Contexts) (registryId : UInt64) : Option ActiveExamContext :=
  if registryId = 0 then none else contexts[registryId]?

def batchTuple (batch : TelemetryBatch) : ExamTuple :=
  ⟨batch.clientId, batch.packageDigest, batch.sessionId, batch.packageId, batch.candidateId⟩

/-- What `process_exam_telemetry_batch` finds about the authorization, where it comes to look at it. -/
def judge (contexts : Contexts) (registryId : UInt64) (clientId : ClientId) (batch : TelemetryBatch)
    (now : ClockSnapshot) : Option (Authorization × Bool) :=
  match activeExamFor contexts registryId with
  | none => none
  | some context =>
    if batch.clientId = clientId ∧ batchTuple batch = context.tuple then
      some (telemetryIsEligible context.telemetry now)
    else none

/-- `send_telemetry_enable_locked`: the context as it is left, and what is sent. -/
def sendTelemetryEnableLocked (examJournalPath : Bytes) (context : ActiveExamContext)
    (now : ClockSnapshot) : ActiveExamContext × Option TelemetryEnable :=
  if examJournalPath.isEmpty then (context, none)
  else
    let (telemetry, eligible) := telemetryIsEligible context.telemetry now
    ({ context with telemetry },
      if eligible then
        some ⟨context.tuple.packageId, context.tuple.packageDigest, context.tuple.clientId,
          context.tuple.sessionId, context.tuple.candidateId, now.wallMs⟩
      else none)

/-- The end of `process_auth_proof`, where a client has been authenticated. -/
def publishAuthenticated (examJournalPath : Bytes) (contexts : Contexts) (registryId : UInt64)
    (now : ClockSnapshot) : Contexts :=
  if examJournalPath.isEmpty then contexts
  else contexts.modify registryId fun context =>
    (sendTelemetryEnableLocked examJournalPath context now).1

/-! ## Runs -/

inductive Event where
  | batch (registryId : UInt64) (clientId : ClientId) (payload : Bytes) (now : ClockSnapshot)
  | authenticated (registryId : UInt64) (now : ClockSnapshot)

section Runs

variable (examJournalPath : Bytes)

def step (contexts : Contexts) : Event → Contexts
  | .batch .. => contexts
  | .authenticated registryId now => publishAuthenticated examJournalPath contexts registryId now

def afterEvents (contexts : Contexts) (events : List Event) : Contexts :=
  events.foldl (step examJournalPath) contexts

/-- A batch for which the authorization of a client is looked at, with what is found. -/
def Judged (contexts : Contexts) (registryId : UInt64) (event : Event) (found : Authorization × Bool) :
    Prop :=
  ∃ clientId payload now batch, event = .batch registryId clientId payload now ∧
    decodeTelemetryBatch payload = .ok batch ∧ judge contexts registryId clientId batch now = some found

/-- **Expired stays expired.**  After a batch for which the authorization was found to have expired there
is none for which it is found to be eligible. -/
def StaysExpired (contexts : Contexts) (registryId : UInt64) (events : List Event) : Prop :=
  ∀ before first middle second after, events = before ++ first :: (middle ++ second :: after) →
    ∀ found found', Judged (afterEvents examJournalPath contexts before) registryId first found →
      found.1.expired = true →
      Judged (afterEvents examJournalPath contexts (before ++ first :: middle)) registryId second found' →
      found'.2 = false

/-- An event at which a batch of the exam comes in, at the given time. -/
def Event.ComesIn (event : Event) (registryId : UInt64) (tuple : ExamTuple) (now : ClockSnapshot) : Prop :=
  ∃ payload batch, event = .batch registryId tuple.clientId payload now ∧
    decodeTelemetryBatch payload = .ok batch ∧ batchTuple batch = tuple

/-- The client is authenticated when the authorization has ended. -/
def Event.marks (registryId : UInt64) (authorization : Authorization) : Event → Bool
  | .batch .. => false
  | .authenticated id now => id == registryId && decide (authorization.Ended now)

/-- The stored authorization is marked: the server, which keeps a journal, has authenticated the client
when it had ended. -/
def marked (registryId : UInt64) (authorization : Authorization) (events : List Event) : Bool :=
  !examJournalPath.isEmpty && events.any (Event.marks registryId authorization)

/-- The clock is not set back: where a batch comes in after the end of the authorization and another
one later, but within its time, the client has been authenticated after the end before that one. -/
def NotSetBack (registryId : UInt64) (tuple : ExamTuple) (authorization : Authorization)
    (events : List Event) : Prop :=
  authorization.createdWallMs ≠ 0 → ∀ before first middle second after,
    events = before ++ first :: (middle ++ second :: after) →
      ∀ now now', first.ComesIn registryId tuple now → authorization.Ended now →
        second.ComesIn registryId tuple now' → ¬ authorization.Ended now' →
        authorization.createdWallMs ≤ now'.wallMs →
        marked examJournalPath registryId authorization (before ++ first :: middle) = true

end Runs

/-! ## What is found -/

section Found

variable {authorization : Authorization} {registryId : UInt64} {contexts : Contexts}
  {context : ActiveExamContext}

lemma expired_telemetryIsEligible (h : authorization.createdWallMs ≠ 0) (mark : Bool) (now : ClockSnapshot) :
    (telemetryIsEligible { authorization with expired := mark } now).1 =
      { authorization with expired := mark || decide (authorization.Ended now) } := by
  cases mark with
  | true => rfl
  | false =>
    simp only [telemetryIsEligible, Bool.false_or, beq_eq_false_iff_ne.mpr h, Bool.false_eq_true, if_false]
    by_cases he : authorization.Ended now
    · rw [if_pos (show Authorization.Ended { authorization with expired := false } now from he),
        decide_eq_true he]
    · rw [if_neg (show ¬ Authorization.Ended { authorization with expired := false } now from he),
        decide_eq_false he]

lemma eligible_telemetryIsEligible_iff (h : authorization.createdWallMs ≠ 0) (mark : Bool) (now : ClockSnapshot) :
    (telemetryIsEligible { authorization with expired := mark } now).2 ↔
      mark = false ∧ ¬ authorization.Ended now ∧ authorization.createdWallMs ≤ now.wallMs := by
  cases mark with
  | true => simp [telemetryIsEligible]
  | false =>
    simp only [telemetryIsEligible, Bool.false_or, beq_eq_false_iff_ne.mpr h, Bool.false_eq_true, if_false, true_and]
    by_cases he : authorization.Ended now
    · rw [if_pos (show Authorization.Ended { authorization with expired := false } now from he)]
      simp [he]
    · rw [if_neg (show ¬ Authorization.Ended { authorization with expired := false } now from he)]
      simp [he]

lemma telemetryIsEligible_of_zero (h : authorization.createdWallMs = 0) (now : ClockSnapshot) :
    telemetryIsEligible authorization now = (authorization, false) := by
  simp [telemetryIsEligible, h]

lemma judged_iff (hr : registryId ≠ 0) (hs : contexts[registryId]? = some context)
    {event : Event} {found : Authorization × Bool} :
    Judged contexts registryId event found ↔ ∃ now, event.ComesIn registryId context.tuple now ∧
        found = telemetryIsEligible context.telemetry now := by
  have ha : activeExamFor contexts registryId = some context := by
    rw [activeExamFor, if_neg hr, hs]
  constructor
  · rintro ⟨clientId, payload, now, batch, rfl, hd, hj⟩
    simp only [judge, ha] at hj
    split at hj
    · rename_i hm
      obtain ⟨rfl, ht⟩ := hm
      refine ⟨now, ⟨payload, batch, ?_, hd, ht⟩, (Option.some.inj hj).symm⟩
      rw [← ht]
      rfl
    · contradiction
  · rintro ⟨now, ⟨payload, batch, rfl, hd, ht⟩, rfl⟩
    refine ⟨_, payload, now, batch, rfl, hd, ?_⟩
    simp only [judge, ha]
    exact if_pos ⟨congrArg ExamTuple.clientId ht, ht⟩

end Found

/-! ## The mark over a run -/

section Marks

variable {examJournalPath : Bytes} {registryId : UInt64} {contexts : Contexts}
  {context : ActiveExamContext} {authorization : Authorization}

/-- The context of the exam, with the mark as given. -/
def withMark (context : ActiveExamContext) (authorization : Authorization) (mark : Bool) :
    ActiveExamContext :=
  { context with telemetry := { authorization with expired := mark } }

variable {mark : Bool}

/-- **One event** sets the mark or leaves it. -/
lemma step_marked (h : authorization.createdWallMs ≠ 0) (event : Event)
    (hs : contexts[registryId]? = some (withMark context authorization mark)) :
    (step examJournalPath contexts event)[registryId]? = some (withMark context authorization
        (mark || marked examJournalPath registryId authorization [event])) := by
  cases event with
  | batch => simpa [step, marked, Event.marks] using hs
  | authenticated id now =>
    rw [step, publishAuthenticated]
    split
    · rename_i he
      simpa [marked, he] using hs
    · rename_i hp
      rw [Std.ExtTreeMap.getElem?_modify]
      by_cases hi : id = registryId
      · subst hi
        have hm : marked examJournalPath id authorization [.authenticated id now] =
            decide (authorization.Ended now) := by
          simp [marked, hp, Event.marks]
        rw [if_pos (Std.compare_eq_iff_eq.mpr rfl), hs, Option.map_some, hm,
          sendTelemetryEnableLocked, if_neg hp]
        simp only [withMark, expired_telemetryIsEligible h]
      · rw [if_neg (fun hc => hi (Std.compare_eq_iff_eq.mp hc)), hs]
        have hm : marked examJournalPath registryId authorization [.authenticated id now] = false := by
          simp [marked, Event.marks, hi]
        rw [hm, Bool.or_false]

/-- **Any events**: the mark is set if and only if one of them has set it. -/
lemma afterEvents_marked (h : authorization.createdWallMs ≠ 0) (events : List Event)
    (hs : contexts[registryId]? = some (withMark context authorization mark)) :
    (afterEvents examJournalPath contexts events)[registryId]? = some (withMark context authorization
        (mark || marked examJournalPath registryId authorization events)) := by
  induction events generalizing contexts mark with
  | nil => simpa [afterEvents, marked] using hs
  | cons event events ih =>
    rw [afterEvents, List.foldl_cons]
    refine (ih (step_marked h event hs)).trans ?_
    simp [marked, Bool.and_or_distrib_left, Bool.or_assoc]

lemma afterEvents_of_zero (h : context.telemetry.createdWallMs = 0) (events : List Event)
    (hs : contexts[registryId]? = some context) :
    (afterEvents examJournalPath contexts events)[registryId]? = some context := by
  induction events generalizing contexts with
  | nil => exact hs
  | cons event events ih =>
    refine ih ?_
    cases event with
    | batch => exact hs
    | authenticated id now =>
      rw [step, publishAuthenticated]
      split
      · exact hs
      · rename_i hp
        rw [Std.ExtTreeMap.getElem?_modify]
        split
        · rename_i hi
          rw [Std.compare_eq_iff_eq.mp hi, hs, Option.map_some, sendTelemetryEnableLocked,
            if_neg hp, telemetryIsEligible_of_zero h]
        · exact hs

lemma marked_append_left {before after : List Event}
    (h : marked examJournalPath registryId authorization (before ++ after) = false) :
    marked examJournalPath registryId authorization before = false := by
  simp only [marked, List.any_append, Bool.and_or_distrib_left, Bool.or_eq_false_iff] at h
  exact h.1

end Marks

/-- **When expired stays expired**: if and only if the clock is not set back into the time of the
authorization between two batches, or the client is authenticated in the meantime. -/
theorem staysExpired_iff {examJournalPath : Bytes} {registryId : UInt64} {contexts : Contexts}
    {context : ActiveExamContext} {created : ClockSnapshot} (hregistered : registryId ≠ 0)
    (hstored : contexts[registryId]? = some context)
    (hcreated : context.telemetry = .startedAt created) (events : List Event) :
    StaysExpired examJournalPath contexts registryId events ↔
      NotSetBack examJournalPath registryId context.tuple (.startedAt created) events := by
  by_cases hzero : (Authorization.startedAt created).createdWallMs = 0
  · constructor
    · intro _ hne
      exact absurd hzero hne
    · intro _ before first middle second after _ found found' hfound hexpired
      rw [← hcreated] at hzero
      obtain ⟨now, -, rfl⟩ := (judged_iff hregistered (afterEvents_of_zero hzero before hstored)).mp hfound
      rw [telemetryIsEligible_of_zero hzero, hcreated] at hexpired
      exact absurd hexpired (by simp [Authorization.startedAt])
  have hmark : contexts[registryId]? = some (withMark context (.startedAt created) false) := by
    rw [hstored, withMark, Option.some.injEq]
    cases context
    rw [ActiveExamContext.mk.injEq]
    exact ⟨rfl, hcreated⟩
  have hjudged : ∀ before event found, Judged (afterEvents examJournalPath contexts before) registryId event found ↔
        ∃ now, event.ComesIn registryId context.tuple now ∧ found = telemetryIsEligible
          { Authorization.startedAt created with
            expired := marked examJournalPath registryId (.startedAt created) before } now := by
    intro before event found
    exact judged_iff hregistered (afterEvents_marked hzero before hmark)
  constructor
  · intro h _ before first middle second after hsplit now now' hfirst hended hsecond hwithin hlater
    by_contra hunmarked
    rw [Bool.not_eq_true] at hunmarked
    have hrefused := h before first middle second after hsplit _ _
      ((hjudged before first _).mpr ⟨now, hfirst, rfl⟩) (by
        rw [expired_telemetryIsEligible hzero, decide_eq_true hended, Bool.or_true])
      ((hjudged _ second _).mpr ⟨now', hsecond, rfl⟩)
    rw [← Bool.not_eq_true, eligible_telemetryIsEligible_iff hzero] at hrefused
    exact hrefused ⟨hunmarked, hwithin, hlater⟩
  · intro h before first middle second after hsplit found found' hfound hexpired hfound'
    obtain ⟨now, hfirst, rfl⟩ := (hjudged before first found).mp hfound
    obtain ⟨now', hsecond, rfl⟩ := (hjudged _ second found').mp hfound'
    by_contra heligible
    rw [Bool.not_eq_false, eligible_telemetryIsEligible_iff hzero] at heligible
    obtain ⟨hunmarked, hwithin, hlater⟩ := heligible
    rw [expired_telemetryIsEligible hzero, marked_append_left hunmarked, Bool.false_or,
      decide_eq_true_eq] at hexpired
    rw [h hzero before first middle second after hsplit now now' hfirst hexpired hsecond hwithin hlater]
      at hunmarked
    contradiction

/-! ## A wall clock that is set back -/

def sampleBatch : TelemetryBatch :=
  ⟨[112], Block.fill 32 1, Block.fill 16 2, Block.fill 16 3, [99], Block.fill 16 4, 1, 1000,
    [⟨.collectorStarted, .native, 1, [], 0, 0, 0, 1000, 0, 0, .none⟩]⟩

/-- An exam that was started when the wall clock showed its first millisecond. -/
def sampleContext : ActiveExamContext :=
  { tuple := batchTuple sampleBatch, telemetry := .startedAt ⟨1, 0⟩ }

def batchAt (hour : ℕ) : Event :=
  .batch 1 (Block.fill 16 2) (encodeTelemetryBatch sampleBatch) ⟨.ofNat (1 + hour * 3600000), 0⟩

lemma decode_sampleBatch : decodeTelemetryBatch (encodeTelemetryBatch sampleBatch) = .ok sampleBatch :=
  decodeTelemetryBatch_encodeTelemetryBatch (by decide +kernel)

/-- The clock is set back from hour 26 to hour 24, after the client has been authenticated. -/
theorem staysExpired_authenticated : StaysExpired [47] {(1, sampleContext)} 1
    [batchAt 26, .authenticated 1 ⟨.ofNat 93600001, 0⟩, batchAt 24] := by
  have hiff := @staysExpired_iff [47] 1 {(1, sampleContext)} sampleContext ⟨1, 0⟩ (by decide) rfl rfl
  refine (hiff _).mpr ?_
  intro _ before first middle second after hsplit now now' hfirst _ hsecond
  obtain ⟨payload, batch, rfl, -⟩ := hfirst
  obtain ⟨payload', batch', rfl, -⟩ := hsecond
  rcases before with _ | ⟨event, _ | ⟨event', before⟩⟩
  · rcases middle with _ | ⟨event, _ | ⟨event', middle⟩⟩
    · simp at hsplit
    · simp only [List.nil_append, List.cons_append, List.cons.injEq] at hsplit
      obtain ⟨-, rfl, -⟩ := hsplit
      intro _ _
      rfl
    · simp at hsplit
  · simp at hsplit
  · have hlength := congrArg List.length hsplit
    simp at hlength
    omega

/-- Without that, the batch of hour 24 is found to be eligible after that of hour 26 was not. -/
theorem not_staysExpired_setBack : ¬ StaysExpired [47] {(1, sampleContext)} 1 [batchAt 26, batchAt 24] := by
  intro h
  have hrefused := h [] (batchAt 26) [] (batchAt 24) [] rfl _ _
    ⟨_, _, _, _, rfl, decode_sampleBatch, rfl⟩ (by decide) ⟨_, _, _, _, rfl, decode_sampleBatch, rfl⟩
  revert hrefused
  decide

end Nstu.Server.TelemetryGate
