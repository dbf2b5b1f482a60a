import Nstu.Maintenance.Intent
import Nstu.Core.Map
import Mathlib.Data.Set.Function

/-!
# Single use of maintenance intents

`MaintenanceReplayProtector` and `authorize_maintenance_intent`: a signed intent is checked against
the credential, the clock, the local client and the current restore state, and is then used up.

What has been used is kept in two maps, one by intent and one by nonce, until the intent has expired.
`Paired` says how the two maps go together.  An entry that has not expired is kept by every call
(`getElem?_authorize`), and a call that finds it is refused; an entry that has expired is dropped, and
from then on its intent id and its nonce are free again.
-/

namespace Nstu.Maintenance

open Wire Control Std

/-! ## Used intents -/

def replayIntentKey (intent : MaintenanceIntent) : Bytes :=
  1 :: (intent.targetClient.toList ++ intent.intentId.toList)

def replayNonceKey (intent : MaintenanceIntent) : Bytes :=
  2 :: (intent.targetClient.toList ++ intent.nonce.toList)

structure Entry where
  expiresAt : UInt64
  nonceKey : Bytes
  deriving DecidableEq

structure MaintenanceReplayProtector where
  capacity : ℕ
  intents : ExtTreeMap Bytes Entry := ∅
  nonces : ExtTreeMap Bytes UInt64 := ∅

inductive MaintenanceReplayResult where
  | accepted
  | invalid
  | replayed
  | capacityExhausted
  deriving DecidableEq

namespace MaintenanceReplayProtector

/-- The constructor. -/
def create (capacity : ℕ) : MaintenanceReplayProtector :=
  { capacity := min (max capacity 1) kMaximumMaintenanceReplayEntries }

/-- One round of the loop over `intents_`. -/
def dropIfExpired (now : UInt64) (protector : MaintenanceReplayProtector) (item : Bytes × Entry) :
    MaintenanceReplayProtector :=
  if item.2.expiresAt < now then
    { protector with
      nonces := protector.nonces.erase item.2.nonceKey
      intents := protector.intents.erase item.1 }
  else protector

/-- The loop over `intents_`. -/
def dropExpired (now : UInt64) (protector : MaintenanceReplayProtector) : MaintenanceReplayProtector :=
  protector.intents.toList.foldl (dropIfExpired now) protector

/-- The two calls of `emplace`.  Neither finds its key taken, since both have been looked up. -/
def remember (protector : MaintenanceReplayProtector) (intent : MaintenanceIntent) :
    MaintenanceReplayProtector :=
  { protector with
    intents := protector.intents.insert (replayIntentKey intent) ⟨intent.expiresAtUnixSeconds, replayNonceKey intent⟩
    nonces := protector.nonces.insert (replayNonceKey intent) intent.expiresAtUnixSeconds }

def accept (protector : MaintenanceReplayProtector) (intent : MaintenanceIntent) (now : UInt64) :
    MaintenanceReplayProtector × MaintenanceReplayResult :=
  if !validateMaintenanceIntentShape intent || now = 0 || intent.expiresAtUnixSeconds < now then
    (protector, .invalid)
  else
    let protector := protector.dropExpired now
    if protector.intents.contains (replayIntentKey intent) ||
        protector.nonces.contains (replayNonceKey intent) then (protector, .replayed)
    else if protector.intents.size ≥ protector.capacity then (protector, .capacityExhausted)
    else (protector.remember intent, .accepted)

end MaintenanceReplayProtector

/-! ## Authorization -/

inductive MaintenanceAuthorizationResult where
  | authorized
  | invalidIntent
  | invalidCredential
  | credentialMismatch
  | authenticationFailed
  | invalidLocalContext
  | notYetValid
  | expired
  | targetMismatch
  | expectedStateMismatch
  | replayed
  | replayCapacityExhausted
  deriving DecidableEq

structure MaintenanceAuthorizationDecision where
  result : MaintenanceAuthorizationResult
  authorizedIntent : Option MaintenanceIntent := none
  deriving DecidableEq

def MaintenanceAuthorizationDecision.authorized (decision : MaintenanceAuthorizationDecision) : Bool :=
  decision.result = .authorized && decision.authorizedIntent.isSome

/-- What one call is given, the protector apart. -/
structure Call where
  credential : DeploymentAdminCredentialView
  signedIntent : SignedMaintenanceIntent
  localClientId : ClientId
  currentState : RestoreState
  now : UInt64

/-- The intent of a call. -/
def Call.intent (call : Call) : MaintenanceIntent := call.signedIntent.intent

section Calls

variable (hmac : Bytes → Bytes → Digest)

/-- What `authorize_maintenance_intent` checks before it turns to the protector: the first check
that fails, if one does. -/
def refusal (call : Call) : Option MaintenanceAuthorizationResult :=
  let intent := call.intent
  if !validateMaintenanceIntentShape intent then some .invalidIntent
  else if !validCredential call.credential then some .invalidCredential
  else if call.credential.keyId ≠ intent.deploymentKeyId then some .credentialMismatch
  else if !verifyMaintenanceIntentTag hmac call.credential call.signedIntent then
    some .authenticationFailed
  else if !nonZero call.localClientId.toList || !validateRestoreState call.currentState ||
      call.now = 0 then some .invalidLocalContext
  else if intent.issuedAtUnixSeconds > call.now ∧
      intent.issuedAtUnixSeconds - call.now > kMaintenanceClockSkewSeconds then some .notYetValid
  else if call.now > intent.expiresAtUnixSeconds then some .expired
  else if intent.targetClient ≠ call.localClientId then some .targetMismatch
  else if intent.expectedState ≠ call.currentState then some .expectedStateMismatch
  else none

/-- The `switch` at the end of `authorize_maintenance_intent`. -/
def decisionOf (intent : MaintenanceIntent) : MaintenanceReplayResult → MaintenanceAuthorizationDecision
  | .accepted => ⟨.authorized, some intent⟩
  | .replayed => ⟨.replayed, none⟩
  | .capacityExhausted => ⟨.replayCapacityExhausted, none⟩
  | .invalid => ⟨.invalidIntent, none⟩

def authorizeMaintenanceIntent (protector : MaintenanceReplayProtector) (call : Call) :
    MaintenanceReplayProtector × MaintenanceAuthorizationDecision :=
  match refusal hmac call with
  | some result => (protector, ⟨result, none⟩)
  | none =>
    let answer := protector.accept call.intent call.now
    (answer.1, decisionOf call.intent answer.2)

/-- The protector after some calls. -/
def afterCalls (protector : MaintenanceReplayProtector) (calls : List Call) :
    MaintenanceReplayProtector :=
  calls.foldl (fun protector call => (authorizeMaintenanceIntent hmac protector call).1) protector

end Calls

/-! ## The two maps -/

namespace MaintenanceReplayProtector

variable {protector : MaintenanceReplayProtector} {now : UInt64} {key : Bytes}

/-- The items of `intents_`. -/
def intentItems (protector : MaintenanceReplayProtector) : Set (Bytes × Entry) :=
  {item | protector.intents[item.1]? = some item.2}

/-- The items of `nonces_`. -/
def nonceItems (protector : MaintenanceReplayProtector) : Set (Bytes × UInt64) :=
  {item | protector.nonces[item.1]? = some item.2}

/-- The item of `nonces_` that an item of `intents_` stands with. -/
def nonceItem (item : Bytes × Entry) : Bytes × UInt64 := (item.2.nonceKey, item.2.expiresAt)

/-- The two maps are in bijection, and they are within the capacity. -/
structure Paired (protector : MaintenanceReplayProtector) : Prop where
  bijOn : Set.BijOn nonceItem protector.intentItems protector.nonceItems
  size_intents : protector.intents.size ≤ protector.capacity
  size_nonces : protector.nonces.size ≤ protector.capacity

variable {item : Bytes × Entry} {entry : Entry}

lemma dropIfExpired_intents : (dropIfExpired now protector item).intents[key]? = some entry ↔
      protector.intents[key]? = some entry ∧ (item.2.expiresAt < now → item.1 ≠ key) := by
  unfold dropIfExpired
  split
  next he =>
    simp only [ExtTreeMap.getElem?_erase, Std.compare_eq_iff_eq]
    by_cases h : item.1 = key <;> simp [h, he]
  next hl => simp [hl]

variable {time : UInt64}

lemma dropIfExpired_nonces : (dropIfExpired now protector item).nonces[key]? = some time ↔
      protector.nonces[key]? = some time ∧ (item.2.expiresAt < now → item.2.nonceKey ≠ key) := by
  unfold dropIfExpired
  split
  next he =>
    simp only [ExtTreeMap.getElem?_erase, Std.compare_eq_iff_eq]
    by_cases h : item.2.nonceKey = key <;> simp [h, he]
  next hl => simp [hl]

lemma dropIfExpired_sizes : (dropIfExpired now protector item).capacity = protector.capacity ∧
      (dropIfExpired now protector item).intents.size ≤ protector.intents.size := by
  unfold dropIfExpired
  split
  · exact ⟨rfl, ExtTreeMap.size_erase_le⟩
  · exact ⟨rfl, le_rfl⟩

lemma foldl_dropIfExpired (items : List (Bytes × Entry)) :
    (∀ entry, (items.foldl (dropIfExpired now) protector).intents[key]? = some entry ↔
      protector.intents[key]? = some entry ∧ ∀ item ∈ items, item.2.expiresAt < now → item.1 ≠ key) ∧
    (∀ time, (items.foldl (dropIfExpired now) protector).nonces[key]? = some time ↔
      protector.nonces[key]? = some time ∧ ∀ item ∈ items, item.2.expiresAt < now → item.2.nonceKey ≠ key) ∧
    (items.foldl (dropIfExpired now) protector).capacity = protector.capacity ∧
    (items.foldl (dropIfExpired now) protector).intents.size ≤ protector.intents.size := by
  induction items generalizing protector with
  | nil => simp
  | cons item items ih =>
    obtain ⟨hi, hn, hc, hs⟩ := @ih (dropIfExpired now protector item)
    refine ⟨?_, ?_, ?_, ?_⟩
    · intro entry
      rw [List.foldl_cons, hi, dropIfExpired_intents, List.forall_mem_cons, and_assoc]
    · intro time
      rw [List.foldl_cons, hn, dropIfExpired_nonces, List.forall_mem_cons, and_assoc]
    · exact hc.trans dropIfExpired_sizes.1
    · exact hs.trans dropIfExpired_sizes.2

lemma intents_dropExpired : (protector.dropExpired now).intents[key]? = some entry ↔
      protector.intents[key]? = some entry ∧ ¬ entry.expiresAt < now := by
  rw [dropExpired, (foldl_dropIfExpired _).1]
  constructor
  · rintro ⟨he, hk⟩
    refine ⟨he, ?_⟩
    intro hexpi
    exact hk (key, entry) (ExtTreeMap.mem_toList_iff_getElem?_eq_some.mpr he) hexpi rfl
  · rintro ⟨he, hl⟩
    refine ⟨he, ?_⟩
    rintro item hi hexpi rfl
    rw [KeyedMap.getElem?_of_mem_toList hi] at he
    exact hl (Option.some.inj he ▸ hexpi)

lemma nonces_dropExpired : (protector.dropExpired now).nonces[key]? = some time ↔ protector.nonces[key]? = some time ∧
        ∀ item ∈ protector.intentItems, item.2.expiresAt < now → item.2.nonceKey ≠ key := by
  rw [dropExpired, (foldl_dropIfExpired _).2.1]
  refine and_congr_right fun _ => forall_congr' fun item => ?_
  exact imp_congr_left ExtTreeMap.mem_toList_iff_getElem?_eq_some

lemma size_nonces_le (h : Set.SurjOn nonceItem protector.intentItems protector.nonceItems) :
    protector.nonces.size ≤ protector.intents.size := by
  have hs : protector.nonces.toList ⊆ protector.intents.toList.map nonceItem := by
    intro item hi
    obtain ⟨intent, hin, rfl⟩ := h (KeyedMap.getElem?_of_mem_toList hi)
    exact List.mem_map_of_mem (ExtTreeMap.mem_toList_iff_getElem?_eq_some.mpr hin)
  have hl := (List.subperm_of_subset (KeyedMap.nodup_toList protector.nonces) hs).length_le
  simpa using hl

lemma Paired.create (capacity : ℕ) : (create capacity).Paired where
  bijOn := by
    have hi : (MaintenanceReplayProtector.create capacity).intentItems = ∅ := by
      ext item
      simp [intentItems, MaintenanceReplayProtector.create]
    have hn : (MaintenanceReplayProtector.create capacity).nonceItems = ∅ := by
      ext item
      simp [nonceItems, MaintenanceReplayProtector.create]
    rw [hi, hn]
    exact Set.bijOn_empty _
  size_intents := by simp [MaintenanceReplayProtector.create]
  size_nonces := by simp [MaintenanceReplayProtector.create]

lemma Paired.eq_of_nonceKey (h : protector.Paired) {a b : Bytes × Entry}
    (ha : a ∈ protector.intentItems) (hb : b ∈ protector.intentItems) (hk : a.2.nonceKey = b.2.nonceKey) : a = b := by
  have ha' : protector.nonces[a.2.nonceKey]? = some a.2.expiresAt := h.bijOn.mapsTo ha
  have hb' : protector.nonces[b.2.nonceKey]? = some b.2.expiresAt := h.bijOn.mapsTo hb
  rw [hk, hb'] at ha'
  exact h.bijOn.injOn ha hb (Prod.ext hk (Option.some.inj ha').symm)

lemma Paired.dropExpired (h : protector.Paired) (now : UInt64) : (protector.dropExpired now).Paired := by
  have hsurj : Set.SurjOn nonceItem (protector.dropExpired now).intentItems
      (protector.dropExpired now).nonceItems := by
    rintro ⟨nonce, time⟩ hnonce
    obtain ⟨hnonce, hkept⟩ := nonces_dropExpired.mp hnonce
    obtain ⟨item, hitem, heq⟩ := h.bijOn.surjOn hnonce
    refine ⟨item, intents_dropExpired.mpr ⟨hitem, ?_⟩, heq⟩
    intro hexpi
    exact hkept item hitem hexpi (congrArg Prod.fst heq)
  have hsize : (protector.dropExpired now).intents.size ≤ (protector.dropExpired now).capacity := by
    obtain ⟨-, -, hcapa, hle⟩ :=
      @foldl_dropIfExpired protector now [] protector.intents.toList
    exact (hle.trans h.size_intents).trans hcapa.ge
  refine ⟨⟨?_, ?_, hsurj⟩, hsize, (size_nonces_le hsurj).trans hsize⟩
  · intro item hitem
    obtain ⟨hitem, hlive⟩ := intents_dropExpired.mp hitem
    refine nonces_dropExpired.mpr ⟨h.bijOn.mapsTo hitem, ?_⟩
    intro other hother hexpi hkey
    rw [h.eq_of_nonceKey hother hitem hkey] at hexpi
    exact hlive hexpi
  · intro a ha b hb heq
    exact h.bijOn.injOn (intents_dropExpired.mp ha).1 (intents_dropExpired.mp hb).1 heq

/-- Neither the intent nor its nonce is in use. -/
def Unused (protector : MaintenanceReplayProtector) (intent : MaintenanceIntent) : Prop :=
  protector.intents[replayIntentKey intent]? = none ∧ protector.nonces[replayNonceKey intent]? = none

variable {intent : MaintenanceIntent}

lemma intents_remember : (protector.remember intent).intents[key]? = some entry ↔
      replayIntentKey intent = key ∧ entry = ⟨intent.expiresAtUnixSeconds, replayNonceKey intent⟩ ∨
        replayIntentKey intent ≠ key ∧ protector.intents[key]? = some entry := by
  simp only [remember, ExtTreeMap.getElem?_insert, Std.compare_eq_iff_eq]
  by_cases h : replayIntentKey intent = key <;> simp [h, eq_comm]

lemma nonces_remember : (protector.remember intent).nonces[key]? = some time ↔
      replayNonceKey intent = key ∧ time = intent.expiresAtUnixSeconds ∨
        replayNonceKey intent ≠ key ∧ protector.nonces[key]? = some time := by
  simp only [remember, ExtTreeMap.getElem?_insert, Std.compare_eq_iff_eq]
  by_cases h : replayNonceKey intent = key <;> simp [h, eq_comm]

/-- The item of `intents_` that remembers an intent. -/
def itemOf (intent : MaintenanceIntent) : Bytes × Entry :=
  (replayIntentKey intent, ⟨intent.expiresAtUnixSeconds, replayNonceKey intent⟩)

lemma Unused.intentItems_remember (h : protector.Unused intent) :
    (protector.remember intent).intentItems = insert (itemOf intent) protector.intentItems := by
  ext ⟨key, entry⟩
  refine intents_remember.trans ?_
  constructor
  · rintro (⟨rfl, rfl⟩ | ⟨-, he⟩)
    · exact Set.mem_insert _ _
    · exact Set.mem_insert_of_mem _ he
  · rintro (heq | he)
    · exact .inl ⟨(congrArg Prod.fst heq).symm, congrArg Prod.snd heq⟩
    · refine .inr ⟨?_, he⟩
      rintro rfl
      exact absurd (h.1.symm.trans he) (by simp)

lemma Unused.nonceItems_remember (h : protector.Unused intent) : (protector.remember intent).nonceItems =
      insert (nonceItem (itemOf intent)) protector.nonceItems := by
  ext ⟨key, time⟩
  refine nonces_remember.trans ?_
  constructor
  · rintro (⟨rfl, rfl⟩ | ⟨-, ht⟩)
    · exact Set.mem_insert _ _
    · exact Set.mem_insert_of_mem _ ht
  · rintro (he | ht)
    · exact .inl ⟨(congrArg Prod.fst he).symm, congrArg Prod.snd he⟩
    · refine .inr ⟨?_, ht⟩
      rintro rfl
      exact absurd (h.2.symm.trans ht) (by simp)

lemma Paired.remember (h : protector.Paired)
    (hu : protector.Unused intent) (hr : protector.intents.size < protector.capacity) :
    (protector.remember intent).Paired := by
  have hf : nonceItem (itemOf intent) ∉ protector.nonceItems := by
    intro hm
    exact absurd (hu.2.symm.trans hm) (by simp)
  have hb : Set.BijOn nonceItem (protector.remember intent).intentItems (protector.remember intent).nonceItems := by
    rw [hu.intentItems_remember, hu.nonceItems_remember]
    exact h.bijOn.insert hf
  have hs : (protector.remember intent).intents.size ≤ (protector.remember intent).capacity :=
    ExtTreeMap.size_insert_le.trans hr
  exact ⟨hb, hs, (size_nonces_le hb.surjOn).trans hs⟩

/-! ## One call -/

/-- **What `accept` does.**  It refuses what has expired, and otherwise drops what has; it then
remembers the intent, or leaves it at that. -/
lemma accept_cases (protector : MaintenanceReplayProtector) (intent : MaintenanceIntent) (now : UInt64) :
    (protector.accept intent now).2 ≠ .accepted ∧ ((protector.accept intent now).1 = protector ∨
          (protector.accept intent now).1 = protector.dropExpired now) ∨
      (protector.accept intent now).2 = .accepted ∧ (protector.dropExpired now).Unused intent ∧
        (protector.dropExpired now).intents.size < (protector.dropExpired now).capacity ∧
        (protector.accept intent now).1 = (protector.dropExpired now).remember intent := by
  simp only [accept]
  split
  next => exact .inl ⟨by simp, .inl rfl⟩
  next =>
    split
    next => exact .inl ⟨by simp, .inr rfl⟩
    next hu =>
      split
      next => exact .inl ⟨by simp, .inr rfl⟩
      next hr =>
        refine .inr ⟨rfl, ?_, Nat.lt_of_not_le hr, rfl⟩
        simpa only [Unused, Bool.or_eq_true, not_or, ExtTreeMap.contains_eq_isSome_getElem?,
          Option.not_isSome_iff_eq_none] using hu

lemma Paired.accept (h : protector.Paired) (intent : MaintenanceIntent) (now : UInt64) :
    (protector.accept intent now).1.Paired := by
  rcases accept_cases protector intent now with ⟨-, he | he⟩ | ⟨-, hu, hr, he⟩
  · rwa [he]
  · rw [he]
    exact h.dropExpired now
  · rw [he]
    exact (h.dropExpired now).remember hu hr

lemma getElem?_accept (intent : MaintenanceIntent)
    (he : protector.intents[key]? = some entry) (hl : ¬ entry.expiresAt < now) :
    (protector.accept intent now).1.intents[key]? = some entry := by
  have hk := intents_dropExpired.mpr ⟨he, hl⟩
  rcases accept_cases protector intent now with ⟨-, heq | heq⟩ | ⟨-, hu, -, heq⟩
  · rwa [heq]
  · rwa [heq]
  · rw [heq]
    refine intents_remember.mpr (.inr ⟨?_, hk⟩)
    rintro rfl
    exact absurd (hu.1.symm.trans hk) (by simp)

end MaintenanceReplayProtector

section Calls

variable {hmac : Bytes → Bytes → Digest} {protector : MaintenanceReplayProtector} {call : Call}

/-- The tag is the one that the credential makes, the intent is for this client in this state, it
has not expired and it has not been issued too far ahead. -/
structure Checked (hmac : Bytes → Bytes → Digest) (call : Call) : Prop where
  tag : computeMaintenanceIntentTag hmac call.credential call.intent = some call.signedIntent.tag
  target : call.intent.targetClient = call.localClientId
  state : call.intent.expectedState = call.currentState
  live : call.now ≤ call.intent.expiresAtUnixSeconds
  issued : call.intent.issuedAtUnixSeconds.toNat ≤ call.now.toNat + kMaintenanceClockSkewSeconds.toNat

lemma tag_of_verify {credential : DeploymentAdminCredentialView} {signedIntent : SignedMaintenanceIntent}
    (h : verifyMaintenanceIntentTag hmac credential signedIntent) :
    computeMaintenanceIntentTag hmac credential signedIntent.intent = some signedIntent.tag := by
  unfold verifyMaintenanceIntentTag at h
  split at h
  next => cases h
  next expected he =>
    rw [he]
    simpa using h

lemma checked_of_refusal (h : refusal hmac call = none) : Checked hmac call := by
  simp only [refusal] at h
  split_ifs at h with hshape hcred hkey htag hcont hissu hexpi htarg hstate
  refine ⟨tag_of_verify (by simpa using htag), by simpa using htarg, by simpa using hstate,
    UInt64.not_lt.mp hexpi, ?_⟩
  rw [gt_iff_lt, gt_iff_lt, UInt64.lt_iff_toNat_lt, UInt64.lt_iff_toNat_lt] at hissu
  by_cases hahead : call.now.toNat < call.intent.issuedAtUnixSeconds.toNat
  · have hskew : ¬ kMaintenanceClockSkewSeconds.toNat <
        (call.intent.issuedAtUnixSeconds - call.now).toNat := fun h => hissu ⟨hahead, h⟩
    rw [UInt64.toNat_sub_of_le _ _ (UInt64.le_iff_toNat_le.mpr hahead.le)] at hskew
    omega
  · omega

lemma authorize_of_not_refused (h : refusal hmac call = none) : authorizeMaintenanceIntent hmac protector call =
      ((protector.accept call.intent call.now).1,
        decisionOf call.intent (protector.accept call.intent call.now).2) := by
  unfold authorizeMaintenanceIntent
  rw [h]

/-- An intent is refused, or authorised and remembered. -/
lemma authorize_cases (hmac : Bytes → Bytes → Digest) (protector : MaintenanceReplayProtector) (call : Call) :
    (authorizeMaintenanceIntent hmac protector call).2.authorized = false ∧
        (authorizeMaintenanceIntent hmac protector call).1 = protector ∨
      Checked hmac call ∧ (authorizeMaintenanceIntent hmac protector call).1 =
          (protector.accept call.intent call.now).1 ∧
        ((authorizeMaintenanceIntent hmac protector call).2.authorized ↔
          (protector.accept call.intent call.now).2 = .accepted) := by
  cases hr : refusal hmac call with
  | some result =>
    left
    unfold authorizeMaintenanceIntent
    rw [hr]
    simp [MaintenanceAuthorizationDecision.authorized]
  | none =>
    right
    rw [authorize_of_not_refused hr]
    refine ⟨checked_of_refusal hr, rfl, ?_⟩
    generalize (protector.accept call.intent call.now).2 = result
    cases result <;> simp [decisionOf, MaintenanceAuthorizationDecision.authorized]

lemma paired_authorize (h : protector.Paired) (call : Call) :
    (authorizeMaintenanceIntent hmac protector call).1.Paired := by
  rcases authorize_cases hmac protector call with ⟨-, he⟩ | ⟨-, he, -⟩
  · rwa [he]
  · rw [he]
    exact h.accept _ _

variable {entry : Entry}

/-- **An intent that has not expired is kept** by every call. -/
lemma getElem?_authorize {key : Bytes} (call : Call)
    (he : protector.intents[key]? = some entry) (hl : ¬ entry.expiresAt < call.now) :
    (authorizeMaintenanceIntent hmac protector call).1.intents[key]? = some entry := by
  rcases authorize_cases hmac protector call with ⟨-, heq⟩ | ⟨-, heq, -⟩
  · rwa [heq]
  · rw [heq]
    exact MaintenanceReplayProtector.getElem?_accept _ he hl

lemma remembered_of_authorized (h : (authorizeMaintenanceIntent hmac protector call).2.authorized) :
    (authorizeMaintenanceIntent hmac protector call).1.intents[replayIntentKey call.intent]? =
      some ⟨call.intent.expiresAtUnixSeconds, replayNonceKey call.intent⟩ := by
  rcases authorize_cases hmac protector call with ⟨hr, -⟩ | ⟨-, he, hi⟩
  · rw [hr] at h
    cases h
  · rcases MaintenanceReplayProtector.accept_cases protector call.intent call.now with
      ⟨hr, -⟩ | ⟨-, -, -, hre⟩
    · exact absurd (hi.mp h) hr
    · rw [he, hre]
      exact MaintenanceReplayProtector.intents_remember.mpr (.inl ⟨rfl, rfl⟩)

/-- The two intents are for one client and have the intent id or the nonce in common. -/
def SharesUse (first second : MaintenanceIntent) : Prop :=
  first.targetClient = second.targetClient ∧ (first.intentId = second.intentId ∨ first.nonce = second.nonce)

lemma expired_of_authorized (hpair : protector.Paired) {used : MaintenanceIntent}
    (hused : protector.intents[replayIntentKey used]? = some ⟨used.expiresAtUnixSeconds, replayNonceKey used⟩)
    (h : (authorizeMaintenanceIntent hmac protector call).2.authorized)
    (hshar : SharesUse used call.intent) : used.expiresAtUnixSeconds < call.now := by
  by_contra hlive
  have hkept := MaintenanceReplayProtector.intents_dropExpired.mpr ⟨hused, hlive⟩
  have hnonce : (protector.dropExpired call.now).nonces[replayNonceKey used]? = _ :=
    (hpair.dropExpired call.now).bijOn.mapsTo (show MaintenanceReplayProtector.itemOf used ∈ _ from hkept)
  rcases authorize_cases hmac protector call with ⟨hrefu, -⟩ | ⟨-, -, hiff⟩
  · rw [hrefu] at h
    cases h
  rcases MaintenanceReplayProtector.accept_cases protector call.intent call.now with
    ⟨hrefu, -⟩ | ⟨-, ⟨hinte, hnonce'⟩, -, -⟩
  · exact hrefu (hiff.mp h)
  obtain ⟨hclie, hid | hid⟩ := hshar
  · rw [replayIntentKey, hclie, hid] at hkept
    exact absurd (hinte.symm.trans hkept) (by simp)
  · rw [replayNonceKey, hclie, hid] at hnonce
    exact absurd (hnonce'.symm.trans hnonce) (by simp)

/-- The second protector holds nothing that the first does not. -/
def RemembersNothingNew (before after : MaintenanceReplayProtector) : Prop :=
  after.intentItems ⊆ before.intentItems ∧ after.nonceItems ⊆ before.nonceItems

lemma remembersNothingNew_of_refused (h : (authorizeMaintenanceIntent hmac protector call).2.authorized = false) :
    RemembersNothingNew protector (authorizeMaintenanceIntent hmac protector call).1 := by
  have hs : RemembersNothingNew protector protector := ⟨subset_rfl, subset_rfl⟩
  rcases authorize_cases hmac protector call with ⟨-, he⟩ | ⟨-, he, hi⟩
  · rwa [he]
  · rcases MaintenanceReplayProtector.accept_cases protector call.intent call.now with
      ⟨-, hp | hp⟩ | ⟨ha, -⟩
    · rwa [he, hp]
    · rw [he, hp]
      refine ⟨?_, ?_⟩
      · intro item hit
        exact (MaintenanceReplayProtector.intents_dropExpired.mp hit).1
      · intro item hit
        exact (MaintenanceReplayProtector.nonces_dropExpired.mp hit).1
    · rw [hi.mpr ha] at h
      cases h

/-! ## Runs -/

lemma paired_afterCalls (hp : protector.Paired) (calls : List Call) :
    (afterCalls hmac protector calls).Paired := by
  induction calls generalizing protector with
  | nil => exact hp
  | cons call calls ih => exact ih (paired_authorize hp call)

lemma getElem?_afterCalls {key : Bytes} {calls : List Call} (he : protector.intents[key]? = some entry)
    (hl : ∀ call ∈ calls, ¬ entry.expiresAt < call.now) :
    (afterCalls hmac protector calls).intents[key]? = some entry := by
  induction calls generalizing protector with
  | nil => exact he
  | cons call calls ih =>
    rw [List.forall_mem_cons] at hl
    exact ih (getElem?_authorize call he hl.1) hl.2

/-- The decision of a call after some others. -/
def decisionAfter (hmac : Bytes → Bytes → Digest) (capacity : ℕ) (before : List Call) (call : Call) :
    MaintenanceAuthorizationDecision :=
  (authorizeMaintenanceIntent hmac (afterCalls hmac (MaintenanceReplayProtector.create capacity) before) call).2

lemma expired_between {capacity : ℕ} {before between : List Call} {first second : Call}
    (hc : ∀ call ∈ between, call.now ≤ second.now)
    (hf : (decisionAfter hmac capacity before first).authorized)
    (hs : (decisionAfter hmac capacity (before ++ first :: between) second).authorized)
    (hsh : SharesUse first.intent second.intent) : first.intent.expiresAtUnixSeconds < second.now := by
  by_contra hl
  have hr := remembered_of_authorized hf
  rw [decisionAfter, afterCalls, List.foldl_append, List.foldl_cons] at hs
  refine hl (expired_of_authorized ?_ ?_ hs hsh)
  · exact paired_afterCalls (paired_authorize
      (paired_afterCalls (MaintenanceReplayProtector.Paired.create capacity) before) first) between
  · refine getElem?_afterCalls hr ?_
    intro call hca he
    exact hl (lt_of_lt_of_le he (hc call hca))

/-- **Maintenance intents are used at most once before they expire**, on every run whose clock does
not go back: of two authorized calls that share their use, the second comes after the first intent
has expired.  What is authorized has been checked, what is refused is not remembered, and the two
maps stay in bijection within the capacity. -/
theorem authorized_once (hmac : Bytes → Bytes → Digest) (capacity : ℕ) (calls : List Call)
    (hclock : calls.Pairwise fun a b => a.now ≤ b.now) :
    (∀ before first between second after, calls = before ++ first :: (between ++ second :: after) →
      (decisionAfter hmac capacity before first).authorized = true →
      (decisionAfter hmac capacity (before ++ first :: between) second).authorized = true →
      SharesUse first.intent second.intent →
      first.intent.expiresAtUnixSeconds < second.now ∧ first.intent ≠ second.intent) ∧
    (∀ before call after, calls = before ++ call :: after →
      ((decisionAfter hmac capacity before call).authorized = true → Checked hmac call) ∧
      ((decisionAfter hmac capacity before call).authorized = false →
        RemembersNothingNew (afterCalls hmac (.create capacity) before)
          (afterCalls hmac (.create capacity) (before ++ [call])))) ∧
    (∀ before, before <+: calls → (afterCalls hmac (.create capacity) before).Paired) := by
  have hchecked : ∀ (before : List Call) (call : Call),
      (decisionAfter hmac capacity before call).authorized = true → Checked hmac call := by
    intro before call h
    rcases authorize_cases hmac (afterCalls hmac (.create capacity) before) call with
      ⟨hrefused, -⟩ | ⟨hchecked, -⟩
    · rw [decisionAfter, hrefused] at h
      cases h
    · exact hchecked
  refine ⟨?_, ?_, ?_⟩
  · rintro before first between second after rfl hfirst hsecond hshares
    have hbetween : ∀ call ∈ between, call.now ≤ second.now := by
      have htail := (List.pairwise_cons.mp (List.pairwise_append.mp hclock).2.1).2
      intro call hcall
      exact (List.pairwise_append.mp htail).2.2 call hcall second List.mem_cons_self
    have hexpired := expired_between hbetween hfirst hsecond hshares
    refine ⟨hexpired, ?_⟩
    intro heq
    have hlive := (hchecked _ _ hsecond).live
    rw [← heq] at hlive
    exact absurd hexpired (UInt64.not_lt.mpr hlive)
  · rintro before call after -
    refine ⟨hchecked before call, ?_⟩
    intro hrefused
    rw [show afterCalls hmac (.create capacity) (before ++ [call]) =
      (authorizeMaintenanceIntent hmac (afterCalls hmac (.create capacity) before) call).1 from
        List.foldl_concat ..]
    exact remembersNothingNew_of_refused hrefused
  · rintro before -
    exact paired_afterCalls (MaintenanceReplayProtector.Paired.create capacity) before

end Calls

/-! ## A second use -/

section SecondUse

/-- A key of the least length. -/
def sampleCredential : DeploymentAdminCredentialView := ⟨1, List.replicate 32 7⟩

/-- An intent that is good for a hundred seconds. -/
def sampleIntent (now : UInt64) : MaintenanceIntent where
  intentId := Block.fill 16 1
  targetClient := Block.fill 16 2
  nonce := Block.fill 32 3
  deploymentKeyId := 1
  issuedAtUnixSeconds := now
  expiresAtUnixSeconds := now + 100
  policyRevision := 1

variable (hmac : Bytes → Bytes → Digest)

/-- The call with that intent at the time it is issued, signed with the key of the credential. -/
def sampleCall (now : UInt64) : Call where
  credential := sampleCredential
  signedIntent :=
    { intent := sampleIntent now
      tag := hmac sampleCredential.key
        (labelBytes maintenanceIntentLabel ++ encodeMaintenanceIntent (sampleIntent now)) }
  localClientId := Block.fill 16 2
  currentState := {}
  now

/-- What the checks of a call look at, the tag apart. -/
def Signable (now : UInt64) : Bool :=
  validateMaintenanceIntentShape (sampleIntent now) && !(encodeMaintenanceIntent (sampleIntent now)).isEmpty &&
    (labelBytes maintenanceIntentLabel ++ encodeMaintenanceIntent (sampleIntent now)).length ≤ maximumUlong &&
    now != 0 && now ≤ now + 100

lemma refusal_sampleCall {now : UInt64} (h : Signable now) : refusal hmac (sampleCall hmac now) = none := by
  simp only [Signable, Bool.and_eq_true, Bool.not_eq_true', decide_eq_true_eq, bne_iff_ne] at h
  obtain ⟨⟨⟨⟨hshape, hwire⟩, hleng⟩, hnow⟩, hlive⟩ := h
  have hcred : validCredential sampleCredential := by decide
  have hkey : sampleCredential.keyId = (sampleIntent now).deploymentKeyId := rfl
  have hstate : validateRestoreState {} = true := by decide
  have hclie : nonZero (Block.fill 16 2).toList := by decide
  have hhmac : ∀ message : Bytes, message.length ≤ maximumUlong →
      hmacSha256 hmac sampleCredential.key message = some (hmac sampleCredential.key message) := by
    intro message hmess
    have hlong : ¬ maximumUlong < message.length := by omega
    have hshort : ¬ maximumUlong < sampleCredential.key.length := by decide
    have hsome : sampleCredential.key.isEmpty = false := by decide
    rw [hmacSha256, if_neg]
    simp only [hsome, gt_iff_lt, hshort, hlong]
    simp
  have htag : verifyMaintenanceIntentTag hmac sampleCredential (sampleCall hmac now).signedIntent := by
    simp only [verifyMaintenanceIntentTag, computeMaintenanceIntentTag, sampleCall, hcred, hwire,
      hkey, hhmac _ hleng]
    simp
  have hahead : ¬ now < (sampleIntent now).issuedAtUnixSeconds := UInt64.lt_irrefl now
  have hexpi : ¬ (sampleIntent now).expiresAtUnixSeconds < now := UInt64.not_lt.mpr hlive
  have hinte : (sampleCall hmac now).intent = sampleIntent now := rfl
  have hpres : (sampleCall hmac now).credential = sampleCredential := rfl
  have htime : (sampleCall hmac now).now = now := rfl
  have htarg : (sampleIntent now).targetClient = Block.fill 16 2 := rfl
  have hlocal : (sampleCall hmac now).localClientId = Block.fill 16 2 := rfl
  have hexpe : (sampleIntent now).expectedState = {} := rfl
  have hcurr : (sampleCall hmac now).currentState = {} := rfl
  simp only [refusal, hinte, hpres, htime, hlocal, hcurr, htarg, hexpe, hshape,
    hcred, hkey, htag, hstate, hclie, hnow, hahead, hexpi]
  simp

lemma authorize_sampleCall (protector : MaintenanceReplayProtector) {now : UInt64} (h : Signable now) :
    authorizeMaintenanceIntent hmac protector (sampleCall hmac now) = ((protector.accept (sampleIntent now) now).1,
        decisionOf (sampleIntent now) (protector.accept (sampleIntent now) now).2) := by
  have hi : (sampleCall hmac now).intent = sampleIntent now := rfl
  have ht : (sampleCall hmac now).now = now := rfl
  rw [authorize_of_not_refused (refusal_sampleCall hmac h), hi, ht]

end SecondUse

/-- An intent is authorized, refused when it comes again, and still remembered. -/
theorem authorized_once_thrice :
    ((decisionAfter (fun _ _ => Block.zero 32) 4 [] (sampleCall (fun _ _ => Block.zero 32) 1000)).authorized = true ∧
      (decisionAfter (fun _ _ => Block.zero 32) 4 [sampleCall (fun _ _ => Block.zero 32) 1000]
        (sampleCall (fun _ _ => Block.zero 32) 1000)).result = .replayed) ∧
    (afterCalls (fun _ _ => Block.zero 32) (.create 4)
      [sampleCall (fun _ _ => Block.zero 32) 1000, sampleCall (fun _ _ => Block.zero 32) 1000,
        sampleCall (fun _ _ => Block.zero 32) 1050]).Paired :=
  ⟨by decide +kernel, (authorized_once (fun _ _ => Block.zero 32) 4 _ (by decide +kernel)).2.2 _
    List.prefix_rfl⟩

/-- Under any HMAC, two intents with one id and one nonce are both authorized, the second once the
first has expired. -/
theorem reused_after_expiry : ¬ ∃ hmac : Bytes → Bytes → Digest, ∀ (capacity : ℕ) (calls : List Call),
      (calls.Pairwise fun a b => a.now ≤ b.now) →
      ∀ before first between second after, calls = before ++ first :: (between ++ second :: after) →
        SharesUse first.intent second.intent → ¬ ((decisionAfter hmac capacity before first).authorized = true ∧
          (decisionAfter hmac capacity (before ++ first :: between) second).authorized = true) := by
  rintro ⟨hmac, h⟩
  have hclock : [sampleCall hmac 1000, sampleCall hmac 1101].Pairwise fun a b => a.now ≤ b.now := by
    simp [sampleCall]
  refine h 4 _ hclock [] _ [] _ [] rfl ⟨rfl, Or.inl rfl⟩ ⟨?_, ?_⟩
  · rw [decisionAfter, authorize_sampleCall hmac _ (by decide +kernel), afterCalls, List.foldl_nil]
    decide +kernel
  · rw [decisionAfter, authorize_sampleCall hmac _ (by decide +kernel)]
    simp only [afterCalls, List.nil_append, List.foldl_cons, List.foldl_nil,
      authorize_sampleCall hmac _ (show Signable 1000 = true by decide +kernel)]
    decide +kernel

end Nstu.Maintenance
