import Mathlib.Data.List.Induction
import Mathlib.Tactic.IntervalCases
import Nstu.Web.Recovery

/-!
# The answers on the exam page

`state.answers` of `exam/web/app.js`: what `saveAnswer`, a reload and a state of the server make of it, the options
that `renderOptions` shows as selected, and the two tests for an answer, `hasAnswer` and `answerIsEmpty`.

An option is saved as a number.  `answer || ""` takes the number 0 for no answer, so the first option is lost on the
page until the server gives it back as a string.  A stored map is read back as it was written.
-/

namespace Nstu.Web

open Text

/-! ## Display -/

mutual

/-- `String`. -/
def stringOf : Json → Utf16
  | .null => ascii "null"
  | .boolean value => ascii (if value then "true" else "false")
  | .number text => text
  | .string text => text
  | .array items => (joinedItems items).drop 1
  | .object _ => ascii "[object Object]"

def joinedItems : List Json → Utf16
  | [] => []
  | .null :: rest => ascii "," ++ joinedItems rest
  | item :: rest => ascii "," ++ stringOf item ++ joinedItems rest

end

def indexText (index : ℕ) : Utf16 := (decimal index).map UInt16.ofNat

/-- `answer || ""`. -/
def orEmpty : Option Json → Json
  | none | some .null | some (.boolean false) => .string []
  | some (.number text) => if text = indexText 0 then .string [] else .number text
  | some value => value

/-- `hasAnswer`.  What `orEmpty` makes of other values than arrays is empty when its text is blank. -/
def hasAnswer : Option Json → Bool
  | some (.array items) => !items.isEmpty
  | answer => !answerIsEmpty (orEmpty answer)

/-- The `checked` of every option in `renderOptions`. -/
def checkedOptions (answer : Option Json) (options : List Utf16) : List Bool :=
  options.mapIdx fun index _ => stringOf (orEmpty answer) == indexText index

/-- `manifest.questions.filter`. -/
def answeredQuestions (page : ExamPage) (answers : Utf16 → Option Json) : List Question :=
  page.questions.filter fun item => hasAnswer (answers item.id)

/-! ## Changes -/

structure AnswerPage where
  state : PageState
  answers : Utf16 → Option Json
  /-- The item `answers` of the storage. -/
  stored : Utf16 → Option Json

/-- `saveAnswer`, with what the two writes to the storage give. -/
def saveAnswer (page : ExamPage) (draftStored answersStored : Bool) (shown : AnswerPage) (id : Utf16) (value : Json) :
    AnswerPage × Bool :=
  if utf8ByteLength (answerText value) > MAX_ANSWER_BYTES then (shown, false)
  else
    let state := queueAnswerDraft page draftStored shown.state id value
    if (page.questionById id).isNone || !draftStored then ({ shown with state }, false)
    else
      let answers := Function.update shown.answers id (some value)
      (⟨state, answers, if answersStored then answers else shown.stored⟩, answersStored)

def loadAnswerMap (page : ExamPage) (stored : Utf16 → Option Json) (id : Utf16) : Option Json :=
  if (page.questionById id).isNone then none
  else (stored id).filter fun value => utf8ByteLength (answerText value) ≤ MAX_ANSWER_BYTES

/-- What the last element with a property says. -/
def lastWritten {α β : Type} (key : α → Bool) (write : α → β) (list : List α) (before : β) : β :=
  list.foldl (fun value item => if key item then write item else value) before

def writesAnswer (id : Utf16) (event : PageEvent) : Bool :=
  !event.questionId.isEmpty && event.questionId == id && event.kind != .finalize

def eventAnswer (event : PageEvent) : Option Json :=
  if event.kind = .clear then none else some (.string event.answer)

def locallyPending (durable : Durable) (id : Utf16) : Bool :=
  durable.drafts.any (fun entry => entry.1 == id) ||
    durable.pending.any fun event => !event.questionId.isEmpty && event.questionId == id

/-- `nextAnswers[id]` in `applyStateResponse`, for the durable state after the repair. -/
def nextAnswers (durable : Durable) (recovered : List RecoveredAnswer) (answers : Utf16 → Option Json) (id : Utf16) :
    Option Json :=
  let authoritative := lastWritten (fun answer => answer.questionId == id && answer.kind != .clear)
    (fun answer => some (.string answer.answer)) recovered none
  let baseline := if locallyPending durable id then (answers id).or authoritative else authoritative
  let queued := lastWritten (writesAnswer id) eventAnswer durable.pending baseline
  lastWritten (fun entry => entry.1 == id) (fun entry => some entry.2.value) durable.drafts queued

/-- What happens to the page after an answer is saved. -/
inductive AnswerStep where
  | render
  /-- Drafts become events and events are confirmed. -/
  | queue (after : PageState)
  | reload (after : PageState)
  | recover (after : PageState) (recovered : List RecoveredAnswer) (answersStored : Bool)

/-- What the page shows after a step. -/
def AnswerStep.apply (page : ExamPage) (shown : AnswerPage) : AnswerStep → AnswerPage
  | .render => shown
  | .queue after => { shown with state := after }
  | .reload after => { shown with state := after, answers := loadAnswerMap page shown.stored }
  | .recover after recovered answersStored =>
    let answers := nextAnswers after.durable recovered shown.answers
    ⟨after, answers, if answersStored then answers else shown.stored⟩

/-! ## The saved option -/

/-- The option as it is saved, or as the server gives it back. -/
def IsOption (index : ℕ) (answer : Option Json) : Prop :=
  answer = some (.number (indexText index)) ∨ answer = some (.string (indexText index))

/-- The last draft, or else the last event, of the question is for this option, where there is one. -/
def QueueReturns (id : Utf16) (index : ℕ) (durable : Durable) : Prop :=
  match (durable.drafts.filter fun entry => entry.1 == id).getLast? with
  | some entry => IsOption index (some entry.2.value)
  | none => ∀ event ∈ (durable.pending.filter (writesAnswer id)).getLast?, IsOption index (eventAnswer event)

/-- The step returns the answer. -/
def AnswerStep.Returns (id : Utf16) (index : ℕ) : AnswerStep → Prop
  | .render | .queue _ | .reload _ => True
  | .recover after recovered _ => QueueReturns id index after.durable ∧ (locallyPending after.durable id = false →
      ∃ answer ∈ (recovered.filter fun answer => answer.questionId == id && answer.kind != .clear).getLast?,
        answer.answer = indexText index)

/-- The option is shown as given. -/
structure ShownAsGiven (page : ExamPage) (id : Utf16) (options : List Utf16) (index : ℕ) (shown : AnswerPage) :
    Prop where
  selected : checkedOptions (shown.answers id) options = options.mapIdx fun other _ => other == index
  listed : hasAnswer (shown.answers id) = true
  counted : ∀ item ∈ page.questions, item.id = id → item ∈ answeredQuestions page shown.answers
  telemetry : (shown.answers id).all answerIsEmpty = false

lemma lastWritten_eq {α β : Type} (key : α → Bool) (write : α → β) (list : List α) (before : β) :
    lastWritten key write list before = (((list.filter key).getLast?).map write).getD before := by
  induction list using List.reverseRecOn with
  | nil => rfl
  | append_singleton list item ih =>
    have hl : lastWritten key write (list ++ [item]) before =
        if key item then write item else lastWritten key write list before := List.foldl_concat ..
    rw [hl, ih, List.filter_append]
    cases hk : key item <;> simp [hk]

lemma indexText_injective : Function.Injective indexText := by
  intro a b h
  have hc : ∀ n, (indexText n).map UInt16.toNat = decimal n := fun n => by
    rw [indexText, List.map_map]
    refine (List.map_congr_left fun code hco => ?_).trans (List.map_id _)
    have := decimal_digit hco
    simp only [Function.comp, UInt16.toNat_ofNat', id]
    omega
  have hd : decimal a = decimal b := by rw [← hc, h, hc]
  exact Option.some.inj (by rw [← decimalValue_decimal a, hd, decimalValue_decimal])

lemma indexText_not_blank (index : ℕ) : (indexText index).all isWhiteSpace = false := by
  obtain ⟨code, rest, hd⟩ := List.exists_cons_of_ne_nil (decimal_ne_nil index)
  have hc := decimal_digit (hd ▸ List.mem_cons_self : code ∈ decimal index)
  have hn : isWhiteSpace (UInt16.ofNat code) = false := by
    obtain ⟨hl, hh⟩ := hc
    interval_cases code <;> rfl
  rw [indexText, hd, List.map_cons, List.all_cons, hn, Bool.false_and]

/-- **The two tests for an answer agree except at the number 0 and at `false`.** -/
lemma hasAnswer_eq_iff (answer : Option Json) : hasAnswer answer = !answer.all answerIsEmpty ↔
    answer ≠ some (.number (indexText 0)) ∧ answer ≠ some (.boolean false) := by
  rcases answer with _ | _ | (_ | _) | text | text | items | members
  case some.number =>
      by_cases ht : text = indexText 0 <;> simp [hasAnswer, orEmpty, answerIsEmpty, ht]
  all_goals simp [hasAnswer, orEmpty, answerIsEmpty]

variable {page : ExamPage} {id : Utf16} {index : ℕ} {shown : AnswerPage}

/-- The number 0 is lost; what else stands for the option shows it. -/
lemma shownAsGiven_iff {options : List Utf16} (h : IsOption index (shown.answers id)) :
    ShownAsGiven page id options index shown ↔ shown.answers id ≠ some (.number (indexText 0)) := by
  have hother : shown.answers id ≠ some (.boolean false) := by
    rcases h with h | h <;> simp [h]
  have htele : (shown.answers id).all answerIsEmpty = false := by
    rcases h with h | h
    · rw [h]
      rfl
    · rw [h]
      exact indexText_not_blank index
  have hlist := hasAnswer_eq_iff (shown.answers id)
  rw [htele, Bool.not_false, and_iff_left hother] at hlist
  refine ⟨fun hshown => hlist.mp hshown.listed, fun hzero => ⟨?_, hlist.mpr hzero, fun item hitem hid => ?_,
    htele⟩⟩
  · have htext : stringOf (orEmpty (shown.answers id)) = indexText index := by
      rcases h with h | h
      · rw [h, orEmpty, if_neg fun heq => hzero (by rw [h, heq]), stringOf]
      · simp [h, orEmpty, stringOf]
    simp only [checkedOptions, htext]
    refine List.ext_getElem (by simp) fun other _ _ => ?_
    simp [indexText_injective.eq_iff, eq_comm]
  · exact List.mem_filter.mpr ⟨hitem, by rw [hid]; exact hlist.mpr hzero⟩

/-! ## Runs -/

lemma isOption_nextAnswers {durable : Durable} {recovered : List RecoveredAnswer} {answers : Utf16 → Option Json}
    (hq : QueueReturns id index durable) (ha : IsOption index (answers id))
    (hr : locallyPending durable id = false →
      ∃ answer ∈ (recovered.filter fun answer => answer.questionId == id && answer.kind != .clear).getLast?,
        answer.answer = indexText index) : IsOption index (nextAnswers durable recovered answers id) := by
  simp only [nextAnswers, lastWritten_eq]
  rw [QueueReturns] at hq
  cases hd : (durable.drafts.filter fun entry => entry.1 == id).getLast? with
  | some entry =>
    rw [hd] at hq
    exact hq
  | none =>
    rw [hd] at hq
    simp only [Option.map_none, Option.getD_none]
    cases he : (durable.pending.filter (writesAnswer id)).getLast? with
    | some event => exact hq event he
    | none =>
      simp only [Option.map_none, Option.getD_none]
      split_ifs with hl
      · rcases ha with h | h
        · exact .inl (by rw [h, Option.some_or])
        · exact .inr (by rw [h, Option.some_or])
      · obtain ⟨answer, han, ht⟩ := hr (by simpa using hl)
        rw [Option.mem_def.mp han]
        exact .inr (by rw [← ht]; rfl)

/-- The page and its storage hold the option. -/
structure KeepsOption (page : ExamPage) (id : Utf16) (index : ℕ) (shown : AnswerPage) : Prop where
  answers : IsOption index (shown.answers id)
  stored : IsOption index (shown.stored id)
  question : (page.questionById id).isNone = false
  fits : utf8ByteLength (indexText index) ≤ MAX_ANSWER_BYTES

lemma saveAnswer_kept {draftStored answersStored : Bool}
    (h : (saveAnswer page draftStored answersStored shown id (.number (indexText index))).2) :
    KeepsOption page id index (saveAnswer page draftStored answersStored shown id (.number (indexText index))).1 ∧
      (saveAnswer page draftStored answersStored shown id (.number (indexText index))).1.answers id =
        some (.number (indexText index)) := by
  simp only [saveAnswer, answerText] at h ⊢
  by_cases hs : utf8ByteLength (indexText index) > MAX_ANSWER_BYTES
  · simp [hs] at h
  · by_cases hq : ((page.questionById id).isNone || !draftStored)
    · simp [hs, hq] at h
    · rw [if_neg hs, if_neg hq] at h ⊢
      have hst : answersStored := h
      subst hst
      simp only [Bool.or_eq_true, not_or, Bool.not_eq_true] at hq
      exact ⟨⟨.inl (Function.update_self ..), .inl (Function.update_self ..), hq.1, not_lt.mp hs⟩,
        Function.update_self ..⟩

lemma AnswerStep.kept {page : ExamPage} {id : Utf16} {index : ℕ} {step : AnswerStep} (hs : step.Returns id index)
    {shown : AnswerPage} (h : KeepsOption page id index shown) : KeepsOption page id index (step.apply page shown) := by
  cases step with
  | render => exact h
  | queue after => exact ⟨h.answers, h.stored, h.question, h.fits⟩
  | reload after =>
    have hl : loadAnswerMap page shown.stored id = shown.stored id := by
      rw [loadAnswerMap, if_neg (by simp [h.question])]
      rcases h.stored with hst | hst <;> simp [hst, answerText, h.fits]
    have ha : IsOption index (loadAnswerMap page shown.stored id) := hl.symm ▸ h.stored
    exact ⟨ha, h.stored, h.question, h.fits⟩
  | recover after recovered answersStored =>
    have hn := isOption_nextAnswers hs.1 h.answers hs.2
    exact ⟨hn, by cases answersStored; exacts [h.stored, hn], h.question, h.fits⟩

/-- By induction on the steps, with `KeepsOption` as the invariant.  No step brings the number 0 in for another option. -/
lemma kept_foldl (steps : List AnswerStep)
    (hs : ∀ step ∈ steps, step.Returns id index) (h : KeepsOption page id index shown) :
    KeepsOption page id index (steps.foldl (AnswerStep.apply page) shown) := by
  induction steps generalizing shown with
  | nil => exact h
  | cons step steps ih =>
    exact ih (fun later hl => hs later (List.mem_cons_of_mem _ hl))
      (AnswerStep.kept (hs step List.mem_cons_self) h)

/-- **A saved option is shown as given, whatever happens after, except the first one.** -/
theorem shownAsGiven_iff_ne_zero {page : ExamPage} {draftStored answersStored : Bool} {before : AnswerPage} {id : Utf16}
    {options : List Utf16} {index : ℕ}
    (hsaved : (saveAnswer page draftStored answersStored before id (.number (indexText index))).2 = true) :
    ((∀ steps : List AnswerStep, (∀ step ∈ steps, step.Returns id index) →
        ShownAsGiven page id options index (steps.foldl (AnswerStep.apply page)
          (saveAnswer page draftStored answersStored before id (.number (indexText index))).1)) ↔ index ≠ 0) ∧
      ∀ answer, hasAnswer answer = !answer.all answerIsEmpty ↔
        answer ≠ some (.number (indexText 0)) ∧ answer ≠ some (.boolean false) := by
  obtain ⟨hkept, hnumber⟩ := saveAnswer_kept hsaved
  refine ⟨⟨fun h hzero => ?_, fun hne steps hsteps => ?_⟩, hasAnswer_eq_iff⟩
  · exact (shownAsGiven_iff hkept.answers).mp (h [] (by simp)) (hzero ▸ hnumber)
  · have hrun := (kept_foldl steps hsteps hkept).answers
    refine (shownAsGiven_iff hrun).mpr fun hzero => ?_
    rw [hzero] at hrun
    rcases hrun with hrun | hrun
    · simp only [Option.some.injEq, Json.number.injEq] at hrun
      exact hne (indexText_injective hrun).symm
    · cases hrun

/-- The page before any answer. -/
def blankPage : AnswerPage :=
  ⟨startPage firstSha256 firstPage none, fun _ => none, fun _ => none⟩

/-- The second option of two. -/
theorem shownAsGiven_iff_ne_zero_second :
    (saveAnswer firstPage true true blankPage (ascii "q") (.number (indexText 1))).2 = true ∧
      ((∀ steps : List AnswerStep, (∀ step ∈ steps, step.Returns (ascii "q") 1) →
        ShownAsGiven firstPage (ascii "q") [ascii "yes", ascii "no"] 1 (steps.foldl (AnswerStep.apply firstPage)
          (saveAnswer firstPage true true blankPage (ascii "q") (.number (indexText 1))).1)) ↔ 1 ≠ 0) :=
  have hsaved : (saveAnswer firstPage true true blankPage (ascii "q") (.number (indexText 1))).2 = true := by
    decide +kernel
  ⟨hsaved, (shownAsGiven_iff_ne_zero hsaved).1⟩

/-- The first option of two is saved, and is not shown. -/
theorem first_option_not_shown :
    (saveAnswer firstPage true true blankPage (ascii "q") (.number (indexText 0))).2 = true ∧
      ¬ShownAsGiven firstPage (ascii "q") [ascii "yes", ascii "no"] 0
        (saveAnswer firstPage true true blankPage (ascii "q") (.number (indexText 0))).1 := by
  have hsaved : (saveAnswer firstPage true true blankPage (ascii "q") (.number (indexText 0))).2 = true := by
    decide +kernel
  obtain ⟨hkept, hnumber⟩ := saveAnswer_kept hsaved
  exact ⟨hsaved, fun hshown => (shownAsGiven_iff hkept.answers).mp hshown hnumber⟩

end Nstu.Web
