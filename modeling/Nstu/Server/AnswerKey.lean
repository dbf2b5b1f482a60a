import Nstu.Server.Grader
import Mathlib.Data.List.Dedup

/-!
# Answer keys

`parse_answer_key_json` of `exam_grader.cpp`, which looks for the names of fields in the text, wherever
they stand.  `strtod` and the two constants of type `double` are a parameter.

A search leaves what is behind its place, so that `npos` is `none` and a later place is a shorter rest.
-/

namespace Nstu.Server.Grading

open Wire CType List
open ItemGradeResult (pending questionId)

/-- `text.find`: the text from the first such place on. -/
def textFrom (needle : Bytes) : Bytes → Option Bytes
  | [] => none
  | byte :: rest => if needle.isPrefixOf (byte :: rest) then some (byte :: rest) else textFrom needle rest

def textAfter (needle text : Bytes) : Option Bytes := (textFrom needle text).map fun rest => rest.drop needle.length

/-- The text up to the next `"`, and what is behind that. -/
def upToQuote (text : Bytes) : Option (Bytes × Bytes) :=
  (textAfter [0x22] text).map fun rest => (text.takeWhile (· ≠ 0x22), rest)

/-- What is behind the colon of a field. -/
def fieldValue (json : Bytes) (key : String) : Option Bytes :=
  (textAfter ([0x22] ++ literal key ++ [0x22]) json).bind (textAfter [0x3a])

def extractJsonString (json : Bytes) (key : String) : Bytes :=
  ((((fieldValue json key).bind (textAfter [0x22])).bind upToQuote).map Prod.fst).getD []

/-- `std::strtoll(text, &end, 10)`, where the text starts with a digit or a minus. -/
def strtoll (text : Bytes) : ℤ :=
  let negative := text.head? = some 0x2d
  let digits := (if negative then text.tail else text).takeWhile isDigit
  let value : ℤ := digits.foldl (fun value digit => 10 * value + (digit.toNat - 0x30 : ℕ)) 0
  if negative then max (-2 ^ 63) (-value) else min (2 ^ 63 - 1) value

/-- The text of a number, where there is one that consists of the given bytes. -/
def numberText (json : Bytes) (key : String) (allowed : UInt8 → Bool) : Option Bytes :=
  (((fieldValue json key).map fun rest => rest.dropWhile fun byte => isSpaceByte byte || byte = 0x22).filter
    fun rest => rest.head?.any allowed)

def extractJsonInt (json : Bytes) (key : String) (default : ℤ) : ℤ :=
  ((numberText json key fun byte => isDigit byte || byte = 0x2d).map strtoll).getD default

def extractJsonBool (json : Bytes) (key : String) (default : Bool) : Bool :=
  match fieldValue json key with
  | none => default
  | some rest =>
    match textFrom (literal "true") rest, textFrom (literal "false") rest with
    | some yes, some no => decide (no.length < yes.length)
    | some _, none => true
    | none, some _ => false
    | none, none => default

/-- The loop of `extract_json_string_array`, with as many rounds as the text has bytes. -/
def quotedTexts : ℕ → Bytes → List Bytes
  | 0, _ => []
  | rounds + 1, text =>
    match (textAfter [0x22] text).bind upToQuote with
    | none => []
    | some (quoted, rest) => quoted :: quotedTexts rounds rest

def extractJsonStringArray (json : Bytes) (key : String) : List Bytes :=
  match (textAfter ([0x22] ++ literal key ++ [0x22]) json).bind (textFrom [0x5b]) with
  | none => []
  | some rest =>
    if (textFrom [0x5d] rest).isNone then []
    else
      let content := (rest.takeWhile (· ≠ 0x5d)).drop 1
      quotedTexts content.length content

section Keys

variable {Double : Type}

/-- `strtod`, and the numbers `0.0` and `1e-4`. -/
structure DoubleReader (Double : Type) where
  strtod : Bytes → Double
  zero : Double
  epsilon : Double

variable (reader : DoubleReader Double)

def extractJsonDouble (json : Bytes) (key : String) (default : Double) : Double :=
  ((numberText json key fun byte =>
    isDigit byte || [0x2e, 0x2d, 0x65, 0x45, 0x2b].contains byte).map reader.strtod).getD default

/-- One round of the loop over the items. -/
def readItem (json : Bytes) : AnswerKeyItem Double :=
  let id := extractJsonString json "id"
  let questionType := extractJsonString json "type"
  let accepted := extractJsonStringArray json "accepted"
  let acceptedAnswers := if accepted.isEmpty then extractJsonStringArray json "accepted_answers" else accepted
  let single := extractJsonString json "accepted_answer"
  let numeric := (textFrom (literal "\"numeric\"") json).isSome
  let type := if questionType.isEmpty then literal "multiple_choice" else questionType
  { questionId := if id.isEmpty then extractJsonString json "question_id" else id
    questionType := type
    points := UInt32.ofNat ((extractJsonInt json "points" 1) % 2 ^ 32).toNat
    acceptedAnswers :=
      if acceptedAnswers.isEmpty && !single.isEmpty then [single] else acceptedAnswers
    caseSensitive := extractJsonBool json "case_sensitive" false
    trimWhitespace := extractJsonBool json "trim_whitespace" true
    numericTolerance := numeric
    numericValue := if numeric then extractJsonDouble reader json "numeric" reader.zero else reader.zero
    numericEpsilon := if numeric then extractJsonDouble reader json "epsilon" reader.epsilon else reader.epsilon
    requiresManualReview := type = literal "essay" || extractJsonBool json "manual_review" false }

/-- What is behind the brace that closes the given number of open ones. -/
def afterObject : Bytes → ℕ → Option Bytes
  | text, 0 => some text
  | [], _ + 1 => none
  | byte :: rest, depth + 1 =>
    if byte = 0x7b then afterObject rest (depth + 2)
    else if byte = 0x7d then afterObject rest depth
    else afterObject rest (depth + 1)

/-- The loop over the items, with as many rounds as the text has bytes. -/
def readItems : ℕ → Bytes → Except String (List (AnswerKeyItem Double))
  | 0, _ => .ok []
  | rounds + 1, text =>
    match textFrom [0x7b] text with
    | none => .ok []
    | some object =>
      if (textFrom [0x5d] text).any fun rest => object.length < rest.length then .ok []
      else match afterObject object.tail 1 with
      | none => .error "unbalanced braces in items array"
      | some rest => do
        let item := readItem reader (object.take (object.length - rest.length))
        let items ← readItems rounds rest
        return if item.questionId.isEmpty then items else item :: items

def parseAnswerKeyJson (json : Bytes) : Except String (AnswerKey Double) :=
  match textFrom (literal "\"items\"") json with
  | none => .error "missing 'items' array in answer key"
  | some rest =>
    match textAfter [0x5b] rest with
    | none => .error "invalid 'items' array"
    | some text => do
      let items ← readItems reader text.length text
      return { packageId := extractJsonString json "package_id", packageDigest := Block.zero 32, items }

end Keys

/-! ## Reviewing everything -/

section Reviews

variable {Double : Type} (fp : FloatingPoint Double)

/-- Every review is accepted. -/
def AllAccepted (grade : CandidateExamGrade Double) : List Review → Prop
  | [] => True
  | review :: reviews =>
    (applyManualReview fp grade review).2 = none ∧ AllAccepted (applyManualReview fp grade review).1 reviews

/-- The questions that await a review, each once. -/
def pendingQuestions (grade : CandidateExamGrade Double) : List Bytes :=
  ((grade.itemResults.filter ItemGradeResult.pending).map ItemGradeResult.questionId).dedup

/-- Reviewing each question that awaits a review once, in whatever order, finishes the grade. -/
def Finishes (grade : CandidateExamGrade Double) : Prop :=
  ∀ reviews : List Review, (reviews.map Review.questionId).Perm (pendingQuestions grade) →
    AllAccepted fp grade reviews →
      (applyReviews fp grade reviews).pendingManualReviews = 0 ∧ (applyReviews fp grade reviews).fullyGraded = true

/-- No item that awaits a review comes behind another of the same question. -/
def Reviewable (results : List ItemGradeResult) : Prop :=
  results.Pairwise fun earlier later => later.pending = true → earlier.questionId ≠ later.questionId

variable {fp} {grade : CandidateExamGrade Double} {reviews : List Review}

lemma pending_reviewItem (item : ItemGradeResult) (review : Review) : (reviewItem item review).pending = false := by
  simp [reviewItem, pending]

variable {answers : List AnswerState}

lemma itemResults_foldl (items : List (AnswerKeyItem Double)) :
    (items.foldl (addItem fp answers) grade).itemResults = grade.itemResults ++ items.map (gradeItem fp answers) := by
  induction items generalizing grade with
  | nil => simp
  | cons item items ih =>
    rw [foldl_cons, ih]
    simp [addItem]

lemma gradeItem_questionId (item : AnswerKeyItem Double) :
    (gradeItem fp answers item).questionId = item.questionId := by
  unfold gradeItem
  cases answerText answers item with
  | none | some text => by_cases hr : item.requiresManualReview <;> simp [hr]

lemma pending_gradeItem (item : AnswerKeyItem Double) : (gradeItem fp answers item).pending ↔
      item.requiresManualReview ∧ answerText answers item ≠ none := by
  unfold gradeItem pending
  cases answerText answers item with
  | none | some text => by_cases hr : item.requiresManualReview <;> simp [hr]

/-- **One review of a reviewable grade** leaves only items of other questions to be reviewed. -/
lemma Reviewable.review {review : Review} (h : Reviewable grade.itemResults)
    (hacce : (applyManualReview fp grade review).2 = none) :
    Reviewable (applyManualReview fp grade review).1.itemResults ∧
      ∀ result ∈ (applyManualReview fp grade review).1.itemResults, result.pending →
        result ∈ grade.itemResults ∧ result.questionId ≠ review.questionId := by
  rcases applyManualReview_cases fp grade review with
    ⟨message, heq⟩ | ⟨before, item, after, hitems, hbefo, hitem, -, heq⟩
  · rw [heq] at hacce
    cases hacce
  · have hdone := pending_reviewItem item review
    have hid : (reviewItem item review).questionId = item.questionId := rfl
    rw [hitems] at h
    rw [heq]
    simp only [settle, Reviewable, hitems, pairwise_append, pairwise_cons, forall_mem_cons] at h ⊢
    obtain ⟨hfirst, ⟨hhere, hlast⟩, hacro⟩ := h
    refine ⟨⟨hfirst, ⟨?_, hlast⟩, ?_⟩, ?_⟩
    · exact hid ▸ hhere
    · intro earlier hearl
      refine ⟨fun hpend => ?_, (hacro earlier hearl).2⟩
      rw [hdone] at hpend
      cases hpend
    · intro result hresu hpend
      rw [mem_append, mem_cons] at hresu
      rcases hresu with hresu | rfl | hresu
      · exact ⟨mem_append_left _ hresu, hbefo result hresu⟩
      · rw [hdone] at hpend
        cases hpend
      · exact ⟨mem_append_right _ (mem_cons_of_mem _ hresu), fun heq =>
          hhere result hresu hpend (hitem.trans heq.symm)⟩

/-- After the reviews of a reviewable grade, what awaits a review is of another question. -/
lemma Reviewable.applyReviews (h : Reviewable grade.itemResults) (hacce : AllAccepted fp grade reviews) :
    ∀ result ∈ (applyReviews fp grade reviews).itemResults, result.pending →
      result ∈ grade.itemResults ∧ result.questionId ∉ reviews.map Review.questionId := by
  induction reviews generalizing grade with
  | nil => exact fun result hresu _ => ⟨hresu, not_mem_nil⟩
  | cons review reviews ih =>
    obtain ⟨hfirst, hrest⟩ := hacce
    obtain ⟨hrevi, hkept⟩ := h.review hfirst
    intro result hresu hpend
    obtain ⟨hmem, hnot⟩ := ih hrevi hrest result hresu hpend
    obtain ⟨hgrade, hne⟩ := hkept result hmem hpend
    exact ⟨hgrade, by simpa [hne] using hnot⟩

lemma map_questionId_applyManualReview (review : Review) :
    (applyManualReview fp grade review).1.itemResults.map questionId =
      grade.itemResults.map questionId := by
  rcases applyManualReview_cases fp grade review with ⟨message, he⟩ | ⟨before, item, after, hi, -, -, -, he⟩
  · rw [he]
  · rw [he, hi]
    simp [settle, reviewItem]

/-- **An item behind another of its question is out of reach.** -/
lemma getElem?_applyReviews (fp : FloatingPoint Double) {i j : ℕ} {item : ItemGradeResult} (hij : i < j)
    (hitem : grade.itemResults[j]? = some item)
    (hearl : (grade.itemResults.map questionId)[i]? = some item.questionId)
    (reviews : List Review) : (applyReviews fp grade reviews).itemResults[j]? = some item := by
  induction reviews generalizing grade with
  | nil => exact hitem
  | cons review reviews ih =>
    refine ih ?_ (by rwa [map_questionId_applyManualReview])
    show (applyManualReview fp grade review).1.itemResults[j]? = some item
    rcases applyManualReview_cases fp grade review with
      ⟨message, heq⟩ | ⟨before, reviewed, after, hitems, hbefo, hrevi, -, heq⟩
    · rwa [heq]
    · rw [hitems] at hitem hearl
      simp only [heq, settle]
      rcases Nat.lt_trichotomy j before.length with hlt | rfl | hgt
      · rwa [getElem?_append_left hlt] at hitem ⊢
      · -- the first item of its question has none before it
        simp only [getElem?_append_right le_rfl, Nat.sub_self, getElem?_cons_zero,
          Option.some.injEq] at hitem
        rw [map_append, getElem?_append_left (by simpa using hij), getElem?_map,
          Option.map_eq_some_iff] at hearl
        obtain ⟨earlier, hget, hid⟩ := hearl
        exact absurd (hid.trans (hitem ▸ hrevi)) (hbefo earlier (mem_of_getElem? hget))
      · obtain ⟨n, rfl⟩ := Nat.exists_eq_add_of_lt hgt
        rw [getElem?_append_right (by omega)] at hitem ⊢
        rwa [show before.length + n + 1 - before.length = n + 1 by omega, getElem?_cons_succ] at hitem ⊢

/-- A review without points. -/
def emptyReview (questionId : Bytes) : Review := ⟨questionId, 0, []⟩

lemma allAccepted_emptyReviews {ids : List Bytes}
    (h : ∀ id ∈ ids, id ∈ grade.itemResults.map questionId) :
    AllAccepted fp grade (ids.map emptyReview) := by
  induction ids generalizing grade with
  | nil => trivial
  | cons id ids ih =>
    rw [forall_mem_cons] at h
    refine ⟨?_, ih (by rw [map_questionId_applyManualReview]; exact h.2)⟩
    obtain ⟨item, hi, hid⟩ := mem_map.mp h.1
    unfold applyManualReview
    rw [span_eq_takeWhile_dropWhile]
    split
    · rename_i hn
      have ha : grade.itemResults.dropWhile (fun item => item.questionId ≠ (emptyReview id).questionId) = [] :=
        congrArg Prod.snd hn
      rw [dropWhile_eq_nil_iff] at ha
      exact absurd hid (of_decide_eq_true (ha item hi))
    · rename_i first rest _
      have hz : ¬ (emptyReview id).awardedPoints > first.maxPoints := UInt32.not_lt.mpr UInt32.zero_le
      rw [if_neg hz]

lemma finishes_iff_reviewable {points : List UInt32} (h : Accounted points grade) (hflag : Flagged grade) :
    Finishes fp grade ↔ Reviewable grade.itemResults := by
  have hids : ∀ result ∈ grade.itemResults, result.pending → result.questionId ∈ pendingQuestions grade := by
    intro result hresu hpend
    exact mem_dedup.mpr (mem_map_of_mem (mem_filter.mpr ⟨hresu, hpend⟩))
  constructor
  · intro hfini
    rw [Reviewable, pairwise_iff_getElem]
    intro i j hi hj hij hpend heq
    have hpres : ∀ id ∈ pendingQuestions grade, id ∈ grade.itemResults.map questionId := by
      intro id hid
      obtain ⟨result, hresu, rfl⟩ := mem_map.mp (mem_dedup.mp hid)
      exact mem_map_of_mem (mem_filter.mp hresu).1
    have hperm : (((pendingQuestions grade).map emptyReview).map Review.questionId).Perm (pendingQuestions grade) := by
      rw [map_map]
      exact List.Perm.of_eq (map_id _)
    have hzero := (hfini _ hperm (allAccepted_emptyReviews hpres)).1
    rw [(accounted_applyReviews h _).pending, countP_eq_zero] at hzero
    have hkept := getElem?_applyReviews fp hij (getElem?_eq_getElem hj)
      (by rw [getElem?_map, getElem?_eq_getElem hi, Option.map_some, heq])
      ((pendingQuestions grade).map emptyReview)
    exact hzero _ (mem_of_getElem? hkept) hpend
  · intro hrevi reviews hperm hacce
    have hpend : (applyReviews fp grade reviews).pendingManualReviews = 0 := by
      rw [(accounted_applyReviews h reviews).pending, countP_eq_zero]
      intro result hresu hpend
      obtain ⟨hmem, hnot⟩ := hrevi.applyReviews hacce result hresu hpend
      exact hnot (hperm.mem_iff.mpr (hids result hmem hpend))
    exact ⟨hpend, (flagged_applyReviews hflag reviews).mpr hpend⟩

/-- **Manual review can finish** exactly when no item of the key that needs a review, and whose question the
candidate has answered, comes behind another item with the same question id. -/
theorem finishes_iff (fp : FloatingPoint Double) (key : AnswerKey Double) (answers : List AnswerState)
    (candidateId : Bytes) (sessionId : SessionId) :
    Finishes fp (gradeStudentAnswers fp key answers candidateId sessionId) ↔ key.items.Pairwise fun earlier later =>
        later.requiresManualReview = true → answerText answers later ≠ none →
          earlier.questionId ≠ later.questionId := by
  have hresults : (gradeStudentAnswers fp key answers candidateId sessionId).itemResults =
      key.items.map (gradeItem fp answers) := itemResults_foldl key.items
  rw [finishes_iff_reviewable (accounted_gradeStudentAnswers fp key answers candidateId sessionId)
    (flagged_settle _), Reviewable, hresults, List.pairwise_map]
  simp only [gradeItem_questionId, pending_gradeItem, and_imp]

end Reviews

deriving instance DecidableEq for AnswerKeyItem, AnswerKey

/-- Two essays with one id. -/
def twiceTheSameId : Bytes :=
  literal "\x7b\"package_id\":\"p\",\"items\":[\x7b\"id\":\"q\",\"type\":\"essay\"\x7d,\x7b\"id\":\"q\",\"type\":\"essay\"\x7d]\x7d"

def twoEssays : AnswerKey Unit where
  packageId := literal "p"
  packageDigest := Block.zero 32
  items := List.replicate 2
    { questionId := literal "q", questionType := literal "essay", numericValue := (), numericEpsilon := (),
      requiresManualReview := true }

def essayAnswer : AnswerState where
  questionId := literal "q"
  questionRevision := 1
  sequence := 1
  kind := .upsert
  answer := literal "a"
  eventHash := Block.zero 32

/-- The key is accepted, and after the one review there is for the question an item is left. -/
theorem twiceTheSameId_not_finishes :
    ¬ ∀ (reader : DoubleReader Unit) (fp : FloatingPoint Unit) (json : Bytes) (key : AnswerKey Unit)
      (answers : List AnswerState), parseAnswerKeyJson reader json = .ok key →
        Finishes fp (gradeStudentAnswers fp key answers [] (Block.zero 16)) := by
  intro h
  have hparse : parseAnswerKeyJson ⟨fun _ => (), (), ()⟩ twiceTheSameId = .ok twoEssays := by decide +kernel
  have hfinishes := h ⟨fun _ => (), (), ()⟩ ⟨(), fun _ _ _ => false, fun _ _ => ()⟩ twiceTheSameId twoEssays
    [essayAnswer] hparse [emptyReview (literal "q")] (by decide +kernel)
  exact absurd (hfinishes ⟨by decide +kernel, trivial⟩).1 (by decide +kernel)

end Nstu.Server.Grading
