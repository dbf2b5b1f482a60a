import Nstu.Core.CType
import Nstu.Exam.Types
import Mathlib.Algebra.BigOperators.Group.List.Basic
import Mathlib.Algebra.Order.BigOperators.Group.List
import Mathlib.Data.List.TakeWhile

/-!
# Grading

`exam_grader.cpp`: the answers of a candidate are graded against a key, and a teacher's reviews are
then entered one by one.

The points are added up in counters of 32 bits.  `Accounted` says what the counters are after any
number of reviews, modulo `2 ^ 32`; they are the sums themselves exactly when the points of the key
add up to less than that (`accounts_iff`).

What is done in floating point is a parameter: whether a text is a number within the tolerance, and
the percentage.
-/

namespace Nstu.Server.Grading

open Wire CType List

/-- The floating-point operations of the grader. -/
structure FloatingPoint (Double : Type) where
  /-- The number `0.0`. -/
  zero : Double
  /-- `strtod` reads a number off the text, and it is within the tolerance of the value. -/
  withinTolerance : Bytes → Double → Double → Bool
  /-- `total * 100.0 / maximum`. -/
  percentage : UInt32 → UInt32 → Double

section Grader

variable {Double : Type}

structure AnswerKeyItem (Double : Type) where
  questionId : Bytes
  questionType : Bytes
  points : UInt32 := 1
  acceptedAnswers : List Bytes := []
  caseSensitive : Bool := false
  trimWhitespace : Bool := true
  numericTolerance : Bool := false
  numericValue : Double
  numericEpsilon : Double
  requiresManualReview : Bool := false

structure AnswerKey (Double : Type) where
  packageId : Bytes
  packageDigest : Digest
  items : List (AnswerKeyItem Double)

structure ItemGradeResult where
  questionId : Bytes
  questionType : Bytes
  maxPoints : UInt32
  awardedPoints : UInt32 := 0
  answered : Bool := false
  correct : Bool := false
  requiresManualReview : Bool := false
  manualReviewCompleted : Bool := false
  studentAnswerText : Bytes := []
  feedbackNotes : Bytes := []
  deriving DecidableEq

structure CandidateExamGrade (Double : Type) where
  packageId : Bytes
  packageDigest : Digest
  candidateId : Bytes
  sessionId : SessionId
  totalPoints : UInt32 := 0
  maxPoints : UInt32 := 0
  scorePercentage : Double
  fullyGraded : Bool := false
  pendingManualReviews : ℕ := 0
  completionTimestampMs : UInt64 := 0
  itemResults : List ItemGradeResult := []

/-! ## Texts -/

def trim (text : Bytes) : Bytes := ((text.dropWhile isSpaceByte).reverse.dropWhile isSpaceByte).reverse

/-! ## Automatic grading -/

variable (fp : FloatingPoint Double)

/-- One round of the loop over the accepted answers. -/
def acceptedAs (item : AnswerKeyItem Double) (studentAnswer accepted : Bytes) : Bool :=
  let target := if item.trimWhitespace then trim accepted else accepted
  if item.caseSensitive then studentAnswer = target else toLower studentAnswer = toLower target

def isCorrect (item : AnswerKeyItem Double) (text : Bytes) : Bool :=
  let studentAnswer := if item.trimWhitespace then trim text else text
  if item.numericTolerance then
    fp.withinTolerance studentAnswer item.numericValue item.numericEpsilon
  else item.acceptedAnswers.any (acceptedAs item studentAnswer)

/-- The answer that `find_if` stops at. -/
def answerTo (answers : List AnswerState) (questionId : Bytes) : Option AnswerState :=
  answers.find? fun answer => answer.questionId = questionId && answer.kind = .upsert

/-- The candidate's answer to an item, where there is one that is not empty. -/
def answerText (answers : List AnswerState) (item : AnswerKeyItem Double) : Option Bytes :=
  match answerTo answers item.questionId with
  | none => none
  | some answer => if answer.answer.isEmpty then none else some answer.answer

/-- What the loop of `grade_student_answers` makes of one item. -/
def gradeItem (answers : List AnswerState) (item : AnswerKeyItem Double) : ItemGradeResult :=
  let result : ItemGradeResult :=
    { questionId := item.questionId
      questionType := item.questionType
      maxPoints := item.points
      requiresManualReview := item.requiresManualReview }
  match answerText answers item with
  | none =>
    if item.requiresManualReview then
      { result with
        manualReviewCompleted := true
        feedbackNotes := literal "Not answered by candidate" }
    else result
  | some text =>
    if item.requiresManualReview then { result with answered := true, studentAnswerText := text }
    else
      { result with
        answered := true
        studentAnswerText := text
        correct := isCorrect fp item text
        awardedPoints := if isCorrect fp item text then item.points else 0 }

/-- A review is awaited for the item. -/
def ItemGradeResult.pending (result : ItemGradeResult) : Bool :=
  result.requiresManualReview && !result.manualReviewCompleted

/-- One round of the loop. -/
def addItem (answers : List AnswerState) (grade : CandidateExamGrade Double)
    (item : AnswerKeyItem Double) : CandidateExamGrade Double :=
  let result := gradeItem fp answers item
  { grade with
    maxPoints := grade.maxPoints + item.points
    totalPoints := grade.totalPoints + result.awardedPoints
    pendingManualReviews := grade.pendingManualReviews + if result.pending then 1 else 0
    itemResults := grade.itemResults ++ [result] }

/-- The fields that both functions set at their end. -/
def settle (grade : CandidateExamGrade Double) : CandidateExamGrade Double :=
  { grade with
    fullyGraded := grade.pendingManualReviews == 0
    scorePercentage :=
      if grade.maxPoints > 0 then fp.percentage grade.totalPoints grade.maxPoints else fp.zero }

def gradeStudentAnswers (key : AnswerKey Double) (answers : List AnswerState) (candidateId : Bytes)
    (sessionId : SessionId) : CandidateExamGrade Double :=
  let grade : CandidateExamGrade Double :=
    { packageId := key.packageId, packageDigest := key.packageDigest, candidateId, sessionId,
      scorePercentage := fp.zero }
  settle fp (key.items.foldl (addItem fp answers) grade)

/-! ## Reviews -/

/-- The arguments of one call of `apply_manual_review`. -/
structure Review where
  questionId : Bytes
  awardedPoints : UInt32
  feedbackNotes : Bytes

/-- What a review that is accepted makes of its item. -/
def reviewItem (item : ItemGradeResult) (review : Review) : ItemGradeResult :=
  { item with
    awardedPoints := review.awardedPoints
    correct := review.awardedPoints = item.maxPoints
    manualReviewCompleted := true
    feedbackNotes := if review.feedbackNotes.isEmpty then item.feedbackNotes else review.feedbackNotes }

/-- `apply_manual_review`: the grade, and the error of a review that is refused. -/
def applyManualReview (grade : CandidateExamGrade Double) (review : Review) :
    CandidateExamGrade Double × Option String :=
  match grade.itemResults.span fun item => item.questionId ≠ review.questionId with
  | (_, []) => (grade, some "question_id not found in exam results")
  | (before, item :: after) =>
    if review.awardedPoints > item.maxPoints then
      (grade, some "awarded points cannot exceed max points for question")
    else
      (settle fp { grade with
          itemResults := before ++ reviewItem item review :: after
          totalPoints := grade.totalPoints - item.awardedPoints + review.awardedPoints
          pendingManualReviews :=
            if item.pending ∧ grade.pendingManualReviews > 0 then grade.pendingManualReviews - 1
            else grade.pendingManualReviews }, none)

/-- A grade after some reviews. -/
def applyReviews (grade : CandidateExamGrade Double) (reviews : List Review) :
    CandidateExamGrade Double :=
  reviews.foldl (fun grade review => (applyManualReview fp grade review).1) grade

/-! ## Accounts -/

/-- The points of a key, added up as they stand. -/
def AnswerKey.pointSum (key : AnswerKey Double) : ℕ := (key.items.map fun item => item.points.toNat).sum

/-- The points awarded, added up as they stand. -/
def awardedSum (results : List ItemGradeResult) : ℕ :=
  (results.map fun result => result.awardedPoints.toNat).sum

/-- The items that are answered, need a review and have not had it. -/
def awaitingReview (results : List ItemGradeResult) : ℕ :=
  results.countP fun result =>
    result.answered && result.requiresManualReview && !result.manualReviewCompleted

/-- The grade gives a true account of its items. -/
structure Accounts (key : AnswerKey Double) (grade : CandidateExamGrade Double) : Prop where
  maxPoints : grade.maxPoints.toNat = key.pointSum
  totalPoints : grade.totalPoints.toNat = awardedSum grade.itemResults
  total_le : grade.totalPoints ≤ grade.maxPoints
  pending : grade.pendingManualReviews = awaitingReview grade.itemResults
  fullyGraded : grade.fullyGraded = true ↔ grade.pendingManualReviews = 0

/-- What an item of a grade is like. -/
structure ItemGradeResult.Sound (result : ItemGradeResult) : Prop where
  awarded_le : result.awardedPoints ≤ result.maxPoints
  answered : result.pending = true → result.answered = true

/-- What a grade is like, whether or not its counters have overflowed.  `points` are the points of
the items so far. -/
structure Accounted (points : List UInt32) (grade : CandidateExamGrade Double) : Prop where
  points_eq : grade.itemResults.map ItemGradeResult.maxPoints = points
  sound : ∀ result ∈ grade.itemResults, result.Sound
  maxPoints : grade.maxPoints.toNat = (points.map UInt32.toNat).sum % 2 ^ 32
  totalPoints : grade.totalPoints.toNat = awardedSum grade.itemResults % 2 ^ 32
  pending : grade.pendingManualReviews = grade.itemResults.countP ItemGradeResult.pending

variable {fp} {grade : CandidateExamGrade Double} {points : List UInt32} {answers : List AnswerState}

lemma sound_gradeItem (item : AnswerKeyItem Double) : (gradeItem fp answers item).Sound := by
  unfold gradeItem
  cases answerText answers item with
  | none =>
    by_cases hr : item.requiresManualReview
    · constructor <;> simp [hr, ItemGradeResult.pending]
    · constructor <;> simp [hr, ItemGradeResult.pending]
  | some text =>
    by_cases hr : item.requiresManualReview
    · constructor <;> simp [hr]
    · constructor
      · by_cases hc : isCorrect fp item text <;> simp [hr, hc]
      · simp [hr]

@[simp] lemma gradeItem_maxPoints (item : AnswerKeyItem Double) :
    (gradeItem fp answers item).maxPoints = item.points := by
  unfold gradeItem
  cases answerText answers item with
  | none | some text => by_cases hr : item.requiresManualReview <;> simp [hr]

lemma Accounted.addItem (h : Accounted points grade) (item : AnswerKeyItem Double) :
    Accounted (points ++ [item.points]) (addItem fp answers grade item) where
  points_eq := by simp [Grading.addItem, h.points_eq]
  sound := by
    intro result hr
    simp only [Grading.addItem, mem_append, mem_singleton] at hr
    rcases hr with hr | rfl
    · exact h.sound result hr
    · exact sound_gradeItem item
  maxPoints := by
    simp only [Grading.addItem, UInt32.toNat_add, h.maxPoints, map_append, map_cons,
      map_nil, sum_append, sum_singleton, Nat.mod_add_mod]
  totalPoints := by
    simp only [Grading.addItem, UInt32.toNat_add, h.totalPoints, awardedSum, map_append,
      map_cons, map_nil, sum_append, sum_singleton, Nat.mod_add_mod]
  pending := by
    simp only [Grading.addItem, h.pending, countP_append, countP_singleton]

lemma Accounted.settle (h : Accounted points grade) : Accounted points (settle fp grade) :=
  ⟨h.1, h.2, h.3, h.4, h.5⟩

lemma accounted_foldl (h : Accounted points grade) (items : List (AnswerKeyItem Double)) :
    Accounted (points ++ items.map AnswerKeyItem.points) (items.foldl (addItem fp answers) grade) := by
  induction items generalizing points grade with
  | nil => simpa using h
  | cons item items ih =>
    rw [map_cons, foldl_cons, append_cons]
    exact ih (h.addItem item)

/-- **The grade of any answers is accounted for.** -/
lemma accounted_gradeStudentAnswers (fp : FloatingPoint Double) (key : AnswerKey Double)
    (answers : List AnswerState) (candidateId : Bytes) (sessionId : SessionId) :
    Accounted (key.items.map AnswerKeyItem.points) (gradeStudentAnswers fp key answers candidateId sessionId) := by
  refine Accounted.settle ?_
  rw [← nil_append (key.items.map AnswerKeyItem.points)]
  refine accounted_foldl ?_ key.items
  exact ⟨rfl, by simp, rfl, rfl, rfl⟩

/-- **What a review does.**  It is refused and changes nothing, or it changes the first item of its
question and the counters with it. -/
lemma applyManualReview_cases (fp : FloatingPoint Double) (grade : CandidateExamGrade Double) (review : Review) :
    (∃ message, applyManualReview fp grade review = (grade, some message)) ∨
      ∃ before item after, grade.itemResults = before ++ item :: after ∧
        (∀ earlier ∈ before, earlier.questionId ≠ review.questionId) ∧
        item.questionId = review.questionId ∧ review.awardedPoints ≤ item.maxPoints ∧
        applyManualReview fp grade review = (settle fp { grade with
            itemResults := before ++ reviewItem item review :: after
            totalPoints := grade.totalPoints - item.awardedPoints + review.awardedPoints
            pendingManualReviews :=
              if item.pending ∧ grade.pendingManualReviews > 0 then grade.pendingManualReviews - 1
              else grade.pendingManualReviews }, none) := by
  have hs := takeWhile_append_dropWhile
    (p := fun item : ItemGradeResult => decide (item.questionId ≠ review.questionId))
    (l := grade.itemResults)
  have hb : ∀ earlier ∈ grade.itemResults.takeWhile fun item => item.questionId ≠ review.questionId,
      earlier.questionId ≠ review.questionId := fun earlier he => by
    simpa using mem_takeWhile_imp he
  have hi := head?_dropWhile_not
    (fun item : ItemGradeResult => decide (item.questionId ≠ review.questionId)) grade.itemResults
  unfold applyManualReview
  rw [span_eq_takeWhile_dropWhile]
  generalize grade.itemResults.takeWhile _ = before at hs hb ⊢
  generalize grade.itemResults.dropWhile _ = rest at hs hi ⊢
  cases rest with
  | nil => exact .inl ⟨_, rfl⟩
  | cons item after =>
    by_cases hp : review.awardedPoints > item.maxPoints
    · exact .inl ⟨_, if_pos hp⟩
    · refine .inr ⟨before, item, after, hs.symm, hb, ?_, UInt32.not_lt.mp hp, if_neg hp⟩
      simpa using hi

lemma sound_reviewItem {item : ItemGradeResult} {review : Review}
    (h : review.awardedPoints ≤ item.maxPoints) : (reviewItem item review).Sound :=
  ⟨h, by simp [reviewItem, ItemGradeResult.pending]⟩

lemma Accounted.review (h : Accounted points grade) {before after : List ItemGradeResult}
    {item : ItemGradeResult} {review : Review} (hitems : grade.itemResults = before ++ item :: after)
    (hpoin : review.awardedPoints ≤ item.maxPoints) :
    Accounted points { grade with
        itemResults := before ++ reviewItem item review :: after
        totalPoints := grade.totalPoints - item.awardedPoints + review.awardedPoints
        pendingManualReviews :=
          if item.pending ∧ grade.pendingManualReviews > 0 then grade.pendingManualReviews - 1
          else grade.pendingManualReviews } where
  points_eq := by
    rw [← h.points_eq, hitems]
    simp [reviewItem]
  sound := by
    have hsound := h.sound
    simp only [hitems, forall_mem_append, forall_mem_cons] at hsound ⊢
    exact ⟨hsound.1, sound_reviewItem hpoin, hsound.2.2⟩
  maxPoints := h.maxPoints
  totalPoints := by
    have htotal := h.totalPoints
    simp only [hitems, awardedSum, map_append, map_cons, sum_append, sum_cons] at htotal ⊢
    have hawar : (reviewItem item review).awardedPoints = review.awardedPoints := rfl
    have hbound := item.awardedPoints.toNat_lt
    rw [UInt32.toNat_add, UInt32.toNat_sub, htotal, hawar]
    omega
  pending := by
    have hpend := h.pending
    have hdone : (reviewItem item review).pending = false := by simp [reviewItem, ItemGradeResult.pending]
    simp only [hitems, countP_append, countP_cons] at hpend ⊢
    cases hitem : item.pending with
    | false =>
      simp only [hitem, hdone, Bool.false_eq_true, false_and, if_false] at hpend ⊢
      exact hpend
    | true =>
      simp only [hitem, hdone, Bool.false_eq_true, true_and, if_true, if_false] at hpend ⊢
      rw [if_pos (by omega)]
      omega

lemma accounted_applyManualReview (h : Accounted points grade) (review : Review) :
    Accounted points (applyManualReview fp grade review).1 := by
  rcases applyManualReview_cases fp grade review with
    ⟨message, he⟩ | ⟨before, item, after, hi, -, -, hp, he⟩
  · rwa [he]
  · rw [he]
    exact (h.review hi hp).settle

lemma accounted_applyReviews (h : Accounted points grade) (reviews : List Review) :
    Accounted points (applyReviews fp grade reviews) := by
  induction reviews generalizing grade with
  | nil => exact h
  | cons review reviews ih => exact ih (accounted_applyManualReview h review)

/-- The flag says what the counter says. -/
def Flagged (grade : CandidateExamGrade Double) : Prop :=
  grade.fullyGraded = true ↔ grade.pendingManualReviews = 0

lemma flagged_settle (grade : CandidateExamGrade Double) : Flagged (settle fp grade) := by
  simp [Flagged, settle]

lemma flagged_applyReviews (h : Flagged grade) (reviews : List Review) : Flagged (applyReviews fp grade reviews) := by
  induction reviews generalizing grade with
  | nil => exact h
  | cons review reviews ih =>
    refine ih ?_
    change Flagged (applyManualReview fp grade review).1
    rcases applyManualReview_cases fp grade review with ⟨message, he⟩ | ⟨_, _, _, -, -, -, -, he⟩
    · rwa [he]
    · rw [he]
      exact flagged_settle _

/-! ## Sums -/

variable {results : List ItemGradeResult}

lemma awardedSum_le (h : ∀ result ∈ results, result.Sound) :
    awardedSum results ≤ ((results.map ItemGradeResult.maxPoints).map UInt32.toNat).sum := by
  rw [map_map, awardedSum]
  exact sum_le_sum fun result hr => UInt32.le_iff_toNat_le.mp (h result hr).awarded_le

lemma countP_pending (h : ∀ result ∈ results, result.Sound) :
    results.countP ItemGradeResult.pending = awaitingReview results := by
  refine countP_congr ?_
  intro result hr
  have ha := (h result hr).answered
  simp only [ItemGradeResult.pending, Bool.and_eq_true, Bool.and_assoc] at ha ⊢
  constructor
  · intro hp
    exact ⟨ha hp, hp⟩
  · exact And.right

lemma Accounted.accounts {key : AnswerKey Double}
    (h : Accounted (key.items.map AnswerKeyItem.points) grade) (hf : Flagged grade)
    (hfi : key.pointSum < 2 ^ 32) : Accounts key grade := by
  have hs : ((key.items.map AnswerKeyItem.points).map UInt32.toNat).sum = key.pointSum := by
    rw [map_map]
    rfl
  have ha := awardedSum_le h.sound
  rw [h.points_eq, hs] at ha
  have hm : grade.maxPoints.toNat = key.pointSum := by
    rw [h.maxPoints, hs, Nat.mod_eq_of_lt hfi]
  have ht : grade.totalPoints.toNat = awardedSum grade.itemResults := by
    rw [h.totalPoints, Nat.mod_eq_of_lt (ha.trans_lt hfi)]
  refine ⟨hm, ht, ?_, ?_, hf⟩
  · rw [UInt32.le_iff_toNat_le, hm, ht]
    exact ha
  · rw [h.pending, countP_pending h.sound]

/-- **Grading accounts.**  After any answers and any reviews, the counters of the grade are the
integer sums, the total is within the maximum, what is pending is what awaits a review, the flag
agrees, and a review that is refused changes nothing, exactly when the points of the key add up to
less than `2 ^ 32`. -/
theorem accounts_iff (fp : FloatingPoint Double) (key : AnswerKey Double) (answers : List AnswerState)
    (candidateId : Bytes) (sessionId : SessionId) (reviews : List Review) :
    (Accounts key (applyReviews fp (gradeStudentAnswers fp key answers candidateId sessionId) reviews) ∧
      ∀ review message, (applyManualReview fp (applyReviews fp
          (gradeStudentAnswers fp key answers candidateId sessionId) reviews) review).2 = some message →
        (applyManualReview fp (applyReviews fp
          (gradeStudentAnswers fp key answers candidateId sessionId) reviews) review).1 =
            applyReviews fp (gradeStudentAnswers fp key answers candidateId sessionId) reviews) ↔
      key.pointSum < 2 ^ 32 := by
  have hgraded := accounted_gradeStudentAnswers fp key answers candidateId sessionId
  constructor
  · rintro ⟨haccounts, -⟩
    rw [← haccounts.maxPoints]
    exact UInt32.toNat_lt _
  · intro hfits
    refine ⟨(accounted_applyReviews hgraded reviews).accounts
      (flagged_applyReviews (flagged_settle _) reviews) hfits, ?_⟩
    intro review message hrefused
    rcases applyManualReview_cases fp (applyReviews fp
      (gradeStudentAnswers fp key answers candidateId sessionId) reviews) review with
      ⟨_, heq⟩ | ⟨_, _, _, -, -, -, -, heq⟩
    · rw [heq]
    · rw [heq] at hrefused
      cases hrefused

end Grader

/-- A key with two items of `2 ^ 31` points. -/
def largeKey : AnswerKey Unit where
  packageId := []
  packageDigest := Block.zero 32
  items :=
    [{ questionId := literal "q1", questionType := literal "essay", points := 0x80000000,
       numericValue := (), numericEpsilon := () },
     { questionId := literal "q2", questionType := literal "essay", points := 0x80000000,
       numericValue := (), numericEpsilon := () }]

/-- The maximum of such a key is counted as zero, with nothing answered and nothing reviewed. -/
theorem largeKey_not_accounts : ¬ ∀ (key : AnswerKey Unit) (answers : List AnswerState) (reviews : List Review),
      Accounts key (applyReviews ⟨(), fun _ _ _ => false, fun _ _ => ()⟩
        (gradeStudentAnswers ⟨(), fun _ _ _ => false, fun _ _ => ()⟩ key answers [] (Block.zero 16)) reviews) := by
  intro h
  exact absurd (h largeKey [] []).maxPoints (by decide +kernel)

end Nstu.Server.Grading
