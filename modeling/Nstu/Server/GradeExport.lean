import Nstu.Server.Grader
import Nstu.Core.JsonScan
import Nstu.Core.Lines
import Mathlib.Data.Nat.Digits.Lemmas

/-!
# The exported grade

`serialize_grade_json` of `exam_grader.cpp` prints the texts of a grade between quotation marks as they are.  The
result is a JSON text of the grade exactly if no text has a quotation mark, a backslash or a control character in it
(`exports_iff`).

How the percentage is printed is a parameter.
-/

namespace Nstu.Server.Grading

open Wire CType Text JsonText List

section Export

variable {Double : Type} (print : Double → Bytes)

/-! ## The text -/

def boolText (value : Bool) : Bytes := literal (if value then "true" else "false")

/-- A line with a value. -/
def valueLine (indent name : String) (value : Bytes) (ending : String) : Bytes :=
  literal indent ++ literal "\"" ++ literal name ++ literal "\": " ++ value ++ literal ending

/-- A line with a text between quotation marks. -/
def textLine (indent name : String) (text : Bytes) (ending : String) : Bytes :=
  literal indent ++ literal "\"" ++ literal name ++ literal "\": \"" ++ text ++ literal "\"" ++ literal ending

/-- One round of the loop over the items, up to the closing brace. -/
def serializeItem (item : ItemGradeResult) : Bytes :=
  literal "    \x7b\n" ++ textLine "      " "id" item.questionId ",\n" ++
    textLine "      " "type" item.questionType ",\n" ++
    valueLine "      " "max_points" (decimalText item.maxPoints.toNat) ",\n" ++
    valueLine "      " "awarded_points" (decimalText item.awardedPoints.toNat) ",\n" ++
    valueLine "      " "answered" (boolText item.answered) ",\n" ++
    valueLine "      " "correct" (boolText item.correct) ",\n" ++
    valueLine "      " "requires_manual_review" (boolText item.requiresManualReview) ",\n" ++
    valueLine "      " "manual_review_completed" (boolText item.manualReviewCompleted) ",\n" ++
    textLine "      " "student_answer" item.studentAnswerText ",\n" ++
    textLine "      " "feedback" item.feedbackNotes "\n" ++
    literal "    \x7d"

def serializeItems : List ItemGradeResult → Bytes
  | [] => []
  | [item] => serializeItem item ++ literal "\n"
  | item :: rest => serializeItem item ++ literal "," ++ literal "\n" ++ serializeItems rest

def serializeGradeJson (grade : CandidateExamGrade Double) : Bytes :=
  literal "\x7b\n" ++ textLine "  " "package_id" grade.packageId ",\n" ++
    textLine "  " "candidate_id" grade.candidateId ",\n" ++
    valueLine "  " "total_points" (decimalText grade.totalPoints.toNat) ",\n" ++
    valueLine "  " "max_points" (decimalText grade.maxPoints.toNat) ",\n" ++
    valueLine "  " "score_percentage" (print grade.scorePercentage) ",\n" ++
    valueLine "  " "fully_graded" (boolText grade.fullyGraded) ",\n" ++
    valueLine "  " "pending_manual_reviews" (decimalText grade.pendingManualReviews) ",\n" ++
    literal "  \"items\": [\n" ++
    serializeItems grade.itemResults ++
    literal "  ]\n" ++
    literal "\x7d\n"

/-! ## The value -/

/-- The string of a text in UTF-8. -/
def jsonString (text : Bytes) : Json := .string ((ofUtf8 text).getD [])

def jsonNumber (text : Bytes) : Json := .number (text.map fun byte => UInt16.ofNat byte.toNat)

def itemJson (item : ItemGradeResult) : Json :=
  .object [(ascii "id", jsonString item.questionId), (ascii "type", jsonString item.questionType),
    (ascii "max_points", jsonNumber (decimalText item.maxPoints.toNat)),
    (ascii "awarded_points", jsonNumber (decimalText item.awardedPoints.toNat)),
    (ascii "answered", .boolean item.answered), (ascii "correct", .boolean item.correct),
    (ascii "requires_manual_review", .boolean item.requiresManualReview),
    (ascii "manual_review_completed", .boolean item.manualReviewCompleted),
    (ascii "student_answer", jsonString item.studentAnswerText), (ascii "feedback", jsonString item.feedbackNotes)]

/-- What the export of a grade is to say. -/
def gradeJson (grade : CandidateExamGrade Double) : Json :=
  .object [(ascii "package_id", jsonString grade.packageId), (ascii "candidate_id", jsonString grade.candidateId),
    (ascii "total_points", jsonNumber (decimalText grade.totalPoints.toNat)),
    (ascii "max_points", jsonNumber (decimalText grade.maxPoints.toNat)),
    (ascii "score_percentage", jsonNumber (print grade.scorePercentage)),
    (ascii "fully_graded", .boolean grade.fullyGraded),
    (ascii "pending_manual_reviews", jsonNumber (decimalText grade.pendingManualReviews)),
    (ascii "items", .array (grade.itemResults.map itemJson))]

/-- The texts of an item. -/
def ItemGradeResult.texts (item : ItemGradeResult) : List Bytes :=
  [item.questionId, item.questionType, item.studentAnswerText, item.feedbackNotes]

def CandidateExamGrade.texts (grade : CandidateExamGrade Double) : List Bytes :=
  grade.packageId :: grade.candidateId :: grade.itemResults.flatMap ItemGradeResult.texts

/-- **The export is faithful**: a JSON text, without limits, of what the grade says. -/
def Exports (grade : CandidateExamGrade Double) : Prop :=
  ∃ members stringBytes depth,
    IsObjectText (.rfc members stringBytes) depth (serializeGradeJson print grade) (gradeJson print grade)

/-! ## Its parts -/

def itemNames : List String :=
  ["id", "type", "max_points", "awarded_points", "answered", "correct", "requires_manual_review",
    "manual_review_completed", "student_answer", "feedback"]

def gradeNames : List String :=
  ["package_id", "candidate_id", "total_points", "max_points", "score_percentage", "fully_graded",
    "pending_manual_reviews", "items"]

def itemPart (item : ItemGradeResult) : Part :=
  objectPart (literal "      ") (literal "    ")
    [("id", fieldPart item.questionId), ("type", fieldPart item.questionType),
      ("max_points", plainPart (decimalText item.maxPoints.toNat) (jsonNumber (decimalText item.maxPoints.toNat))),
      ("awarded_points",
        plainPart (decimalText item.awardedPoints.toNat) (jsonNumber (decimalText item.awardedPoints.toNat))),
      ("answered", plainPart (boolText item.answered) (.boolean item.answered)),
      ("correct", plainPart (boolText item.correct) (.boolean item.correct)),
      ("requires_manual_review", plainPart (boolText item.requiresManualReview) (.boolean item.requiresManualReview)),
      ("manual_review_completed",
        plainPart (boolText item.manualReviewCompleted) (.boolean item.manualReviewCompleted)),
      ("student_answer", fieldPart item.studentAnswerText), ("feedback", fieldPart item.feedbackNotes)]

def gradePart (grade : CandidateExamGrade Double) : Part :=
  objectPart (literal "  ") []
    [("package_id", fieldPart grade.packageId), ("candidate_id", fieldPart grade.candidateId), ("total_points",
        plainPart (decimalText grade.totalPoints.toNat) (jsonNumber (decimalText grade.totalPoints.toNat))),
      ("max_points", plainPart (decimalText grade.maxPoints.toNat) (jsonNumber (decimalText grade.maxPoints.toNat))),
      ("score_percentage", plainPart (print grade.scorePercentage) (jsonNumber (print grade.scorePercentage))),
      ("fully_graded", plainPart (boolText grade.fullyGraded) (.boolean grade.fullyGraded)),
      ("pending_manual_reviews",
        plainPart (decimalText grade.pendingManualReviews) (jsonNumber (decimalText grade.pendingManualReviews))),
      ("items", arrayPart (literal "    ") (literal "  ") (grade.itemResults.map itemPart))]

lemma textLine_eq (indent name : String) (text : Bytes) (ending : String) : textLine indent name text ending =
      literal indent ++ (memberText name (0x22 :: (text ++ [0x22])) ++ literal ending) := by
  have hq : literal "\"" = [0x22] := rfl
  have hc : literal "\": \"" = [0x22, 0x3a, 0x20, 0x22] := rfl
  simp [textLine, memberText, hq, hc]

lemma valueLine_eq (indent name : String) (value : Bytes) (ending : String) :
    valueLine indent name value ending = literal indent ++ (memberText name value ++ literal ending) := by
  have hq : literal "\"" = [0x22] := rfl
  have hc : literal "\": " = [0x22, 0x3a, 0x20] := rfl
  simp [valueLine, memberText, hq, hc]

lemma text_itemPart (item : ItemGradeResult) : serializeItem item = literal "    " ++ (itemPart item).text := by
  have ho : literal "    \x7b\n" = literal "    " ++ [0x7b, 0x0a] := rfl
  have hc : literal ",\n" = [0x2c, 0x0a] := rfl
  have hf : literal "\n" = [0x0a] := rfl
  have hcl : literal "    \x7d" = literal "    " ++ [0x7d] := rfl
  simp only [serializeItem, textLine_eq, valueLine_eq, ho, hc, hf, hcl, itemPart, objectPart, fieldPart,
    plainPart, commas, map_cons, map_nil, append_assoc, cons_append, nil_append]

lemma commas_cons (text : Bytes) {rest : List Bytes} (h : rest ≠ []) : commas (text :: rest) = text ++ 0x2c :: commas rest := by
  cases rest with
  | nil => exact absurd rfl h
  | cons next rest => rfl

lemma text_items (items : List ItemGradeResult) : 0x0a :: serializeItems items =
      commas ((items.map itemPart).map fun part => 0x0a :: (literal "    " ++ part.text)) ++ [0x0a] := by
  have hc : literal "," = [0x2c] := rfl
  have hf : literal "\n" = [0x0a] := rfl
  induction items with
  | nil => rfl
  | cons item items ih =>
    cases items with
    | nil => simp only [serializeItems, text_itemPart, hf, commas, map_cons, map_nil, cons_append]
    | cons item' items =>
      rw [map_cons, map_cons, commas_cons _ (by simp), serializeItems, text_itemPart, hc, hf]
      · simp only [append_assoc, cons_append, nil_append]
        rw [ih]
      · simp

/-- **The text is the one of the parts**, with a line feed behind it. -/
lemma text_gradePart (grade : CandidateExamGrade Double) :
    serializeGradeJson print grade = (gradePart print grade).text ++ [0x0a] := by
  have ho : literal "\x7b\n" = [0x7b, 0x0a] := rfl
  have hc : literal ",\n" = [0x2c, 0x0a] := rfl
  have hi : literal "  \"items\": [\n" = literal "  " ++ memberText "items" [0x5b, 0x0a] := rfl
  have he : literal "  ]\n" = literal "  " ++ [0x5d, 0x0a] := rfl
  have hcl : literal "\x7d\n" = [0x7d, 0x0a] := rfl
  have hl : ∀ rest, 0x0a :: (serializeItems grade.itemResults ++ rest) =
      commas ((grade.itemResults.map itemPart).map fun part => 0x0a :: (literal "    " ++ part.text)) ++
        0x0a :: rest := by
    intro rest
    rw [← cons_append, text_items, append_assoc, singleton_append]
  simp only [serializeGradeJson, textLine_eq, valueLine_eq, ho, hc, hi, he, hcl, gradePart, objectPart,
    arrayPart, fieldPart, plainPart, commas, map_cons, map_nil, append_assoc, cons_append,
    nil_append, memberText]
  rw [hl]

lemma value_gradePart (grade : CandidateExamGrade Double) : (gradePart print grade).value = gradeJson print grade := by
  simp only [gradePart, gradeJson, objectPart, arrayPart, fieldPart, plainPart, jsonString, map_cons, map_nil,
    map_map]
  rfl

lemma fields_gradePart (grade : CandidateExamGrade Double) : (gradePart print grade).fields = grade.texts := by
  simp only [gradePart, objectPart, arrayPart, fieldPart, plainPart, CandidateExamGrade.texts, flatMap_cons,
    flatMap_nil, flatMap_map, cons_append, nil_append, append_nil]
  rfl

/-! ## Numbers -/

lemma isNumber_decimalText (value : ℕ) : IsNumber (decimalText value) := by
  refine ⟨[], decimalText value, [], [], .inl rfl, ?_, .inl rfl, .inl rfl, by simp⟩
  by_cases hz : value = 0
  · subst hz
    exact .inl rfl
  · right
    have hd : ∀ byte ∈ decimalText value, isDigit byte := fun byte hb => isDigit_of_mem_decimalText hb
    have hn : Nat.digits 10 value ≠ [] := Nat.digits_ne_nil_iff_ne_zero.mpr hz
    obtain ⟨front, hf⟩ : ∃ front, Nat.digits 10 value = front ++ [(Nat.digits 10 value).getLast hn] :=
      ⟨_, (dropLast_append_getLast hn).symm⟩
    have hl := Nat.getLast_digit_ne_zero 10 hz
    have hlt := Nat.digits_lt_base (by decide : 1 < 10) (getLast_mem hn)
    generalize (Nat.digits 10 value).getLast hn = digit at hf hl hlt
    have ht : decimalText value = UInt8.ofNat (48 + digit) :: front.reverse.map fun d => UInt8.ofNat (48 + d) := by
      rw [decimalText, decimal, if_neg hz, hf]
      simp
    rw [ht] at hd ⊢
    rw [forall_mem_cons] at hd
    have hb : (UInt8.ofNat (48 + digit)).toNat = 48 + digit := toNat_ofNat_byte (by omega)
    refine ⟨_, _, rfl, ?_, ?_, hd.2⟩
    · simp only [UInt8.le_iff_toNat_le, hb, UInt8.reduceToNat]
      omega
    · simp only [UInt8.le_iff_toNat_le, hb, UInt8.reduceToNat]
      omega

section Printed

variable {grammar : Grammar} {n : ℕ}

lemma printed_itemPart (hm : 10 ≤ grammar.members) (hl : 32 ≤ grammar.stringBytes) {item : ItemGradeResult}
    (hutf8 : ∀ text ∈ item.texts, (ofUtf8 text).isSome) : (itemPart item).Printed grammar (n + 2) := by
  simp only [ItemGradeResult.texts, forall_mem_cons] at hutf8
  obtain ⟨hi, ht, ha, hf, -⟩ := hutf8
  refine printed_object (by decide +kernel) (by decide +kernel) (rfl : _ = itemNames) (by decide) (by decide +kernel) (by decide +kernel)
    hm hl ?_
  simp only [forall_mem_cons]
  exact ⟨printed_field hi, printed_field ht, printed_number (isNumber_decimalText _),
    printed_number (isNumber_decimalText _), printed_boolean _, printed_boolean _, printed_boolean _,
    printed_boolean _, printed_field ha, printed_field hf, by simp⟩

/-- **The grade is printed in parts**, if its percentage is. -/
lemma printed_gradePart {grade : CandidateExamGrade Double} (hmemb : 10 ≤ grammar.members)
    (hitems : grade.itemResults.length ≤ grammar.members) (hleng : 32 ≤ grammar.stringBytes)
    (hutf8 : ∀ text ∈ grade.texts, (ofUtf8 text).isSome) (hprint : IsNumber (print grade.scorePercentage)) :
    (gradePart print grade).Printed grammar (n + 4) := by
  simp only [CandidateExamGrade.texts, forall_mem_cons, mem_flatMap, forall_exists_index, and_imp] at hutf8
  obtain ⟨hpack, hcand, hresu⟩ := hutf8
  refine printed_object (by decide +kernel) (by decide +kernel) (rfl : _ = gradeNames) (by decide) (by decide +kernel)
    (by decide +kernel) (Nat.le_trans (by decide) hmemb) hleng ?_
  simp only [forall_mem_cons]
  refine ⟨printed_field hpack, printed_field hcand, printed_number (isNumber_decimalText _),
    printed_number (isNumber_decimalText _), printed_number hprint, printed_boolean _,
    printed_number (isNumber_decimalText _), ?_, by simp⟩
  refine printed_array (by decide +kernel) (by decide +kernel) (by simpa using hitems) fun part hpart => ?_
  obtain ⟨item, hitem, rfl⟩ := mem_map.mp hpart
  exact printed_itemPart hmemb hleng fun text htext => hresu text item hitem htext

end Printed

/-! ## What is exported -/

variable {print} {grade : CandidateExamGrade Double}

lemma isNumber_of_exports (h : Exports print grade) : IsNumber (print grade.scorePercentage) := by
  obtain ⟨members, stringBytes, depth, -, before, body, after, -, -, hvalue, -⟩ := h
  cases depth with
  | zero => exact absurd hvalue (by simp [IsValue])
  | succ depth =>
    obtain ⟨-, -, text, -, hlist⟩ := hvalue
    have hmemb : ∃ text, IsMember (.rfc members stringBytes) (IsValue (.rfc members stringBytes) depth) text
        (ascii "score_percentage", jsonNumber (print grade.scorePercentage)) :=
      listed_forall (P := fun entry => ∃ text, IsMember (.rfc members stringBytes)
        (IsValue (.rfc members stringBytes) depth) text entry) hlist (fun h => ⟨_, h⟩) _ (by simp)
    obtain ⟨text, key, rest, -, ⟨before, number, after, -, -, hnumb, -⟩, -⟩ := hmemb
    cases depth with
    | zero => exact absurd hnumb (by simp [IsValue])
    | succ depth =>
      obtain ⟨hnumb, hunits⟩ : IsNumber number ∧ _ := hnumb
      have hinje : Function.Injective fun byte : UInt8 => UInt16.ofNat byte.toNat := by
        intro a b hab
        have hnat := congrArg UInt16.toNat hab
        have ha := a.toNat_lt
        have hb := b.toNat_lt
        rw [unit_ofNat (by omega), unit_ofNat (by omega)] at hnat
        exact UInt8.toNat_inj.mp hnat
      rw [map_injective_iff.mpr hinje hunits]
      exact hnumb

/-- A grammar whose limits the grade keeps. -/
def exportGrammar (grade : CandidateExamGrade Double) : Grammar :=
  .rfc (max 10 grade.itemResults.length) ((grade.texts.map List.length).sum + 32)

lemma printed_exportGrammar (hutf8 : ∀ text ∈ grade.texts, (ofUtf8 text).isSome)
    (hp : IsNumber (print grade.scorePercentage)) : (gradePart print grade).Printed (exportGrammar grade) 4 :=
  @printed_gradePart Double print (exportGrammar grade) 0 grade (le_max_left _ _) (le_max_right _ _)
    (Nat.le_add_left _ _) hutf8 hp

lemma bare_of_exports (hutf8 : ∀ text ∈ grade.texts, (ofUtf8 text).isSome) (h : Exports print grade) :
    ∀ text ∈ grade.texts, Bare text := by
  have hp := isNumber_of_exports h
  obtain ⟨members, stringBytes, depth, -, hv⟩ := h
  rw [← fields_gradePart print]
  refine (printed_exportGrammar hutf8 hp).bare ?_
  rw [← text_gradePart, value_gradePart]
  have hs : Scans (.rfc members stringBytes) (serializeGradeJson print grade) (valueStrings (gradeJson print grade)) :=
    Spaced.scans (fun _ h => scans_value h) hv
  exact @Scans.mono (.rfc members stringBytes) (exportGrammar grade) (fun _ h => h) _ _ hs

/-- **The export is faithful exactly if nothing in it would have to be escaped**, and the percentage is printed as a
number of JSON. -/
theorem exports_iff (hutf8 : ∀ text ∈ grade.texts, (ofUtf8 text).isSome = true) :
    Exports print grade ↔ (∀ text ∈ grade.texts, Bare text) ∧ IsNumber (print grade.scorePercentage) := by
  constructor
  · exact fun h => ⟨bare_of_exports hutf8 h, isNumber_of_exports h⟩
  · rintro ⟨hbare, hprint⟩
    refine ⟨max 10 grade.itemResults.length, (grade.texts.map List.length).sum + 32, 4, ?_⟩
    rw [text_gradePart, ← value_gradePart]
    refine (printed_exportGrammar hutf8 hprint).isObjectText rfl fun field hfield => ?_
    rw [fields_gradePart] at hfield
    refine ⟨hbare field hfield, ?_⟩
    have hsum := List.le_sum_of_mem (List.mem_map_of_mem (f := List.length) hfield)
    exact hsum.trans (Nat.le_add_right _ _)

end Export

/-! ## Forged members -/

/-- A grade of one item, with the percentage in tenths. -/
def answeredGrade (answer : Bytes) : CandidateExamGrade ℕ where
  packageId := literal "exam"
  packageDigest := .zero 32
  candidateId := literal "student"
  sessionId := .zero 16
  scorePercentage := 0
  itemResults :=
    [{ questionId := literal "q1"
       questionType := literal "text"
       maxPoints := 1
       answered := true
       studentAnswerText := answer }]

/-- A plain answer is exported faithfully. -/
theorem exports_plain : Exports decimalText (answeredGrade (literal "42")) ↔
    (∀ text ∈ (answeredGrade (literal "42")).texts, Bare text) ∧ IsNumber (decimalText 0) :=
  exports_iff (by decide +kernel)

/-- An answer with quotation marks in it ends its string. -/
theorem not_exports_forged : ¬ Exports decimalText (answeredGrade (literal "\",\"correct\":true,\"x\":\"")) := by
  intro h
  have hbare := bare_of_exports (by decide +kernel) h
  exact absurd hbare (by decide +kernel)

end Nstu.Server.Grading
