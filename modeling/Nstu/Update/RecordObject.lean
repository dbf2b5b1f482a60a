import Nstu.Update.StagingRecord

/-!
# What the import of a staging record accepts

A record comes back from its own text, and every text that is accepted is an object of the twelve members
(**`stagingRecord_json`**).
-/

namespace Nstu.Update.StagingRecord

open Wire CType Text JsonText MiniJsonReader

/-- A member at the front of the input: a string that is its name, a colon, and a value of its kind. -/
def MemberAt (field : RecordField) (input rest : Bytes) : Prop :=
  ∃ colon value target target', parseString input = some (field.name, colon) ∧ matchChar 0x3a colon = some value ∧
    readValue target value field = some (target', rest)

/-- Members with a comma between every two of them, the closing brace right behind the last one, and the rest. -/
inductive MembersAt : List RecordField → Bytes → Bytes → Prop
  | last {field input rest behind} : MemberAt field input rest → matchChar 0x7d rest = some behind →
      MembersAt [field] input behind
  | more {field fields input rest next behind} : MemberAt field input rest → matchChar 0x2c rest = some next →
      MembersAt fields next behind → MembersAt (field :: fields) input behind

lemma memberAt_of_readEntry {seen : List RecordField} {record record' : StagingRecord} {field : RecordField}
    {input rest : Bytes} (h : readEntry seen record input = some (field, record', rest)) :
    field ∉ seen ∧ MemberAt field input rest := by
  simp only [readEntry, Option.bind_eq_bind, Option.bind_eq_some_iff, Prod.exists] at h
  obtain ⟨key, behind, hk, value, hc, field', hf, h⟩ := h
  split_ifs at h with hs
  simp only [Option.bind_eq_some_iff, Option.pure_def, Option.some.injEq, Prod.mk.injEq, Prod.exists] at h
  obtain ⟨_, _, hv, rfl, rfl, rfl⟩ := h
  obtain rfl : field'.name = key := by simpa using List.find?_some hf
  exact ⟨hs, behind, value, record, _, hk, hc, hv⟩

/-- **The loop sees each member once.** -/
lemma membersAt_of_readFields {seen seen' : List RecordField} {record record' : StagingRecord} {input behind : Bytes}
    (h : readFields seen record input = some (seen', record', behind)) :
    ∃ fields, seen' = fields.reverse ++ seen ∧ fields.Nodup ∧ (∀ field ∈ fields, field ∉ seen) ∧
      (fields = [] ∧ matchChar 0x7d input = some behind ∨ MembersAt fields input behind) := by
  fun_induction readFields seen record input with
  | case1 seen record input rest hbrace =>
    cases h
    exact ⟨[], rfl, List.nodup_nil, by simp, .inl ⟨rfl, hbrace⟩⟩
  | case2 | case3 => contradiction
  | case4 seen record input hbrace field read rest hentry next hcomma htrai ih =>
    obtain ⟨hseen, hmemb⟩ := memberAt_of_readEntry hentry
    obtain ⟨fields, rfl, hnodup, hnew, hend | hmembe⟩ := ih h
    · obtain ⟨-, hclose⟩ := hend
      rw [matchChar] at hclose
      split at hclose
      · cases hclose
      · rename_i hskip
        split_ifs at hclose with hbyte
        rw [hskip, hbyte] at htrai
        exact absurd rfl htrai
    · refine ⟨field :: fields, by simp, List.nodup_cons.mpr ⟨fun hmem => ?_, hnodup⟩, ?_, .inr (.more hmemb hcomma hmembe)⟩
      · exact hnew field hmem (List.mem_cons_self ..)
      · intro other hother hmem
        rcases List.mem_cons.mp hother with rfl | hother
        · exact hseen hmem
        · exact hnew other hother (List.mem_cons_of_mem _ hmem)
  | case5 seen record input hbrace field read rest hentry hcomma =>
    obtain ⟨last, hlast, heq⟩ := Option.map_eq_some_iff.mp h
    cases heq
    obtain ⟨hseen, hmemb⟩ := memberAt_of_readEntry hentry
    exact ⟨[field], rfl, List.nodup_singleton field, by simpa using hseen, .inr (.last hmemb hlast)⟩

/-- **Staging record JSON.**  What is exported of a record in order is imported as it was; an export fails exactly where the
text is longer than 64 KiB; and an accepted text is one object of the twelve members, each once, with nothing behind it. -/
theorem stagingRecord_json :
    (∀ record text, record.schemaVersion = literal "1.0" → record.stagedBytes ≤ record.expectedBytes →
      toJson record = some text → ofJson text = some record) ∧
    (∀ record, toJson record = none ↔ kMaximumStagingRecordBytes < (emitRecord record).flatten.length) ∧
    ∀ text record, ofJson text = some record → ∃ fields input behind, fields.Perm RecordField.all ∧
      matchChar 0x7b text = some input ∧ MembersAt fields input behind ∧ skipWhitespace behind = [] := by
  refine ⟨fun record text hschema hstaged h => ?_, fun record => ?_, fun text record h => ?_⟩
  · rw [toJson_eq] at h
    split_ifs at h with hsize
    obtain rfl := Option.some.inj h
    exact @ofJson_jsonText record ⟨hschema, hstaged⟩ [0x0a] rfl hsize
  · rw [toJson_eq, flatten_emitRecord]
    split_ifs with hsize
    · simp [hsize]
    · simpa using hsize
  · rw [ofJson] at h
    split_ifs at h
    split at h
    · cases h
    · rename_i input hopen
      split at h
      · cases h
      · rename_i seen record' behind hread
        split_ifs at h with haccepts
        rw [Bool.and_eq_true, List.isEmpty_iff, accepts] at haccepts
        obtain ⟨fields, rfl, hnodup, -, hend | hmembers⟩ := membersAt_of_readFields hread
        · obtain ⟨rfl, -⟩ := hend
          exact absurd haccepts.2 (by simp [RecordField.all])
        · refine ⟨fields, input, behind, (List.perm_ext_iff_of_nodup hnodup (by decide)).mpr fun field => ?_, hopen, hmembers,
            haccepts.1⟩
          simp only [List.append_nil, Bool.and_eq_true, List.all_eq_true, decide_eq_true_eq, List.mem_reverse] at haccepts
          have hall : field ∈ RecordField.all := by cases field <;> decide
          exact ⟨fun _ => hall, fun hmem => haccepts.2.1.1 field hmem⟩

end Nstu.Update.StagingRecord
