import Nstu.Control.Messages

/-!
# The report on the write filter

`encode_uwf_fleet_status_report` and `decode_uwf_fleet_status_report` of `control_messages.cpp`.

The encoder looks at the phase and at the text.  The decoder looks at the evidence too: a probe that
was not completed has observed nothing, and the phase that lets an exam begin needs a probe that
proves it.  A report with other evidence has a wire form, and is refused when it comes in
(**`uwfFleetStatusReport_codec`**).
-/

namespace Nstu.Control

open Wire Reader

/-! ## Fields -/

variable {phase : UwfFleetPhase}

lemma UwfFleetPhase.ofRaw_raw (h : ¬ (phase.raw < 1 || phase.raw > 9)) : ofRaw phase.raw = some phase := by
  cases phase with
  | unnamed value hv =>
    rw [Bool.or_eq_true, decide_eq_true_eq, decide_eq_true_eq, not_or] at h
    rcases hv with rfl | hv
    · exact absurd (by decide) h.1
    · exact absurd hv h.2
  | _ => rfl

lemma UwfFleetPhase.raw_of_ofRaw {value : UInt8} (h : ofRaw value = some phase) :
    phase.raw = value ∧ ¬ (phase.raw < 1 || phase.raw > 9) := by
  have hv : phase.raw = value := by simpa using List.find?_some h
  have hn : ∀ phase ∈ named, ¬ (phase.raw < 1 || phase.raw > 9) := by decide
  exact ⟨hv, hn phase (List.mem_of_find?_eq_some h)⟩

lemma probeOfFlags_probeFlags (probe : UwfProtectionProbe) : probeOfFlags (probeFlags probe) = probe := by
  obtain ⟨succeeded, current, next, volume, data, registry⟩ := probe
  revert succeeded current next volume data registry
  decide

lemma probeFlags_unreserved (probe : UwfProtectionProbe) : probeFlags probe &&& ~~~0x3f = 0 := by
  obtain ⟨succeeded, current, next, volume, data, registry⟩ := probe
  revert succeeded current next volume data registry
  decide

lemma probeFlags_probeOfFlags {flags : UInt8} (h : flags &&& ~~~0x3f = 0) :
    probeFlags (probeOfFlags flags) = flags := by
  have ha : ∀ n : Fin 256, UInt8.ofFin n &&& ~~~0x3f = 0 →
      probeFlags (probeOfFlags (UInt8.ofFin n)) = UInt8.ofFin n := by decide +kernel
  exact ha flags.toFin h

lemma probeFlags_observed (probe : UwfProtectionProbe) :
    (probeFlags probe &&& 0x01 = 0 → probeFlags probe &&& ~~~0x01 = 0) ↔
      (probe.probeSucceeded || probe == {}) := by
  obtain ⟨succeeded, current, next, volume, data, registry⟩ := probe
  revert succeeded current next volume data registry
  decide

variable {s : Bytes}

lemma run_readDetail_iff {r detail : Bytes} : readDetail.run s = some (detail, r) ↔
    ¬ (detail.isEmpty || detail.length > kMaximumUwfDetailBytes || !printableAscii detail) ∧
      s = le (UInt16.ofNat detail.length) ++ detail ∧ r = [] := by
  simp only [readDetail, run_bind_readLe_iff, run_bind_require_iff, run_bind_remaining_iff,
    run_bind_readBytes_iff, run_pure_iff]
  simp only [Bool.or_eq_true, decide_eq_true_eq, Bool.not_eq_true', not_or, Bool.not_eq_false,
    Nat.not_lt, List.isEmpty_iff]
  constructor
  · rintro ⟨count, s', rfl, hne, hmost, hleft, text, r', rfl, hleng, hprin, rfl, rfl⟩
    have hnil : r' = [] := by
      rw [List.length_append, hleng, Nat.add_eq_left] at hleft
      exact List.length_eq_zero_iff.mp hleft
    subst hnil
    refine ⟨⟨⟨?_, hleng ▸ hmost⟩, hprin⟩, ?_, rfl⟩
    · rintro rfl
      refine hne ?_
      rw [← UInt16.toNat_inj, ← hleng]
      rfl
    · rw [hleng, UInt16.ofNat_toNat, List.append_nil]
  · rintro ⟨⟨⟨hne, hmost⟩, hprin⟩, rfl, rfl⟩
    have hsmall : detail.length < 2 ^ 16 := by
      unfold kMaximumUwfDetailBytes at hmost
      omega
    have hcount : (UInt16.ofNat detail.length).toNat = detail.length :=
      UInt16.toNat_ofNat_of_lt' hsmall
    refine ⟨_, detail, rfl, ?_, by rwa [hcount], hcount.symm, detail, [], by simp, hcount.symm, hprin,
      rfl, rfl⟩
    intro hzero
    rw [hzero] at hcount
    exact hne (List.length_eq_zero_iff.mp hcount.symm)

lemma run_bind_readDetail_iff {β : Type} {f : Bytes → Reader β} {q : β × Bytes} :
    (readDetail >>= f).run s = some q ↔ ∃ detail : Bytes,
      ¬ (detail.isEmpty || detail.length > kMaximumUwfDetailBytes || !printableAscii detail) ∧
        s = le (UInt16.ofNat detail.length) ++ detail ∧ (f detail).run [] = some q := by
  rw [run_bind_iff]
  simp only [run_readDetail_iff]
  constructor
  · rintro ⟨detail, r, ⟨hv, hs, rfl⟩, hr⟩
    exact ⟨detail, hv, hs, hr⟩
  · rintro ⟨detail, hv, hs, hr⟩
    exact ⟨detail, [], ⟨hv, hs, rfl⟩, hr⟩

/-! ## The two directions -/

/-- The evidence that the decoder asks for. -/
def UwfFleetStatusReport.supported (report : UwfFleetStatusReport) : Bool :=
  (report.probe.probeSucceeded || report.probe == {}) &&
    (report.phase != .verifiedProtected || probeProvesProtection report.probe)

variable {report other : UwfFleetStatusReport} {payload : Bytes}

/-- The bytes of a report, whether or not it is encoded. -/
def UwfFleetStatusReport.wire (report : UwfFleetStatusReport) : Bytes :=
  le report.operationId ++ (report.bootId.toList ++ (le report.phase.raw ++
    (le (probeFlags report.probe) ++ (le (UInt16.ofNat report.detail.length) ++ report.detail))))

/-- What the encoder checks. -/
def UwfFleetStatusReport.encodable (report : UwfFleetStatusReport) : Bool :=
  !(report.phase.raw < 1 || report.phase.raw > 9) &&
    !(report.detail.isEmpty || report.detail.length > kMaximumUwfDetailBytes || !printableAscii report.detail)

lemma encodeUwfFleetStatusReport_eq (report : UwfFleetStatusReport) :
    encodeUwfFleetStatusReport report = if report.encodable then report.wire else [] := by
  have hs : (report.phase.raw < 1 || report.phase.raw > 9 || report.detail.isEmpty ||
      report.detail.length > kMaximumUwfDetailBytes || !printableAscii report.detail) = !report.encodable := by
    simp only [UwfFleetStatusReport.encodable, Bool.not_and, Bool.not_not, Bool.or_assoc]
  rw [encodeUwfFleetStatusReport, hs]
  cases report.encodable with
  | false => rfl
  | true => simp [UwfFleetStatusReport.wire]

lemma wire_ne_nil (report : UwfFleetStatusReport) : report.wire ≠ [] := by
  intro h
  have := congrArg List.length h
  simp [UwfFleetStatusReport.wire] at this

lemma encodeUwfFleetStatusReport_ne_nil_iff : encodeUwfFleetStatusReport report ≠ [] ↔ report.encodable := by
  rw [encodeUwfFleetStatusReport_eq]
  cases report.encodable with
  | false => simp
  | true => simpa using wire_ne_nil report

lemma phase_of_encodable (h : report.encodable) : UwfFleetPhase.ofRaw report.phase.raw = some report.phase := by
  rw [UwfFleetStatusReport.encodable, Bool.and_eq_true, Bool.not_eq_true'] at h
  exact UwfFleetPhase.ofRaw_raw ((Bool.not_eq_true _).mpr h.1)

lemma wire_injective (hrepo : report.encodable) (hother : other.encodable)
    (h : report.wire = other.wire) : report = other := by
  obtain ⟨hoper, h⟩ := List.append_inj h (by simp)
  obtain ⟨hboot, h⟩ := List.append_inj h (by simp)
  obtain ⟨hraw, h⟩ := List.append_inj h (by simp)
  obtain ⟨hflags, h⟩ := List.append_inj h (by simp)
  obtain ⟨-, hdeta⟩ := List.append_inj h (by simp)
  have hphase : report.phase = other.phase := by
    rw [← Option.some.injEq, ← phase_of_encodable hrepo, le_injective hraw, phase_of_encodable hother]
  have hprobe : report.probe = other.probe := by
    rw [← probeOfFlags_probeFlags report.probe, le_injective hflags, probeOfFlags_probeFlags]
  cases report
  cases other
  rw [UwfFleetStatusReport.mk.injEq]
  exact ⟨le_injective hoper, Block.toList_injective hboot, hphase, hprobe, hdeta⟩

/-- **What is decoded** is the wire form of a report with its evidence. -/
lemma decodeUwfFleetStatusReport_iff : decodeUwfFleetStatusReport payload = some report ↔
    (report.encodable ∧ report.supported) ∧ payload = report.wire := by
  have hrun : decodeUwfFleetStatusReport payload = some report ↔
      ∃ r, readUwfFleetStatusReport.run payload = some (report, r) := by
    rw [decodeUwfFleetStatusReport, Option.map_eq_some_iff]
    constructor
    · rintro ⟨⟨found, r⟩, hfound, rfl⟩
      exact ⟨r, hfound⟩
    · rintro ⟨r, hfound⟩
      exact ⟨_, hfound, rfl⟩
  rw [hrun]
  simp only [readUwfFleetStatusReport, run_bind_readLe_iff, run_bind_readBlock_iff,
    run_bind_ofOption_iff, run_bind_require_iff, run_bind_readDetail_iff, run_pure_iff]
  constructor
  · rintro ⟨r, operationId, _, rfl, bootId, _, rfl, rawPhase, _, rfl, phase, hphase, flags, _, rfl,
      hrese, detail, hdeta, rfl, hobse, hprov, rfl, -⟩
    obtain ⟨rfl, hnamed⟩ := UwfFleetPhase.raw_of_ofRaw hphase
    rw [← probeFlags_probeOfFlags hrese] at hobse
    refine ⟨⟨?_, ?_⟩, ?_⟩
    · rw [UwfFleetStatusReport.encodable, Bool.and_eq_true, Bool.not_eq_true', Bool.not_eq_true']
      exact ⟨Bool.not_eq_true _ ▸ hnamed, Bool.not_eq_true _ ▸ hdeta⟩
    · rw [UwfFleetStatusReport.supported, Bool.and_eq_true]
      refine ⟨(probeFlags_observed _).mp hobse, ?_⟩
      by_cases hveri : phase = .verifiedProtected
      · rw [hprov hveri, Bool.or_true]
      · simp [hveri]
    · rw [UwfFleetStatusReport.wire, probeFlags_probeOfFlags hrese]
  · rintro ⟨⟨henco, hsupp⟩, rfl⟩
    have hdeta := henco
    rw [UwfFleetStatusReport.encodable, Bool.and_eq_true, Bool.not_eq_true', Bool.not_eq_true'] at hdeta
    rw [UwfFleetStatusReport.supported, Bool.and_eq_true] at hsupp
    refine ⟨[], _, _, rfl, _, _, rfl, _, _, rfl, _, phase_of_encodable henco, _, _, rfl,
      probeFlags_unreserved _, _, ?_, rfl, (probeFlags_observed _).mpr hsupp.1, ?_, ?_, rfl⟩
    · exact (Bool.not_eq_true _).mpr hdeta.2
    · intro hveri
      rw [probeOfFlags_probeFlags]
      simpa [hveri] using hsupp.2
    · rw [probeOfFlags_probeFlags]

/-- **The codec of the report.**  An encoded report is read back if its evidence supports it, and
refused otherwise; what is read is encoded as it came. -/
theorem uwfFleetStatusReport_codec : (∀ report, encodeUwfFleetStatusReport report ≠ [] →
      decodeUwfFleetStatusReport (encodeUwfFleetStatusReport report) = if report.supported then some report else none) ∧
    ∀ payload report, decodeUwfFleetStatusReport payload = some report →
      encodeUwfFleetStatusReport report ≠ [] ∧ encodeUwfFleetStatusReport report = payload := by
  constructor
  · intro report hencoded
    rw [encodeUwfFleetStatusReport_ne_nil_iff] at hencoded
    rw [encodeUwfFleetStatusReport_eq, if_pos hencoded]
    split
    · rename_i hsupported
      exact decodeUwfFleetStatusReport_iff.mpr ⟨⟨hencoded, hsupported⟩, rfl⟩
    · rename_i hunsupported
      rw [Option.eq_none_iff_forall_ne_some]
      intro other hother
      obtain ⟨⟨hencodable, hsupported⟩, hwire⟩ := decodeUwfFleetStatusReport_iff.mp hother
      rw [wire_injective hencoded hencodable hwire] at hunsupported
      exact hunsupported hsupported
  · intro payload report hread
    obtain ⟨⟨hencodable, -⟩, rfl⟩ := decodeUwfFleetStatusReport_iff.mp hread
    rw [encodeUwfFleetStatusReport_ne_nil_iff, encodeUwfFleetStatusReport_eq, if_pos hencodable]
    exact ⟨hencodable, rfl⟩

/-- A report of a protected client: the text is `UWF`. -/
def protectedReport : UwfFleetStatusReport :=
  { operationId := 7, bootId := .fill 16 3, phase := .verifiedProtected, detail := [85, 87, 70],
    probe := { probeSucceeded := true, filterCurrentEnabled := true, systemVolumeCurrentProtected := true } }

/-- A protected report takes both decodings. -/
theorem uwfFleetStatusReport_codec_protected :
    decodeUwfFleetStatusReport (encodeUwfFleetStatusReport protectedReport) = some protectedReport ∧
      encodeUwfFleetStatusReport { protectedReport with operationId := 8 } ≠ [] := by
  have hread := uwfFleetStatusReport_codec.1 protectedReport (by decide)
  have hother := uwfFleetStatusReport_codec.1 { protectedReport with operationId := 8 } (by decide)
  rw [if_pos (by decide)] at hread hother
  exact ⟨hread, (uwfFleetStatusReport_codec.2 _ _ hother).1⟩

/-- A probe that was not completed and has seen the filter: the report is encoded, and refused. -/
theorem decode_observedWithoutProbe : ¬ ∀ report, encodeUwfFleetStatusReport report ≠ [] →
    decodeUwfFleetStatusReport (encodeUwfFleetStatusReport report) = some report := by
  intro h
  have := h { detail := [85, 87, 70], probe := { filterCurrentEnabled := true } } (by decide)
  revert this
  decide

end Nstu.Control
