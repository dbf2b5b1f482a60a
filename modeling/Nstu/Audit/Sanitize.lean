import Nstu.Core.JsonGrammar

/-!
# Public text

`sanitize_public_text` of `telemetry.cpp` and `sanitize_audit_field` of `audit.cpp`.  A text is read token by
token, and tokens that could tell who or where somebody is, or what a secret is, are replaced.

The character classes are those of the C locale.
-/

namespace Nstu.Audit

open Wire CType JsonText

/-! ## Character classes -/

def isHexDigit (byte : UInt8) : Bool := isDigit byte || (0x41 ≤ byte && byte ≤ 0x46) || (0x61 ≤ byte && byte ≤ 0x66)

def isControl (byte : UInt8) : Bool := byte < 0x20 || byte == 0x7f

/-! ## Tokens -/

def isPunctuation (byte : UInt8) : Bool := byte ∈ literal "\"'()[]\x7b\x7d<>,;"

def trimToken (token : Bytes) : Bytes :=
  ((token.dropWhile isPunctuation).reverse.dropWhile fun byte => isPunctuation byte || byte == 0x2e).reverse

def sensitiveKeys : List Bytes :=
  ["authorization", "clientid", "hostname", "machine", "machinename", "password", "psk", "school", "secret", "token",
    "username", "sas", "sascode", "pairingcode"].map literal

/-- A key in lower case and without hyphens and underscores. -/
def normalizeKey (key : Bytes) : Bytes := (key.map lower).filter fun byte => byte ≠ 0x2d && byte ≠ 0x5f

def isAssignment (byte : UInt8) : Bool := byte == 0x3d || byte == 0x3a

def sensitiveAssignment (token : Bytes) : Bool :=
  token.any isAssignment && normalizeKey (token.takeWhile fun byte => !isAssignment byte) ∈ sensitiveKeys

def sensitiveKey (token : Bytes) : Bool :=
  normalizeKey (((trimToken token).map lower).reverse.dropWhile isAssignment).reverse ∈ sensitiveKeys

def isSlash (byte : UInt8) : Bool := byte == 0x5c || byte == 0x2f

/-- A drive letter, a colon and a slash at some place. -/
def hasDrive : Bytes → Bool
  | drive :: colon :: slash :: rest =>
    (isAlpha drive && colon == 0x3a && isSlash slash) || hasDrive (colon :: slash :: rest)
  | _ => false

def containsWindowsPath (token : Bytes) : Bool :=
  (literal "\\\\").isPrefixOf token || (literal "//").isPrefixOf token || hasDrive token

def containsEmail (token : Bytes) : Bool :=
  match token.dropWhile (· ≠ 0x40) with
  | [] => false
  | _ :: domain => (token.takeWhile (· ≠ 0x40)).length ≠ 0 && domain.length ≠ 0 && 0x2e ∈ domain

/-- The loop over the parts of an address, so many of them still to come. -/
def isIpv4From : ℕ → Bytes → Bool
  | 0, _ => true
  | parts + 1, input =>
    let digits := (input.takeWhile isDigit).take 3
    let rest := input.drop digits.length
    let octet := digits.foldl (fun value digit => value * 10 + (digit.toNat - 0x30)) 0
    if digits.isEmpty || 255 < octet || (rest.head?.map isDigit).getD false then false
    else if parts = 0 then true
    else match rest with
    | 0x2e :: rest => isIpv4From parts rest
    | _ => false

def containsIpv4 : Bytes → Bool
  | [] => false
  | byte :: rest => (isDigit byte && isIpv4From 4 (byte :: rest)) || containsIpv4 rest

def containsIpAddress (token : Bytes) : Bool :=
  containsIpv4 token || (2 ≤ token.count 0x3a && token.all fun byte => isHexDigit byte || byte ∈ literal ":.%[]")

/-- So many groups of two digits, with the separator between them, and nothing behind. -/
def isMacFrom (separator : UInt8) : ℕ → Bytes → Bool
  | 0, input => input.isEmpty
  | groups + 1, first :: second :: rest =>
    isHexDigit first && isHexDigit second && (if groups = 0 then rest.isEmpty
      else match rest with
      | [] => false
      | byte :: rest => byte == separator && isMacFrom separator groups rest)
  | _ + 1, _ => false

def containsMacAddress (token : Bytes) : Bool := isMacFrom 0x3a 6 token || isMacFrom 0x2d 6 token

def looksLikeSecret (token : Bytes) : Bool :=
  32 ≤ token.length && token.all (fun byte => isAlpha byte || isDigit byte || byte ∈ literal "+/_=-") &&
    (4 ≤ token.count 0x2d || 40 ≤ token.length)

/-- `contains_client_identifier`: how many characters it takes. -/
def clientIdentifier (text : Bytes) : Option ℕ :=
  let digits := (text.drop 7).takeWhile isDigit
  if (text.take 7).map lower == literal "client " && !digits.isEmpty then some (7 + digits.length) else none

/-! ## The scan -/

def appendLimited (maximum : ℕ) (output value : Bytes) : Bytes := output ++ value.take (maximum - output.length)

/-- A token that stays.  The second result tells whether there was no room for all of it. -/
def appendToken (maximum : ℕ) : Bytes → Bytes → Bytes × Bool
  | output, [] => (output, false)
  | output, value :: rest =>
    if maximum ≤ output.length then (output, true)
    else appendToken maximum (output ++ [if isControl value then 0x3f else value]) rest

/-- The rest of the text goes with the token. -/
def redactsTail (core : Bytes) : Bool := sensitiveAssignment core || sensitiveKey core || containsWindowsPath core

def redacts (core : Bytes) : Bool :=
  containsEmail core || containsIpAddress core || containsMacAddress core || looksLikeSecret core

lemma length_drop_clientIdentifier {text : Bytes} {consumed : ℕ} (h : clientIdentifier text = some consumed) :
    (text.drop consumed).length < text.length := by
  simp only [clientIdentifier] at h
  split_ifs at h with hc
  obtain rfl := Option.some.inj h
  rw [Bool.and_eq_true] at hc
  have hn : text ≠ [] := by
    rintro rfl
    exact absurd hc.1 (by decide)
  have := List.length_pos_iff.mpr hn
  rw [List.length_drop]
  omega

lemma length_dropWhile_lt {p : UInt8 → Bool} {byte : UInt8} {rest : Bytes} (h : p byte) :
    ((byte :: rest).dropWhile p).length < (byte :: rest).length := by
  rw [List.dropWhile_cons_of_pos h]
  exact Nat.lt_succ_of_le (List.dropWhile_suffix _).length_le

/-- The loop of `sanitize_public_text`.  The second result tells whether something of the text is missing at the
end. -/
def scan (maximum : ℕ) (output text : Bytes) : Bytes × Bool :=
  match text with
  | [] => (output, false)
  | byte :: rest =>
    if maximum ≤ output.length then (output, true)
    else match _hclient : clientIdentifier (byte :: rest) with
    | some consumed => scan maximum (appendLimited maximum output (literal "client <id>")) ((byte :: rest).drop consumed)
    | none =>
      if _hspace : isSpaceByte byte then
        scan maximum
          (if !output.isEmpty && output.getLast? ≠ some 0x20 then appendLimited maximum output [0x20] else output)
          ((byte :: rest).dropWhile isSpaceByte)
      else
        let token := (byte :: rest).takeWhile fun byte => !isSpaceByte byte
        let core := trimToken token
        if redactsTail core then (appendLimited maximum output (literal "<redacted>"), false)
        else if redacts core then
          scan maximum (appendLimited maximum output (literal "<redacted>"))
            ((byte :: rest).dropWhile fun byte => !isSpaceByte byte)
        else
          let appended := appendToken maximum output token
          if appended.2 then appended
          else scan maximum appended.1 ((byte :: rest).dropWhile fun byte => !isSpaceByte byte)
  termination_by text.length
  decreasing_by
    · exact length_drop_clientIdentifier _hclient
    · exact length_dropWhile_lt _hspace
    · exact length_dropWhile_lt (by simpa using _hspace)
    · exact length_dropWhile_lt (by simpa using _hspace)

def sanitizePublicText (text : Bytes) (maximum : ℕ) : Bytes :=
  if maximum = 0 then []
  else
    let scanned := scan maximum [] text
    if scanned.2 && 3 ≤ maximum then scanned.1.take (maximum - 3) ++ literal "..." else scanned.1

def sanitizeAuditField (text : Bytes) (maximum : ℕ) : Bytes :=
  (sanitizePublicText text maximum).map fun value => if value = 0x09 ∨ value = 0x0a ∨ value = 0x0d then 0x20 else value

/-! ## What holds of the output -/

/-- **The rule of the scan.**  What holds of the output, and still does when a token or a replacement has been put behind
it, holds at the end. -/
lemma scan_keeps {P : Bytes → Prop} {maximum : ℕ} (ht : ∀ output token, P output → P (appendToken maximum output token).1)
    (ha : ∀ output, ∀ value ∈ [literal "client <id>", [0x20], literal "<redacted>"],
      P output → P (appendLimited maximum output value)) {output : Bytes} (h : P output) (text : Bytes) :
    P (scan maximum output text).1 := by
  fun_induction scan maximum output text with
  | case1 | case2 => exact h
  | case3 output byte rest hf consumed hc ih => exact ih (ha _ _ (by simp) h)
  | case4 output byte rest hf hc hs ih =>
    refine ih ?_
    split_ifs
    · exact ha _ _ (by simp) h
    · exact h
  | case5 => exact ha _ _ (by simp) h
  | case6 output byte rest hf hc hs token core hta hr ih => exact ih (ha _ _ (by simp) h)
  | case7 => exact ht _ _ h
  | case8 output byte rest hf hc hs token core hta hr appended hm ih => exact ih (ht _ _ h)

lemma appendToken_keeps {P : Bytes → Prop} {maximum : ℕ}
    (hp : ∀ output value, output.length < maximum → isControl value = false → P output → P (output ++ [value]))
    {output : Bytes} (h : P output) (token : Bytes) : P (appendToken maximum output token).1 := by
  induction token generalizing output with
  | nil => exact h
  | cons value rest ih =>
    rw [appendToken]
    split_ifs with hf hc
    · exact h
    · exact ih (hp _ _ (not_le.mp hf) (by decide) h)
    · exact ih (hp _ _ (not_le.mp hf) (Bool.eq_false_iff.mpr hc) h)

lemma length_scan {maximum : ℕ} {output : Bytes} (h : output.length ≤ maximum) (text : Bytes) :
    (scan maximum output text).1.length ≤ maximum := by
  refine scan_keeps (P := fun output => output.length ≤ maximum) (fun output token h => ?_) (fun output value _ h => ?_) h text
  · refine appendToken_keeps (P := fun output => output.length ≤ maximum) (fun output value hr _ _ => ?_) h token
    rw [List.length_append, List.length_singleton]
    exact hr
  · rw [appendLimited, List.length_append, List.length_take]
    omega

/-- Without control characters. -/
abbrev Printable (text : Bytes) : Prop := text.all (! isControl ·) = true

lemma printable_iff {text : Bytes} : Printable text ↔ ∀ byte ∈ text, isControl byte = false := by
  simp [Printable, List.all_eq_true]

lemma Printable.append {a b : Bytes} (ha : Printable a) (hb : Printable b) : Printable (a ++ b) := by
  rw [Printable, List.all_append, ha, hb, Bool.and_self]

lemma Printable.take {text : Bytes} (h : Printable text) (n : ℕ) : Printable (text.take n) :=
  printable_iff.mpr fun byte hb => printable_iff.mp h byte (List.mem_of_mem_take hb)

lemma printable_sanitizeAuditField (text : Bytes) (maximum : ℕ) : Printable (sanitizeAuditField text maximum) := by
  have hs : Printable (scan maximum [] text).1 := by
    refine scan_keeps (P := Printable) (fun output token h => ?_) (fun output value hv h => ?_) rfl text
    · exact appendToken_keeps (P := Printable) (fun output value _ hv h => h.append (by simp [hv])) h token
    · refine h.append (Printable.take ?_ _)
      simp only [List.mem_cons, List.not_mem_nil, or_false] at hv
      rcases hv with rfl | rfl | rfl
      all_goals decide
  have hp : Printable (sanitizePublicText text maximum) := by
    rw [sanitizePublicText]
    dsimp only
    split_ifs
    · rfl
    · exact (hs.take _).append (by decide)
    · exact hs
  rw [printable_iff] at hp ⊢
  intro byte hb
  obtain ⟨value, hv, rfl⟩ := List.mem_map.mp hb
  split_ifs
  · decide
  · exact hp value hv

/-- **Sanitised text keeps its limit.** -/
theorem length_sanitizePublicText (text : Bytes) (maximum : ℕ) : (sanitizePublicText text maximum).length ≤ maximum := by
  rw [sanitizePublicText]
  split_ifs with hz
  · simp
  · dsimp only
    split_ifs with hm
    · rw [Bool.and_eq_true, decide_eq_true_eq] at hm
      have hd : (literal "...").length = 3 := rfl
      rw [List.length_append, List.length_take, hd]
      omega
    · exact length_scan (Nat.zero_le _) text

lemma length_sanitizeAuditField (text : Bytes) (maximum : ℕ) : (sanitizeAuditField text maximum).length ≤ maximum := by
  rw [sanitizeAuditField, List.length_map]
  exact length_sanitizePublicText text maximum

end Nstu.Audit
