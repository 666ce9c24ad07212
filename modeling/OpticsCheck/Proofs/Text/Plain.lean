import OpticsCheck.Device.Fault
import OpticsCheck.Proofs.Text.Narrow

/-!
# Texts without controls

A text without a control is logged as it is and stays on one line. Quoting a text escapes all its
controls, and numbers are written without any. So a message that quotes the names it tells of has no
control, whatever the names are.
-/

namespace OpticsCheck
namespace Text

/-- Whether no character of the text is a control. -/
def isPlain (text : String) : Bool := text.toList.all fun c => !isControl c

/-- The lines of a text, which line breaks part. -/
def lines (text : String) : List String := (text.toList.splitOn '\n').map String.ofList

@[simp] theorem isPlain_append (first second : String) :
    isPlain (first ++ second) = (isPlain first && isPlain second) := by
  simp [isPlain]

theorem isPlain_ofList_iff {chars : List Char} :
    isPlain (String.ofList chars) = true ↔ ∀ c ∈ chars, isControl c = false := by
  simp [isPlain]

/-- For characters that are written out. -/
theorem not_isControl_of_all {chars : List Char}
    (visible : (chars.all fun c => !isControl c) = true) : ∀ c ∈ chars, isControl c = false := by
  simpa using visible

theorem isControl_of_isPlain {text : String} (plain : isPlain text = true) {c : Char}
    (mem : c ∈ text.toList) : isControl c = false := by
  simpa using List.all_eq_true.mp plain c mem

theorem not_isControl_of_isNarrow {c : Char} (narrow : isNarrow c = true) :
    isControl c = false := by
  have bounds : ' '.toNat ≤ c.toNat ∧ c.toNat ≤ '~'.toNat := by
    simpa [isNarrow, Char.le_def, UInt32.le_iff_toNat_le] using narrow
  have blank : ' '.toNat = 0x20 := rfl
  have tilde : '~'.toNat = 0x7E := rfl
  simp [isControl]
  omega

theorem isPlain_of_allNarrow {text : String} (narrow : allNarrow text = true) :
    isPlain text = true :=
  List.all_eq_true.mpr fun c mem => by
    rw [not_isControl_of_isNarrow (isNarrow_of_allNarrow narrow c mem)]
    rfl

/-- A text without a control has no line break either. -/
theorem lines_of_isPlain {text : String} (plain : isPlain text = true) : lines text = [text] := by
  have unbroken : '\n' ∉ text.toList := fun mem => by cases isControl_of_isPlain plain mem
  rw [lines, List.splitOn_eq_singleton unbroken]
  simp

theorem not_isControl_digitChar {digit : Nat} (small : digit < 16) :
    isControl digit.digitChar = false := by
  have each : ((List.range 16).map Nat.digitChar).all (fun c => !isControl c) = true := by decide
  exact not_isControl_of_all each _ (List.mem_map_of_mem (List.mem_range.mpr small))

theorem not_isControl_of_mem_toDigits {base n : Nat} (positional : 1 < base) (most : base ≤ 16)
    {c : Char} (mem : c ∈ Nat.toDigits base n) : isControl c = false := by
  induction n using Nat.strongRecOn with
  | ind n ih =>
    by_cases small : n < base
    · rw [Nat.toDigits_of_lt_base small, List.mem_singleton] at mem
      exact mem ▸ not_isControl_digitChar (by omega)
    · have large := Nat.not_lt.mp small
      have last := Nat.mod_lt n (Nat.zero_lt_of_lt positional)
      rw [Nat.toDigits_of_base_le positional large, List.mem_append, List.mem_singleton] at mem
      rcases mem with before | rfl
      · exact ih (n / base) (Nat.div_lt_self (by omega) positional) before
      · exact not_isControl_digitChar (by omega)

theorem not_isControl_of_mem_codeEscape {c d : Char} (mem : d ∈ codeEscape c) :
    isControl d = false := by
  simp only [codeEscape, List.mem_append, List.mem_cons, List.not_mem_nil, or_false] at mem
  rcases mem with ((rfl | rfl | rfl) | digit) | rfl
  · rfl
  · rfl
  · rfl
  · exact not_isControl_of_mem_toDigits (by decide) (Nat.le_refl 16) digit
  · rfl

theorem not_isControl_of_isPrintable {c : Char} (shows : isPrintable c = true) :
    isControl c = false := by
  cases control : isControl c with
  | false => rfl
  | true =>
    rw [isPrintable_of_isControl control] at shows
    cases shows

/-- A control is quoted by an escape, in which no control stands. -/
theorem not_isControl_of_mem_quotedChar {c d : Char} (mem : d ∈ quotedChar c) :
    isControl d = false := by
  unfold quotedChar at mem
  split at mem
  · exact not_isControl_of_all (by decide) d mem
  split at mem
  · exact not_isControl_of_all (by decide) d mem
  split at mem
  · exact not_isControl_of_all (by decide) d mem
  split at mem
  · exact not_isControl_of_all (by decide) d mem
  split at mem
  · next mark =>
    rcases (by simpa using mark : c = '\\' ∨ c = '"') with rfl | rfl
    · exact not_isControl_of_all (by decide) d mem
    · exact not_isControl_of_all (by decide) d mem
  split at mem
  · exact not_isControl_of_mem_codeEscape mem
  · next alone =>
    have shows : isPrintable c = true := by
      simp only [Bool.or_eq_true, Bool.not_eq_true', not_or, Bool.not_eq_false] at alone
      exact alone.2
    rw [List.mem_singleton] at mem
    exact mem ▸ not_isControl_of_isPrintable shows

@[simp] theorem isPlain_quoted (text : String) : isPlain (quoted text) = true := by
  refine isPlain_ofList_iff.mpr fun d mem => ?_
  simp only [List.cons_append, List.mem_cons, List.mem_append, List.not_mem_nil, or_false,
    List.mem_flatMap] at mem
  rcases mem with rfl | ⟨c, -, mem⟩ | rfl
  · rfl
  · exact not_isControl_of_mem_quotedChar mem
  · rfl

end Text

section Numbers

open Text (isControl)

theorem not_isControl_of_mem_digitChars {n : Nat} :
    ∀ c ∈ digitChars n, isControl c = false :=
  fun c mem => Text.not_isControl_of_isNarrow (isNarrow_of_mem_digitChars c mem)

theorem not_isControl_of_mem_zeros {count : Nat} :
    ∀ c ∈ List.replicate count '0', isControl c = false :=
  fun c mem => Text.not_isControl_of_isNarrow (isNarrow_of_mem_zeros c mem)

@[simp] theorem Binary64.isPlain_fixedText (x : Binary64) (places : Nat) :
    Text.isPlain (x.fixedText places) = true :=
  Text.isPlain_of_allNarrow (Text.allNarrow_ofList isNarrow_of_mem_writeFixed)

theorem Duration.not_isControl_of_mem_inUnits {n places : Nat} :
    ∀ c ∈ inUnits n places, isControl c = false := by
  have padded : ∀ c ∈ List.replicate (places - (digitChars (n % Nat.pow 10 places)).length) '0' ++
      digitChars (n % Nat.pow 10 places), isControl c = false :=
    List.forall_mem_append.mpr ⟨not_isControl_of_mem_zeros, not_isControl_of_mem_digitChars⟩
  refine List.forall_mem_append.mpr ⟨not_isControl_of_mem_digitChars, ?_⟩
  split
  · exact fun c mem => absurd mem List.not_mem_nil
  · refine List.forall_mem_cons.mpr ⟨rfl, fun c mem => padded c ?_⟩
    have kept := (List.dropWhile_suffix _).subset (List.mem_reverse.mp mem)
    exact List.mem_reverse.mp kept

@[simp] theorem Duration.isPlain_text (d : Duration) : Text.isPlain d.text = true := by
  have amount {n places : Nat} : Text.isPlain (String.ofList (inUnits n places)) = true :=
    Text.isPlain_ofList_iff.mpr not_isControl_of_mem_inUnits
  unfold text
  split
  · simp only [Text.isPlain_append, amount]
    decide
  split
  · simp only [Text.isPlain_append, amount]
    decide
  split
  · simp only [Text.isPlain_append, amount]
    decide
  · simp only [Text.isPlain_append, Text.isPlain_ofList_iff.mpr not_isControl_of_mem_digitChars]
    decide

end Numbers

@[simp] theorem OperStatus.isPlain_keyword (status : OperStatus) :
    Text.isPlain status.keyword = true := by
  cases status <;> decide

@[simp] theorem Vendor.isPlain_keyword (vendor : Vendor) :
    Text.isPlain vendor.keyword = true := by
  cases vendor <;> decide

/-- Whether a fault shows names in quotes only. A refused vendor and the causes that a device gives
are shown as they are. -/
def Fault.quotes : Fault → Bool
  | .invalidVendor _ | .telemetry _ | .config _ => false
  | _ => true

theorem Fault.isPlain_message {fault : Fault} (quotes : fault.quotes = true) :
    Text.isPlain fault.message = true := by
  unfold message
  cases fault with
  | noTransceivers model =>
    simp only [Text.isPlain_append, Text.isPlain_quoted]
    decide
  | unknownVendor vendor =>
    simp only [Text.isPlain_append, Vendor.isPlain_keyword]
    decide
  | awaitTimeout interface expected lastSeen timeout =>
    have seen : Text.isPlain (lastSeen.elim "nothing" OperStatus.keyword) = true := by
      cases lastSeen with
      | none => decide
      | some status => exact status.isPlain_keyword
    simp only [Text.isPlain_append, Text.isPlain_quoted, OperStatus.isPlain_keyword,
      Duration.isPlain_text, seen]
    decide
  | unknownPort port =>
    simp only [Text.isPlain_append, Text.isPlain_quoted]
    decide
  | unknownComponent component =>
    simp only [Text.isPlain_append, Text.isPlain_quoted]
    decide
  | unknownInterface interface =>
    simp only [Text.isPlain_append, Text.isPlain_quoted]
    decide
  | invalidVendor text => cases quotes
  | telemetry cause => cases quotes
  | config cause => cases quotes

end OpticsCheck
