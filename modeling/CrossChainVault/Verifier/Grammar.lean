import CrossChainVault.Verifier.Jwt
import Mathlib.Data.List.Perm.Basic
import Mathlib.Data.List.TakeWhile
import Mathlib.Logic.Equiv.Defs
import Mathlib.Logic.Function.Basic

set_option autoImplicit false

/- The JSON subset as a grammar, stated on whole texts with no cursor, and the readers of the parser
against it: each takes exactly the texts of its production off the front. -/

namespace Verifier

open Result
open Leg (U64 UnixTimestamp)

/- Texts. -/

/-- Space, tab, line feed and carriage return. -/
def Spaces (text : Bytes) : Prop :=
  ∀ byte ∈ text, byte = 0x20 ∨ byte = 0x09 ∨ byte = 0x0a ∨ byte = 0x0d

/-- Printable ASCII other than the quote and the backslash. -/
def Plain (value : Bytes) : Prop :=
  ∀ byte ∈ value, 0x20 ≤ byte ∧ byte ≤ 0x7e ∧ byte ≠ 0x22 ∧ byte ≠ 0x5c

def StringText (text value : Bytes) : Prop := Plain value ∧ text = 0x22 :: (value ++ [0x22])

/-- One field: a quoted name, a colon and the text of a value. -/
def FieldText (key value text : Bytes) : Prop :=
  ∃ quoted before colon after trailing : Bytes, StringText quoted key ∧ Spaces before ∧
    Spaces colon ∧ Spaces after ∧ Spaces trailing ∧
    text = before ++ (quoted ++ (colon ++ 0x3a :: (after ++ (value ++ trailing))))

/-- One or more fields with commas between them. -/
inductive FieldsText : List (Bytes × Bytes) → Bytes → Prop
  | single {key value text : Bytes} (field : FieldText key value text) :
      FieldsText [(key, value)] text
  | more {key value text : Bytes} {fields : List (Bytes × Bytes)} {others : Bytes}
      (field : FieldText key value text) (rest : FieldsText fields others) :
      FieldsText ((key, value) :: fields) (text ++ 0x2c :: others)

/-- An object with these fields in this order, from brace to brace. -/
def ObjectText (fields : List (Bytes × Bytes)) (text : Bytes) : Prop :=
  ∃ inner : Bytes, (fields = [] ∧ Spaces inner ∨ FieldsText fields inner) ∧
    text = 0x7b :: (inner ++ [0x7d])

/-- An object with exactly these fields, in any order, and nothing else in the document. -/
def Document (fields : List (Bytes × Bytes)) (json : Bytes) : Prop :=
  ∃ (order : List (Bytes × Bytes)) (before text after : Bytes), order.Perm fields ∧
    ObjectText order text ∧ Spaces before ∧ Spaces after ∧ json = before ++ (text ++ after)

def IsDigit (byte : UInt8) : Prop := 0x30 ≤ byte.toNat ∧ byte.toNat ≤ 0x39

/-- The number that decimal digits spell. -/
def decimal (digits : Bytes) : Nat :=
  digits.foldl (fun value digit => value * 10 + (digit.toNat - 0x30)) 0

/-- A decimal integer with no leading zero, up to the last second of the year 9999. -/
def TimestampText (text : Bytes) (time : UnixTimestamp) : Prop :=
  text ≠ [] ∧ (∀ byte ∈ text, IsDigit byte) ∧ text.head? ≠ some 0x30 ∧
    time.seconds = decimal text ∧ 1 ≤ decimal text ∧ decimal text ≤ 253402300799

/-- `0` or an integer of up to thirteen digits with no leading zero, then at most one point and one
to six digits. The value is scaled exactly by 10^6. -/
def AmountText (text : Bytes) (micros : Nat) : Prop :=
  ∃ integer fraction : Bytes, integer ≠ [] ∧ (∀ byte ∈ integer, IsDigit byte) ∧
    (integer = [0x30] ∨ integer.head? ≠ some 0x30) ∧ integer.length ≤ 13 ∧
    (∀ byte ∈ fraction, IsDigit byte) ∧ fraction.length ≤ 6 ∧
    text = integer ++ (if fraction = [] then [] else 0x2e :: fraction) ∧
    micros * 10 ^ fraction.length = decimal (integer ++ fraction) * 10 ^ 6

/- Whitespace. -/

theorem isWhitespace_iff {byte : UInt8} :
    isWhitespace byte = true ↔ byte = 0x20 ∨ byte = 0x09 ∨ byte = 0x0a ∨ byte = 0x0d := by
  simp [isWhitespace, or_assoc]

theorem skipWhitespace_append {spaces : Bytes} (cursor : Bytes) (blank : Spaces spaces) :
    skipWhitespace (spaces ++ cursor) = skipWhitespace cursor := by
  apply List.dropWhile_append_of_pos
  intro byte inside
  exact isWhitespace_iff.mpr (blank byte inside)

theorem skipWhitespace_cons {byte : UInt8} (cursor : Bytes) (solid : isWhitespace byte = false) :
    skipWhitespace (byte :: cursor) = byte :: cursor := by
  rw [skipWhitespace, List.dropWhile_cons, if_neg (by rw [solid]; exact Bool.false_ne_true)]

theorem skipWhitespace_split (cursor : Bytes) :
    ∃ spaces, Spaces spaces ∧ cursor = spaces ++ skipWhitespace cursor := by
  refine ⟨cursor.takeWhile isWhitespace, ?_, List.takeWhile_append_dropWhile.symm⟩
  intro byte inside
  exact isWhitespace_iff.mp (List.all_eq_true.mp List.all_takeWhile byte inside)

theorem skipWhitespace_idem (cursor : Bytes) :
    skipWhitespace (skipWhitespace cursor) = skipWhitespace cursor := by
  obtain ⟨spaces, blank, same⟩ := skipWhitespace_split cursor
  have again := skipWhitespace_append (skipWhitespace cursor) blank
  rw [← same] at again
  exact again.symm

theorem skipWhitespace_eq_nil {cursor : Bytes} : skipWhitespace cursor = [] ↔ Spaces cursor := by
  rw [skipWhitespace, List.dropWhile_eq_nil_iff]
  apply forall₂_congr
  intro byte _
  exact isWhitespace_iff

/- Readers. -/

/-- A value ends before a byte that cannot belong to a number. -/
def Delimited (rest : Bytes) : Prop := ∀ byte, rest.head? = some byte → isNumberByte byte = false

/-- Reading takes a text of the production off the front, and takes every one of them when no number
runs on behind it. -/
structure Reads {α : Type} (read : Bytes → Except VerifierError (α × Bytes))
    (Spells : Bytes → α → Prop) : Prop where
  /-- No text of the production starts with whitespace. -/
  solid : ∀ {text value}, Spells text value → ∀ rest, skipWhitespace (text ++ rest) = text ++ rest
  sound : ∀ {cursor value rest}, skipWhitespace cursor = cursor →
    read cursor = .ok (value, rest) → ∃ text, Spells text value ∧ cursor = text ++ rest
  complete : ∀ {text value rest}, Spells text value → Delimited rest →
    read (text ++ rest) = .ok (value, rest)

theorem expect_iff {cursor rest : Bytes} {expected : UInt8} :
    expect cursor expected = .ok rest ↔ cursor = expected :: rest := by
  cases cursor with
  | nil => simp [expect, advance, bind, Except.bind]
  | cons byte tail =>
      simp only [expect, advance, bind_eq_ok, Except.ok.injEq, Prod.exists, Prod.mk.injEq,
        rejectIf_eq_ok, exists_const, pure_eq_ok, Decidable.not_not, List.cons.injEq]
      constructor
      · rintro ⟨_, _, ⟨rfl, rfl⟩, rfl, rfl⟩
        exact ⟨rfl, rfl⟩
      · rintro ⟨rfl, rfl⟩
        exact ⟨_, _, ⟨rfl, rfl⟩, rfl, rfl⟩

theorem plain_cons {byte : UInt8} {value : Bytes} :
    Plain (byte :: value) ↔
      (0x20 ≤ byte ∧ byte ≤ 0x7e ∧ byte ≠ 0x22 ∧ byte ≠ 0x5c) ∧ Plain value :=
  List.forall_mem_cons

theorem stringBody_append {value : Bytes} (rest : Bytes) (plain : Plain value) :
    stringBody (value ++ 0x22 :: rest) = .ok (value, rest) := by
  induction value with
  | nil => rfl
  | cons byte value ih =>
      obtain ⟨⟨low, high, quote, backslash⟩, others⟩ := plain_cons.mp plain
      rw [List.cons_append, stringBody, if_neg quote, if_neg backslash, if_pos ⟨low, high⟩,
        ih others]
      rfl

theorem stringBody_ok {cursor value rest : Bytes} (read : stringBody cursor = .ok (value, rest)) :
    Plain value ∧ cursor = value ++ 0x22 :: rest := by
  induction cursor generalizing value with
  | nil => cases read
  | cons byte tail ih =>
      rw [stringBody] at read
      split at read
      · rename_i quote
        cases read
        exact ⟨List.forall_mem_nil _, by rw [quote, List.nil_append]⟩
      · split at read
        · cases read
        · split at read
          · rename_i quote backslash printable
            simp only [bind_eq_ok, Prod.exists, pure_eq_ok, Prod.mk.injEq] at read
            obtain ⟨text, after, inner, rfl, rfl⟩ := read
            obtain ⟨plain, rfl⟩ := ih inner
            exact ⟨plain_cons.mpr ⟨⟨printable.1, printable.2, quote, backslash⟩, plain⟩, rfl⟩
          · cases read

theorem string_reads : Reads string StringText where
  solid := by
    rintro text value ⟨-, rfl⟩ rest
    exact skipWhitespace_cons _ rfl
  sound := by
    intro cursor value rest _ read
    unfold string at read
    split at read
    · obtain ⟨plain, rfl⟩ := stringBody_ok read
      refine ⟨0x22 :: (value ++ [0x22]), ⟨plain, rfl⟩, ?_⟩
      rw [List.cons_append, List.append_assoc, List.singleton_append]
    · cases read
  complete := by
    rintro text value rest ⟨plain, rfl⟩ -
    rw [List.cons_append, List.append_assoc, List.singleton_append]
    exact stringBody_append rest plain

/- Numbers. -/

theorem isDigit_iff {byte : UInt8} : IsDigit byte ↔ 0x30 ≤ byte ∧ byte ≤ 0x39 := by
  rw [UInt8.le_iff_toNat_le, UInt8.le_iff_toNat_le]
  rfl

theorem isNumberByte_digit {byte : UInt8} (digit : IsDigit byte) : isNumberByte byte = true := by
  simp [isNumberByte, isDigit_iff.mp digit]

theorem decimal_concat (digits : Bytes) (digit : UInt8) :
    decimal (digits ++ [digit]) = decimal digits * 10 + (digit.toNat - 0x30) := by
  rw [decimal, List.foldl_append]
  rfl

/-- Digits are worth less than the next power of ten. -/
theorem decimal_lt {digits : Bytes} (each : ∀ byte ∈ digits, IsDigit byte) :
    decimal digits < 10 ^ digits.length := by
  induction digits using List.reverseRecOn with
  | nil => decide
  | append_singleton digits digit ih =>
      have last : IsDigit digit := each digit (by simp)
      have before := ih (fun byte inside => each byte (List.mem_append_left _ inside))
      rw [decimal_concat, List.length_append, List.length_singleton, Nat.pow_succ]
      have := last.2
      omega

/-- The digits before and after a point. -/
theorem decimal_append (integer fraction : Bytes) :
    decimal (integer ++ fraction) = decimal integer * 10 ^ fraction.length + decimal fraction := by
  induction fraction using List.reverseRecOn with
  | nil => simp [decimal]
  | append_singleton fraction digit ih =>
      rw [← List.append_assoc, decimal_concat, decimal_concat, ih, List.length_append,
        List.length_singleton, Nat.pow_succ, Nat.add_mul, Nat.mul_assoc, Nat.add_assoc]

theorem le_foldl_decimal (digits : Bytes) (value : Nat) :
    value ≤ digits.foldl (fun value digit => value * 10 + (digit.toNat - 0x30)) value := by
  induction digits generalizing value with
  | nil => exact Nat.le_refl value
  | cons digit digits ih =>
      have later := ih (value * 10 + (digit.toNat - 0x30))
      rw [List.foldl_cons]
      omega

/-- The overflow checks never fire before the whole number is too large. -/
theorem foldlM_digits_iff {digits : Bytes} {start value : U64} :
    digits.foldlM (fun value digit => do
      rejectIf (¬(0x30 ≤ digit.toNat ∧ digit.toNat ≤ 0x39)) .invalidNumber
      let next := value.raw * 10 + (digit.toNat - 0x30)
      if fits : next < 2 ^ 64 then .ok ⟨next, fits⟩ else .error .invalidNumber) start =
        (.ok value : Except VerifierError U64) ↔
      (∀ byte ∈ digits, IsDigit byte) ∧
      value.raw = digits.foldl (fun value digit => value * 10 + (digit.toNat - 0x30)) start.raw := by
  induction digits generalizing start with
  | nil =>
      rw [List.foldlM_nil, pure_eq_ok, List.foldl_nil, eq_comm, Unsigned.ext_iff]
      exact (and_iff_right (List.forall_mem_nil _)).symm
  | cons digit digits ih =>
      have grows := le_foldl_decimal digits (start.raw * 10 + (digit.toNat - 0x30))
      simp only [List.foldlM_cons, bind_eq_ok, rejectIf_eq_ok, exists_const, Decidable.not_not,
        List.forall_mem_cons, List.foldl_cons]
      constructor
      · rintro ⟨next, ⟨digit, step⟩, rest⟩
        split at step
        · cases step
          obtain ⟨each, total⟩ := ih.mp rest
          exact ⟨⟨digit, each⟩, total⟩
        · cases step
      · rintro ⟨⟨digit, each⟩, total⟩
        have bound := value.bound
        rw [dif_pos (by omega)]
        exact ⟨_, ⟨digit, rfl⟩, ih.mpr ⟨each, total⟩⟩

theorem parseDigits_iff {digits : Bytes} {value : U64} :
    parseDigits digits = .ok value ↔
      digits ≠ [] ∧ (∀ byte ∈ digits, IsDigit byte) ∧ value.raw = decimal digits := by
  simp only [parseDigits, bind_eq_ok, rejectIf_eq_ok, exists_const, List.isEmpty_iff]
  apply and_congr_right
  intro _
  exact foldlM_digits_iff

/-- A number with no leading zero is as large as its length says. -/
theorem pow_le_decimal {digit : UInt8} (digits : Bytes) (first : IsDigit digit)
    (solid : digit ≠ 0x30) : 10 ^ digits.length ≤ decimal (digit :: digits) := by
  have positive : 0x30 < digit.toNat := by
    apply Nat.lt_of_le_of_ne first.1
    intro same
    exact solid (UInt8.toNat_inj.mp same.symm)
  have split := decimal_append [digit] digits
  have leading : decimal [digit] = digit.toNat - 0x30 := by simp [decimal]
  rw [List.singleton_append, leading] at split
  have scaled : 1 * 10 ^ digits.length ≤ (digit.toNat - 0x30) * 10 ^ digits.length :=
    Nat.mul_le_mul_right _ (by omega)
  omega

theorem length_le_of_decimal {text : Bytes} (each : ∀ byte ∈ text, IsDigit byte)
    (noZero : text.head? ≠ some 0x30) (inside : decimal text < 10 ^ 12) : text.length ≤ 12 := by
  cases text with
  | nil => exact Nat.zero_le 12
  | cons digit digits =>
      have solid : digit ≠ 0x30 := fun zero => noZero (congrArg some zero)
      have large := pow_le_decimal digits (each digit List.mem_cons_self) solid
      have short : 10 ^ digits.length < 10 ^ 12 := Nat.lt_of_le_of_lt large inside
      exact (Nat.pow_lt_pow_iff_right (by decide)).mp short

theorem parseTimestamp_iff {text : Bytes} {time : UnixTimestamp} :
    parseTimestamp text = .ok time ↔ TimestampText text time := by
  simp only [parseTimestamp, bind_eq_ok, rejectIf_eq_ok, exists_const, not_or, parseDigits_iff]
  constructor
  · rintro ⟨⟨_, noZero⟩, value, ⟨some, each, spelled⟩, read⟩
    split at read
    · simp only [bind_eq_ok, rejectIf_eq_ok, exists_const, not_or, pure_eq_ok] at read
      obtain ⟨⟨positive, inside⟩, rfl⟩ := read
      rw [maxTimestamp] at inside
      exact ⟨some, each, noZero, congrArg Nat.cast spelled, by omega, by omega⟩
    · cases read
  · rintro ⟨some, each, noZero, spelled, positive, inside⟩
    have fits : decimal text < 2 ^ 64 := by omega
    have low : decimal text < 2 ^ 63 := by omega
    refine ⟨⟨?_, noZero⟩, ⟨decimal text, fits⟩, ⟨some, each, rfl⟩, ?_⟩
    · rw [maxTimestampDigits, Nat.not_lt]
      exact length_le_of_decimal each noZero (by omega)
    · rw [dif_pos low]
      simp only [bind_eq_ok, rejectIf_eq_ok, exists_const, not_or, pure_eq_ok]
      rw [maxTimestamp]
      exact ⟨⟨by omega, by omega⟩, UnixTimestamp.ext spelled.symm⟩

theorem checkedMul_iff {a b product : U64} :
    checkedMul a b = .ok product ↔ product.raw = a.raw * b.raw := by
  rw [checkedMul]
  split
  · rw [Except.ok.injEq, eq_comm, Unsigned.ext_iff]
  · rename_i large
    have bound := product.bound
    constructor
    · intro read
      cases read
    · intro same
      omega

theorem amountScale_raw : amountScale.raw = 10 ^ 6 := rfl

/-- The scale of a fraction always fits. -/
theorem padding_fits (digits : Nat) : 10 ^ (amountScaleDigits - digits) < 2 ^ 64 := by
  have small : 10 ^ (amountScaleDigits - digits) ≤ 10 ^ amountScaleDigits :=
    Nat.pow_le_pow_right (by decide) (Nat.sub_le _ _)
  exact Nat.lt_of_le_of_lt small (by decide)

/-- Both parts of an amount, brought to the same scale. -/
theorem scaled_parts {integer fraction : Bytes} (short : fraction.length ≤ 6) :
    (decimal integer * 10 ^ 6 + decimal fraction * 10 ^ (6 - fraction.length)) *
      10 ^ fraction.length = decimal (integer ++ fraction) * 10 ^ 6 := by
  have power : 10 ^ (6 - fraction.length) * 10 ^ fraction.length = 10 ^ 6 := by
    rw [← Nat.pow_add, Nat.sub_add_cancel short]
  rw [decimal_append, Nat.add_mul, Nat.add_mul, Nat.mul_assoc (decimal fraction), power,
    Nat.mul_right_comm]

/-- The value of an amount, from its two parts. -/
theorem amount_value_iff {integer fraction : Bytes} {micros : Nat} (short : fraction.length ≤ 6) :
    micros * 10 ^ fraction.length = decimal (integer ++ fraction) * 10 ^ 6 ↔
      micros = decimal integer * 10 ^ 6 + decimal fraction * 10 ^ (6 - fraction.length) := by
  rw [← scaled_parts short]
  exact Nat.mul_left_inj (Nat.pow_pos (by decide)).ne'

/-- No amount overflows sixty-four bits. -/
theorem AmountText.fits {text : Bytes} {micros : Nat} (spelled : AmountText text micros) :
    micros < 2 ^ 64 := by
  obtain ⟨integer, fraction, _, each, _, short, eachDigit, few, _, value⟩ := spelled
  rw [amount_value_iff few] at value
  have whole : decimal integer < 10 ^ 13 :=
    Nat.lt_of_lt_of_le (decimal_lt each) (Nat.pow_le_pow_right (by decide) short)
  have part : decimal fraction * 10 ^ (6 - fraction.length) <
      10 ^ fraction.length * 10 ^ (6 - fraction.length) :=
    Nat.mul_lt_mul_of_pos_right (decimal_lt eachDigit) (Nat.pow_pos (by decide))
  rw [← Nat.pow_add, Nat.add_sub_cancel' few] at part
  omega

/-- The integer of an amount is what stands before the first point. -/
theorem point_split (text : Bytes) :
    text.dropWhile (· != 0x2e) = [] ∧ text = text.takeWhile (· != 0x2e) ∨
      ∃ digits, text.dropWhile (· != 0x2e) = 0x2e :: digits ∧
        text = text.takeWhile (· != 0x2e) ++ 0x2e :: digits := by
  have joined := List.takeWhile_append_dropWhile (p := (· != 0x2e)) (l := text)
  cases rest : text.dropWhile (· != 0x2e) with
  | nil =>
      rw [rest, List.append_nil] at joined
      exact .inl ⟨rfl, joined.symm⟩
  | cons point digits =>
      have left : text.dropWhile (· != 0x2e) ≠ [] := by
        rw [rest]
        exact List.cons_ne_nil _ _
      have stops := List.head_dropWhile_not _ left
      simp only [rest, List.head_cons, bne_eq_false_iff_eq] at stops
      rw [rest, stops] at joined
      exact .inr ⟨digits, by rw [stops], joined.symm⟩

theorem digit_ne_point {byte : UInt8} (digit : IsDigit byte) : (byte != 0x2e) = true := by
  rw [bne_iff_ne]
  rintro rfl
  exact absurd digit.1 (by decide)

theorem noLeadingZero_iff {integer : Bytes} (nonempty : integer ≠ []) :
    (1 < integer.length → ¬integer.head? = some 0x30) ↔
      integer = [0x30] ∨ integer.head? ≠ some 0x30 := by
  match integer, nonempty with
  | [digit], _ => simp [Decidable.em]
  | digit :: other :: rest, _ => simp

theorem parseAmountMicros_ok {text : Bytes} {micros : U64}
    (read : parseAmountMicros text = .ok micros) : AmountText text micros.raw := by
  simp only [parseAmountMicros, bind_eq_ok, rejectIf_eq_ok, exists_const, not_or, parseDigits_iff,
    checkedMul_iff, Bool.and_eq_true, decide_eq_true_eq, beq_iff_eq, not_and, Nat.not_lt] at read
  obtain ⟨⟨short, leading⟩, value, ⟨nonempty, each, spelled⟩, whole, scaled, read⟩ := read
  rw [noLeadingZero_iff nonempty] at leading
  rcases point_split text with ⟨nothing, same⟩ | ⟨digits, rest, same⟩
  · rw [nothing] at read
    simp only [bind_eq_ok, pure_eq_ok, Unsigned.checkedAdd_eq_ok] at read
    obtain ⟨_, rfl, total⟩ := read
    refine ⟨_, [], nonempty, each, leading, short, List.forall_mem_nil _, Nat.zero_le 6, ?_, ?_⟩
    · rw [if_pos rfl, List.append_nil]
      exact same
    · rw [total, scaled, spelled, List.append_nil, List.length_nil, amountScale_raw]
      simp
  · rw [rest] at read
    simp only [bind_eq_ok, rejectIf_eq_ok, exists_const, dif_pos (padding_fits digits.length),
      parseDigits_iff, checkedMul_iff, Unsigned.checkedAdd_eq_ok, Nat.not_lt] at read
    obtain ⟨few, part, ⟨someDigits, eachDigit, spelledDigits⟩, lowered, scaledDigits, total⟩ := read
    refine ⟨_, digits, nonempty, each, leading, short, eachDigit, few, ?_, ?_⟩
    · rw [if_neg someDigits]
      exact same
    · rw [amount_value_iff few, total, scaled, spelled, scaledDigits, spelledDigits, amountScale_raw]
      rfl

theorem parseAmountMicros_iff {text : Bytes} {micros : U64} :
    parseAmountMicros text = .ok micros ↔ AmountText text micros.raw := by
  constructor
  · exact parseAmountMicros_ok
  · rintro ⟨integer, fraction, nonempty, each, leading, short, eachDigit, few, rfl, value⟩
    have bound := micros.bound
    rw [amount_value_iff few] at value
    have before : ∀ byte ∈ integer, (byte != 0x2e) = true := fun byte inside =>
      digit_ne_point (each byte inside)
    simp only [parseAmountMicros, bind_eq_ok, rejectIf_eq_ok, exists_const, not_or, parseDigits_iff,
      checkedMul_iff, Bool.and_eq_true, decide_eq_true_eq, beq_iff_eq, not_and, Nat.not_lt,
      List.takeWhile_append_of_pos before, List.dropWhile_append_of_pos before]
    by_cases whole : fraction = []
    · rw [if_pos whole, List.takeWhile_nil, List.append_nil, noLeadingZero_iff nonempty]
      have same : micros.raw = decimal integer * 10 ^ 6 := by simpa [whole, decimal] using value
      refine ⟨⟨short, leading⟩, ⟨decimal integer, by omega⟩, ⟨nonempty, each, rfl⟩, micros, ?_, ?_⟩
      · rw [same, amountScale_raw]
      · rw [List.dropWhile_nil]
        simp only [bind_eq_ok, pure_eq_ok, Unsigned.checkedAdd_eq_ok]
        exact ⟨_, rfl, rfl⟩
    · rw [if_neg whole, List.takeWhile_cons_of_neg (by decide), List.append_nil,
        List.dropWhile_cons_of_neg (by decide), noLeadingZero_iff nonempty]
      refine ⟨⟨short, leading⟩, ⟨decimal integer, by omega⟩, ⟨nonempty, each, rfl⟩,
        ⟨decimal integer * 10 ^ 6, by omega⟩, ?_, ?_⟩
      · rw [amountScale_raw]
      · simp only [bind_eq_ok, rejectIf_eq_ok, exists_const, dif_pos (padding_fits fraction.length),
          parseDigits_iff, checkedMul_iff, Unsigned.checkedAdd_eq_ok, Nat.not_lt]
        have scale : 1 ≤ 10 ^ (6 - fraction.length) := Nat.pow_pos (by decide)
        have grows : decimal fraction * 1 ≤ decimal fraction * 10 ^ (6 - fraction.length) :=
          Nat.mul_le_mul_left _ scale
        exact ⟨few, ⟨decimal fraction, by omega⟩, ⟨whole, eachDigit, rfl⟩,
          ⟨decimal fraction * 10 ^ (6 - fraction.length), by omega⟩, rfl, value⟩

theorem isWhitespace_of_isNumberByte {byte : UInt8} (inside : isNumberByte byte = true) :
    isWhitespace byte = false := by
  rw [Bool.eq_false_iff]
  intro blank
  rcases isWhitespace_iff.mp blank with rfl | rfl | rfl | rfl
  · cases inside
  · cases inside
  · cases inside
  · cases inside

/-- A number token runs to the first byte that is not part of one. -/
theorem number_append {text rest : Bytes} (nonempty : text ≠ [])
    (each : ∀ byte ∈ text, isNumberByte byte = true) (ends : Delimited rest) :
    number (text ++ rest) = .ok (text, rest) := by
  have stops : rest.takeWhile isNumberByte = [] ∧ rest.dropWhile isNumberByte = rest := by
    cases rest with
    | nil => exact ⟨rfl, rfl⟩
    | cons byte rest =>
        have last : ¬isNumberByte byte = true := by
          rw [ends byte rfl]
          exact Bool.false_ne_true
        exact ⟨List.takeWhile_cons_of_neg last, List.dropWhile_cons_of_neg last⟩
  have token : (text ++ rest).takeWhile isNumberByte = text := by
    rw [List.takeWhile_append_of_pos each, stops.1, List.append_nil]
  have after : (text ++ rest).dropWhile isNumberByte = rest := by
    rw [List.dropWhile_append_of_pos each, stops.2]
  simp only [number, bind_eq_ok, rejectIf_eq_ok, exists_const, pure_eq_ok, token, after,
    List.isEmpty_iff]
  exact ⟨nonempty, trivial⟩

theorem numberAs_reads {α : Type} {parse : Bytes → Except VerifierError α}
    {Spells : Bytes → α → Prop} (parses : ∀ {text value}, parse text = .ok value ↔ Spells text value)
    (token : ∀ {text value}, Spells text value →
      text ≠ [] ∧ ∀ byte ∈ text, isNumberByte byte = true) :
    Reads (numberAs parse) Spells where
  solid := by
    intro text value spelled rest
    obtain ⟨nonempty, each⟩ := token spelled
    cases text with
    | nil => exact absurd rfl nonempty
    | cons byte text =>
        exact skipWhitespace_cons _ (isWhitespace_of_isNumberByte (each byte List.mem_cons_self))
  sound := by
    intro cursor value rest _ read
    simp only [numberAs, number, bind_eq_ok, rejectIf_eq_ok, exists_const, pure_eq_ok, Prod.exists,
      Prod.mk.injEq] at read
    obtain ⟨_, _, ⟨_, rfl, rfl⟩, value, parsed, rfl, rfl⟩ := read
    exact ⟨_, parses.mp parsed, List.takeWhile_append_dropWhile.symm⟩
  complete := by
    intro text value rest spelled ends
    obtain ⟨nonempty, each⟩ := token spelled
    simp only [numberAs, bind_eq_ok, pure_eq_ok]
    exact ⟨_, number_append nonempty each ends, value, parses.mpr spelled, rfl⟩

theorem timestamp_reads : Reads (numberAs parseTimestamp) TimestampText := by
  apply numberAs_reads parseTimestamp_iff
  rintro text time ⟨nonempty, each, -⟩
  exact ⟨nonempty, fun byte inside => isNumberByte_digit (each byte inside)⟩

theorem amount_reads :
    Reads (numberAs parseAmountMicros) (fun text micros => AmountText text micros.raw) := by
  apply numberAs_reads parseAmountMicros_iff
  rintro text micros ⟨integer, fraction, nonempty, each, -, -, eachDigit, -, rfl, -⟩
  refine ⟨List.append_ne_nil_of_left_ne_nil nonempty _, ?_⟩
  intro byte inside
  rw [List.mem_append] at inside
  rcases inside with inside | inside
  · exact isNumberByte_digit (each byte inside)
  · split at inside
    · cases inside
    · rcases List.mem_cons.mp inside with rfl | inside
      · rfl
      · exact isNumberByte_digit (eachDigit byte inside)

end Verifier
