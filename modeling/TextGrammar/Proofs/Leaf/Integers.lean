import Mathlib.Algebra.Order.Field.Power
import Mathlib.Data.Rat.Cast.Order
import Mathlib.Tactic.Linarith
import TextGrammar.Proofs.Leaf.Recognition
import TextGrammar.Proofs.Text.Integers

/-!
# Integers as far as they go

An integer takes all the digits at the cursor, a signed one also the sign in front of them. Only
then is the value compared with the width, so no number is cut short to make it fit. The numbers of
a width lie between bounds that are fractions for the smallest widths, which leave no number.
-/

namespace TextGrammar

open Text

variable {width : Option Int} {w : Int} {cs : List Char}

/-- A number is one of the unsigned integers of a width. -/
def InUnsignedRange (width : Int) (n : Nat) : Prop := (n : ℚ) ≤ 2 ^ width - 1

/-- A number is one of the integers that a width has in two's complement. -/
def InSignedRange (width n : Int) : Prop :=
  -(2 : ℚ) ^ (width - 1) ≤ n ∧ (n : ℚ) ≤ 2 ^ (width - 1) - 1

/-! ### Widths -/

/-- A power of two below the zeroth one is less than one. -/
theorem two_zpow_lt_one (h : w < 0) : (2 : ℚ) ^ w < 1 :=
  zpow_lt_one_of_neg₀ (by norm_num) h

/-- A power of two from the zeroth one on is a natural number. -/
theorem two_zpow_toNat (h : 0 ≤ w) : (2 : ℚ) ^ w = (Nat.pow 2 w.toNat : Nat) := by
  obtain ⟨k, rfl⟩ := Int.eq_ofNat_of_zero_le h
  rw [zpow_natCast, Int.toNat_natCast]
  exact (Nat.cast_pow 2 k).symm

/-- Below width zero there is no unsigned integer. -/
theorem inUnsignedRange_iff {n : Nat} : InUnsignedRange w n ↔ 0 ≤ w ∧ n < Nat.pow 2 w.toNat := by
  unfold InUnsignedRange
  by_cases hw : 0 ≤ w
  · rw [two_zpow_toNat hw, le_sub_iff_add_le]
    have hcast : (n : ℚ) + 1 ≤ (Nat.pow 2 w.toNat : Nat) ↔ n + 1 ≤ Nat.pow 2 w.toNat := by
      exact_mod_cast Iff.rfl
    rw [hcast, Nat.succ_le_iff]
    exact (and_iff_right hw).symm
  · have hpow := two_zpow_lt_one (by omega : w < 0)
    have hn : (0 : ℚ) ≤ n := Nat.cast_nonneg n
    constructor
    · intro h
      linarith
    · rintro ⟨hnonneg, -⟩
      exact absurd hnonneg hw

/-- At width zero and below there is no integer in two's complement. -/
theorem inSignedRange_iff {n : Int} :
    InSignedRange w n ↔ 0 < w ∧ -(Nat.pow 2 (w - 1).toNat : Int) ≤ n ∧
      n < (Nat.pow 2 (w - 1).toNat : Int) := by
  unfold InSignedRange
  by_cases hw : 0 < w
  · rw [two_zpow_toNat (by omega : 0 ≤ w - 1), le_sub_iff_add_le]
    have hlower : -((Nat.pow 2 (w - 1).toNat : Nat) : ℚ) ≤ n ↔
        -(Nat.pow 2 (w - 1).toNat : Int) ≤ n := by
      exact_mod_cast Iff.rfl
    have hupper : (n : ℚ) + 1 ≤ (Nat.pow 2 (w - 1).toNat : Nat) ↔
        n + 1 ≤ (Nat.pow 2 (w - 1).toNat : Int) := by
      exact_mod_cast Iff.rfl
    rw [hlower, hupper, Int.add_one_le_iff]
    exact (and_iff_right hw).symm
  · have hpow := two_zpow_lt_one (by omega : w - 1 < 0)
    constructor
    · rintro ⟨hlower, hupper⟩
      have habove : (-1 : ℚ) < n := by linarith
      have hbelow : (n : ℚ) < 0 := by linarith
      have habove' : -1 < n := by exact_mod_cast habove
      have hbelow' : n < 0 := by exact_mod_cast hbelow
      omega
    · rintro ⟨hpos, -⟩
      exact absurd hpos hw

/-- The comparison with a width is one with the bounds of the width. -/
theorem fitsUnsigned_iff {n : Nat} :
    Parser.fitsUnsigned width n = true ↔ ∀ w ∈ width, InUnsignedRange w n := by
  cases width with
  | none => simp [Parser.fitsUnsigned]
  | some w =>
    simp only [Parser.fitsUnsigned, Bool.and_eq_true, decide_eq_true_eq, Option.mem_def,
      Option.some.injEq, forall_eq']
    exact inUnsignedRange_iff.symm

/-- The comparison of a signed integer with a width is one with the bounds of the width. -/
theorem fitsSigned_iff {n : Int} :
    Parser.fitsSigned width n = true ↔ ∀ w ∈ width, InSignedRange w n := by
  cases width with
  | none => simp [Parser.fitsSigned]
  | some w =>
    simp only [Parser.fitsSigned, Bool.and_eq_true, decide_eq_true_eq, Option.mem_def,
      Option.some.injEq, forall_eq', and_assoc]
    exact inSignedRange_iff.symm

/-- A number that does not fit the width is a failure with its text; all others are matched. -/
theorem Parser.map_of_width {α : Type} {parser : Parser α} {s rest : Cursor} {value : α}
    {text : String} {fits : Bool} {InRange : Int → Prop} (f : α → Value)
    (hfits : fits = true ↔ ∀ w ∈ width, InRange w)
    (hread : parser s = if fits = true then .matched (s.matchTo value rest)
      else .failed (.tooWide s text (width.getD 0))) :
    (∀ w ∈ width, ¬InRange w → map f parser s = .failed (.tooWide s text w)) ∧
      ((∀ w ∈ width, InRange w) → map f parser s = .matched (s.matchTo (f value) rest)) := by
  constructor
  · rintro w rfl hwide
    have hnot : ¬fits = true := fun h => hwide (hfits.mp h w rfl)
    rw [if_neg hnot] at hread
    exact map_of_failed f hread
  · intro hrange
    rw [if_pos (hfits.mpr hrange)] at hread
    exact map_of_matched f hread

/-! ### Unsigned integers -/

/-- Digits that do not fit the width are all part of the failure. -/
theorem Leaf.unsigned_of_digits (width : Option Int) {s : Cursor} (h : leadingDigits s.rest ≠ []) :
    (∀ w ∈ width, ¬InUnsignedRange w (decimalValue (leadingDigits s.rest)) →
      (Leaf.unsigned width).parser s =
        .failed (.tooWide s (String.ofList (leadingDigits s.rest)) w)) ∧
    ((∀ w ∈ width, InUnsignedRange w (decimalValue (leadingDigits s.rest))) →
      (Leaf.unsigned width).parser s =
        .matched (s.matchTo (.int (decimalValue (leadingDigits s.rest)))
          (s.skip (leadingDigits s.rest).length))) := by
  have hread := Parser.unsigned_of_ne_nil width h
  simp only [readDigits_eq_decimalValue] at hread
  exact Parser.map_of_width (fun n : Nat => Value.int n) fitsUnsigned_iff hread

/-- Without a width, every number is read back from the digits that it is written with. -/
theorem Leaf.reading_unsigned_writeNat (n : Nat) :
    (Leaf.unsigned none).reading (writeNat n).toList =
      some (.int n, (writeNat n).toList.length) := by
  have hread : (Leaf.unsigned none).reading ((writeNat n).toList ++ []) = _ :=
    Leaf.reading_unsigned (isDigits_writeNat n) rfl rfl
  rwa [List.append_nil, readDigits_eq_decimalValue, decimalValue_writeNat] at hread

/-- What reading an unsigned integer comes to. All digits at the cursor are taken, as far as they
go. Without any, there is no number, since the text ends or goes on with another character. A number
that is not one of the width is a failure with its digits as they stand. Every other number is read,
with all of its digits. So a number of the width is read back from the digits that it is written
with, after any count of zeros, in front of whatever does not start with a digit. -/
theorem Leaf.unsigned_reads_longest (width : Option Int) :
    (∀ s : Cursor, ∃ digits,
      IsLongestStart (fun start => ∀ c ∈ start, isDecimal c = true) digits s.rest ∧
      (digits = [] →
        s.rest = [] ∧
            (Leaf.unsigned width).parser s = .failed (.noNumber s (.ended s "a digit")) ∨
          ∃ c later, s.rest = c :: later ∧
            (Leaf.unsigned width).parser s = .failed (.noNumber s (.mismatch s "a digit" c))) ∧
      (digits ≠ [] →
        (∀ w ∈ width, ¬InUnsignedRange w (decimalValue digits) →
          (Leaf.unsigned width).parser s = .failed (.tooWide s (String.ofList digits) w)) ∧
        ((∀ w ∈ width, InUnsignedRange w (decimalValue digits)) →
          (Leaf.unsigned width).parser s =
            .matched (s.matchTo (.int (decimalValue digits)) (s.skip digits.length))))) ∧
    ∀ n zeros, (∀ w ∈ width, InUnsignedRange w n) →
      (Leaf.unsigned width).parser.Recognizes
        (List.replicate zeros '0' ++ (writeNat n).toList) (.int n)
        fun tail => leadingDigits tail = [] := by
  constructor
  · intro s
    refine ⟨leadingDigits s.rest, isLongestStart_digits s.rest, fun hnone => ?_,
      Leaf.unsigned_of_digits width⟩
    have hfailed : (Leaf.unsigned width).parser s =
        .failed (.noNumber s (s.unexpected "a digit")) :=
      Parser.map_of_failed (fun n : Nat => Value.int n) (Parser.unsigned_of_nil width hnone)
    cases hrest : s.rest with
    | nil =>
      rw [Cursor.unexpected_of_nil hrest] at hfailed
      exact .inl ⟨rfl, hfailed⟩
    | cons c later =>
      rw [Cursor.unexpected_of_cons hrest] at hfailed
      exact .inr ⟨c, later, rfl, hfailed⟩
  · intro n zeros hrange
    have hdigits := isDigits_zeros_append zeros (isDigits_writeNat n)
    have hvalue : readDigits (List.replicate zeros '0' ++ (writeNat n).toList) = n := by
      rw [readDigits_eq_decimalValue, decimalValue_zeros_append, decimalValue_writeNat]
    have hfits := fitsUnsigned_iff.mpr hrange
    rw [← hvalue] at hfits
    have hrecognizes := Leaf.recognizes_unsigned hdigits hfits
    rwa [hvalue] at hrecognizes

/-- The greatest byte is read from its digits, with two zeros in front of them. -/
theorem unsigned_byte_read :
    (∀ w ∈ some 8, InUnsignedRange w 255) ∧
      (Leaf.unsigned (some 8)).parser.Takes (.ofText "00255;") (.int 255)
        ((Cursor.ofText "00255;").skip 5) := by
  have hrange : ∀ w ∈ some 8, InUnsignedRange w 255 := by
    intro w hw
    cases hw
    norm_num [InUnsignedRange]
  refine ⟨hrange, ?_⟩
  exact (Leaf.unsigned_reads_longest (some 8)).2 255 2 hrange _ [';'] (by cbv) (by cbv)

/-! ### Integers in two's complement -/

/-- An integer of the width is recognized in front of what is no digit. -/
theorem Leaf.recognizes_integer (h : IsInteger cs)
    (hrange : ∀ w ∈ width, InSignedRange w (integerValue cs)) :
    (Leaf.signed width).parser.Recognizes cs (.int (integerValue cs))
      fun tail => leadingDigits tail = [] := by
  refine (Leaf.parser_reads _).recognizes fun tail htail => ?_
  obtain ⟨sign, digits, hsign, hdigits, rfl⟩ := h
  have hfits := fitsSigned_iff.mpr hrange
  rw [integerValue_append hsign hdigits] at hfits ⊢
  have htake := leadingDigits_append hdigits htail
  simp only [Leaf.reading, Reading.map, Reading.signed, wholeLength, List.append_assoc,
    signLength_append_digits hsign hdigits, List.drop_left, htake,
    signFactor_append hsign hdigits, readDigits_eq_decimalValue]
  rw [if_pos ⟨hdigits.1, hfits⟩, Option.map_some, List.length_append]

/-- An integer that does not fit the width is part of the failure, with its sign. -/
theorem Leaf.signed_of_integer (width : Option Int) {s : Cursor}
    (h : leadingDigits (s.rest.drop (signLength s.rest)) ≠ []) :
    (∀ w ∈ width, ¬InSignedRange w (integerValue (s.rest.take (wholeLength s.rest))) →
      (Leaf.signed width).parser s =
        .failed (.tooWide s (String.ofList (s.rest.take (wholeLength s.rest))) w)) ∧
    ((∀ w ∈ width, InSignedRange w (integerValue (s.rest.take (wholeLength s.rest)))) →
      (Leaf.signed width).parser s =
        .matched (s.matchTo (.int (integerValue (s.rest.take (wholeLength s.rest))))
          (s.skip (wholeLength s.rest)))) := by
  have hread := Parser.signed_of_ne_nil width h
  simp only [← integerValue_take h] at hread
  exact Parser.map_of_width Value.int fitsSigned_iff hread

/-- What reading an integer in two's complement comes to. If no start of the text is an integer,
there is no number, and the failure lies behind the sign. Otherwise there is a longest start that
is an integer. If its value is not one of the width, the failure lies at the cursor and has that
start as its text; in all other cases the value is read, with the whole of the start. So an integer
of the width is read back from the text that it is written as, and from one with a plus if it is not
negative, in front of whatever does not start with a digit. -/
theorem Leaf.signed_reads_longest (width : Option Int) :
    (∀ s : Cursor,
      ((¬∃ start, start <+: s.rest ∧ IsInteger start) →
        ∃ sign, IsLongestStart IsSign sign s.rest ∧
          let place := s.skip sign.length
          (Leaf.signed width).parser s =
            .failed (.noNumber place (place.unexpected "a digit"))) ∧
      ((∃ start, start <+: s.rest ∧ IsInteger start) →
        ∃ numeral, IsLongestStart IsInteger numeral s.rest ∧
          (∀ w ∈ width, ¬InSignedRange w (integerValue numeral) →
            (Leaf.signed width).parser s = .failed (.tooWide s (String.ofList numeral) w)) ∧
          ((∀ w ∈ width, InSignedRange w (integerValue numeral)) →
            (Leaf.signed width).parser s =
              .matched (s.matchTo (.int (integerValue numeral)) (s.skip numeral.length))))) ∧
    ∀ n, (∀ w ∈ width, InSignedRange w n) →
      (Leaf.signed width).parser.Recognizes (writeInt n).toList (.int n)
        (fun tail => leadingDigits tail = []) ∧
      (0 ≤ n →
        (Leaf.signed width).parser.Recognizes ('+' :: (writeInt n).toList) (.int n)
          fun tail => leadingDigits tail = []) := by
  refine ⟨fun s => ⟨fun hnone => ?_, fun hsome => ?_⟩, fun n hrange => ⟨?_, fun hnonneg => ?_⟩⟩
  · rw [exists_integer_iff, Classical.not_not] at hnone
    refine ⟨_, isLongestStart_sign s.rest, ?_⟩
    rw [List.length_take_of_le (signLength_le s.rest)]
    exact Parser.map_of_failed Value.int (Parser.signed_of_nil width hnone)
  · rw [exists_integer_iff] at hsome
    obtain ⟨hwide, hmatched⟩ := Leaf.signed_of_integer width hsome
    refine ⟨_, isLongestStart_integer hsome, hwide, ?_⟩
    rwa [List.length_take_of_le (wholeLength_le s.rest)]
  · rw [← integerValue_writeInt n] at hrange
    have hrecognizes := Leaf.recognizes_integer (isInteger_writeInt n) hrange
    rwa [integerValue_writeInt] at hrecognizes
  · rw [← integerValue_plus_writeInt hnonneg] at hrange
    have hrecognizes := Leaf.recognizes_integer (isInteger_plus_writeInt hnonneg) hrange
    rwa [integerValue_plus_writeInt hnonneg] at hrecognizes

/-- The least byte in two's complement is read. One less does not fit, and the failure has the whole
number as its text. -/
theorem signed_byte_read :
    (∀ w ∈ some 8, InSignedRange w (-128)) ∧
      (Leaf.signed (some 8)).parser.Takes (.ofText "-128;") (.int (-128))
        ((Cursor.ofText "-128;").skip 4) ∧
      ¬InSignedRange 8 (-129) ∧
      (Leaf.signed (some 8)).parser (.ofText "-129;") =
        .failed (.tooWide (.ofText "-129;") "-129" 8) := by
  have hrange : ∀ w ∈ some 8, InSignedRange w (-128) := by
    rintro w ⟨⟩
    norm_num [InSignedRange]
  have hbelow : ¬InSignedRange 8 (-129) := by norm_num [InSignedRange]
  obtain ⟨hreads, hback⟩ := Leaf.signed_reads_longest (some 8)
  have hrest : (Cursor.ofText "-129;").rest = "-129;".toList := by cbv
  have hsigned : leadingDigits ("-129;".toList.drop (signLength "-129;".toList)) ≠ [] := by decide
  have hstarts := exists_integer_iff.mpr hsigned
  rw [← hrest] at hstarts
  obtain ⟨numeral, hlongest, hwide, -⟩ := (hreads (.ofText "-129;")).2 hstarts
  have hnumeral : "-129".toList = numeral := by
    rw [hrest] at hlongest
    exact (isLongestStart_integer hsigned).unique hlongest
  subst hnumeral
  refine ⟨hrange, (hback (-128) hrange).1 _ [';'] (by cbv) (by cbv), hbelow, ?_⟩
  exact hwide 8 rfl hbelow

end TextGrammar
