import Replay.Proofs.Json.Reading

/-!
# Numerals

The readers of numerals against their grammar. A reader takes the longest run of
digits, so it finds a numeral again only where no octet of a numeral follows;
`Delimited` says that this is so behind every value. The second part says which
numerals denote a natural number: those without sign, point and exponent whose
digits fit 64 bits.
-/

namespace Replay.Json

open Grammar

/-! ## Runs of digits -/

theorem isDigit_iff {octet : UInt8} : isDigit octet = true ↔ 0x30 ≤ octet ∧ octet ≤ 0x39 := by
  simp [isDigit]

theorem digits_iff {first : UInt8} {rest : Bytes} :
    Digits (first :: rest) ↔
      isDigit first = true ∧ ∀ octet ∈ rest, isDigit octet = true := by
  simp [Digits, isDigit_iff]

theorem digits_takeWhile {first : UInt8} (digit : isDigit first = true) (rest : Bytes) :
    Digits (first :: rest.takeWhile isDigit) := by
  exact digits_iff.2 ⟨digit, forall_mem_takeWhile isDigit rest⟩

theorem Grammar.Digits.exists_cons {octets : Bytes} (digits : Digits octets) :
    ∃ first rest, octets = first :: rest ∧ isDigit first = true ∧
      ∀ octet ∈ rest, isDigit octet = true := by
  cases octets with
  | nil => exact absurd rfl digits.1
  | cons first rest => exact ⟨first, rest, rfl, digits_iff.1 digits⟩

/-- The octets that can go on with a numeral behind its whole part. -/
def goesOn (octet : UInt8) : Bool :=
  isDigit octet || octet == 0x2E || octet == 0x65 || octet == 0x45

theorem Delimited.stops_goesOn {rest : Bytes} (delimited : Delimited rest) :
    Stops goesOn rest := by
  apply delimited.stops
  rintro octet (space | rfl | rfl | rfl)
  · rcases isSpace_iff.1 space with rfl | rfl | rfl | rfl <;> decide
  · decide
  · decide
  · decide

theorem stops_isDigit {rest : Bytes} (stops : Stops goesOn rest) : Stops isDigit rest :=
  stops.weaken fun octet digit => by simp [goesOn, digit]

/-! ## The parts of a numeral -/

theorem takes_wholeDigits_iff {ending : Ending} {input digits rest : Bytes} :
    Takes (wholeDigits ending input) digits rest ↔
      Whole digits ∧ input = digits ++ rest ∧ Stops isDigit rest := by
  constructor
  · intro takes
    unfold wholeDigits at takes
    split at takes
    · exact absurd takes not_takes_error
    · next first left =>
      split at takes
      · exact absurd takes not_takes_error
      · next digit =>
        split at takes
        · next zero =>
          subst zero
          split at takes
          · obtain ⟨rfl, rfl⟩ := takes_mk.1 takes
            exact ⟨.zero, rfl, stops_nil _⟩
          · next next left =>
            split at takes
            · exact absurd takes not_takes_error
            · next noDigit =>
              obtain ⟨rfl, rfl⟩ := takes_mk.1 takes
              exact ⟨.zero, rfl, stops_cons.2 (by simpa using noDigit)⟩
        · next leading =>
          obtain ⟨rfl, rfl⟩ := takes_mk.1 takes
          refine ⟨.digits (digits_takeWhile (by simpa using digit) left) leading, ?_,
            stops_dropWhile isDigit left⟩
          rw [List.cons_append, List.takeWhile_append_dropWhile]
  · rintro ⟨whole, rfl, stops⟩
    cases whole with
    | zero =>
      have zero : isDigit 0x30 = true := by decide
      cases rest with
      | nil => simp [wholeDigits, zero]
      | cons next left => simp [wholeDigits, zero, stops_cons.1 stops]
    | @digits first more shown leading =>
      obtain ⟨digit, all⟩ := digits_iff.1 shown
      simp [wholeDigits, digit, leading, takeWhile_append_of_stops all stops,
        dropWhile_append_of_stops all stops]

theorem fraction_of_takes {ending : Ending} {input digits rest : Bytes}
    (takes : Takes (fractionDigits ending input) digits rest) :
    ∃ octets, Fraction digits octets ∧ input = octets ++ rest := by
  unfold fractionDigits at takes
  split at takes
  · obtain ⟨rfl, rfl⟩ := takes_mk.1 takes
    exact ⟨[], .absent, rfl⟩
  · next point left =>
    split at takes
    · next isPoint =>
      subst isPoint
      split at takes
      · exact absurd takes not_takes_error
      · next first left =>
        split at takes
        · next digit =>
          obtain ⟨rfl, rfl⟩ := takes_mk.1 takes
          refine ⟨_, .present (digits_takeWhile digit left), ?_⟩
          rw [List.cons_append, List.cons_append, List.takeWhile_append_dropWhile]
        · exact absurd takes not_takes_error
    · obtain ⟨rfl, rfl⟩ := takes_mk.1 takes
      exact ⟨[], .absent, rfl⟩

theorem takes_of_fraction {ending : Ending} {digits octets rest : Bytes}
    (fraction : Fraction digits octets) (noPoint : Stops (· == 0x2E) rest)
    (noDigit : Stops isDigit rest) :
    Takes (fractionDigits ending (octets ++ rest)) digits rest := by
  cases fraction with
  | absent =>
    cases rest with
    | nil => simp [fractionDigits]
    | cons next left =>
      have other : next ≠ 0x2E := by simpa using stops_cons.1 noPoint
      simp [fractionDigits, other]
  | present shown =>
    obtain ⟨first, more, rfl, digit, all⟩ := shown.exists_cons
    simp [fractionDigits, digit, takeWhile_append_of_stops all noDigit,
      dropWhile_append_of_stops all noDigit]

theorem sign_of_exponentSign (input : Bytes) :
    ∃ sign, Sign (exponentSign input).1 sign ∧ input = sign ++ (exponentSign input).2 := by
  cases input with
  | nil => exact ⟨[], .absent, rfl⟩
  | cons sign rest =>
    by_cases plus : sign = 0x2B
    · exact ⟨[0x2B], by simp [exponentSign, plus, Sign.plus], by simp [exponentSign, plus]⟩
    · by_cases minus : sign = 0x2D
      · exact ⟨[0x2D], by simp [exponentSign, minus, Sign.minus], by simp [exponentSign, minus]⟩
      · exact ⟨[], by simp [exponentSign, plus, minus, Sign.absent],
          by simp [exponentSign, plus, minus]⟩

theorem exponentSign_append {negative : Bool} {sign rest : Bytes} {first : UInt8}
    (signed : Sign negative sign) (digit : isDigit first = true) :
    exponentSign (sign ++ first :: rest) = (negative, first :: rest) := by
  cases signed with
  | absent =>
    have noPlus : first ≠ 0x2B := by
      rintro rfl
      exact absurd digit (by decide)
    have noMinus : first ≠ 0x2D := by
      rintro rfl
      exact absurd digit (by decide)
    simp [exponentSign, noPlus, noMinus]
  | plus => simp [exponentSign]
  | minus => simp [exponentSign]

theorem power_of_takes {ending : Ending} {input rest : Bytes} {exponent : Option Exponent}
    (takes : Takes (exponentPart ending input) exponent rest) :
    ∃ octets, Power exponent octets ∧ input = octets ++ rest := by
  unfold exponentPart at takes
  split at takes
  · obtain ⟨rfl, rfl⟩ := takes_mk.1 takes
    exact ⟨[], .absent, rfl⟩
  · next mark left =>
    split at takes
    · next letter =>
      have isLetter : mark = 0x65 ∨ mark = 0x45 := by simpa using letter
      obtain ⟨sign, signed, parts⟩ := sign_of_exponentSign left
      dsimp only at takes
      split at takes
      · exact absurd takes not_takes_error
      · next negative first more _ same _ =>
        rw [same] at signed parts
        split at takes
        · next digit =>
          obtain ⟨rfl, rfl⟩ := takes_mk.1 takes
          refine ⟨_, .present isLetter signed (digits_takeWhile digit more), ?_⟩
          simp only [parts, List.cons_append, List.append_assoc, List.takeWhile_append_dropWhile]
        · exact absurd takes not_takes_error
    · obtain ⟨rfl, rfl⟩ := takes_mk.1 takes
      exact ⟨[], .absent, rfl⟩

theorem takes_exponent {ending : Ending} {mark first : UInt8} {negative : Bool}
    {left more : Bytes} (letter : mark = 0x65 ∨ mark = 0x45)
    (signed : exponentSign left = (negative, first :: more)) (digit : isDigit first = true) :
    Takes (exponentPart ending (mark :: left))
      (some ⟨negative, first :: more.takeWhile isDigit⟩) (more.dropWhile isDigit) := by
  have isLetter : (mark == 0x65 || mark == 0x45) = true := by simpa using letter
  simp only [exponentPart]
  split
  · split
    · next same _ =>
      rw [signed] at same
      cases same
    · next same _ =>
      rw [signed] at same
      cases same
      simp [digit]
  · next noLetter => exact absurd (by simpa using letter) noLetter

theorem takes_of_power {ending : Ending} {exponent : Option Exponent} {octets rest : Bytes}
    (power : Power exponent octets) (stops : Stops goesOn rest) :
    Takes (exponentPart ending (octets ++ rest)) exponent rest := by
  cases power with
  | absent =>
    cases rest with
    | nil => simp [exponentPart]
    | cons next left =>
      have others := stops_cons.1 stops
      simp only [goesOn, Bool.or_eq_false_iff, beq_eq_false_iff_ne] at others
      simp [exponentPart, others.1.2, others.2]
  | @present mark negative sign digits letter signed shown =>
    obtain ⟨first, more, rfl, digit, all⟩ := shown.exists_cons
    have taken : Takes (exponentPart ending (mark :: (sign ++ first :: (more ++ rest)))) _ _ :=
      takes_exponent letter (exponentSign_append signed digit) digit
    rw [takeWhile_append_of_stops all (stops_isDigit stops),
      dropWhile_append_of_stops all (stops_isDigit stops)] at taken
    rw [show mark :: sign ++ first :: more ++ rest = mark :: (sign ++ first :: (more ++ rest)) by
      simp]
    exact taken

/-! ## Whole numerals -/

/-- The readers that a numeral behind its sign consists of. -/
theorem takes_numeral_parts {ending : Ending} {negative : Bool} {input rest : Bytes}
    {written : Numeral} :
    Takes (numeral ending negative input) written rest ↔
      written.negative = negative ∧ ∃ behindWhole behindFraction,
        Takes (wholeDigits ending input) written.whole behindWhole ∧
        Takes (fractionDigits ending behindWhole) written.fraction behindFraction ∧
        Takes (exponentPart ending behindFraction) written.exponent rest := by
  constructor
  · intro takes
    unfold numeral at takes
    split at takes
    · exact absurd takes not_takes_error
    · next whole first =>
      split at takes
      · exact absurd takes not_takes_error
      · next fraction second =>
        split at takes
        · exact absurd takes not_takes_error
        · next exponent third =>
          obtain ⟨rfl, rfl⟩ := takes_mk.1 takes
          exact ⟨rfl, _, _, takes_of_eq first, takes_of_eq second, takes_of_eq third⟩
  · rintro ⟨rfl, _, _, ⟨_, first⟩, ⟨_, second⟩, ⟨_, third⟩⟩
    simp [numeral, first, second, third]

theorem magnitude_of_takes {ending : Ending} {negative : Bool} {input rest : Bytes}
    {written : Numeral} (takes : Takes (numeral ending negative input) written rest) :
    written.negative = negative ∧ ∃ octets, Magnitude written octets ∧ input = octets ++ rest := by
  obtain ⟨sign, _, _, first, second, third⟩ := takes_numeral_parts.1 takes
  obtain ⟨whole, rfl, _⟩ := takes_wholeDigits_iff.1 first
  obtain ⟨fraction, broken, rfl⟩ := fraction_of_takes second
  obtain ⟨power, scaled, rfl⟩ := power_of_takes third
  refine ⟨sign, _, .parts whole broken scaled, ?_⟩
  simp only [List.append_assoc]

/-- Neither a point nor a digit stands where an exponent may stand. -/
theorem Grammar.Power.stops {exponent : Option Exponent} {octets rest : Bytes}
    (power : Power exponent octets) (stops : Stops goesOn rest) :
    Stops (· == 0x2E) (octets ++ rest) ∧ Stops isDigit (octets ++ rest) := by
  cases power with
  | absent =>
    exact ⟨stops.weaken fun octet point => by simp [goesOn, eq_of_beq point], stops_isDigit stops⟩
  | present letter _ _ =>
    simp only [List.cons_append, stops_cons]
    rcases letter with rfl | rfl <;> decide

/-- No digit stands where a fraction may stand. -/
theorem Grammar.Fraction.stops {digits octets rest : Bytes} (fraction : Fraction digits octets)
    (stops : Stops isDigit rest) : Stops isDigit (octets ++ rest) := by
  cases fraction with
  | absent => exact stops
  | present shown => exact stops_cons.2 (by decide)

theorem takes_of_magnitude (ending : Ending) {written : Numeral} {octets rest : Bytes}
    (magnitude : Magnitude written octets) (delimited : Delimited rest) :
    Takes (numeral ending written.negative (octets ++ rest)) written rest := by
  obtain ⟨whole, broken, scaled⟩ := magnitude
  have behindFraction := scaled.stops delimited.stops_goesOn
  refine takes_numeral_parts.2 ⟨rfl, _, _, takes_wholeDigits_iff.2 ⟨whole, ?_,
    broken.stops behindFraction.2⟩, takes_of_fraction broken behindFraction.1 behindFraction.2,
    takes_of_power scaled delimited.stops_goesOn⟩
  simp only [List.append_assoc]

/-- A number is a numeral that denotes it. -/
theorem takes_number_iff {negative : Bool} {input rest : Bytes} {value : Number} :
    Takes (number .finished negative input) value rest ↔
      ∃ written, Takes (numeral .finished negative input) written rest ∧
        written.number = .ok value := by
  constructor
  · intro takes
    unfold number at takes
    split at takes
    · exact absurd takes not_takes_error
    · next taken first =>
      split at takes
      · exact absurd takes not_takes_error
      · split at takes <;> exact absurd takes not_takes_error
      · next denotes =>
        rw [if_neg (by simp [Ending.failure?])] at takes
        obtain ⟨rfl, rfl⟩ := takes_mk.1 takes
        exact ⟨_, takes_of_eq first, denotes⟩
  · rintro ⟨written, ⟨_, first⟩, denotes⟩
    simp [number, first, denotes, Ending.failure?]

/-! ## Natural numbers -/

/-- The number that ASCII digits denote behind the digits of another number. -/
def digitsValue (before : Nat) (digits : Bytes) : Nat :=
  digits.foldl (fun total digit => total * 10 + digitValue digit) before

theorem le_digitsValue (before : Nat) (digits : Bytes) : before ≤ digitsValue before digits := by
  induction digits generalizing before with
  | nil => exact Nat.le_refl before
  | cons digit rest ih =>
    calc before ≤ before * 10 + digitValue digit := by omega
      _ ≤ digitsValue before (digit :: rest) := ih _

/-- No more digits are counted than there are. -/
theorem count_absorb_le (significand count : Nat) (digits : Bytes) :
    (absorb significand count digits).2 ≤ count + digits.length := by
  induction digits generalizing significand count with
  | nil => simp [absorb]
  | cons digit rest ih =>
    simp only [absorb]
    split
    · have := ih (significand * 10 + digitValue digit) (count + 1)
      simp only [List.length_cons]
      omega
    · simp

/-- All digits are kept exactly if the number that they denote has 64 bits. -/
theorem absorb_eq_iff {significand count : Nat} {digits : Bytes} {value : Nat}
    (small : significand < UInt64.size) :
    absorb significand count digits = (value, count + digits.length) ↔
      digitsValue significand digits = value ∧ value < UInt64.size := by
  induction digits generalizing significand count with
  | nil =>
    simp only [absorb, digitsValue, List.foldl_nil, List.length_nil, Nat.add_zero, Prod.mk.injEq]
    constructor
    · rintro ⟨rfl, _⟩
      exact ⟨rfl, small⟩
    · rintro ⟨rfl, _⟩
      exact ⟨rfl, trivial⟩
  | cons digit rest ih =>
    simp only [absorb, digitsValue, List.foldl_cons, List.length_cons]
    split
    · next fits =>
      rw [show count + (rest.length + 1) = count + 1 + rest.length by omega]
      exact ih fits
    · next large =>
      constructor
      · intro same
        have := (Prod.mk.injEq _ _ _ _).mp same
        omega
      · rintro ⟨rfl, below⟩
        have := le_digitsValue (significand * 10 + digitValue digit) rest
        unfold digitsValue at this
        omega

theorem integerNumber_eq_natural_iff {negative : Bool} {significand value : Nat} :
    integerNumber negative significand = .natural value ↔
      negative = false ∧ significand = value := by
  unfold integerNumber
  cases negative with
  | false => simp
  | true =>
    simp only [Bool.not_true, Bool.false_eq_true, if_false, Bool.true_eq_false, false_and,
      iff_false]
    split <;> exact Number.noConfusion

/-- The numerals of integers have neither point nor exponent, and keep all digits. -/
theorem number_eq_natural_parts {written : Numeral} {value : Nat} :
    written.number = .ok (.natural value) ↔
      written.exponent = none ∧ written.fraction = [] ∧ written.significand.2.2 = false ∧
        integerNumber written.negative written.significand.1 = .natural value := by
  constructor
  · intro denotes
    unfold Numeral.number at denotes
    rcases counted : written.significand with ⟨significand, power, dropped⟩
    simp only [counted] at denotes ⊢
    split at denotes
    · next absent =>
      split at denotes
      · next kept =>
        simp only [Bool.and_eq_true, List.isEmpty_iff, Bool.not_eq_true'] at kept
        injection denotes with same
        exact ⟨absent, kept.1, kept.2, same⟩
      · split at denotes <;> cases denotes
    · split at denotes
      · split at denotes <;> cases denotes
      · split at denotes <;> cases denotes
  · rintro ⟨absent, empty, kept, same⟩
    simp [Numeral.number, absent, empty, kept, same]

/-- The numerals of natural numbers: neither sign nor point nor exponent, and
digits that denote a number of 64 bits. -/
theorem number_eq_natural_iff {written : Numeral} {value : Nat} :
    written.number = .ok (.natural value) ↔
      written.negative = false ∧ written.fraction = [] ∧ written.exponent = none ∧
        digitsValue 0 written.whole = value ∧ value < UInt64.size := by
  have counted := count_absorb_le 0 0 written.whole
  have fits : absorb 0 0 written.whole = (value, 0 + written.whole.length) ↔
      digitsValue 0 written.whole = value ∧ value < UInt64.size := absorb_eq_iff (by decide)
  rw [number_eq_natural_parts, integerNumber_eq_natural_iff, ← fits]
  rcases kept : absorb 0 0 written.whole with ⟨significand, used⟩
  rw [kept] at counted
  -- Nothing was dropped exactly if as many digits were used as there are.
  constructor
  · rintro ⟨absent, empty, none_dropped, positive, same⟩
    simp only [Numeral.significand, kept, empty, absorb, bne_eq_false_iff_eq] at none_dropped same
    refine ⟨positive, empty, absent, ?_⟩
    rw [same, show used = 0 + written.whole.length by omega]
  · rintro ⟨positive, empty, absent, same⟩
    injection same with same all
    refine ⟨absent, empty, ?_, positive, ?_⟩
    · simp only [Numeral.significand, kept, empty, absorb, bne_eq_false_iff_eq]
      omega
    · simp only [Numeral.significand, kept, empty, absorb, same]

end Replay.Json
