import Replay.Json.Draws
import Replay.Proofs.Json.Feed

/-!
# Numbers, drawn and read

A number that is drawn from a feed follows the reader of numbers. The reader takes
all digits of a numeral before it judges them, where the draw stops at the digit that
makes an exponent too large; both refuse the number at that digit.
-/

namespace Replay.Json

variable {document rest : Bytes} {ending : Ending} {feed : Feed}

theorem follows_span (property : UInt8 → Bool) (stands : feed.Stands document ending rest) :
    Follows document ending Poised ((Draw.span property).run feed)
      (.ok (rest.takeWhile property, rest.dropWhile property)) := by
  have spanned := stands.span property []
  have digits := Feed.span_fst property [] feed
  rw [stands.left, List.reverse_nil, List.nil_append] at digits
  rw [← digits]
  exact .took spanned.1 spanned.2

theorem follows_wholeDigits (stands : feed.Stands document ending rest) :
    Follows document ending Poised (Draw.wholeDigits.run feed)
      ((wholeDigits ending rest).map Taken.parts) := by
  cases rest with
  | nil => exact Follows.next_end stands
  | cons first rest =>
    refine Follows.next stands fun feed stands fresh => ?_
    simp only [wholeDigits]
    split
    · exact follows_refuse (stands.error_consumed fresh _)
    · split
      · refine Follows.peek stands fun feed stands looked => ?_
        cases rest with
        | nil => exact follows_take stands looked
        | cons next rest =>
          by_cases digit : isDigit next = true
          · simp only [List.head?_cons, Option.any_some, digit, if_true]
            exact follows_refuse (stands.error_onNext looked _)
          · simp only [List.head?_cons, Option.any_some, digit]
            exact follows_take stands looked
      · exact Follows.span stands fun feed stands looked => follows_take stands looked

theorem follows_fractionDigits (stands : feed.Stands document ending rest) :
    Follows document ending Poised (Draw.fractionDigits.run feed)
      ((fractionDigits ending rest).map Taken.parts) := by
  refine Follows.peek stands fun feed stands looked => ?_
  cases rest with
  | nil => exact follows_take stands looked
  | cons point rest =>
    simp only [List.head?_cons, fractionDigits]
    split
    · refine Follows.consume stands (stands.ahead looked) fun feed stands _ => ?_
      cases rest with
      | nil => exact Follows.ahead_end stands
      | cons first rest =>
        refine Follows.ahead stands fun feed stands ahead => ?_
        simp only
        split
        · next digit =>
          have follows := follows_span isDigit stands
          rw [List.takeWhile_cons_of_pos digit, List.dropWhile_cons_of_pos digit] at follows
          exact follows
        · exact follows_refuse (stands.error_onNext (Feed.looked_of_ahead ahead) _)
    · exact follows_take stands looked

theorem follows_exponentSign (stands : feed.Stands document ending rest) :
    Follows document ending (fun _ _ => True) (Draw.exponentSign.run feed)
      (.ok ((exponentSign rest).1, (exponentSign rest).2)) := by
  refine Follows.peek stands fun feed stands looked => ?_
  cases rest with
  | nil => exact follows_pure stands trivial
  | cons sign rest =>
    have ahead := stands.ahead looked
    simp only [List.head?_cons, exponentSign]
    split
    · exact Follows.consume stands ahead fun feed stands _ => follows_pure stands trivial
    · split
      · exact Follows.consume stands ahead fun feed stands _ => follows_pure stands trivial
      · exact follows_pure stands trivial

/-- What the digits of an exponent amount to if the number is `vast` should the exponent
exceed 31 bits: they are taken, or refused with as many of them left. -/
def exponentOutcome (vast : Bool) (value : Nat) (taken rest : Bytes) :
    Except Fault (Bytes × Bytes) :=
  match vast, exponentValue value (rest.takeWhile isDigit) with
  | true, .error left =>
    .error ⟨.numberOutOfRange, .consumed, (rest.dropWhile isDigit).length + left⟩
  | _, _ => .ok (taken.reverse ++ rest.takeWhile isDigit, rest.dropWhile isDigit)

theorem follows_exponentDigitsFrom {vast : Bool} {value bound : Nat} {taken : Bytes}
    {fits : feed.size ≤ bound} (stands : feed.Stands document ending rest) :
    Follows document ending Poised (Draw.exponentDigitsFrom vast value taken feed fits)
      (exponentOutcome vast value taken rest) := by
  fun_induction Draw.exponentDigitsFrom vast value taken feed fits generalizing rest with
  | case1 value taken feed _ _ dry =>
    have ended := stands.left.symm.trans (Feed.left_of_look_eq_none dry)
    subst ended
    cases vast <;> simpa [exponentOutcome, exponentValue] using
      Follows.took stands.look feed.looked_look
  | case2 value taken feed _ _ octet ahead digit small ih =>
    have parts := stands.left.symm.trans (Feed.left_of_look ahead)
    subst parts
    have follows := ih (stands.look.drop ahead)
    have same : exponentOutcome vast value taken (octet :: feed.look.drop.left) =
        exponentOutcome vast (value * 10 + digitValue octet) (octet :: taken)
          feed.look.drop.left := by
      simp [exponentOutcome, digit, exponentValue, small]
    rwa [same]
  | case3 value taken feed _ _ octet ahead digit large isVast =>
    have parts := stands.left.symm.trans (Feed.left_of_look ahead)
    subst parts
    have same : exponentOutcome vast value taken (octet :: feed.look.drop.left) =
        .error ⟨.numberOutOfRange, .consumed, feed.look.drop.left.length⟩ := by
      have lengths := congrArg List.length
        (List.takeWhile_append_dropWhile (p := isDigit) (l := feed.look.drop.left))
      rw [List.length_append, Nat.add_comm] at lengths
      simp [exponentOutcome, digit, exponentValue, large, isVast, lengths]
    rw [same]
    exact .refused ((stands.look.drop ahead).error_consumed feed.look.fresh_drop _).symm
  | case4 value taken feed _ _ octet ahead digit large notVast =>
    -- However large the exponent is, this number is not, so all its digits are taken.
    have same : exponentOutcome vast value taken rest =
        .ok (taken.reverse ++ rest.takeWhile isDigit, rest.dropWhile isDigit) := by
      simp [exponentOutcome, notVast]
    have spanned := stands.span isDigit taken
    rw [same, ← stands.left, ← Feed.span_fst, stands.left]
    exact .took spanned.1 spanned.2
  | case5 value taken feed _ _ octet ahead noDigit =>
    have parts := stands.left.symm.trans (Feed.left_of_look ahead)
    subst parts
    cases vast <;> simpa [exponentOutcome, exponentValue, noDigit] using
      Follows.took stands.look feed.looked_look

theorem follows_exponentDigits_nil {vast : Bool} (stands : feed.Stands document ending []) :
    Follows document ending Poised ((Draw.exponentDigits vast).run feed)
      (.error (ending.fault .endInValue)) :=
  Follows.next_end stands

theorem follows_exponentDigits_cons {vast : Bool} {first : UInt8}
    (stands : feed.Stands document ending (first :: rest)) :
    Follows document ending Poised ((Draw.exponentDigits vast).run feed)
      (if isDigit first then exponentOutcome vast (digitValue first) [first] rest
      else .error ⟨.numberInvalid, .consumed, rest.length⟩) := by
  refine Follows.next stands fun feed stands fresh => ?_
  split
  · exact follows_exponentDigitsFrom stands
  · exact follows_refuse (stands.error_consumed fresh _)

/-- How many digits are left of an exponent that exceeds 31 bits, if that makes the
number too large. -/
def excess? (vast : Bool) : Option Exponent → Option Nat
  | none => none
  | some exponent =>
    match exponentValue 0 exponent.digits with
    | .ok _ => none
    | .error left => if vast && !exponent.negative then some left else none

theorem exponentValue_first (first : UInt8) (digits : Bytes) :
    exponentValue 0 (first :: digits) = exponentValue (digitValue first) digits := by
  have small : digitValue first < 0x80000000 := by
    have := first.toNat_lt
    simp only [digitValue]
    omega
  simp [exponentValue, small]

/-- Behind the first digit an exponent is refused exactly if it is excessive. -/
theorem exponentOutcome_first {vast negative : Bool} {first : UInt8} {digits : Bytes} :
    exponentOutcome (vast && !negative) (digitValue first) [first] digits =
      match excess? vast (some ⟨negative, first :: digits.takeWhile isDigit⟩) with
      | some left =>
        .error ⟨.numberOutOfRange, .consumed, (digits.dropWhile isDigit).length + left⟩
      | none => .ok (first :: digits.takeWhile isDigit, digits.dropWhile isDigit) := by
  unfold exponentOutcome excess?
  simp only [exponentValue_first]
  cases exponentValue (digitValue first) (digits.takeWhile isDigit) with
  | ok value => cases vast && !negative <;> rfl
  | error left => cases vast && !negative <;> rfl

theorem exponentPart_of_mark {mark : UInt8} (marked : (mark = 0x65 || mark = 0x45) = true) :
    (exponentPart ending (mark :: rest)).map Taken.parts =
      match (exponentSign rest).2 with
      | [] => .error (ending.fault .endInValue)
      | first :: digits =>
        if isDigit first then
          .ok (some ⟨(exponentSign rest).1, first :: digits.takeWhile isDigit⟩,
            digits.dropWhile isDigit)
        else .error ⟨.numberInvalid, .consumed, digits.length⟩ := by
  simp only [exponentPart, marked, if_true]
  split
  · next same _ => simp [same, Except.map]
  · next same _ =>
    simp only [same]
    split <;> rfl

theorem follows_exponentPart {vast : Bool} (stands : feed.Stands document ending rest) :
    Follows document ending Poised ((Draw.exponentPart vast).run feed)
      (((exponentPart ending rest).map Taken.parts).bind fun parts =>
        match excess? vast parts.1 with
        | some left => .error ⟨.numberOutOfRange, .consumed, parts.2.length + left⟩
        | none => .ok parts) := by
  refine Follows.peek stands fun feed stands looked => ?_
  cases rest with
  | nil => exact follows_pure stands looked
  | cons mark rest =>
    by_cases marked : (mark = 0x65 || mark = 0x45) = true
    · rw [exponentPart_of_mark marked]
      simp only [List.head?_cons, marked, if_true]
      refine Follows.consume stands (stands.ahead looked) fun feed stands _ => ?_
      refine (follows_exponentSign stands).bindOk fun feed stands _ => ?_
      cases behind : (exponentSign rest).2 with
      | nil =>
        rw [behind] at stands
        exact (follows_exponentDigits_nil stands).bindError
      | cons first digits =>
        rw [behind] at stands
        have follows := @follows_exponentDigits_cons document digits ending feed
          (vast && !(exponentSign rest).1) first stands
        by_cases digit : isDigit first = true
        · simp only [digit, if_true, exponentOutcome_first] at follows ⊢
          simp only [Except.bind]
          cases excess : excess? vast
            (some ⟨(exponentSign rest).1, first :: digits.takeWhile isDigit⟩) with
          | some left =>
            rw [excess] at follows
            exact follows.bindError
          | none =>
            rw [excess] at follows
            exact follows.bindOk fun feed stands looked => follows_pure stands looked
        · simp only [digit] at follows ⊢
          exact follows.bindError
    · simp only [List.head?_cons, exponentPart, marked]
      exact follows_pure stands looked

/-- Which numbers are out of range because their exponent is. -/
theorem number_eq_excess_iff {negative : Bool} {whole fraction : Bytes}
    {exponent : Option Exponent} {left : Nat} :
    (Numeral.mk negative whole fraction exponent).number = .error (some left) ↔
      excess? ((Numeral.mk negative whole fraction none).significand.1 ≠ 0) exponent =
        some left := by
  have same : (Numeral.mk negative whole fraction exponent).significand =
      (Numeral.mk negative whole fraction none).significand := rfl
  unfold Numeral.number excess?
  rw [same]
  cases exponent with
  | none =>
    simp only [reduceCtorEq, iff_false]
    split
    · simp
    · split <;> simp
  | some exponent =>
    simp only
    cases exponentValue 0 exponent.digits with
    | ok value =>
      simp only [reduceCtorEq, iff_false]
      split <;> simp
    | error excess =>
      simp only
      split
      · simp [*]
      · simp [*]

/-- A numeral is judged once the octet behind it was looked at. -/
theorem follows_numberEnd {written : Numeral} {bound : Nat} {shorter : rest.length < bound}
    (small : ∀ left, written.number ≠ .error (some left))
    (stands : feed.Stands document ending rest) :
    Follows document ending Poised
      ((Draw.look >>= fun _ =>
        match written.number with
        | .ok number => pure number
        | .error _ => Draw.refuse .numberOutOfRange).run feed)
      (Except.map Taken.parts
        (match written.number with
        | .error (some left) => .error ⟨.numberOutOfRange, .consumed, rest.length + left⟩
        | .error none =>
          if rest.isEmpty && ending.failure?.isSome then .error (ending.fault .endInValue)
          else .error ⟨.numberOutOfRange, .beforeNext, rest.length⟩
        | .ok number =>
          if rest.isEmpty && ending.failure?.isSome then .error (ending.fault .endInValue)
          else (.ok ⟨number, rest, shorter⟩ : Except Fault (Taken bound Number)))) := by
  generalize written.number = number at small ⊢
  rcases failed_or_goesOn rest ending with ⟨text, rfl, rfl⟩ | goesOn
  · cases number with
    | ok number => exact Follows.look_failed stands .endInValue
    | error left =>
      cases left with
      | some left => exact absurd rfl (small left)
      | none => exact Follows.look_failed stands .endInValue
  · have kept : (rest.isEmpty && ending.failure?.isSome) = false := by
      rw [Bool.and_eq_false_imp, List.isEmpty_iff]
      intro dry
      rw [goesOn dry]
      rfl
    refine Follows.look stands goesOn fun feed stands looked => ?_
    cases number with
    | ok number =>
      simp only [kept]
      exact follows_take stands looked
    | error left =>
      cases left with
      | some left => exact absurd rfl (small left)
      | none =>
        simp only [kept]
        exact follows_refuse (stands.error_beforeNext looked _)

theorem follows_number (negative : Bool) (stands : feed.Stands document ending rest) :
    Follows document ending Poised ((Draw.number negative).run feed)
      ((number ending negative rest).map Taken.parts) := by
  unfold number numeral
  refine (follows_wholeDigits stands).bind (fun fault failed => by rw [failed]; rfl)
    fun whole took feed stands _ => ?_
  rw [took]
  dsimp only
  refine (follows_fractionDigits stands).bind (fun fault failed => by rw [failed]; rfl)
    fun fraction took feed stands _ => ?_
  rw [took]
  dsimp only
  have follows := @follows_exponentPart _ _ _ _
    ((Numeral.mk negative whole.value fraction.value none).significand.1 ≠ 0) stands
  cases scanned : exponentPart ending fraction.rest with
  | error fault =>
    rw [scanned] at follows
    exact follows.bindError
  | ok exponent =>
    rw [scanned] at follows
    simp only [Except.map, Except.bind, Taken.parts] at follows
    have excessive := @number_eq_excess_iff negative whole.value fraction.value exponent.value
    generalize excess? _ exponent.value = excess at follows excessive
    cases excess with
    | some left =>
      dsimp only
      rw [excessive.2 rfl]
      exact follows.bindError
    | none =>
      refine follows.bindOk fun feed stands _ => ?_
      exact follows_numberEnd (fun left large => by cases excessive.1 large) stands

end Replay.Json
