import Replay.Json.Draws
import Replay.Proofs.Json.Feed

/-!
# Words and texts, drawn and read

A word or a text that is drawn from a feed follows the reader of it for octets at
hand. The loop over the octets of a text is compared part by part: an escape is one
part, and so is any other octet.
-/

namespace Replay.Json

variable {document rest : Bytes} {ending : Ending} {feed : Feed}

theorem follows_word (letters : Bytes) (stands : feed.Stands document ending rest)
    (fresh : feed.Fresh) :
    Follows document ending Settled ((Draw.word letters).run feed)
      ((word ending letters rest).map fun left => ((), left)) := by
  induction letters generalizing rest feed with
  | nil => exact follows_pure stands fresh
  | cons letter letters ih =>
    cases rest with
    | nil => exact Follows.next_end stands
    | cons octet rest =>
      refine Follows.next stands fun feed stands fresh => ?_
      rw [word]
      split
      · exact ih stands fresh
      · exact follows_refuse (stands.error_consumed fresh _)

/-! ## Texts -/

theorem follows_hexUnit (stands : feed.Stands document ending rest) :
    Follows document ending Settled (Draw.hexUnit.run feed)
      ((hexUnit ending rest).map Taken.parts) := by
  match rest with
  | [] => exact Follows.next_end stands
  | [_] => exact Follows.next stands fun feed stands _ => Follows.next_end stands
  | [_, _] =>
    exact Follows.next stands fun _ stands _ => Follows.next stands fun _ stands _ =>
      Follows.next_end stands
  | [_, _, _] =>
    exact Follows.next stands fun _ stands _ => Follows.next stands fun _ stands _ =>
      Follows.next stands fun _ stands _ => Follows.next_end stands
  | first :: second :: third :: fourth :: rest =>
    refine Follows.next stands fun _ stands _ => Follows.next stands fun _ stands _ =>
      Follows.next stands fun _ stands _ => Follows.next stands fun _ stands fresh => ?_
    rw [hexUnit]
    cases hexUnit? first second third fourth with
    | some unit => exact follows_take stands fresh
    | none => exact follows_refuse (stands.error_consumed fresh _)

theorem follows_pairLetter (letter : UInt8) (stands : feed.Stands document ending rest) :
    Follows document ending Settled ((Draw.pairLetter letter).run feed)
      ((pairLetter ending letter rest).map Taken.parts) := by
  cases rest with
  | nil => exact Follows.next_end stands
  | cons octet rest =>
    refine Follows.next stands fun feed stands fresh => ?_
    rw [pairLetter]
    split
    · exact follows_take stands fresh
    · exact follows_refuse (stands.error_consumed fresh _)

theorem follows_trailingUnit (stands : feed.Stands document ending rest) :
    Follows document ending Settled (Draw.trailingUnit.run feed)
      ((trailingUnit ending rest).map Taken.parts) := by
  unfold trailingUnit
  refine (follows_pairLetter 0x5C stands).bind (fun fault failed => by rw [failed]; rfl)
    fun backslash took feed stands _ => ?_
  rw [took]
  refine (follows_pairLetter 0x75 stands).bind (fun fault failed => by simp only [failed]; rfl)
    fun letter took feed stands _ => ?_
  simp only [took]
  refine (follows_hexUnit stands).bind (fun fault failed => by simp only [failed]; rfl)
    fun unit took feed stands fresh => ?_
  simp only [took]
  split
  · exact follows_take stands fresh
  · exact follows_refuse (stands.error_consumed fresh _)

theorem follows_longEscape (stands : feed.Stands document ending rest) :
    Follows document ending Settled (Draw.longEscape.run feed)
      ((longEscape ending rest).map Taken.parts) := by
  unfold longEscape
  refine (follows_hexUnit stands).bind (fun fault failed => by rw [failed]; rfl)
    fun unit took feed stands fresh => ?_
  rw [took]
  simp only
  split
  · exact follows_refuse (stands.error_consumed fresh _)
  · split
    · refine (follows_trailingUnit stands).bind (fun fault failed => by simp only [failed]; rfl)
        fun trailing took feed stands fresh => ?_
      simp only [took]
      exact follows_take stands fresh
    · exact follows_take stands fresh

theorem follows_escape (stands : feed.Stands document ending rest) :
    Follows document ending Settled (Draw.escape.run feed)
      ((escape ending rest).map Taken.parts) := by
  cases rest with
  | nil => exact Follows.next_end stands
  | cons letter rest =>
    refine Follows.next stands fun feed stands fresh => ?_
    rw [escape]
    cases shortEscape? letter with
    | some octet => exact follows_take stands fresh
    | none =>
      dsimp only
      split
      · have follows := follows_longEscape stands
        cases scanned : longEscape ending rest with
        | error fault =>
          rw [scanned] at follows
          exact follows
        | ok taken =>
          rw [scanned] at follows
          exact follows
      · exact follows_refuse (stands.error_consumed fresh _)

/-- What the next octet brings to a text is what the reader of texts makes of it. -/
theorem follows_textPart {octet : UInt8} {final : Except Fault (Option Bytes × Bytes)}
    (stands : feed.Stands document ending (octet :: rest))
    (onQuote : octet = 0x22 → final = .ok (none, rest))
    (onEscape : octet = 0x5C → final =
      (escape ending rest).map fun taken => (some taken.value, taken.rest))
    (onControl : octet ≠ 0x22 → octet ≠ 0x5C → octet < 0x20 →
      final = .error ⟨.controlCharacter, .consumed, rest.length⟩)
    (onOther : octet ≠ 0x22 → octet ≠ 0x5C → ¬ octet < 0x20 →
      final = .ok (some [octet], rest)) :
    Follows document ending Settled (Draw.textPart.run feed) final := by
  refine Follows.next stands fun feed stands fresh => ?_
  split
  · next isQuote =>
    rw [onQuote isQuote]
    exact follows_pure stands fresh
  · next noQuote =>
    split
    · next isEscape =>
      rw [onEscape isEscape]
      refine (follows_escape stands).bind (fun fault failed => by rw [failed]; rfl)
        fun taken took feed stands fresh => ?_
      rw [took]
      exact follows_pure stands fresh
    · next noEscape =>
      split
      · next isControl =>
        rw [onControl noQuote noEscape isControl]
        exact follows_refuse (stands.error_consumed fresh _)
      · next noControl =>
        rw [onOther noQuote noEscape noControl]
        exact follows_pure stands fresh

theorem follows_collectText {parts : List Bytes} {decoded : Bytes} {limit bound : Nat}
    {fits : feed.size ≤ limit} {bounded : rest.length ≤ bound}
    (same : decoded = parts.reverse.flatten.reverse) (stands : feed.Stands document ending rest) :
    Follows document ending Settled
      ((Draw.collectFrom (fun _ => Draw.textPart) (fun _ => Draw.consumes_textPart) parts feed
        fits).map (Drawn.map List.flatten))
      ((octetsToQuote ending decoded rest bounded).map Taken.parts) := by
  fun_induction octetsToQuote ending decoded rest bounded generalizing feed parts with
  | case1 =>
    have part : Follows document ending Settled (Draw.textPart.run feed)
        (.error (ending.fault .endInString)) := Follows.next_end stands
    exact Follows.collect_error part
  | case2 decoded rest =>
    have part : Follows document ending Settled (Draw.textPart.run feed) (.ok (none, rest)) :=
      follows_textPart stands (fun _ => rfl) nofun (fun noQuote => absurd rfl noQuote)
        (fun noQuote => absurd rfl noQuote)
    subst same
    rw [List.reverse_reverse]
    exact Follows.collect_none part fun _ fresh => fresh
  | case3 decoded rest fault failed =>
    have part : Follows document ending Settled (Draw.textPart.run feed) (.error fault) :=
      follows_textPart stands nofun (fun _ => by rw [failed]; rfl)
        (fun _ noEscape => absurd rfl noEscape) (fun _ noEscape => absurd rfl noEscape)
    exact Follows.collect_error part
  | case4 decoded rest taken took fewer _ _ _ _ ih =>
    have part : Follows document ending Settled (Draw.textPart.run feed)
        (.ok (some taken.value, taken.rest)) :=
      follows_textPart stands nofun (fun _ => by rw [took]; rfl)
        (fun _ noEscape => absurd rfl noEscape) (fun _ noEscape => absurd rfl noEscape)
    exact Follows.collect_some part fun feed fits stands _ => ih (by simp [same]) stands
  | case5 decoded octet rest _ _ noQuote noEscape control =>
    have part : Follows document ending Settled (Draw.textPart.run feed)
        (.error ⟨.controlCharacter, .consumed, rest.length⟩) :=
      follows_textPart stands (fun isQuote => absurd isQuote noQuote)
        (fun isEscape => absurd isEscape noEscape) (fun _ _ _ => rfl)
        (fun _ _ noControl => absurd control noControl)
    exact Follows.collect_error part
  | case6 decoded octet rest _ _ noQuote noEscape noControl _ ih =>
    have part : Follows document ending Settled (Draw.textPart.run feed)
        (.ok (some [octet], rest)) :=
      follows_textPart stands (fun isQuote => absurd isQuote noQuote)
        (fun isEscape => absurd isEscape noEscape) (fun _ _ control => absurd control noControl)
        (fun _ _ _ => rfl)
    exact Follows.collect_some part fun feed fits stands _ => ih (by simp [same]) stands

theorem follows_octetsToQuote (stands : feed.Stands document ending rest) :
    Follows document ending Settled (Draw.octetsToQuote.run feed)
      ((octetsToQuote ending [] rest (Nat.le_refl _)).map Taken.parts) := by
  rw [Draw.octetsToQuote, run_bind_pure]
  exact follows_collectText rfl stands

theorem follows_text (stands : feed.Stands document ending rest) :
    Follows document ending Settled (Draw.text.run feed)
      ((text ending rest).map Taken.parts) := by
  unfold text
  refine (follows_octetsToQuote stands).bind (fun fault failed => by rw [failed]; rfl)
    fun taken took feed stands fresh => ?_
  rw [took]
  simp only
  cases Utf8.decode taken.value with
  | ok text => exact follows_take stands fresh
  | error valid => exact .refused (stands.error_behind fresh _ _).symm

end Replay.Json
