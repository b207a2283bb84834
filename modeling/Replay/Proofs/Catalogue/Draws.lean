import Replay.Catalogue.Draws
import Replay.Proofs.Json.Draws

/-!
# Configuration documents, drawn and read

The draws of the parts of an entry follow the readers of these parts, and so does
the draw of a whole document: what a delivery amounts to is what the scan of the
octets delivered amounts to, with the places that octets in a row have.
-/

namespace Replay

open Json

namespace Draft

variable {document rest : Bytes} {ending : Ending} {feed : Feed} {α : Type}

/-- A scalar of another type, or another value, is refused as the reader says. -/
theorem error_foundScalar {value : Scalar} (wanted : Wanted)
    (stands : feed.Stands document ending rest) (left : value.Left feed) :
    Fault.error ⟨.typeMismatch (foundScalar value).1 wanted, (foundScalar value).2, rest.length⟩
        .stream document =
      ⟨.typeMismatch (foundScalar value).1 wanted, some feed.place⟩ := by
  cases value with
  | null => exact stands.error_consumed left _
  | boolean value => exact stands.error_consumed left _
  | number value => exact stands.error_beforeNext left _
  | text value => exact stands.error_consumed left _

/-- A draw that goes on behind a scalar follows what a reader makes of the scalar, where
every other value is refused by both. -/
theorem follows_drawScalar {wanted : Wanted} {first : UInt8} {onward : Scalar → Draw α}
    {after : α → Feed → Prop} {final : Except Fault (α × Bytes)}
    (stands : feed.Stands document ending (first :: rest)) (ahead : feed.ahead = some first)
    (onOther : (∀ taken, scalar? ending first rest ≠ some (.ok taken)) →
      final = .error (mismatch ending wanted first rest))
    (onScalar : ∀ taken, scalar? ending first rest = some (.ok taken) → ∀ feed,
      feed.Stands document ending taken.rest → taken.value.Left feed →
      Follows document ending after ((onward taken.value).run feed) final) :
    Follows document ending after ((drawScalar wanted first >>= onward).run feed) final := by
  rcases follows_scalar stands ahead with ⟨noDraw, noScalar⟩ |
    ⟨draw, scanned, isDraw, isScalar, follows⟩
  · have looked := Feed.looked_of_ahead ahead
    rw [onOther (by simp [noScalar])]
    have refused : Follows document ending Scalar.Left ((drawScalar wanted first).run feed)
        (.error (mismatch ending wanted first rest)) := by
      simp only [drawScalar, noDraw, mismatch, noScalar]
      split
      · exact follows_refuse (stands.error_beforeNext looked _)
      · split
        · exact follows_refuse (stands.error_beforeNext looked _)
        · exact follows_refuse (stands.error_onNext looked _)
    exact refused.bindError
  · simp only [drawScalar, isDraw]
    refine follows.bind (fun fault failed => ?_) fun taken took feed stands left => ?_
    · rw [onOther (by simp [isScalar, failed])]
      simp [mismatch, isScalar, failed]
    · exact onScalar taken (by rw [isScalar, took]) feed stands left

theorem follows_refuseScalar {wanted : Wanted} {after : α → Feed → Prop} {first : UInt8}
    {left : Bytes} {taken : Taken (left.length + 1) Scalar}
    (scalar : scalar? ending first left = some (.ok taken))
    (stands : feed.Stands document ending taken.rest) (state : taken.value.Left feed) :
    Follows document ending after ((refuseScalar wanted taken.value).run feed)
      (.error (mismatch ending wanted first left)) := by
  simp only [mismatch, scalar]
  exact follows_refuse (error_foundScalar wanted stands state)

theorem follows_drawStatus (stands : feed.Stands document ending rest) :
    Follows document ending Poised (drawStatus.run feed)
      ((readStatus ending rest).map Taken.parts) := by
  unfold readStatus
  split
  · next shape => exact Follows.gap_end stands shape
  · next first behind shape =>
    refine Follows.gap stands shape fun feed stands ahead => ?_
    refine @follows_drawScalar _ _ _ _ _ .status _ _ _ _ stands ahead ?_ ?_
    · intro noScalar
      dsimp only
      split
      · next scalar => exact absurd scalar (noScalar _)
      · next scalar => exact absurd scalar (noScalar _)
      · rfl
    · rintro ⟨value, left, shorter⟩ scalar feed stands state
      have other : Follows document ending Poised ((refuseScalar .status value : Draw Nat).run feed)
          (.error (mismatch ending .status first behind)) :=
        follows_refuseScalar scalar stands state
      simp only [scalar]
      cases value with
      | number value =>
        cases value with
        | natural value =>
          dsimp only
          split
          · exact follows_take stands state
          · exact follows_refuse (stands.error_beforeNext state _)
        | negative value => exact follows_refuse (stands.error_beforeNext state _)
        | floating value => exact other
      | null => exact other
      | boolean value => exact other
      | text value => exact other

theorem follows_drawBody (stands : feed.Stands document ending rest) :
    Follows document ending Settled (drawBody.run feed)
      ((readBody ending rest).map Taken.parts) := by
  unfold readBody
  split
  · next shape => exact Follows.gap_end stands shape
  · next first behind shape =>
    refine Follows.gap stands shape fun feed stands ahead => ?_
    refine @follows_drawScalar _ _ _ _ _ .body _ _ _ _ stands ahead ?_ ?_
    · intro noScalar
      dsimp only
      split
      · next scalar => exact absurd scalar (noScalar _)
      · rfl
    · rintro ⟨value, left, shorter⟩ scalar feed stands state
      have other : Follows document ending Settled
          ((refuseScalar .body value : Draw String).run feed)
          (.error (mismatch ending .body first behind)) :=
        follows_refuseScalar scalar stands state
      simp only [scalar]
      cases value with
      | text value => exact follows_take stands state
      | number value => exact other
      | null => exact other
      | boolean value => exact other

theorem follows_refuseKey {after : α → Feed → Prop} (cause : Cause)
    (stands : feed.Stands document ending rest) :
    Follows document ending after ((refuseKey cause).run feed) (.error (keyFault cause rest)) := by
  refine Follows.span stands fun feed stands looked => ?_
  unfold keyFault
  split
  · next shape =>
    rw [show rest.dropWhile isSpace = [] from shape] at stands
    exact follows_refuse (stands.error_beforeNext looked _)
  · next octet behind shape =>
    rw [show rest.dropWhile isSpace = octet :: behind from shape] at stands
    split
    · exact follows_refuse (stands.error_behindNext looked _)
    · exact follows_refuse (stands.error_beforeNext looked _)

theorem follows_drawField (field : Field) (stands : feed.Stands document ending rest) :
    Follows document ending (fun _ _ => True) ((drawField field).run feed)
      ((fieldValue ending field rest).map Taken.parts) := by
  cases field with
  | status =>
    refine (follows_drawStatus stands).bind (fun fault failed => ?_)
      fun taken took feed stands _ => ?_
    · simp [fieldValue, failed, Except.map]
    · simp only [fieldValue, took]
      exact follows_take stands trivial
  | body =>
    refine (follows_drawBody stands).bind (fun fault failed => ?_)
      fun taken took feed stands _ => ?_
    · simp [fieldValue, failed, Except.map]
    · simp only [fieldValue, took]
      exact follows_take stands trivial

theorem follows_drawMember (before : List Member) (stands : feed.Stands document ending rest) :
    Follows document ending (fun _ _ => True) ((drawMember before).run feed)
      ((member ending before rest).map Taken.parts) := by
  cases rest with
  | nil => exact Follows.ahead_end stands
  | cons quote rest =>
    refine Follows.ahead stands fun feed stands ahead => ?_
    by_cases isQuote : quote = 0x22
    · simp only [member, isQuote, if_true]
      refine Follows.consume stands ahead fun feed stands _ => ?_
      refine (follows_text stands).bind (fun fault failed => by rw [failed]; rfl)
        fun key took feed stands _ => ?_
      rw [took]
      dsimp only
      cases named : Field.ofKey? key.value with
      | none => exact follows_refuseKey _ stands
      | some field =>
        dsimp only
        split
        · exact follows_refuseKey _ stands
        · refine (follows_colon stands).bind (fun fault failed => by rw [failed]; rfl)
            fun colon took feed stands _ => ?_
          rw [took]
          dsimp only
          have follows := follows_drawField field stands
          cases value : fieldValue ending field colon.rest with
          | error fault =>
            rw [value] at follows
            exact follows
          | ok taken =>
            rw [value] at follows
            exact follows
    · simp only [member, isQuote, if_false]
      exact follows_refuse (stands.error_onNext (Feed.looked_of_ahead ahead) _)

theorem follows_drawObject (stands : feed.Stands document ending rest) :
    Follows document ending Settled (drawObject.run feed)
      ((ofObject ending rest).map Taken.parts) := by
  unfold ofObject
  refine (follows_items .object (fun taken feed rest stands => follows_drawMember taken stands)
    stands).bind (fun fault failed => by rw [failed]; rfl) fun taken took feed stands fresh => ?_
  rw [took]
  dsimp only
  cases status? taken.value with
  | none => exact follows_refuse (stands.error_consumed fresh _)
  | some status =>
    cases body? taken.value with
    | none => exact follows_refuse (stands.error_consumed fresh _)
    | some body => exact follows_take stands fresh

theorem follows_drawPairPart (count : Nat) (stands : feed.Stands document ending rest) :
    Follows document ending (fun _ _ => True) ((drawPairPart count).run feed)
      ((pairPart ending count rest).map fun start => ((), start.val)) := by
  unfold pairPart
  split
  · next shape => exact Follows.gap_end stands shape
  · next octet behind shape =>
    refine Follows.gap stands shape fun feed stands ahead => ?_
    split
    · exact Follows.consume stands ahead fun feed stands fresh =>
        follows_refuse (stands.error_consumed fresh _)
    · have follows := follows_separator .list (count == 0) stands ahead
      cases found : Bracket.list.start ending (count == 0) octet behind with
      | error fault =>
        rw [found] at follows
        exact follows
      | ok start =>
        rw [found] at follows
        exact follows

theorem follows_drawPairEnd (stands : feed.Stands document ending rest) :
    Follows document ending Settled (drawPairEnd.run feed)
      ((pairEnd ending rest).map Taken.parts) := by
  unfold pairEnd
  split
  · next shape => exact Follows.gap_end stands shape
  · next octet behind shape =>
    refine Follows.gap stands shape fun feed stands ahead => ?_
    split
    · exact follows_consume stands ahead
    · split
      · refine Follows.consume stands ahead fun feed stands _ => ?_
        refine Follows.span stands fun feed stands _ => ?_
        refine Follows.peek stands fun feed stands looked => ?_
        change feed.Stands document ending (skipSpace behind) at stands
        change Follows _ _ _ ((ite ((skipSpace behind).head? = some Bracket.list.close)
          (Draw.refuse .trailingComma) (Draw.refuse .trailingCharacters)).run feed) _
        cases later : skipSpace behind with
        | nil =>
          rw [later] at stands
          exact follows_refuse (stands.error_onNext looked _)
        | cons following left =>
          rw [later] at stands
          by_cases closes : following = Bracket.list.close
          · simp only [closes, List.head?_cons, if_true]
            exact follows_refuse (stands.error_onNext looked _)
          · simp only [closes, List.head?_cons, Option.some.injEq, if_false]
            exact follows_refuse (stands.error_onNext looked _)
      · exact follows_refuse (stands.error_onNext (Feed.looked_of_ahead ahead) _)

theorem follows_drawPair (stands : feed.Stands document ending rest) :
    Follows document ending Settled (drawPair.run feed)
      ((ofPair ending rest).map Taken.parts) := by
  unfold ofPair
  refine (follows_drawPairPart 0 stands).bindWith (fun fault failed => by rw [failed]; rfl)
    fun start took feed stands _ => ?_
  rw [took]
  dsimp only
  refine (follows_drawStatus stands).bind (fun fault failed => by rw [failed]; rfl)
    fun status took feed stands _ => ?_
  rw [took]
  dsimp only
  refine (follows_drawPairPart 1 stands).bindWith (fun fault failed => by rw [failed]; rfl)
    fun start took feed stands _ => ?_
  rw [took]
  dsimp only
  refine (follows_drawBody stands).bind (fun fault failed => by rw [failed]; rfl)
    fun body took feed stands _ => ?_
  rw [took]
  dsimp only
  refine (follows_drawPairEnd stands).bind (fun fault failed => by rw [failed]; rfl)
    fun close took feed stands fresh => ?_
  rw [took]
  exact follows_take stands fresh

/-- The draw of an entry follows the reader of entries. -/
theorem follows_draw (stands : feed.Stands document ending rest) :
    Follows document ending Settled (draw.run feed) ((read ending rest).map Taken.parts) := by
  unfold read
  split
  · next shape => exact Follows.gap_end stands shape
  · next first behind shape =>
    refine Follows.gap stands shape fun feed stands ahead => ?_
    dsimp only
    split
    · refine Follows.consume stands ahead fun feed stands _ => ?_
      have follows := follows_drawObject stands
      cases scanned : ofObject ending behind with
      | error fault =>
        rw [scanned] at follows
        exact follows
      | ok taken =>
        rw [scanned] at follows
        exact follows
    · split
      · refine Follows.consume stands ahead fun feed stands _ => ?_
        have follows := follows_drawPair stands
        cases scanned : ofPair ending behind with
        | error fault =>
          rw [scanned] at follows
          exact follows
        | ok taken =>
          rw [scanned] at follows
          exact follows
      · refine @follows_drawScalar _ _ _ _ _ .entry _ _ _ _ stands ahead (fun _ => rfl) ?_
        intro taken scalar feed stands state
        exact follows_refuseScalar scalar stands state

end Draft

namespace Drafts

variable {document rest : Bytes} {ending : Ending} {feed : Feed}

/-- The draw of a document follows its scan. -/
theorem follows_draw (stands : feed.Stands document ending document) :
    Follows document ending (fun _ _ => True) (draw.run feed)
      ((scan ending document).map fun drafts => (drafts, [])) := by
  refine follows_outerGap stands ?_ ?_
  · rintro text dry rfl
    simp [scan, dry, Except.map]
  · intro goesOn feed stands looked
    unfold scan
    cases shape : skipSpace document with
    | nil =>
      obtain rfl := goesOn shape
      rw [shape] at stands
      exact follows_refuse (stands.error_consumed (Feed.fresh_of_looked looked stands) _)
    | cons first behind =>
      rw [shape] at stands
      have ahead := stands.ahead looked
      dsimp only [List.head?_cons]
      split
      · refine Follows.consume stands ahead fun feed stands _ => ?_
        refine (follows_items .object (fun _ feed rest stands =>
          follows_member (fun feed rest stands => Draft.follows_draw stands) stands)
          stands).bind (fun fault failed => by rw [failed]; rfl) fun taken took feed stands _ => ?_
        rw [took]
        dsimp only
        refine (follows_atEnd stands).bindWith (fun fault failed => by rw [failed]; rfl)
          fun _ ended feed stands _ => ?_
        rw [ended]
        exact follows_pure stands trivial
      · refine @Draft.follows_drawScalar _ _ _ _ _ .map _ _ _ _ stands ahead (fun _ => rfl) ?_
        intro taken scalar feed stands state
        exact Draft.follows_refuseScalar scalar stands state

/-- What comes of a delivery is what comes of the octets delivered, and of how the
delivery ends; it does not matter in which parts the octets arrived. -/
theorem receive_eq (delivery : Delivery) :
    receive delivery = parseStream delivery.octets delivery.ending := by
  have follows := follows_draw (Feed.stands_start delivery.parts delivery.ending)
  unfold receive parseStream Delivery.octets
  generalize draw.run _ = drawn at follows
  cases scanned : scan delivery.ending delivery.parts.flatten with
  | error fault =>
    rw [scanned] at follows
    cases follows with
    | refused same => rw [same]; rfl
  | ok drafts =>
    rw [scanned] at follows
    cases follows with
    | took stands _ => rfl

end Drafts

end Replay
