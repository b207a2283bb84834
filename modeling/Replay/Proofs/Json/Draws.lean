import Replay.Proofs.Json.DrawnNumber
import Replay.Proofs.Json.DrawnText

/-!
# Scalars, items and members, drawn and read

Each scalar that is drawn from a feed follows the reader of scalars, and so do items
between brackets and members of objects if their own draws follow their readers.
-/

namespace Replay.Json

variable {document rest : Bytes} {ending : Ending} {feed : Feed}

/-! ## Scalars -/

/-- The state of a feed behind a scalar: only a number ends in front of an octet that
was looked at. -/
def Scalar.Left (value : Scalar) (feed : Feed) : Prop :=
  match value with
  | .number _ => feed.Looked
  | _ => feed.Fresh

theorem follows_literal {first : UInt8} {value : Scalar} (letters : Bytes)
    (settles : ∀ feed : Feed, feed.Fresh → value.Left feed)
    (stands : feed.Stands document ending (first :: rest)) (ahead : feed.ahead = some first) :
    Follows document ending Scalar.Left ((Draw.literal letters value).run feed)
      ((literal ending letters value rest).map Taken.parts) := by
  unfold literal
  refine Follows.consume stands ahead fun feed stands fresh => ?_
  refine (follows_word letters stands fresh).bindWith (fun fault failed => ?_)
    fun left took feed stands fresh => ?_
  · split
    · next same =>
      rw [failed] at same
      cases same
      rfl
    · next same =>
      rw [failed] at same
      cases same
  · split
    · next same =>
      rw [took] at same
      cases same
    · next same =>
      rw [took] at same
      cases same
      exact follows_take stands (settles _ fresh)

theorem follows_scalar {first : UInt8} (stands : feed.Stands document ending (first :: rest))
    (ahead : feed.ahead = some first) :
    (Draw.scalar? first = none ∧ scalar? ending first rest = none) ∨
      ∃ draw scanned, Draw.scalar? first = some draw ∧
        scalar? ending first rest = some scanned ∧
        Follows document ending Scalar.Left (draw.run feed) (scanned.map Taken.parts) := by
  unfold Draw.scalar? scalar?
  by_cases null : first = 0x6E
  · exact .inr ⟨_, _, if_pos null, if_pos null,
      follows_literal _ (fun _ fresh => fresh) stands ahead⟩
  rw [if_neg null, if_neg null]
  by_cases yes : first = 0x74
  · exact .inr ⟨_, _, if_pos yes, if_pos yes,
      follows_literal _ (fun _ fresh => fresh) stands ahead⟩
  rw [if_neg yes, if_neg yes]
  by_cases no : first = 0x66
  · exact .inr ⟨_, _, if_pos no, if_pos no,
      follows_literal _ (fun _ fresh => fresh) stands ahead⟩
  rw [if_neg no, if_neg no]
  by_cases minus : first = 0x2D
  · refine .inr ⟨_, _, if_pos minus, if_pos minus, ?_⟩
    refine Follows.consume stands ahead fun feed stands fresh => ?_
    refine (follows_number true stands).bind (fun fault failed => by rw [failed]; rfl)
      fun taken took feed stands looked => ?_
    rw [took]
    exact follows_take stands looked
  rw [if_neg minus, if_neg minus]
  by_cases digit : isDigit first = true
  · refine .inr ⟨_, _, if_pos digit, if_pos digit, ?_⟩
    refine (follows_number false stands).bind (fun fault failed => by rw [failed]; rfl)
      fun taken took feed stands looked => ?_
    rw [took]
    exact follows_take stands looked
  rw [if_neg digit, if_neg digit]
  by_cases quote : first = 0x22
  · refine .inr ⟨_, _, if_pos quote, if_pos quote, ?_⟩
    refine Follows.consume stands ahead fun feed stands fresh => ?_
    refine (follows_text stands).bind (fun fault failed => by rw [failed]; rfl)
      fun taken took feed stands fresh => ?_
    rw [took]
    exact follows_take stands fresh
  exact .inl ⟨if_neg quote, if_neg quote⟩

/-! ## Items and members -/

theorem follows_separator (bracket : Bracket) (isFirst : Bool) {octet : UInt8}
    (stands : feed.Stands document ending (octet :: rest)) (ahead : feed.ahead = some octet) :
    Follows document ending (fun _ _ => True) ((Draw.separator bracket isFirst octet).run feed)
      ((bracket.start ending isFirst octet rest).map fun start => ((), start.val)) := by
  unfold Draw.separator Bracket.start
  by_cases first : isFirst = true
  · rw [if_pos first, if_pos first]
    exact follows_pure stands trivial
  rw [if_neg first, if_neg first]
  by_cases comma : octet = 0x2C
  · rw [if_pos comma, if_pos comma]
    refine Follows.consume stands ahead fun feed stands _ => ?_
    split
    · next dry => exact Follows.gap_end stands dry
    · next following left shape =>
      refine Follows.gap stands shape fun feed stands ahead => ?_
      split
      · exact follows_refuse (stands.error_onNext (Feed.looked_of_ahead ahead) _)
      · exact follows_pure stands trivial
  · rw [if_neg comma, if_neg comma]
    exact follows_refuse (stands.error_onNext (Feed.looked_of_ahead ahead) _)

/-- The next item as octets at hand give it, none at the closing bracket. -/
def nextItem {α : Type} (bracket : Bracket) (ending : Ending) (isFirst : Bool) (item : Reader α)
    (input : Bytes) : Except Fault (Option α × Bytes) :=
  match skipSpace input with
  | [] => .error (ending.fault bracket.ended)
  | octet :: rest =>
    if octet = bracket.close then .ok (none, rest)
    else
      match bracket.start ending isFirst octet rest with
      | .error fault => .error fault
      | .ok start => (item start.val).map fun taken => (some taken.value, taken.rest)

variable {α : Type} {left : α → Feed → Prop}

theorem follows_nextItem (bracket : Bracket) (isFirst : Bool) {draw : Draw α} {item : Reader α}
    (reads : ∀ feed rest, feed.Stands document ending rest →
      Follows document ending left (draw.run feed) ((item rest).map Taken.parts))
    (stands : feed.Stands document ending rest) :
    Follows document ending (fun value feed => value = none → feed.Fresh)
      ((Draw.nextItem bracket isFirst draw).run feed)
      (nextItem bracket ending isFirst item rest) := by
  unfold nextItem
  split
  · next dry => exact Follows.gap_end stands dry
  · next octet behind shape =>
    refine Follows.gap stands shape fun feed stands ahead => ?_
    split
    · exact Follows.consume stands ahead fun feed stands fresh =>
        follows_pure stands fun _ => fresh
    · refine (follows_separator bracket isFirst stands ahead).bindWith
        (fun fault failed => by rw [failed]) fun start took feed stands _ => ?_
      rw [took]
      refine (reads feed _ stands).bind (fun fault failed => by simp only [failed]; rfl)
        fun taken took feed stands _ => ?_
      simp only [took]
      exact follows_pure stands nofun

theorem follows_collectItems (bracket : Bracket) {draw : List α → Draw α}
    {item : List α → Reader α}
    (reads : ∀ taken feed rest, feed.Stands document ending rest →
      Follows document ending left ((draw taken).run feed) ((item taken rest).map Taken.parts))
    {taken : List α} {limit bound : Nat} {fits : feed.size ≤ limit}
    {bounded : rest.length ≤ bound} (later : taken.isEmpty = false)
    (stands : feed.Stands document ending rest) :
    Follows document ending Settled
      ((Draw.collectFrom (fun taken => Draw.nextItem bracket false (draw taken))
        (fun taken => Draw.consumes_nextItem bracket (draw taken)) taken feed fits).map
          (Drawn.map id))
      ((items bracket ending item taken rest bounded).map Taken.parts) := by
  fun_induction items bracket ending item taken rest bounded generalizing feed with
  | case1 taken input _ shape =>
    have part := follows_nextItem bracket false (reads taken) stands
    simp only [nextItem, shape] at part
    exact Follows.collect_error part
  | case2 taken input _ rest shape =>
    have part := follows_nextItem bracket false (reads taken) stands
    simp only [nextItem, shape, if_true] at part
    exact Follows.collect_none part fun _ settled => settled rfl
  | case3 taken input _ octet rest shape _ opens fault failed =>
    have part := follows_nextItem bracket false (reads taken) stands
    rw [later] at failed
    simp only [nextItem, shape, opens, if_false, failed] at part
    exact Follows.collect_error part
  | case4 taken input _ octet rest shape _ opens start found fault failed =>
    have part := follows_nextItem bracket false (reads taken) stands
    rw [later] at found
    simp only [nextItem, shape, opens, if_false, found, failed] at part
    exact Follows.collect_error part
  | case5 taken input _ octet rest shape _ opens start found next took _ _ ih =>
    have part := follows_nextItem bracket false (reads taken) stands
    rw [later] at found
    simp only [nextItem, shape, opens, if_false, found, took] at part
    exact Follows.collect_some part fun feed fits stands _ => ih rfl stands

/-- Items drawn follow items read if each item does. -/
theorem follows_items (bracket : Bracket) {draw : List α → Draw α} {item : List α → Reader α}
    (reads : ∀ taken feed rest, feed.Stands document ending rest →
      Follows document ending left ((draw taken).run feed) ((item taken rest).map Taken.parts))
    {bound : Nat} {bounded : rest.length ≤ bound} (stands : feed.Stands document ending rest) :
    Follows document ending Settled ((Draw.items bracket draw).run feed)
      ((items bracket ending item [] rest bounded).map Taken.parts) := by
  have part := follows_nextItem bracket true (reads []) stands
  rw [items]
  split
  · next shape =>
    simp only [nextItem, shape] at part
    exact part.bindError
  · next octet behind shape =>
    dsimp only
    split
    · next closes =>
      simp only [nextItem, shape, closes, if_true] at part
      exact part.bindOk fun feed stands settled => follows_pure stands (settled rfl)
    · next opens =>
      split
      · next fault failed =>
        rw [List.isEmpty_nil] at failed
        simp only [nextItem, shape, opens, if_false, failed] at part
        exact part.bindError
      · next start found =>
        rw [List.isEmpty_nil] at found
        split
        · next fault failed =>
          simp only [nextItem, shape, opens, if_false, found, failed] at part
          exact part.bindError
        · next first took =>
          simp only [nextItem, shape, opens, if_false, found, took] at part
          refine part.bindOk fun feed stands _ => ?_
          have fewer := length_lt_of_skipSpace shape
          have := first.shorter
          have := start.property
          have room : first.rest.length ≤ bound := by omega
          have follows := @follows_collectItems _ _ _ _ _ _ bracket _ _ reads [first.value] _ bound
            (Nat.le_refl _) room rfl stands
          rw [map_id_collectFrom] at follows
          exact follows

theorem follows_colon (stands : feed.Stands document ending rest) :
    Follows document ending Settled (Draw.colon.run feed)
      ((colon ending rest).map Taken.parts) := by
  unfold colon
  split
  · next shape => exact Follows.gap_end stands shape
  · next octet behind shape =>
    refine Follows.gap stands shape fun feed stands ahead => ?_
    split
    · exact follows_consume stands ahead
    · exact follows_refuse (stands.error_onNext (Feed.looked_of_ahead ahead) _)

theorem follows_outerGap {β : Type} {after : β → Feed → Prop} {onward : Option UInt8 → Draw β}
    {final : Except Fault (β × Bytes)} (stands : feed.Stands document ending rest)
    (outside : ∀ text, skipSpace rest = [] → ending = .failed text →
      final = .error ⟨.sourceFailed text, .outside, 0⟩)
    (goes : (skipSpace rest = [] → ending = .finished) → ∀ feed,
      feed.Stands document ending (skipSpace rest) → feed.Looked →
      Follows document ending after ((onward (skipSpace rest).head?).run feed) final) :
    Follows document ending after ((Draw.outerGap >>= onward).run feed) final := by
  rw [Draw.outerGap, bind_assoc]
  refine Follows.span stands fun feed stands _ => ?_
  rw [bind_assoc]
  refine Follows.peek stands fun feed stands looked => ?_
  rw [bind_assoc]
  refine Follows.go rfl ?_
  dsimp only
  rw [stands.ends]
  unfold skipSpace at outside goes
  generalize rest.dropWhile isSpace = behind at *
  rcases failed_or_goesOn behind ending with ⟨text, rfl, rfl⟩ | goesOn
  · rw [outside text rfl rfl]
    exact Follows.stop rfl rfl
  · have follows := goes goesOn feed stands looked
    cases behind with
    | nil =>
      obtain rfl := goesOn rfl
      exact Follows.go rfl follows
    | cons octet behind => exact Follows.go rfl follows

theorem follows_atEnd (stands : feed.Stands document ending rest) :
    Follows document ending (fun _ _ => True) (Draw.atEnd.run feed)
      ((atEnd ending rest).map fun _ => ((), [])) := by
  refine follows_outerGap stands ?_ ?_
  · rintro text dry rfl
    simp [atEnd, dry, Except.map]
  · intro goesOn feed stands looked
    cases shape : skipSpace rest with
    | nil =>
      obtain rfl := goesOn shape
      rw [shape] at stands
      simp only [atEnd, shape]
      exact follows_pure stands trivial
    | cons octet behind =>
      rw [shape] at stands
      simp only [atEnd, shape]
      exact follows_refuse (stands.error_onNext looked _)

theorem follows_member {read : Draw α} {value : Reader α}
    (reads : ∀ feed rest, feed.Stands document ending rest →
      Follows document ending left (read.run feed) ((value rest).map Taken.parts))
    (stands : feed.Stands document ending rest) :
    Follows document ending (fun member => left member.2) ((Draw.member read).run feed)
      ((member ending value rest).map Taken.parts) := by
  cases rest with
  | nil => exact Follows.ahead_end stands
  | cons quote rest =>
    refine Follows.ahead stands fun feed stands ahead => ?_
    by_cases isQuote : quote = 0x22
    · simp only [member, isQuote, if_true]
      refine Follows.consume stands ahead fun feed stands _ => ?_
      refine (follows_text stands).bind (fun fault failed => by rw [failed]; rfl)
        fun key took feed stands _ => ?_
      rw [took]
      dsimp only
      refine (follows_colon stands).bind (fun fault failed => by rw [failed]; rfl)
        fun colon took feed stands _ => ?_
      rw [took]
      dsimp only
      refine (reads feed _ stands).bind (fun fault failed => by rw [failed]; rfl)
        fun value took feed stands after => ?_
      rw [took]
      exact follows_take stands after
    · simp only [member, isQuote, if_false]
      exact follows_refuse (stands.error_onNext (Feed.looked_of_ahead ahead) _)

end Replay.Json
