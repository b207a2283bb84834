import Replay.Json.Feed

/-!
# What draws owe to readers

A draw and a reader of octets at hand read the same document. `Feed.Stands` ties
a feed to the octets that the reader still has before it, and `Follows` says that
the draw ends as the reader does: with the same value and a feed that stands at
the rest, or with the refusal that the reader's fault amounts to when a document
arrives octet by octet. `Follows.bind` composes draws; the draws that others are
made of have rules of their own.
-/

namespace Replay.Json

/-! ## Where a feed stands -/

namespace Feed

/-- The feed has `rest` of the document to come, and counts as far as it fetched. -/
structure Stands (document : Bytes) (ending : Ending) (rest : Bytes) (feed : Feed) : Prop where
  ends : feed.ending = ending
  left : feed.left = rest
  place : ∃ consumed, document = consumed ++ rest ∧
    feed.place = Position.after (consumed ++ feed.ahead.toList)

/-- Nothing was fetched beyond what was consumed. -/
def Fresh (feed : Feed) : Prop :=
  feed.ahead = none

/-- The next octet was fetched, if there is one. -/
def Looked (feed : Feed) : Prop :=
  feed.ahead = feed.left.head?

variable {document rest : Bytes} {ending : Ending} {feed : Feed} {octet : UInt8}

theorem fresh_drop (feed : Feed) : feed.drop.Fresh := rfl

theorem looked_of_ahead (ahead : feed.ahead = some octet) : feed.Looked := by
  simp [Looked, left_of_ahead ahead, ahead]

theorem fresh_of_looked (looked : feed.Looked) (stands : feed.Stands document ending []) :
    feed.Fresh := by
  rw [Looked, stands.left] at looked
  exact looked

theorem looked_look (feed : Feed) : feed.look.Looked := by
  cases ahead : feed.look.ahead with
  | none => rw [Looked, left_look, left_of_look_eq_none ahead, ahead, List.head?_nil]
  | some octet => exact looked_of_ahead ahead

theorem stands_start (parts : List Bytes) (ending : Ending) :
    (start parts ending).Stands parts.flatten ending parts.flatten :=
  ⟨rfl, rfl, [], rfl, rfl⟩

theorem advance_append (position : Position) (before after : Bytes) :
    position.advance (before ++ after) = (position.advance before).advance after := by
  induction before generalizing position with
  | nil => rfl
  | cons octet before ih =>
    rw [List.cons_append, Position.advance, Position.advance]
    split
    · exact ih _
    · exact ih _

/-- Looking at an octet counts it and consumes nothing. -/
theorem Stands.look (stands : feed.Stands document ending rest) :
    feed.look.Stands document ending rest := by
  obtain ⟨consumed, parts, place⟩ := stands.place
  refine ⟨?_, feed.left_look.trans stands.left, consumed, parts, ?_⟩
  · rw [← stands.ends]
    unfold Feed.look
    split
    · rfl
    · split
      · rfl
      · rfl
  · unfold Feed.look
    split
    · exact place
    · next fresh =>
      split
      · exact place
      · rw [place, Position.after, Position.after, fresh, ← advance_append]
        simp

theorem Stands.ahead_look (stands : feed.Stands document ending rest) :
    feed.look.ahead = rest.head? := by
  rw [looked_look feed, left_look, stands.left]

theorem Stands.ahead (stands : feed.Stands document ending (octet :: rest))
    (looked : feed.Looked) : feed.ahead = some octet := by
  rw [looked, stands.left, List.head?_cons]

/-- Consuming the octet ahead leaves the octets behind it. -/
theorem Stands.drop (stands : feed.Stands document ending (octet :: rest))
    (ahead : feed.ahead = some octet) : feed.drop.Stands document ending rest := by
  obtain ⟨consumed, parts, place⟩ := stands.place
  have left := stands.left
  rw [left_of_ahead ahead] at left
  refine ⟨stands.ends, List.tail_eq_of_cons_eq left, consumed ++ [octet], ?_, ?_⟩
  · rw [parts, List.append_assoc, List.singleton_append]
  · simpa [Feed.drop, ahead] using place

/-- Consuming a run of octets leaves the octets behind the run. -/
theorem Stands.span (property : UInt8 → Bool) (taken : Bytes)
    (stands : feed.Stands document ending rest) :
    (feed.span property taken).2.Stands document ending (rest.dropWhile property) ∧
      (feed.span property taken).2.Looked := by
  fun_induction Feed.span property taken feed generalizing rest with
  | case1 taken feed dry =>
    have ended := stands.left.symm.trans (left_of_look_eq_none dry)
    subst ended
    exact ⟨stands.look, feed.looked_look⟩
  | case2 taken feed octet ahead holds ih =>
    have parts := stands.left.symm.trans (left_of_look ahead)
    subst parts
    simpa [holds] using ih (stands.look.drop ahead)
  | case3 taken feed octet ahead fails =>
    have parts := stands.left.symm.trans (left_of_look ahead)
    subst parts
    simpa [fails] using And.intro stands.look feed.looked_look

/-- What is refused where nothing was looked at lies behind what was consumed. -/
theorem Stands.error_consumed (stands : feed.Stands document ending rest) (fresh : feed.Fresh)
    (cause : Cause) :
    Fault.error ⟨cause, .consumed, rest.length⟩ .stream document =
      ⟨cause, some feed.place⟩ := by
  obtain ⟨consumed, parts, place⟩ := stands.place
  simp [Fault.error, Fault.position, parts, place, show feed.ahead = none from fresh]

theorem Stands.error_behind (stands : feed.Stands document ending rest) (fresh : feed.Fresh)
    (cause : Cause) (columns : Nat) :
    Fault.error ⟨cause, .behind columns, rest.length⟩ .stream document =
      ⟨cause, some ⟨feed.place.line, feed.place.column - columns⟩⟩ := by
  obtain ⟨consumed, parts, place⟩ := stands.place
  simp [Fault.error, Fault.position, parts, place, show feed.ahead = none from fresh]

/-- What is refused where the next octet was looked at lies behind that octet. -/
theorem Stands.error_onNext (stands : feed.Stands document ending rest) (looked : feed.Looked)
    (cause : Cause) :
    Fault.error ⟨cause, .onNext, rest.length⟩ .stream document =
      ⟨cause, some feed.place⟩ := by
  obtain ⟨consumed, parts, place⟩ := stands.place
  have fetched : (consumed ++ rest).take (consumed.length + 1) =
      consumed ++ feed.ahead.toList := by
    rw [List.take_length_add_append, looked, stands.left]
    cases rest <;> rfl
  simp [Fault.error, Fault.position, parts, place, fetched]

theorem Stands.error_beforeNext (stands : feed.Stands document ending rest)
    (looked : feed.Looked) (cause : Cause) :
    Fault.error ⟨cause, .beforeNext, rest.length⟩ .stream document =
      ⟨cause, some feed.place⟩ :=
  stands.error_onNext looked cause

/-- What is refused behind an octet that was looked at is refused as if it were consumed. -/
theorem Stands.error_behindNext (stands : feed.Stands document ending (octet :: rest))
    (looked : feed.Looked) (cause : Cause) :
    Fault.error ⟨cause, .consumed, rest.length⟩ .stream document =
      ⟨cause, some feed.place⟩ :=
  (stands.drop (stands.ahead looked)).error_consumed feed.fresh_drop cause

end Feed

/-! ## Draws that follow readers -/

/-- The state of a feed behind an octet that was consumed. -/
abbrev Settled {α : Type} (_ : α) (feed : Feed) : Prop :=
  feed.Fresh

/-- The state of a feed in front of an octet that ended what was drawn. -/
abbrev Poised {α : Type} (_ : α) (feed : Feed) : Prop :=
  feed.Looked

/-- What a reader took, without the bound on the rest. -/
def Taken.parts {bound : Nat} {α : Type} (taken : Taken bound α) : α × Bytes :=
  (taken.value, taken.rest)

/-- A draw ended as a reader did, and left its feed as `after` says. -/
inductive Follows {α : Type} (document : Bytes) (ending : Ending) (after : α → Feed → Prop)
    {bound : Nat} : Except Error (Drawn bound α) → Except Fault (α × Bytes) → Prop
  | took {drawn : Drawn bound α} {rest : Bytes}
      (stands : drawn.feed.Stands document ending rest) (left : after drawn.value drawn.feed) :
      Follows document ending after (.ok drawn) (.ok (drawn.value, rest))
  | refused {error : Error} {fault : Fault} (same : error = fault.error .stream document) :
      Follows document ending after (.error error) (.error fault)

instance : LawfulMonad Draw :=
  LawfulMonad.mk' Draw
    (fun draw => by
      cases draw with
      | mk run =>
        simp only [Functor.map, Function.comp, Draw.mk.injEq]
        funext feed
        cases run feed <;> rfl)
    (fun value next => by
      simp only [Bind.bind, Pure.pure]
      cases next value with
      | mk run =>
        simp only [Draw.mk.injEq]
        funext feed
        cases run feed <;> rfl)
    (fun first second third => by
      simp only [Bind.bind, Draw.mk.injEq]
      funext feed
      cases first.run feed with
      | error error => rfl
      | ok drawn =>
        simp only
        cases (second drawn.value).run drawn.feed with
        | error error => rfl
        | ok middle =>
          simp only
          cases (third middle.value).run middle.feed <;> rfl)

/-- A source fails where nothing is left, or is at its end there. -/
theorem failed_or_goesOn (rest : Bytes) (ending : Ending) :
    (∃ text, rest = [] ∧ ending = .failed text) ∨ (rest = [] → ending = .finished) := by
  cases ending with
  | finished => exact .inr fun _ => rfl
  | failed text =>
    by_cases dry : rest = []
    · exact .inl ⟨text, dry, rfl⟩
    · exact .inr fun empty => absurd empty dry

section Follows

variable {α β τ : Type} {document rest : Bytes} {ending : Ending} {feed : Feed}
  {after : α → Feed → Prop} {afterwards : β → Feed → Prop}

theorem follows_pure {value : α} (stands : feed.Stands document ending rest)
    (left : after value feed) :
    Follows document ending after ((pure value : Draw α).run feed) (.ok (value, rest)) :=
  .took stands left

theorem follows_take {value : α} {limit : Nat} {shorter : rest.length < limit}
    (stands : feed.Stands document ending rest) (left : after value feed) :
    Follows document ending after ((pure value : Draw α).run feed)
      ((Except.ok ⟨value, rest, shorter⟩ : Except Fault (Taken limit α)).map Taken.parts) :=
  follows_pure stands left

theorem follows_refuse {cause : Cause} {fault : Fault}
    (same : fault.error .stream document = ⟨cause, some feed.place⟩) :
    Follows document ending after ((Draw.refuse cause).run feed) (.error fault) :=
  .refused same.symm

/-- Draws in a row follow what the reader of the first and that of the rest make of it. -/
theorem Follows.bindWith {draw : Draw α} {next : α → Draw β} {scanned : Except Fault τ}
    {view : τ → α × Bytes} {final : Except Fault (β × Bytes)}
    (follows : Follows document ending after (draw.run feed) (scanned.map view))
    (onError : ∀ fault, scanned = .error fault → final = .error fault)
    (onOk : ∀ taken, scanned = .ok taken → ∀ feed,
      feed.Stands document ending (view taken).2 → after (view taken).1 feed →
      Follows document ending afterwards ((next (view taken).1).run feed) final) :
    Follows document ending afterwards ((draw >>= next).run feed) final := by
  simp only [Bind.bind]
  cases scanned with
  | error fault =>
    rw [onError fault rfl]
    generalize draw.run feed = drawn at follows
    cases follows with
    | refused same => exact .refused same
  | ok taken =>
    have goes := onOk taken rfl
    -- The type of what was drawn depends on the feed, so it is named before the cases.
    generalize draw.run feed = drawn at follows
    generalize whole : (view taken) = parts at follows goes
    simp only [Except.map, whole] at follows
    cases follows with
    | took stands left =>
      have follows := goes _ stands left
      simp only at follows ⊢
      generalize (next _).run _ = last at follows ⊢
      cases follows with
      | took stands left => exact .took stands left
      | refused same => exact .refused same

theorem Follows.bind {limit : Nat} {draw : Draw α} {next : α → Draw β}
    {scanned : Except Fault (Taken limit α)} {final : Except Fault (β × Bytes)}
    (follows : Follows document ending after (draw.run feed) (scanned.map Taken.parts))
    (onError : ∀ fault, scanned = .error fault → final = .error fault)
    (onOk : ∀ taken, scanned = .ok taken → ∀ feed,
      feed.Stands document ending taken.rest → after taken.value feed →
      Follows document ending afterwards ((next taken.value).run feed) final) :
    Follows document ending afterwards ((draw >>= next).run feed) final :=
  follows.bindWith onError onOk

theorem Follows.bindOk {draw : Draw α} {next : α → Draw β} {value : α}
    {final : Except Fault (β × Bytes)}
    (follows : Follows document ending after (draw.run feed) (.ok (value, rest)))
    (goes : ∀ feed, feed.Stands document ending rest → after value feed →
      Follows document ending afterwards ((next value).run feed) final) :
    Follows document ending afterwards ((draw >>= next).run feed) final :=
  @Follows.bindWith _ _ _ _ _ _ _ _ _ _ (.ok (value, rest)) id _ follows nofun
    fun _ took => by cases took; exact goes

theorem Follows.bindError {draw : Draw α} {next : α → Draw β} {fault : Fault}
    (follows : Follows document ending after (draw.run feed) (.error fault)) :
    Follows document ending afterwards ((draw >>= next).run feed) (.error fault) :=
  @Follows.bindWith _ _ _ _ _ _ _ _ _ _ (.error fault) id _ follows
    (fun _ failed => by cases failed; rfl) nofun

theorem run_bind_pure (draw : Draw α) (change : α → β) (feed : Feed) :
    (draw >>= fun value => pure (change value)).run feed =
      (draw.run feed).map (Drawn.map change) := by
  simp only [Bind.bind, Pure.pure]
  cases draw.run feed <;> rfl

/-- A draw that succeeds hands on to the next. -/
theorem Follows.go {draw : Draw α} {next : α → Draw β} {drawn : Drawn feed.size α}
    {final : Except Fault (β × Bytes)} (goes : draw.run feed = .ok drawn)
    (follows : Follows document ending afterwards ((next drawn.value).run drawn.feed) final) :
    Follows document ending afterwards ((draw >>= next).run feed) final := by
  simp only [Bind.bind, goes]
  generalize (next _).run _ = last at follows ⊢
  cases follows with
  | took stands left => exact .took stands left
  | refused same => exact .refused same

/-- A draw that is refused refuses all. -/
theorem Follows.stop {draw : Draw α} {next : α → Draw β} {error : Error} {fault : Fault}
    (stops : draw.run feed = .error error) (same : error = fault.error .stream document) :
    Follows document ending afterwards ((draw >>= next).run feed) (.error fault) := by
  simp only [Bind.bind, stops]
  exact .refused same

/-! ### The next octet -/

variable {octet : UInt8} {onward : UInt8 → Draw β} {final : Except Fault (β × Bytes)}
  {ended : Cause}

theorem Follows.consume {onward : Unit → Draw β}
    (stands : feed.Stands document ending (octet :: rest)) (ahead : feed.ahead = some octet)
    (goes : ∀ feed, feed.Stands document ending rest → feed.Fresh →
      Follows document ending afterwards ((onward ()).run feed) final) :
    Follows document ending afterwards ((Draw.consume >>= onward).run feed) final :=
  Follows.go rfl (goes _ (stands.drop ahead) feed.fresh_drop)

theorem follows_consume (stands : feed.Stands document ending (octet :: rest))
    (ahead : feed.ahead = some octet) :
    Follows document ending (fun _ feed => feed.Fresh) (Draw.consume.run feed) (.ok ((), rest)) :=
  .took (stands.drop ahead) feed.fresh_drop

theorem Follows.peek {onward : Option UInt8 → Draw β}
    (stands : feed.Stands document ending rest)
    (goes : ∀ feed, feed.Stands document ending rest → feed.Looked →
      Follows document ending afterwards ((onward rest.head?).run feed) final) :
    Follows document ending afterwards ((Draw.peek >>= onward).run feed) final := by
  have follows := goes _ stands.look feed.looked_look
  rw [← stands.ahead_look] at follows
  exact Follows.go rfl follows

theorem look_eq_ok (stands : feed.Stands document ending rest)
    (goesOn : rest = [] → ending = .finished) :
    Draw.look.run feed = .ok ⟨rest.head?, feed.look, Nat.le_of_eq feed.size_look⟩ := by
  simp only [Draw.look, Bind.bind, Draw.peek, Draw.failure?, stands.ahead_look, stands.look.ends]
  cases rest with
  | nil => simp [goesOn rfl, Ending.failure?, pure]
  | cons octet left => simp [pure]

theorem look_eq_error {text : String} (stands : feed.Stands document (.failed text) []) :
    Draw.look.run feed = .error ⟨.sourceFailed text, some feed.look.place⟩ := by
  simp [Draw.look, Bind.bind, Draw.peek, Draw.failure?, stands.ahead_look, stands.look.ends,
    Ending.failure?, Draw.refuse]

theorem error_ended (stands : feed.Stands document ending []) :
    (ending.fault ended).error .stream document =
      ⟨(ending.fault ended).cause, some feed.look.place⟩ := by
  have fresh := Feed.fresh_of_looked feed.looked_look stands.look
  cases ending with
  | finished => exact stands.look.error_consumed fresh ended
  | failed text => exact stands.look.error_consumed fresh (.sourceFailed text)

theorem Follows.look {onward : Option UInt8 → Draw β} (stands : feed.Stands document ending rest)
    (goesOn : rest = [] → ending = .finished)
    (goes : ∀ feed, feed.Stands document ending rest → feed.Looked →
      Follows document ending afterwards ((onward rest.head?).run feed) final) :
    Follows document ending afterwards ((Draw.look >>= onward).run feed) final :=
  Follows.go (look_eq_ok stands goesOn) (goes _ stands.look feed.looked_look)

theorem Follows.look_failed {onward : Option UInt8 → Draw β} {text : String}
    (stands : feed.Stands document (.failed text) []) (ended : Cause) :
    Follows document (.failed text) afterwards ((Draw.look >>= onward).run feed)
      (.error ((Ending.failed text).fault ended)) :=
  Follows.stop (look_eq_error stands) (error_ended stands).symm

theorem Follows.ahead (stands : feed.Stands document ending (octet :: rest))
    (goes : ∀ feed, feed.Stands document ending (octet :: rest) → feed.ahead = some octet →
      Follows document ending afterwards ((onward octet).run feed) final) :
    Follows document ending afterwards ((Draw.ahead ended >>= onward).run feed) final := by
  have found : (Draw.ahead ended).run feed =
      .ok ⟨octet, feed.look, Nat.le_of_eq feed.size_look⟩ := by
    simp [Draw.ahead, Bind.bind, look_eq_ok stands nofun, pure]
  exact Follows.go found (goes _ stands.look stands.ahead_look)

theorem Follows.ahead_end (stands : feed.Stands document ending []) :
    Follows document ending afterwards ((Draw.ahead ended >>= onward).run feed)
      (.error (ending.fault ended)) := by
  refine Follows.stop ?_ (error_ended stands).symm
  cases ending with
  | finished =>
    simp [Draw.ahead, Bind.bind, look_eq_ok stands (fun _ => rfl), Draw.refuse, Ending.fault]
  | failed text => simp [Draw.ahead, Bind.bind, look_eq_error stands, Ending.fault]

theorem Follows.span {property : UInt8 → Bool} {onward : Bytes → Draw β}
    (stands : feed.Stands document ending rest)
    (goes : ∀ feed, feed.Stands document ending (rest.dropWhile property) → feed.Looked →
      Follows document ending afterwards ((onward (rest.takeWhile property)).run feed) final) :
    Follows document ending afterwards ((Draw.span property >>= onward).run feed) final := by
  have spanned := stands.span property []
  have follows := goes _ spanned.1 spanned.2
  rw [← stands.left, ← List.nil_append (feed.left.takeWhile property), ← List.reverse_nil,
    ← Feed.span_fst] at follows
  exact Follows.go rfl follows

theorem Follows.gap {left : Bytes} (stands : feed.Stands document ending rest)
    (shape : skipSpace rest = octet :: left)
    (goes : ∀ feed, feed.Stands document ending (octet :: left) → feed.ahead = some octet →
      Follows document ending afterwards ((onward octet).run feed) final) :
    Follows document ending afterwards ((Draw.gap ended >>= onward).run feed) final := by
  rw [Draw.gap, bind_assoc]
  refine Follows.span stands fun feed stands _ => ?_
  rw [show rest.dropWhile isSpace = octet :: left from shape] at stands
  exact Follows.ahead stands goes

theorem Follows.gap_end (stands : feed.Stands document ending rest)
    (shape : skipSpace rest = []) :
    Follows document ending afterwards ((Draw.gap ended >>= onward).run feed)
      (.error (ending.fault ended)) := by
  rw [Draw.gap, bind_assoc]
  refine Follows.span stands fun feed stands _ => ?_
  rw [show rest.dropWhile isSpace = [] from shape] at stands
  exact Follows.ahead_end stands

theorem Follows.next (stands : feed.Stands document ending (octet :: rest))
    (goes : ∀ feed, feed.Stands document ending rest → feed.Fresh →
      Follows document ending afterwards ((onward octet).run feed) final) :
    Follows document ending afterwards ((Draw.next ended >>= onward).run feed) final := by
  rw [Draw.next, bind_assoc]
  refine Follows.ahead stands fun feed stands ahead => ?_
  rw [bind_assoc]
  refine Follows.consume stands ahead fun feed stands fresh => ?_
  rw [pure_bind]
  exact goes feed stands fresh

theorem Follows.next_end (stands : feed.Stands document ending []) :
    Follows document ending afterwards ((Draw.next ended >>= onward).run feed)
      (.error (ending.fault ended)) := by
  rw [Draw.next, bind_assoc]
  exact Follows.ahead_end stands

/-! ### Loops -/

variable {draw : List α → Draw (Option α)} {consumes : ∀ taken, Draw.Consumes (draw taken)}
  {taken : List α} {bound : Nat} {fits : feed.size ≤ bound} {left : Bytes}
  {step : Option α → Feed → Prop}

theorem collectFrom_eq :
    Draw.collectFrom draw consumes taken feed fits =
      match (draw taken).run feed with
      | .error error => .error error
      | .ok ⟨none, rest, fewer⟩ => .ok ⟨taken.reverse, rest, Nat.le_trans fewer fits⟩
      | .ok ⟨some value, rest, fewer⟩ =>
        Draw.collectFrom draw consumes (value :: taken) rest (Nat.le_trans fewer fits) := by
  rw [Draw.collectFrom]
  split <;> simp [*]

theorem map_id_collectFrom :
    (Draw.collectFrom draw consumes taken feed fits).map (Drawn.map id) =
      Draw.collectFrom draw consumes taken feed fits := by
  cases Draw.collectFrom draw consumes taken feed fits <;> rfl

/-- The loop ends in a refusal if its draw does. -/
theorem Follows.collect_error {change : List α → β} {fault : Fault}
    (follows : Follows document ending step ((draw taken).run feed) (.error fault)) :
    Follows document ending afterwards
      ((Draw.collectFrom draw consumes taken feed fits).map (Drawn.map change)) (.error fault) := by
  rw [collectFrom_eq]
  generalize (draw taken).run feed = drawn at follows
  cases follows with
  | refused same => exact .refused same

/-- The loop ends with the values taken if its draw gives none. -/
theorem Follows.collect_none {change : List α → β}
    (follows : Follows document ending step ((draw taken).run feed) (.ok (none, left)))
    (implies : ∀ feed, step none feed → afterwards (change taken.reverse) feed) :
    Follows document ending afterwards
      ((Draw.collectFrom draw consumes taken feed fits).map (Drawn.map change))
      (.ok (change taken.reverse, left)) := by
  rw [collectFrom_eq]
  generalize outcome : (none, left) = parts at follows
  generalize (draw taken).run feed = drawn at follows
  cases follows with
  | @took drawn rest stands after =>
    obtain ⟨value, rest, fewer⟩ := drawn
    cases outcome
    exact .took stands (implies _ after)

/-- The loop goes on with the value that its draw gives. -/
theorem Follows.collect_some {change : List α → β} {value : α}
    (follows : Follows document ending step ((draw taken).run feed) (.ok (some value, left)))
    (goes : ∀ feed (fits : feed.size ≤ bound), feed.Stands document ending left →
      step (some value) feed → Follows document ending afterwards
        ((Draw.collectFrom draw consumes (value :: taken) feed fits).map (Drawn.map change))
        final) :
    Follows document ending afterwards
      ((Draw.collectFrom draw consumes taken feed fits).map (Drawn.map change)) final := by
  rw [collectFrom_eq]
  generalize outcome : (some value, left) = parts at follows
  generalize (draw taken).run feed = drawn at follows
  cases follows with
  | @took drawn rest stands after =>
    obtain ⟨value, rest, fewer⟩ := drawn
    cases outcome
    exact goes _ _ stands after

end Follows

end Replay.Json
