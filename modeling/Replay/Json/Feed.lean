import Replay.Json.Source

/-!
# Feeds

A document that is read while it arrives. A feed fetches octets from the parts
that a source delivers and holds at most one of them ahead of what was consumed.
It counts lines and columns of the octets fetched, so a refusal lies behind the
octet ahead if there is one. A draw is a reader that works on a feed; it never
leaves more octets than it found.
-/

namespace Replay.Json

/-- A document while it is read from a source. -/
structure Feed where
  /-- The octet that was looked at and not consumed yet. -/
  ahead : Option UInt8
  /-- What the source still delivers. -/
  parts : List Bytes
  ending : Ending
  /-- The place behind the last octet fetched. -/
  place : Position

/-- The first octet of some parts and the parts behind it. -/
def fetch? : List Bytes → Option (UInt8 × List Bytes)
  | [] => none
  | [] :: parts => fetch? parts
  | (octet :: part) :: parts => some (octet, part :: parts)

theorem flatten_of_fetch? {parts left : List Bytes} {octet : UInt8}
    (fetched : fetch? parts = some (octet, left)) : parts.flatten = octet :: left.flatten := by
  induction parts with
  | nil => simp [fetch?] at fetched
  | cons part parts ih =>
    cases part with
    | nil => simpa using ih fetched
    | cons first part =>
      cases fetched
      simp

theorem flatten_of_fetch?_eq_none {parts : List Bytes} (dry : fetch? parts = none) :
    parts.flatten = [] := by
  induction parts with
  | nil => rfl
  | cons part parts ih =>
    cases part with
    | nil => simpa using ih dry
    | cons first part => simp [fetch?] at dry

namespace Feed

/-- A feed of which nothing was fetched yet. -/
def start (parts : List Bytes) (ending : Ending) : Feed :=
  ⟨none, parts, ending, Position.after []⟩

/-- The octets that are still to be consumed. -/
def left (feed : Feed) : Bytes :=
  feed.ahead.toList ++ feed.parts.flatten

/-- The number of octets that are still to be consumed. -/
def size (feed : Feed) : Nat :=
  feed.left.length

/-- Look at the next octet: fetch it unless it was fetched already. -/
def look (feed : Feed) : Feed :=
  match feed.ahead with
  | some _ => feed
  | none =>
    match fetch? feed.parts with
    | none => feed
    | some (octet, parts) => ⟨some octet, parts, feed.ending, feed.place.advance [octet]⟩

/-- Consume the octet ahead. -/
def drop (feed : Feed) : Feed :=
  { feed with ahead := none }

@[simp] theorem left_look (feed : Feed) : feed.look.left = feed.left := by
  unfold look
  split
  · rfl
  · next none_ahead =>
    split
    · rfl
    · next fetched => simp [left, none_ahead, flatten_of_fetch? fetched]

@[simp] theorem size_look (feed : Feed) : feed.look.size = feed.size := by
  simp [size]

theorem left_of_ahead {feed : Feed} {octet : UInt8} (ahead : feed.ahead = some octet) :
    feed.left = octet :: feed.drop.left := by
  simp [left, drop, ahead]

theorem left_of_look {feed : Feed} {octet : UInt8} (ahead : feed.look.ahead = some octet) :
    feed.left = octet :: feed.look.drop.left := by
  rw [← left_look, left_of_ahead ahead]

theorem left_of_look_eq_none {feed : Feed} (dry : feed.look.ahead = none) : feed.left = [] := by
  unfold look at dry
  split at dry
  · next ahead => simp [ahead] at dry
  · next none_ahead =>
    split at dry
    · next fetched => simp [left, none_ahead, flatten_of_fetch?_eq_none fetched]
    · simp at dry

/-- What leaves a feed as it is stays within its size. -/
theorem size_le (feed : Feed) : feed.size ≤ feed.size :=
  Nat.le_refl feed.size

theorem size_drop_le (feed : Feed) : feed.drop.size ≤ feed.size := by
  simp [size, left, drop]

theorem size_drop_lt {feed : Feed} {octet : UInt8} (ahead : feed.look.ahead = some octet) :
    feed.look.drop.size < feed.size := by
  rw [size, size, left_of_look ahead, List.length_cons]
  exact Nat.lt_succ_self _

/-- Consume octets as long as they have a property, behind those already `taken`, the
last one first. The octet behind them is looked at. -/
def span (property : UInt8 → Bool) (taken : Bytes) (feed : Feed) : Bytes × Feed :=
  match _ahead : feed.look.ahead with
  | none => (taken.reverse, feed.look)
  | some octet =>
    if property octet then span property (octet :: taken) feed.look.drop
    else (taken.reverse, feed.look)
termination_by feed.size
decreasing_by exact size_drop_lt _ahead

theorem span_fst (property : UInt8 → Bool) (taken : Bytes) (feed : Feed) :
    (feed.span property taken).1 = taken.reverse ++ feed.left.takeWhile property := by
  fun_induction span property taken feed with
  | case1 taken feed dry => simp [left_of_look_eq_none dry]
  | case2 taken feed octet ahead holds ih => simp [ih, left_of_look ahead, holds]
  | case3 taken feed octet ahead fails => simp [left_of_look ahead, fails]

@[simp] theorem left_span (property : UInt8 → Bool) (taken : Bytes) (feed : Feed) :
    (feed.span property taken).2.left = feed.left.dropWhile property := by
  fun_induction span property taken feed with
  | case1 taken feed dry => simp [left_of_look_eq_none dry]
  | case2 taken feed octet ahead holds ih => simp [ih, left_of_look ahead, holds]
  | case3 taken feed octet ahead fails => simp [left_of_look ahead, fails]

theorem size_span_le (property : UInt8 → Bool) (taken : Bytes) (feed : Feed) :
    (feed.span property taken).2.size ≤ feed.size := by
  rw [size, left_span]
  exact (List.dropWhile_suffix property).length_le

end Feed

/-- What was drawn from a feed: a value, and the feed afterwards, with at most
`bound` octets left. -/
structure Drawn (bound : Nat) (α : Type) where
  value : α
  feed : Feed
  fits : feed.size ≤ bound

/-- Replace the value that was drawn. -/
def Drawn.map {bound : Nat} {α β : Type} (change : α → β) (drawn : Drawn bound α) :
    Drawn bound β :=
  ⟨change drawn.value, drawn.feed, drawn.fits⟩

/-- A reader that works on a feed. -/
structure Draw (α : Type) where
  run : (feed : Feed) → Except Error (Drawn feed.size α)

namespace Draw

variable {α β : Type}

instance : Monad Draw where
  pure value := ⟨fun feed => .ok ⟨value, feed, feed.size_le⟩⟩
  bind first next := ⟨fun feed =>
    match first.run feed with
    | .error error => .error error
    | .ok drawn =>
      match (next drawn.value).run drawn.feed with
      | .error error => .error error
      | .ok last => .ok ⟨last.value, last.feed, Nat.le_trans last.fits drawn.fits⟩⟩

/-- Refuse the document behind the last octet fetched. -/
def refuse (cause : Cause) : Draw α where
  run feed := .error ⟨cause, some feed.place⟩

/-- Refuse the document as many columns before the end of the last octet fetched. -/
def refuseBefore (columns : Nat) (cause : Cause) : Draw α where
  run feed := .error ⟨cause, some ⟨feed.place.line, feed.place.column - columns⟩⟩

/-- Refuse the document from without. -/
def refuseOutside (cause : Cause) : Draw α where
  run _ := .error ⟨cause, none⟩

/-- The error in which the source ends, if it does. -/
def failure? : Draw (Option String) where
  run feed := .ok ⟨feed.ending.failure?, feed, feed.size_le⟩

/-- Consume the octet ahead. -/
def consume : Draw Unit where
  run feed := .ok ⟨(), feed.drop, feed.size_drop_le⟩

/-- The octet ahead; none where the source has no more, be it at its end or failing. -/
def peek : Draw (Option UInt8) where
  run feed := .ok ⟨feed.look.ahead, feed.look, Nat.le_of_eq feed.size_look⟩

/-- The octets that have a property, up to the first that has not. -/
def span (property : UInt8 → Bool) : Draw Bytes where
  run feed :=
    .ok ⟨(feed.span property []).1, (feed.span property []).2, feed.size_span_le property []⟩

/-- The octet ahead; none at the end of the document. -/
def look : Draw (Option UInt8) := do
  let octet ← peek
  match octet, ← failure? with
  | none, some text => refuse (.sourceFailed text)
  | octet, _ => pure octet

/-- The octet ahead; `ended` is reported at the end of the document. -/
def ahead (ended : Cause) : Draw UInt8 := do
  match ← look with
  | none => refuse ended
  | some octet => pure octet

/-- Consume the next octet; `ended` is reported at the end of the document. -/
def next (ended : Cause) : Draw UInt8 := do
  let octet ← ahead ended
  consume
  return octet

/-- The octet behind space; `ended` is reported at the end of the document. -/
def gap (ended : Cause) : Draw UInt8 := do
  let _ ← span isSpace
  ahead ended

/-- The octet behind space, none at the end of the document, where a source fails
outside the document. -/
def outerGap : Draw (Option UInt8) := do
  let _ ← span isSpace
  let octet ← peek
  match octet, ← failure? with
  | none, some text => refuseOutside (.sourceFailed text)
  | octet, _ => pure octet

theorem bind_eq_ok {first : Draw α} {next : α → Draw β} {feed : Feed}
    {last : Drawn feed.size β} (drawn : (first >>= next).run feed = .ok last) :
    ∃ middle : Drawn feed.size α, first.run feed = .ok middle ∧
      ∃ rest : Drawn middle.feed.size β, (next middle.value).run middle.feed = .ok rest ∧
        rest.value = last.value ∧ rest.feed = last.feed := by
  simp only [bind] at drawn
  split at drawn
  · cases drawn
  · next middle taken =>
    refine ⟨middle, taken, ?_⟩
    split at drawn
    · cases drawn
    · next rest goes =>
      cases drawn
      exact ⟨rest, goes, rfl, rfl⟩

theorem ahead_of_look {feed : Feed} {drawn : Drawn feed.size (Option UInt8)}
    (looked : look.run feed = .ok drawn) : drawn.feed.ahead = drawn.value := by
  obtain ⟨middle, peeked, rest, decided, value, left⟩ := bind_eq_ok looked
  obtain ⟨failed, asked, last, chosen, sameValue, sameFeed⟩ := bind_eq_ok decided
  cases peeked
  cases asked
  split at chosen
  · cases chosen
  · cases chosen
    rw [← left, ← value, ← sameFeed, ← sameValue]

theorem ahead_of_ahead {ended : Cause} {feed : Feed} {drawn : Drawn feed.size UInt8}
    (found : (ahead ended).run feed = .ok drawn) : drawn.feed.ahead = some drawn.value := by
  obtain ⟨middle, looked, rest, chosen, value, left⟩ := bind_eq_ok found
  have same := ahead_of_look looked
  cases next : middle.value with
  | none =>
    rw [next] at chosen
    cases chosen
  | some octet =>
    rw [next] at chosen same
    cases chosen
    rw [← left, ← value, same]

theorem ahead_of_gap {ended : Cause} {feed : Feed} {drawn : Drawn feed.size UInt8}
    (found : (gap ended).run feed = .ok drawn) : drawn.feed.ahead = some drawn.value := by
  obtain ⟨_, _, rest, found, value, left⟩ := bind_eq_ok found
  rw [← left, ← value]
  exact ahead_of_ahead found

theorem size_of_consume {feed : Feed} {octet : UInt8} {drawn : Drawn feed.size Unit}
    (ahead : feed.ahead = some octet) (consumed : consume.run feed = .ok drawn) :
    drawn.feed.size < feed.size := by
  cases consumed
  simp [Feed.size, Feed.left_of_ahead ahead]

theorem size_of_next {ended : Cause} {feed : Feed} {drawn : Drawn feed.size UInt8}
    (taken : (next ended).run feed = .ok drawn) : drawn.feed.size < feed.size := by
  obtain ⟨middle, found, rest, chosen, _, left⟩ := bind_eq_ok taken
  obtain ⟨dropped, consumed, last, ended, _, sameFeed⟩ := bind_eq_ok chosen
  have fewer := size_of_consume (ahead_of_ahead found) consumed
  cases ended
  rw [← left, ← sameFeed]
  exact Nat.lt_of_lt_of_le fewer middle.fits

/-- Whether each value that a draw gives was drawn from an octet at least. -/
def Consumes (draw : Draw (Option α)) : Prop :=
  ∀ feed drawn, draw.run feed = .ok drawn → drawn.value.isSome → drawn.feed.size < feed.size

/-- The values that a draw gives until it gives none, behind those already `taken`,
the last one first. The draw is told the values before. -/
def collectFrom (draw : List α → Draw (Option α)) (consumes : ∀ taken, Consumes (draw taken))
    {bound : Nat} (taken : List α) (feed : Feed) (fits : feed.size ≤ bound) :
    Except Error (Drawn bound (List α)) :=
  match _outcome : (draw taken).run feed with
  | .error error => .error error
  | .ok ⟨none, rest, fewer⟩ => .ok ⟨taken.reverse, rest, Nat.le_trans fewer fits⟩
  | .ok ⟨some value, rest, fewer⟩ =>
    collectFrom draw consumes (value :: taken) rest (Nat.le_trans fewer fits)
termination_by feed.size
decreasing_by exact consumes taken feed _ _outcome rfl

/-- The values `taken` before, the last one first, and those that a draw gives until
it gives none. -/
def collect (draw : List α → Draw (Option α)) (consumes : ∀ taken, Consumes (draw taken))
    (taken : List α) : Draw (List α) where
  run feed := collectFrom draw consumes taken feed feed.size_le

end Draw

end Replay.Json
