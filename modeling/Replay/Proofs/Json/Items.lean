import Replay.Proofs.Json.Scalar

/-!
# Items between brackets

The loop over items against the grammar of items, for any reader of an item that
agrees with a form. A reader may look at the items before its own and refuse an
item that the form would allow; what it allows is a parameter too.
-/

namespace Replay.Json

open Grammar

/-- A bracket is closed by one of the two octets that close brackets. -/
def Bracket.Closes (bracket : Bracket) : Prop :=
  bracket.close = 0x5D ∨ bracket.close = 0x7D

theorem Bracket.closes_list : Bracket.list.Closes := .inl rfl

theorem Bracket.closes_object : Bracket.object.Closes := .inr rfl

theorem Bracket.Closes.apart {bracket : Bracket} (closes : bracket.Closes) :
    bracket.close ≠ 0x2C := by
  rcases closes with same | same <;> rw [same] <;> decide

theorem Bracket.Closes.isSpace_eq {bracket : Bracket} (closes : bracket.Closes) :
    isSpace bracket.close = false := by
  rcases closes with same | same <;> rw [same] <;> decide

theorem Bracket.Closes.delimited {bracket : Bracket} (closes : bracket.Closes) (rest : Bytes) :
    Delimited (bracket.close :: rest) :=
  delimited_cons.2 (.inr (.inr closes))

/-! ## One step of the loop -/

/-- The place where the next item starts: behind space, and unless it is the first
item behind a comma. The closing bracket does not stand there. -/
inductive ItemAt (close : UInt8) : (isFirst : Bool) → (input start : Bytes) → Prop where
  | first {input rest : Bytes} {octet : UInt8} (skipped : skipSpace input = octet :: rest)
      (opens : octet ≠ close) : ItemAt close true input (octet :: rest)
  | later {input behind rest : Bytes} {octet : UInt8}
      (comma : skipSpace input = 0x2C :: behind) (skipped : skipSpace behind = octet :: rest)
      (opens : octet ≠ close) : ItemAt close false input (octet :: rest)

theorem start_eq_ok {bracket : Bracket} {isFirst : Bool} {octet : UInt8} {input rest : Bytes}
    {start : { start : Bytes // start.length ≤ rest.length + 1 }}
    (skipped : skipSpace input = octet :: rest) (opens : octet ≠ bracket.close)
    (found : bracket.start .finished isFirst octet rest = .ok start) :
    ItemAt bracket.close isFirst input start.val := by
  unfold Bracket.start at found
  split at found
  · next isFirst =>
    cases found
    rw [isFirst]
    exact .first skipped opens
  · next notFirst =>
    rw [Bool.not_eq_true] at notFirst
    rw [notFirst]
    split at found
    · next isComma =>
      split at found
      · cases found
      · next next left behind =>
        split at found
        · cases found
        · next noClose =>
          cases found
          rw [isComma] at skipped
          exact .later skipped behind noClose
    · cases found

theorem exists_start {bracket : Bracket} {isFirst : Bool} {input start : Bytes}
    (closes : bracket.Closes) (place : ItemAt bracket.close isFirst input start) :
    ∃ octet rest fits, skipSpace input = octet :: rest ∧ octet ≠ bracket.close ∧
      bracket.start .finished isFirst octet rest = .ok ⟨start, fits⟩ := by
  cases place with
  | first skipped opens => exact ⟨_, _, by simp, skipped, opens, rfl⟩
  | @later _ behind rest octet comma skipped opens =>
    have shorter : (octet :: rest).length ≤ behind.length + 1 := by
      have := length_skipSpace_le behind
      rw [skipped] at this
      omega
    refine ⟨_, _, shorter, comma, closes.apart.symm, ?_⟩
    unfold Bracket.start
    rw [if_neg Bool.false_ne_true, if_pos rfl]
    split
    · next ended =>
      rw [skipped] at ended
      cases ended
    · next next left same =>
      rw [skipped] at same
      cases same
      rw [if_neg opens]

theorem ItemAt.parts {close : UInt8} {isFirst : Bool} {input start : Bytes}
    (place : ItemAt close isFirst input start) :
    if isFirst then ∃ gap, Gap gap ∧ input = gap ++ start
    else ∃ before after, Gap before ∧ Gap after ∧ input = before ++ 0x2C :: after ++ start := by
  cases place with
  | first skipped _ =>
    obtain ⟨gap, blank, parts⟩ := exists_gap input
    rw [skipped] at parts
    exact ⟨gap, blank, parts⟩
  | @later _ behind _ _ comma skipped _ =>
    obtain ⟨before, blankBefore, parts⟩ := exists_gap input
    obtain ⟨after, blankAfter, partsBehind⟩ := exists_gap behind
    rw [skipped] at partsBehind
    rw [comma, partsBehind] at parts
    exact ⟨before, after, blankBefore, blankAfter, by simpa using parts⟩

section Loop

variable {α : Type} {bracket : Bracket} {item : List α → Reader α} {bound : Nat}

/-- Either the closing bracket follows, or an item and then the rest of the loop. -/
theorem takes_items_step {taken values : List α} {input rest : Bytes}
    {fits : input.length ≤ bound} (closes : bracket.Closes) :
    Takes (items bracket .finished item taken input fits) values rest ↔
      (skipSpace input = bracket.close :: rest ∧ taken.reverse = values) ∨
      ∃ start value left, ∃ fits : left.length ≤ bound,
        ItemAt bracket.close taken.isEmpty input start ∧ Takes (item taken start) value left ∧
          left.length < input.length ∧
          Takes (items bracket .finished item (value :: taken) left fits) values rest := by
  constructor
  · intro takes
    rw [items] at takes
    split at takes
    · exact absurd takes not_takes_error
    · next octet behind skipped =>
      dsimp only at takes
      split at takes
      · next isClose =>
        obtain ⟨same, rfl⟩ := takes_mk.1 takes
        rw [isClose] at skipped
        exact .inl ⟨skipped, same⟩
      · next opens =>
        split at takes
        · exact absurd takes not_takes_error
        · next start found =>
          split at takes
          · exact absurd takes not_takes_error
          · next next read =>
            have place := start_eq_ok skipped opens found
            have fewer := length_lt_of_skipSpace skipped
            have first := next.shorter
            have second := start.property
            exact .inr ⟨_, _, _, _, place, takes_of_eq read, by omega, takes⟩
  · rintro (⟨skipped, same⟩ | ⟨start, value, left, fits, place, ⟨shorter, read⟩, fewer, takes⟩)
    · rw [items]
      split
      · next ended =>
        rw [skipped] at ended
        cases ended
      · next octet behind parts =>
        rw [skipped] at parts
        cases parts
        rw [if_pos rfl]
        exact takes_mk.2 ⟨same, rfl⟩
    · obtain ⟨octet, behind, room, skipped, opens, found⟩ := exists_start closes place
      rw [items]
      split
      · next ended =>
        rw [skipped] at ended
        cases ended
      · next octet behind parts =>
        rw [skipped] at parts
        cases parts
        rw [if_neg opens]
        simp only [found, read]
        exact takes

end Loop

/-! ## Items and their form -/

/-- Items are begun by neither space nor a closing bracket. -/
def Begins (octets : Bytes) : Prop :=
  ∃ first rest, octets = first :: rest ∧ isSpace first = false ∧ first ≠ 0x5D ∧ first ≠ 0x7D

/-- Items that are allowed one after another, each behind those before it, the last
one first. -/
def Admitted {α : Type} (allowed : List α → α → Prop) : (before values : List α) → Prop
  | _, [] => True
  | before, value :: values => allowed before value ∧ Admitted allowed (value :: before) values

theorem admitted_true {α : Type} (before values : List α) :
    Admitted (fun _ _ => True) before values := by
  induction values generalizing before with
  | nil => trivial
  | cons value values ih => exact ⟨trivial, ih (value :: before)⟩

/-- A reader of items takes what has a form and is allowed, and nothing else. What it
takes may be followed by whatever may follow a value. A gap before it is no harm. -/
structure ReadsItems {α : Type} (item : List α → Reader α) (form : α → Bytes → Prop)
    (allowed : List α → α → Prop) : Prop where
  sound {before : List α} {start left : Bytes} {value : α}
    (takes : Takes (item before start) value left) :
    allowed before value ∧
      ∃ gap octets, Gap gap ∧ form value octets ∧ start = gap ++ octets ++ left
  complete {before : List α} {value : α} {octets left : Bytes} (fine : allowed before value)
    (written : form value octets) (delimited : Delimited left) :
    Takes (item before (octets ++ left)) value left
  begins {value : α} {octets : Bytes} (written : form value octets) : Begins octets

theorem Grammar.Gap.append {left right : Bytes} (blankLeft : Gap left) (blankRight : Gap right) :
    Gap (left ++ right) := by
  intro octet within
  rcases List.mem_append.1 within with within | within
  · exact blankLeft octet within
  · exact blankRight octet within

theorem Grammar.Gap.delimited {gap rest : Bytes} (blank : Gap gap) (delimited : Delimited rest) :
    Delimited (gap ++ rest) := by
  cases gap with
  | nil => exact delimited
  | cons octet gap =>
    rw [List.cons_append, delimited_cons]
    exact .inl (gap_iff.1 blank octet List.mem_cons_self)

section Items

variable {α : Type} {bracket : Bracket} {item : List α → Reader α} {form : α → Bytes → Prop}
  {allowed : List α → α → Prop} {bound : Nat}

theorem Grammar.Later.delimited {values : List α} {octets rest : Bytes}
    (later : Later form values octets) (delimited : Delimited rest) :
    Delimited (octets ++ rest) := by
  cases later with
  | done blank => exact blank.delimited delimited
  | @more _ _ before after octets behind blankBefore _ _ _ =>
    rw [show before ++ 0x2C :: after ++ octets ++ behind ++ rest =
      before ++ (0x2C :: (after ++ octets ++ behind ++ rest)) by simp]
    exact blankBefore.delimited (by simp)

theorem Begins.exists_opens {octets : Bytes} (begins : Begins octets) (closes : bracket.Closes) :
    ∃ first more, octets = first :: more ∧ isSpace first = false ∧ first ≠ bracket.close := by
  obtain ⟨first, more, rfl, noSpace, noList, noObject⟩ := begins
  refine ⟨first, more, rfl, noSpace, ?_⟩
  rcases closes with same | same
  · rwa [same]
  · rwa [same]

/-- The first item starts behind the gap before it. -/
theorem ItemAt.of_gap {gap octets : Bytes} (rest : Bytes) (closes : bracket.Closes)
    (begins : Begins octets) (blank : Gap gap) :
    ItemAt bracket.close true (gap ++ (octets ++ rest)) (octets ++ rest) := by
  obtain ⟨first, more, rfl, noSpace, opens⟩ := begins.exists_opens closes
  exact .first (skipSpace_append blank (stops_cons.2 noSpace)) opens

/-- A later item starts behind the comma and the gaps before it. -/
theorem ItemAt.of_comma {before after octets : Bytes} (rest : Bytes) (closes : bracket.Closes)
    (begins : Begins octets) (blankBefore : Gap before) (blankAfter : Gap after) :
    ItemAt bracket.close false (before ++ 0x2C :: (after ++ (octets ++ rest)))
      (octets ++ rest) := by
  obtain ⟨first, more, rfl, noSpace, opens⟩ := begins.exists_opens closes
  exact .later (skipSpace_append blankBefore (stops_cons.2 (by decide)))
    (skipSpace_append blankAfter (stops_cons.2 noSpace)) opens

theorem later_of_takes (reads : ReadsItems item form allowed)
    (closes : bracket.Closes) {taken values : List α}
    {input rest : Bytes} {fits : input.length ≤ bound} (behind : taken.isEmpty = false)
    (takes : Takes (items bracket .finished item taken input fits) values rest) :
    ∃ more octets, values = taken.reverse ++ more ∧ Admitted allowed taken more ∧
      Later form more octets ∧ input = octets ++ bracket.close :: rest := by
  -- The loop leaves fewer octets to every further turn.
  induction size : input.length using Nat.strongRecOn generalizing input taken with
  | ind size ih =>
    rcases (takes_items_step closes).1 takes with
      ⟨closed, same⟩ | ⟨start, value, left, _, place, read, fewer, takes⟩
    · obtain ⟨gap, blank, parts⟩ := exists_gap input
      rw [closed] at parts
      exact ⟨[], gap, by rw [← same, List.append_nil], trivial, .done blank, parts⟩
    · rw [behind] at place
      obtain ⟨before, after, blankBefore, blankAfter, parts⟩ := place.parts
      obtain ⟨fine, gap, octets, blank, written, standing⟩ := reads.sound read
      obtain ⟨more, others, same, admitted, later, partsLeft⟩ :=
        ih left.length (by omega) rfl takes rfl
      refine ⟨value :: more, _, by simpa using same, ⟨fine, admitted⟩,
        .more blankBefore (blankAfter.append blank) written later, ?_⟩
      rw [parts, standing, partsLeft]
      simp only [List.append_assoc, List.cons_append]

theorem takes_of_later (reads : ReadsItems item form allowed)
    (closes : bracket.Closes) {taken more : List α}
    {octets rest : Bytes} {fits : (octets ++ bracket.close :: rest).length ≤ bound}
    (behind : taken.isEmpty = false) (admitted : Admitted allowed taken more)
    (later : Later form more octets) :
    Takes (items bracket .finished item taken (octets ++ bracket.close :: rest) fits)
      (taken.reverse ++ more) rest := by
  induction later generalizing taken with
  | done blank =>
    refine (takes_items_step closes).2 (.inl ⟨?_, (List.append_nil _).symm⟩)
    exact skipSpace_append blank (stops_cons.2 closes.isSpace_eq)
  | @more value values before after octets others blankBefore blankAfter written later ih =>
    have read := reads.complete admitted.1 written (later.delimited (closes.delimited rest))
    have place := ItemAt.of_comma (others ++ bracket.close :: rest) closes
      (reads.begins written) blankBefore blankAfter
    have shorter : (others ++ bracket.close :: rest).length <
        (before ++ 0x2C :: after ++ octets ++ others ++ bracket.close :: rest).length := by
      simp only [List.length_append, List.length_cons]
      omega
    have room : (others ++ bracket.close :: rest).length ≤ bound := by omega
    have loop : Takes (items bracket .finished item (value :: taken) _ room) _ rest :=
      ih rfl admitted.2
    rw [List.reverse_cons, List.append_assoc, List.singleton_append] at loop
    refine (takes_items_step closes).2 (.inr ⟨_, value, _, room, ?_, read, shorter, loop⟩)
    rw [behind]
    simpa using place

/-- The loop takes the items that stand up to the closing bracket, if they are
allowed one after another. -/
theorem takes_items_iff (reads : ReadsItems item form allowed)
    (closes : bracket.Closes) {values : List α}
    {input rest : Bytes} {fits : input.length ≤ bound} :
    Takes (items bracket .finished item [] input fits) values rest ↔
      Admitted allowed [] values ∧
        ∃ octets, Items form values octets ∧ input = octets ++ bracket.close :: rest := by
  constructor
  · intro takes
    rcases (takes_items_step closes).1 takes with
      ⟨closed, same⟩ | ⟨start, value, left, _, place, read, fewer, takes⟩
    · obtain ⟨gap, blank, parts⟩ := exists_gap input
      rw [closed] at parts
      rw [← same]
      exact ⟨trivial, gap, .empty blank, parts⟩
    · obtain ⟨gap, blank, parts⟩ := place.parts
      obtain ⟨fine, inner, octets, blankInner, written, standing⟩ := reads.sound read
      obtain ⟨more, others, same, admitted, later, partsLeft⟩ :=
        later_of_takes reads closes rfl takes
      rw [show values = value :: more by simpa using same]
      refine ⟨⟨fine, admitted⟩, _, .filled (blank.append blankInner) written later, ?_⟩
      rw [parts, standing, partsLeft]
      simp only [List.append_assoc]
  · rintro ⟨admitted, octets, written, rfl⟩
    cases written with
    | empty blank =>
      refine (takes_items_step closes).2 (.inl ⟨?_, rfl⟩)
      exact skipSpace_append blank (stops_cons.2 closes.isSpace_eq)
    | @filled value values gap octets others blank first later =>
      have read := reads.complete admitted.1 first (later.delimited (closes.delimited rest))
      have place := ItemAt.of_gap (others ++ bracket.close :: rest) closes (reads.begins first)
        blank
      rw [← List.append_assoc, ← List.append_assoc] at place
      have shorter : (others ++ bracket.close :: rest).length <
          (gap ++ octets ++ others ++ bracket.close :: rest).length := by
        obtain ⟨_, _, rfl, _⟩ := reads.begins first
        simp only [List.length_append, List.length_cons]
        omega
      have room : (others ++ bracket.close :: rest).length ≤ bound := by omega
      have loop : Takes (items bracket .finished item [value] _ room) (value :: values) rest :=
        takes_of_later reads closes rfl admitted.2 later
      exact (takes_items_step closes).2 (.inr ⟨_, value, _, _, place, read, shorter, loop⟩)

end Items

end Replay.Json
