import Replay.Catalogue.Document
import Replay.Proofs.Json.Images
import Replay.Proofs.Json.Value

/-!
# Entries as values

The reader of configuration documents never builds a JSON value. It is compared here
with the grammar of values: it takes exactly the documents that are objects whose
members each describe an entry, and what it takes is what they describe.
-/

namespace Replay

open Json Json.Grammar

/-- The value of a status. -/
def statusValue (status : Nat) : Json.Value :=
  .scalar (.number (.natural status))

/-- The value of a body. -/
def bodyValue (body : String) : Json.Value :=
  .scalar (.text body)

/-- A value that describes an entry: an object with a status of sixteen bits and a
body, in either order and nothing else, or the pair of the two. -/
inductive Describes (draft : Draft) : Json.Value → Prop where
  | statusFirst (small : draft.status < UInt16.size) :
      Describes draft
        (.object [("status", statusValue draft.status), ("body", bodyValue draft.body)])
  | bodyFirst (small : draft.status < UInt16.size) :
      Describes draft
        (.object [("body", bodyValue draft.body), ("status", statusValue draft.status)])
  | pair (small : draft.status < UInt16.size) :
      Describes draft (.list [statusValue draft.status, bodyValue draft.body])

/-- A value describes at most one entry. -/
theorem Describes.unique {draft other : Draft} {value : Json.Value}
    (describes : Describes draft value) (describesOther : Describes other value) :
    draft = other := by
  obtain ⟨status, body⟩ := draft
  obtain ⟨otherStatus, otherBody⟩ := other
  generalize same : value = otherValue at describesOther
  cases describes <;> cases describesOther <;>
    simp_all [statusValue, bodyValue]

namespace Draft

/-! ## The two fields -/

theorem takes_readStatus_iff {input left : Bytes} {status : Nat} :
    Takes (readStatus .finished input) status left ↔
      status < UInt16.size ∧ ∃ first rest outcome, skipSpace input = first :: rest ∧
        scalar? .finished first rest = some outcome ∧
        Takes outcome (.number (.natural status)) left := by
  constructor
  · intro takes
    unfold readStatus at takes
    split at takes
    · exact absurd takes not_takes_error
    · next first rest skipped =>
      dsimp only at takes
      split at takes
      · next value behind shorter found =>
        split at takes
        · next small =>
          obtain ⟨rfl, rfl⟩ := takes_mk.1 takes
          exact ⟨small, first, rest, _, skipped, found, takes_of_eq rfl⟩
        · exact absurd takes not_takes_error
      · exact absurd takes not_takes_error
      · exact absurd takes not_takes_error
  · rintro ⟨small, first, rest, outcome, skipped, found, ⟨shorter, rfl⟩⟩
    unfold readStatus
    split
    · next ended =>
      rw [skipped] at ended
      cases ended
    · next octet behind parts =>
      rw [skipped] at parts
      cases parts
      simp [found, small]

theorem takes_readBody_iff {input left : Bytes} {body : String} :
    Takes (readBody .finished input) body left ↔
      ∃ first rest outcome, skipSpace input = first :: rest ∧
        scalar? .finished first rest = some outcome ∧ Takes outcome (.text body) left := by
  constructor
  · intro takes
    unfold readBody at takes
    split at takes
    · exact absurd takes not_takes_error
    · next first rest skipped =>
      dsimp only at takes
      split at takes
      · next value behind shorter found =>
        obtain ⟨rfl, rfl⟩ := takes_mk.1 takes
        exact ⟨first, rest, _, skipped, found, takes_of_eq rfl⟩
      · exact absurd takes not_takes_error
  · rintro ⟨first, rest, outcome, skipped, found, ⟨shorter, rfl⟩⟩
    unfold readBody
    split
    · next ended =>
      rw [skipped] at ended
      cases ended
    · next octet behind parts =>
      rw [skipped] at parts
      cases parts
      simp [found]

/-- The value of a member. -/
def Member.value : Member → Json.Value
  | .status code => statusValue code
  | .body text => bodyValue text

/-- A status is small enough to be read. -/
def Member.Fits : Member → Prop
  | .status code => code < UInt16.size
  | .body _ => True

theorem member_of_takes (field : Field) (depth : Nat) {input left : Bytes} {member : Member}
    (takes : Takes (fieldValue .finished field input) member left) :
    member.field = field ∧ member.Fits ∧ ∃ gap octets, Gap gap ∧
      Nested depth member.value octets ∧ input = gap ++ octets ++ left := by
  cases field with
  | status =>
    obtain ⟨status, taken, rfl⟩ := takes_map.1 takes
    obtain ⟨small, first, rest, outcome, skipped, found, taken⟩ := takes_readStatus_iff.1 taken
    obtain ⟨gap, octets, blank, written, parts⟩ := exists_scalar_of_takes skipped found taken
    exact ⟨rfl, small, gap, octets, blank, nested_scalar_iff.2 written, parts⟩
  | body =>
    obtain ⟨body, taken, rfl⟩ := takes_map.1 takes
    obtain ⟨first, rest, outcome, skipped, found, taken⟩ := takes_readBody_iff.1 taken
    obtain ⟨gap, octets, blank, written, parts⟩ := exists_scalar_of_takes skipped found taken
    exact ⟨rfl, trivial, gap, octets, blank, nested_scalar_iff.2 written, parts⟩

theorem takes_of_member (member : Member) {gap octets left : Bytes} {depth : Nat}
    (fits : member.Fits) (blank : Gap gap) (nested : Nested depth member.value octets)
    (delimited : Delimited left) :
    Takes (fieldValue .finished member.field (gap ++ octets ++ left)) member left := by
  cases member with
  | status status =>
    have standing := exists_takes_of_scalar blank (nested_scalar_iff.1 nested) delimited
    exact takes_map.2 ⟨status, takes_readStatus_iff.2 ⟨fits, standing⟩, rfl⟩
  | body body =>
    have standing := exists_takes_of_scalar blank (nested_scalar_iff.1 nested) delimited
    exact takes_map.2 ⟨body, takes_readBody_iff.2 standing, rfl⟩

/-! ## Members -/

theorem ofKey?_eq_some_iff {key : String} {field : Field} :
    Field.ofKey? key = some field ↔ key = field.key := by
  unfold Field.ofKey?
  cases field with
  | status => by_cases same : key = "status" <;> simp [same, Field.key]
  | body =>
    by_cases same : key = "status"
    · simp [same, Field.key]
    · simp [same, Field.key]

/-- The readers that a member of an entry consists of. -/
theorem takes_member_parts {before : List Member} {input left : Bytes} {member : Member} :
    Takes (Draft.member .finished before input) member left ↔
      ∃ field behindQuote behindKey behindColon, input = 0x22 :: behindQuote ∧
        Takes (text .finished behindQuote) field.key behindKey ∧
        Takes (colon .finished behindKey) () behindColon ∧
        (∀ other ∈ before, other.field ≠ field) ∧
        Takes (fieldValue .finished field behindColon) member left := by
  constructor
  · intro takes
    unfold Draft.member at takes
    split at takes
    · exact absurd takes not_takes_error
    · next quote behindQuote =>
      split at takes
      · next isQuote =>
        split at takes
        · exact absurd takes not_takes_error
        · next key first =>
          split at takes
          · exact absurd takes not_takes_error
          · next field known =>
            split at takes
            · exact absurd takes not_takes_error
            · next fresh =>
              split at takes
              · exact absurd takes not_takes_error
              · next colon second =>
                split at takes
                · exact absurd takes not_takes_error
                · next value third =>
                  obtain ⟨rfl, rfl⟩ := takes_mk.1 takes
                  have name := takes_of_eq first
                  rw [ofKey?_eq_some_iff.1 known] at name
                  rw [isQuote]
                  refine ⟨field, _, _, _, rfl, name, takes_of_eq second, ?_, takes_of_eq third⟩
                  simpa using fresh
      · exact absurd takes not_takes_error
  · rintro ⟨field, _, _, _, rfl, ⟨_, first⟩, ⟨_, second⟩, fresh, ⟨_, third⟩⟩
    have known := ofKey?_eq_some_iff.2 (rfl : field.key = field.key)
    have noneBefore : (before.any fun member => member.field = field) = false := by
      simpa using fresh
    simp [Draft.member, first, known, noneBefore, second, third]

/-- A member may stand behind others if none of them fills its field. -/
def Fresh (before : List Member) (member : Member) : Prop :=
  member.Fits ∧ ∀ other ∈ before, other.field ≠ member.field

theorem readsItems_member (depth : Nat) :
    ReadsItems (Draft.member .finished)
      (fun member => Grammar.Member (Nested depth) (member.field.key, member.value)) Fresh where
  sound := by
    intro before start left member takes
    obtain ⟨field, _, _, _, quote, name, colon, fresh, value⟩ := takes_member_parts.1 takes
    obtain ⟨key, blank, quoted, blankBefore, rfl⟩ := takes_key_iff.1 ⟨_, _, quote, name, colon⟩
    obtain ⟨rfl, fits, gap, written, blankAfter, nested, rfl⟩ := member_of_takes field depth value
    refine ⟨⟨fits, fresh⟩, [], _, gap_nil, .named quoted blankBefore blankAfter nested, ?_⟩
    simp
  complete := by
    intro before member octets left fine written delimited
    generalize same : (member.field.key, member.value) = named at written
    obtain ⟨quoted, blankBefore, blankAfter, nested⟩ := written
    cases same
    obtain ⟨_, _, quote, name, colon⟩ := takes_key_iff.2 ⟨_, _, quoted, blankBefore, rfl⟩
    refine takes_member_parts.2 ⟨member.field, _, _, _, ?_, name, colon, fine.2,
      takes_of_member member fine.1 blankAfter nested delimited⟩
    rw [← quote]
    simp
  begins := by
    intro member octets written
    obtain ⟨⟨letters⟩, _, _, _⟩ := written
    exact ⟨0x22, _, rfl, by decide, by decide, by decide⟩

/-! ## Entries written as objects -/

/-- Of three members two fill the same field. -/
theorem not_admitted_three {first second third : Member} {rest : List Member} :
    ¬ Admitted Fresh [] (first :: second :: third :: rest) := by
  rintro ⟨_, ⟨_, secondFresh⟩, ⟨_, thirdFresh⟩, _⟩
  have apart := secondFresh first (by simp)
  have apartThird := thirdFresh first (by simp)
  have apartLast := thirdFresh second (by simp)
  cases first <;> cases second <;> cases third <;>
    simp [Member.field] at apart apartThird apartLast

/-- The members of an entry are a status and a body, in either order. -/
theorem complete_iff {members : List Member} {draft : Draft} :
    Admitted Fresh [] members ∧ status? members = some draft.status ∧
        body? members = some draft.body ↔
      draft.status < UInt16.size ∧
        (members = [.status draft.status, .body draft.body] ∨
          members = [.body draft.body, .status draft.status]) := by
  constructor
  · rintro ⟨admitted, status, body⟩
    match members with
    | [] => cases status
    | [.status first] => cases body
    | [.body first] => cases status
    | [.status first, .status second] => cases body
    | [.body first, .body second] => cases status
    | [.status first, .body second] =>
      injection status with status
      injection body with body
      rw [← status, ← body]
      exact ⟨admitted.1.1, .inl rfl⟩
    | [.body first, .status second] =>
      injection status with status
      injection body with body
      rw [← status, ← body]
      exact ⟨admitted.2.1.1, .inr rfl⟩
    | first :: second :: third :: rest => exact absurd admitted not_admitted_three
  · rintro ⟨small, rfl | rfl⟩
    · simp [Admitted, Fresh, Member.Fits, Member.field, status?, body?, small]
    · simp [Admitted, Fresh, Member.Fits, Member.field, status?, body?, small]

/-- The members of an entry are mirrored by those of an object. -/
theorem mirrors_named (depth : Nat) :
    Mirrors (fun member : Member => Grammar.Member (Nested depth) (member.field.key, member.value))
      (fun member named => named = (member.field.key, member.value))
      (Grammar.Member (Nested depth)) := by
  intro member octets
  constructor
  · intro written
    exact ⟨_, rfl, written⟩
  · rintro ⟨named, rfl, written⟩
    exact written

theorem forall₂_pair_iff {α β : Type} {first second : α} {images : List β} (image : α → β) :
    List.Forall₂ (fun value mirrored => mirrored = image value) [first, second] images ↔
      images = [image first, image second] := by
  simp [List.forall₂_cons_left_iff]

theorem takes_ofObject_parts {input left : Bytes} {draft : Draft} :
    Takes (ofObject .finished input) draft left ↔
      ∃ members, Takes (items .object .finished (Draft.member .finished) [] input
          (length_le_succ input)) members left ∧
        status? members = some draft.status ∧ body? members = some draft.body := by
  constructor
  · intro takes
    unfold ofObject at takes
    split at takes
    · exact absurd takes not_takes_error
    · next taken read =>
      split at takes
      · next status body foundStatus foundBody =>
        obtain ⟨rfl, rfl⟩ := takes_mk.1 takes
        exact ⟨_, takes_of_eq read, foundStatus, foundBody⟩
      · exact absurd takes not_takes_error
      · exact absurd takes not_takes_error
  · rintro ⟨members, ⟨_, read⟩, status, body⟩
    simp [ofObject, read, status, body]

/-- The objects that describe an entry are those of complete members. -/
theorem describes_object_iff {draft : Draft} {named : List (String × Json.Value)} :
    Describes draft (.object named) ↔
      ∃ members, (Admitted Fresh [] members ∧ status? members = some draft.status ∧
          body? members = some draft.body) ∧
        List.Forall₂ (fun member named => named = (member.field.key, member.value)) members
          named := by
  constructor
  · intro describes
    cases describes with
    | statusFirst small =>
      exact ⟨_, complete_iff.2 ⟨small, .inl rfl⟩, (forall₂_pair_iff _).2 rfl⟩
    | bodyFirst small =>
      exact ⟨_, complete_iff.2 ⟨small, .inr rfl⟩, (forall₂_pair_iff _).2 rfl⟩
  · rintro ⟨members, complete, all⟩
    obtain ⟨small, rfl | rfl⟩ := complete_iff.1 complete
    · obtain rfl := (forall₂_pair_iff _).1 all
      exact .statusFirst small
    · obtain rfl := (forall₂_pair_iff _).1 all
      exact .bodyFirst small

theorem takes_ofObject_iff (depth : Nat) {input left : Bytes} {draft : Draft} :
    Takes (ofObject .finished input) draft left ↔
      ∃ named octets, Describes draft (.object named) ∧
        Items (Grammar.Member (Nested depth)) named octets ∧ input = octets ++ 0x7D :: left := by
  simp only [takes_ofObject_parts, describes_object_iff,
    takes_items_iff (readsItems_member depth) Bracket.closes_object]
  constructor
  · rintro ⟨members, ⟨admitted, octets, written, parts⟩, complete⟩
    obtain ⟨named, all, written⟩ := (mirrors_named depth).items.1 written
    exact ⟨named, octets, ⟨members, ⟨admitted, complete⟩, all⟩, written, parts⟩
  · rintro ⟨named, octets, ⟨members, ⟨admitted, complete⟩, all⟩, written, parts⟩
    have written := (mirrors_named depth).items.2 ⟨named, all, written⟩
    exact ⟨members, ⟨admitted, octets, written, parts⟩, complete⟩

/-! ## Entries written as pairs -/

theorem itemAt_of_pairPart {count : Nat} {input : Bytes}
    {start : { start : Bytes // start.length ≤ input.length }}
    (found : pairPart .finished count input = .ok start) :
    ItemAt Bracket.list.close (count == 0) input start.val := by
  unfold pairPart at found
  split at found
  · cases found
  · next octet rest skipped =>
    split at found
    · cases found
    · next opens =>
      split at found
      · cases found
      · next start started =>
        cases found
        exact start_eq_ok skipped opens started

theorem exists_pairPart (count : Nat) {input start : Bytes}
    (place : ItemAt Bracket.list.close (count == 0) input start) :
    ∃ fits, pairPart .finished count input = .ok ⟨start, fits⟩ := by
  obtain ⟨octet, rest, room, skipped, opens, found⟩ := exists_start Bracket.closes_list place
  have fits : start.length ≤ input.length :=
    Nat.le_trans room (length_lt_of_skipSpace skipped)
  refine ⟨fits, ?_⟩
  unfold pairPart
  split
  · next ended =>
    rw [skipped] at ended
    cases ended
  · next octet behind parts =>
    rw [skipped] at parts
    cases parts
    rw [if_neg opens]
    simp only [found]

theorem takes_pairEnd_iff {input left : Bytes} :
    Takes (pairEnd .finished input) () left ↔ skipSpace input = 0x5D :: left := by
  constructor
  · intro takes
    unfold pairEnd at takes
    split at takes
    · exact absurd takes not_takes_error
    · next octet rest skipped =>
      split at takes
      · next isClose =>
        obtain ⟨_, rfl⟩ := takes_mk.1 takes
        rw [skipped, isClose]
        rfl
      · split at takes
        · split at takes
          · exact absurd takes not_takes_error
          · split at takes <;> exact absurd takes not_takes_error
        · exact absurd takes not_takes_error
  · intro skipped
    unfold pairEnd
    split
    · next ended =>
      rw [skipped] at ended
      cases ended
    · next octet behind parts =>
      rw [skipped] at parts
      cases parts
      exact takes_mk.2 ⟨rfl, rfl⟩

/-- The readers that an entry written as a pair consists of. -/
theorem takes_ofPair_parts {input left : Bytes} {draft : Draft} :
    Takes (ofPair .finished input) draft left ↔
      ∃ statusStart behindStatus bodyStart behindBody,
        ItemAt Bracket.list.close true input statusStart ∧
        Takes (readStatus .finished statusStart) draft.status behindStatus ∧
        ItemAt Bracket.list.close false behindStatus bodyStart ∧
        Takes (readBody .finished bodyStart) draft.body behindBody ∧
        skipSpace behindBody = 0x5D :: left := by
  constructor
  · intro takes
    unfold ofPair at takes
    split at takes
    · exact absurd takes not_takes_error
    · next statusStart first =>
      split at takes
      · exact absurd takes not_takes_error
      · next status second =>
        split at takes
        · exact absurd takes not_takes_error
        · next bodyStart third =>
          split at takes
          · exact absurd takes not_takes_error
          · next body fourth =>
            split at takes
            · exact absurd takes not_takes_error
            · next close fifth =>
              obtain ⟨rfl, rfl⟩ := takes_mk.1 takes
              exact ⟨_, _, _, _, itemAt_of_pairPart first, takes_of_eq second,
                itemAt_of_pairPart third, takes_of_eq fourth,
                takes_pairEnd_iff.1 (takes_of_eq fifth)⟩
  · rintro ⟨_, _, _, _, first, ⟨_, second⟩, third, ⟨_, fourth⟩, closed⟩
    obtain ⟨_, first⟩ := exists_pairPart 0 first
    obtain ⟨_, third⟩ := exists_pairPart 1 third
    obtain ⟨_, fifth⟩ := takes_pairEnd_iff.2 closed
    simp [ofPair, first, second, third, fourth, fifth]

theorem describes_list_iff {draft : Draft} {elements : List Json.Value} :
    Describes draft (.list elements) ↔
      draft.status < UInt16.size ∧
        elements = [statusValue draft.status, bodyValue draft.body] := by
  constructor
  · intro describes
    cases describes with
    | pair small => exact ⟨small, rfl⟩
  · rintro ⟨small, rfl⟩
    exact .pair small

theorem takes_ofPair_iff (depth : Nat) {input left : Bytes} {draft : Draft} :
    Takes (ofPair .finished input) draft left ↔
      ∃ elements octets, Describes draft (.list elements) ∧
        Items (Nested depth) elements octets ∧ input = octets ++ 0x5D :: left := by
  simp only [takes_ofPair_parts, describes_list_iff]
  constructor
  · rintro ⟨statusStart, behindStatus, bodyStart, behindBody, first, status, second, body, closed⟩
    obtain ⟨_, small, inner, statusOctets, blankInner, statusWritten, rfl⟩ :=
      member_of_takes .status depth (takes_map.2 ⟨_, status, rfl⟩)
    obtain ⟨_, _, behindComma, bodyOctets, blankBehind, bodyWritten, rfl⟩ :=
      member_of_takes .body depth (takes_map.2 ⟨_, body, rfl⟩)
    obtain ⟨gap, blank, parts⟩ := first.parts
    obtain ⟨before, after, blankBefore, blankAfter, partsStatus⟩ := second.parts
    obtain ⟨last, blankLast, partsBody⟩ := exists_gap behindBody
    rw [closed] at partsBody
    refine ⟨_, _, ⟨small, rfl⟩, .filled (blank.append blankInner) statusWritten
      (.more blankBefore (blankAfter.append blankBehind) bodyWritten (.done blankLast)), ?_⟩
    rw [parts, partsStatus, partsBody]
    simp only [List.append_assoc, List.cons_append]
  · rintro ⟨elements, octets, ⟨small, rfl⟩, written, rfl⟩
    cases written with
    | @filled _ _ gap statusOctets others blank status later =>
      have behindStatus := later.delimited (Bracket.closes_list.delimited left)
      cases later with
      | @more _ _ before after bodyOctets last blankBefore blankAfter body later =>
        have behindBody := later.delimited (Bracket.closes_list.delimited left)
        cases later with
        | done blankLast =>
          have first := takes_of_member (.status draft.status) small gap_nil status
            behindStatus
          have second := takes_of_member (.body draft.body) trivial gap_nil body
            behindBody
          obtain ⟨_, first, same⟩ := takes_map.1 first
          cases same
          obtain ⟨_, second, same⟩ := takes_map.1 second
          cases same
          have statusPlace := ItemAt.of_gap
            (before ++ 0x2C :: after ++ bodyOctets ++ last ++ Bracket.list.close :: left)
            Bracket.closes_list (begins_of_scalar (nested_scalar_iff.1 status)) blank
          have bodyPlace := ItemAt.of_comma (last ++ Bracket.list.close :: left)
            Bracket.closes_list (begins_of_scalar (nested_scalar_iff.1 body)) blankBefore
            blankAfter
          have closed : skipSpace (last ++ 0x5D :: left) = 0x5D :: left :=
            skipSpace_append blankLast (stops_cons.2 (by decide))
          refine ⟨_, _, _, _, ?_, first, ?_, second, closed⟩
          · simpa [Bracket.list] using statusPlace
          · simpa [Bracket.list] using bodyPlace

/-! ## Entries -/

theorem takes_read_parts {input left : Bytes} {draft : Draft} :
    Takes (Draft.read .finished input) draft left ↔
      ∃ rest, (skipSpace input = 0x7B :: rest ∧ Takes (ofObject .finished rest) draft left) ∨
        (skipSpace input = 0x5B :: rest ∧ Takes (ofPair .finished rest) draft left) := by
  constructor
  · intro takes
    unfold Draft.read at takes
    split at takes
    · exact absurd takes not_takes_error
    · next first rest skipped =>
      dsimp only at takes
      split at takes
      · next isObject =>
        rw [isObject] at skipped
        exact ⟨rest, .inl ⟨skipped, takes_weaken.1 takes⟩⟩
      · split at takes
        · next isPair =>
          rw [isPair] at skipped
          exact ⟨rest, .inr ⟨skipped, takes_weaken.1 takes⟩⟩
        · exact absurd takes not_takes_error
  · rintro ⟨rest, ⟨skipped, takes⟩ | ⟨skipped, takes⟩⟩
    all_goals
      unfold Draft.read
      split
      · next ended =>
        rw [skipped] at ended
        cases ended
      · next octet behind parts =>
        rw [skipped] at parts
        cases parts
        exact takes_weaken.2 takes

/-- The values that describe entries are objects or lists. -/
theorem describes_cases {draft : Draft} {value : Json.Value} (describes : Describes draft value) :
    (∃ named, value = .object named) ∨ ∃ elements, value = .list elements := by
  cases describes with
  | statusFirst _ => exact .inl ⟨_, rfl⟩
  | bodyFirst _ => exact .inl ⟨_, rfl⟩
  | pair _ => exact .inr ⟨_, rfl⟩

theorem readsValues_read (depth : Nat) :
    ReadsValues (Draft.read .finished)
      (fun draft octets => ∃ value, Describes draft value ∧ Nested (depth + 1) value octets) where
  sound := by
    intro input left draft takes
    obtain ⟨gap, blank, parts⟩ := exists_gap input
    obtain ⟨rest, ⟨skipped, taken⟩ | ⟨skipped, taken⟩⟩ := takes_read_parts.1 takes
    · obtain ⟨named, octets, describes, written, rfl⟩ :=
        (takes_ofObject_iff depth).1 taken
      refine ⟨gap, _, blank, ⟨_, describes, .object written⟩, ?_⟩
      rw [parts, skipped]
      simp
    · obtain ⟨elements, octets, describes, written, rfl⟩ :=
        (takes_ofPair_iff depth).1 taken
      refine ⟨gap, _, blank, ⟨_, describes, .list written⟩, ?_⟩
      rw [parts, skipped]
      simp
  complete := by
    rintro gap octets left draft blank ⟨value, describes, written⟩ delimited
    rcases describes_cases describes with ⟨named, rfl⟩ | ⟨elements, rfl⟩
    · cases written with
      | object items =>
        have taken : Takes _ draft left :=
          (takes_ofObject_iff depth).2 ⟨named, _, describes, items, rfl⟩
        exact takes_read_parts.2 ⟨_, .inl ⟨skipSpace_bracketed blank (by decide), taken⟩⟩
    · cases written with
      | list items =>
        have taken : Takes _ draft left :=
          (takes_ofPair_iff depth).2 ⟨elements, _, describes, items, rfl⟩
        exact takes_read_parts.2 ⟨_, .inr ⟨skipSpace_bracketed blank (by decide), taken⟩⟩
  begins := by
    rintro draft octets ⟨value, _, written⟩
    exact Value.begins_of_value written

end Draft

namespace Drafts

/-- A member of a document describes an entry under the same name. -/
def Describes (entry : String × Draft) (member : String × Json.Value) : Prop :=
  entry.1 = member.1 ∧ Replay.Describes entry.2 member.2

theorem scan_eq_ok_parts {document : Bytes} {drafts : Drafts} :
    scan .finished document = .ok drafts ↔
      ∃ rest left, skipSpace document = 0x7B :: rest ∧
        Takes (items .object .finished (fun _ => member .finished (Draft.read .finished)) [] rest
          (length_le_succ rest)) drafts left ∧ Gap left := by
  constructor
  · intro scanned
    unfold scan at scanned
    split at scanned
    · cases scanned
    · next ending _ absurd => cases absurd
    · next _ first rest skipped =>
      split at scanned
      · next isObject =>
        split at scanned
        · cases scanned
        · next taken read =>
          split at scanned
          · cases scanned
          · next ended =>
            cases scanned
            rw [isObject] at skipped
            exact ⟨rest, _, skipped, takes_of_eq read, atEnd_eq_ok_iff.1 ended⟩
      · cases scanned
  · rintro ⟨rest, left, skipped, ⟨_, read⟩, blank⟩
    simp [scan, skipped, read, atEnd_eq_ok_iff.2 blank]

/-- Members that hold entries are mirrored by members that hold values. -/
theorem mirrors_drafts (depth : Nat) :
    Mirrors (Grammar.Member fun draft octets =>
        ∃ value, Replay.Describes draft value ∧ Nested depth value octets)
      Describes (Grammar.Member (Nested depth)) :=
  Mirrors.member fun _ _ => Iff.rfl

/-- The entries of a document are what the members of its object describe. -/
theorem parse_eq_ok_iff {document : Bytes} {drafts : Drafts} :
    parse document = .ok drafts ↔
      ∃ members, Document (.object members) document ∧
        List.Forall₂ Describes drafts members := by
  rw [parse, mapError_eq_ok_iff, scan_eq_ok_parts]
  -- Of the 127 levels the document is one and an entry another, which leaves 125.
  simp only [takes_items_iff (Draft.readsValues_read 125).member Bracket.closes_object,
    (mirrors_drafts 126).items]
  constructor
  · rintro ⟨rest, left, skipped, ⟨_, octets, ⟨members, all, written⟩, rfl⟩, blankAfter⟩
    obtain ⟨gap, blank, parts⟩ := exists_gap document
    refine ⟨members, ?_, all⟩
    rw [parts, skipped, show gap ++ 0x7B :: (octets ++ Bracket.object.close :: left) =
      gap ++ (0x7B :: octets ++ [0x7D]) ++ left by simp [Bracket.object]]
    exact .whole blank (.object written) blankAfter
  · rintro ⟨members, ⟨blankBefore, nested, blankAfter⟩, all⟩
    cases nested with
    | object written =>
      exact ⟨_, _, skipSpace_bracketed blankBefore (by decide),
        ⟨admitted_true [] drafts, _, ⟨members, all, written⟩, rfl⟩, blankAfter⟩

end Drafts

end Replay
