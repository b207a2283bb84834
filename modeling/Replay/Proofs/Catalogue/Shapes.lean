import Replay.Proofs.Catalogue.Agreement

/-!
# Shapes of entries

In whichever way a document is loaded, all its entries have one of two shapes, the
overruled ones included: the object of a status and a body, or the pair of the two.
A scalar, or any other list or object, keeps the whole document from being loaded.
-/

namespace Replay

open Json Json.Grammar

/-- The object of a status and a body, in either order and with no other member. -/
def IsRecord (value : Json.Value) : Prop :=
  ∃ status body fields, status < UInt16.size ∧ value = .object fields ∧
    fields.Perm [("status", statusValue status), ("body", bodyValue body)]

/-- The list of a status and a body, in this order and with no other element. -/
def IsPair (value : Json.Value) : Prop :=
  ∃ status body, status < UInt16.size ∧ value = .list [statusValue status, bodyValue body]

/-- The values that describe an entry are those of the two shapes. -/
theorem exists_describes_iff {value : Json.Value} :
    (∃ draft, Describes draft value) ↔ IsRecord value ∨ IsPair value := by
  constructor
  · rintro ⟨draft, describes⟩
    cases describes with
    | statusFirst small => exact .inl ⟨draft.status, draft.body, _, small, rfl, .refl _⟩
    | bodyFirst small => exact .inl ⟨draft.status, draft.body, _, small, rfl, .swap _ _ []⟩
    | pair small => exact .inr ⟨draft.status, draft.body, small, rfl⟩
  · rintro (⟨status, body, fields, small, rfl, permutation⟩ | ⟨status, body, small, rfl⟩)
    · rcases List.perm_pair.1 permutation with rfl | rfl
      · exact ⟨⟨status, body⟩, .statusFirst small⟩
      · exact ⟨⟨status, body⟩, .bodyFirst small⟩
    · exact ⟨⟨status, body⟩, .pair small⟩

namespace Drafts

/-- No document is read from a source that fails, however late it does. -/
theorem scan_failed (text : String) (document : Bytes) :
    ∃ fault, scan (.failed text) document = .error fault := by
  unfold scan
  split
  · next _ ended => cases ended
  · exact ⟨_, rfl⟩
  · next first rest _ =>
    split
    · split
      · exact ⟨_, rfl⟩
      · next taken _ =>
        -- Behind the object the source is asked for more, and fails.
        cases left : skipSpace taken.rest <;> simp [atEnd, left]
    · exact ⟨_, rfl⟩

/-- What arrives in parts is read if the source does not fail, and then as it is read
at hand. -/
theorem receive_eq_ok_iff {delivery : Delivery} {drafts : Drafts} :
    receive delivery = .ok drafts ↔
      delivery.ending = .finished ∧ parse delivery.octets = .ok drafts := by
  obtain ⟨parts, ending⟩ := delivery
  cases ending with
  | finished =>
    rcases parse_receive_cases parts with ⟨others, parsed, received⟩ | ⟨fault, refused, received⟩
    · simp [received, Delivery.octets, parsed]
    · simp [received, Delivery.octets, refused]
  | failed text =>
    obtain ⟨fault, failed⟩ := scan_failed text parts.flatten
    simp [receive_eq, parseStream, Delivery.octets, failed, Except.mapError]

end Drafts

namespace Catalogue

/-- A document is accepted if it is loaded as octets, as a text, or as it arrives from a
source in parts of any size. -/
def Accepted (document : Bytes) : Prop :=
  (∃ catalogue, load document = .ok catalogue) ∨
  (∃ text catalogue, Utf8.encode text = document ∧ loadText text = .ok catalogue) ∨
  ∃ delivery catalogue, delivery.octets = document ∧ receive delivery = .ok catalogue

theorem receive_eq_ok_iff {delivery : Delivery} {catalogue : Catalogue} :
    receive delivery = .ok catalogue ↔
      delivery.ending = .finished ∧ load delivery.octets = .ok catalogue := by
  have ofParsed_iff : ∀ parsed, ofParsed parsed = .ok catalogue ↔
      ∃ drafts, parsed = .ok drafts ∧ ofDrafts drafts = .ok catalogue := by
    intro parsed
    cases parsed with
    | error error => simp
    | ok drafts => simp
  simp only [receive, load, ofParsed_iff, Drafts.receive_eq_ok_iff, and_assoc, exists_and_left]

/-- In whichever order its entries are judged, the same stubs come of a document, or it is
refused. -/
theorem receiveIn_cases (order : Arrangement) (delivery : Delivery) :
    (∃ catalogue inOrder, receive delivery = .ok catalogue ∧
      receiveIn order delivery = .ok inOrder ∧
      ∀ identifier, inOrder.resolve? identifier = catalogue.resolve? identifier) ∨
    ∃ failure failureInOrder, receive delivery = .error failure ∧
      receiveIn order delivery = .error failureInOrder := by
  rw [receive, receiveIn]
  cases read : Drafts.receive delivery with
  | error error => exact .inr ⟨_, _, rfl, rfl⟩
  | ok drafts =>
    have parsed := (Drafts.receive_eq_ok_iff.1 read).2
    have agree :=
      agree_of_read parsed (outcome_ofParsedIn order (.ok drafts)) (outcome_ofParsed (.ok drafts))
    generalize ofParsedIn order (.ok drafts) = inOrder at agree
    generalize ofParsed (.ok drafts) = asListed at agree
    cases agree with
    | loaded same => exact .inl ⟨_, _, rfl, rfl, same⟩
    | refused _ _ _ => exact .inr ⟨_, _, rfl, rfl⟩
    | unread _ _ _ _ => exact .inr ⟨_, _, rfl, rfl⟩

/-- All ways of loading a document accept it, or none of them. -/
theorem accepted_iff_load {document : Bytes} :
    Accepted document ↔ ∃ catalogue, load document = .ok catalogue := by
  constructor
  · rintro (loaded | ⟨text, catalogue, rfl, loaded⟩ | ⟨delivery, catalogue, rfl, received⟩)
    · exact loaded
    · exact ⟨catalogue, loaded⟩
    · exact ⟨catalogue, (receive_eq_ok_iff.1 received).2⟩
  · exact .inl

/-- A document is accepted exactly if it is an object, each of whose members, shadowed
ones included, holds the object or the pair of a status and a body, and if the status
of each last entry can be replayed. -/
theorem accepted_iff (document : Bytes) :
    Accepted document ↔ ∃ members, Document (.object members) document ∧
      (∀ member ∈ members, IsRecord member.2 ∨ IsPair member.2) ∧
      ∀ identifier draft, LastDescribes members identifier draft →
        Replayable draft.status := by
  rw [accepted_iff_load]
  simp only [← exists_describes_iff]
  constructor
  · rintro ⟨catalogue, loaded⟩
    cases parsed : Drafts.parse document with
    | error error =>
      rw [load_of_refused parsed] at loaded
      cases loaded
    | ok drafts =>
      obtain ⟨members, derived, _⟩ := Drafts.parse_eq_ok_iff.1 parsed
      exact ⟨members, derived, (load_ok_iff derived).1 ⟨catalogue, loaded⟩⟩
  · rintro ⟨members, derived, shaped, replayable⟩
    exact (load_ok_iff derived).2 ⟨shaped, replayable⟩

/-- A pair is accepted in the place of an object, in every way of loading. -/
theorem pair_accepted :
    ∃ catalogue members, Document (.object members) (Utf8.encode "\x7b\"a\":[200,\"x\"]\x7d") ∧
      load (Utf8.encode "\x7b\"a\":[200,\"x\"]\x7d") = .ok catalogue ∧
      loadText "\x7b\"a\":[200,\"x\"]\x7d" = .ok catalogue ∧
      receive ⟨[Utf8.encode "\x7b\"a\":[200,\"x\"]\x7d"], .finished⟩ = .ok catalogue ∧
      ∃ member ∈ members, ∀ fields, member.2 ≠ .object fields := by
  have text : Quoted "x" _ := .of_plain (by decide)
  have status : Nested 125 (statusValue 200) [0x32, 0x30, 0x30] :=
    nested_natural (.digits (by decide) (by decide)) rfl (by decide)
  have entry : Nested 126 (.list [statusValue 200, bodyValue "x"]) _ :=
    .list (.filled gap_nil status (.more gap_nil gap_nil (nested_text text) (.done gap_nil)))
  have derived : Document (.object [("a", _)]) _ := document_of_member (by decide) entry
  have described : List.Forall₂ Drafts.Describes [("a", ⟨200, "x"⟩)] [("a", _)] :=
    .cons ⟨rfl, .pair (by decide)⟩ .nil
  obtain ⟨catalogue, _, loaded, _⟩ := @exists_load _ _ _ derived described
    (by simp [Replayable]) "a" ⟨200, "x"⟩ ⟨[], [], rfl, by simp⟩
  have received := (@receive_eq_ok_iff ⟨[_], .finished⟩ catalogue).2
    ⟨rfl, by rw [Delivery.octets, List.flatten_singleton]; exact loaded⟩
  exact ⟨catalogue, _, derived, loaded, loaded, received, _, List.mem_cons_self, by simp⟩

end Catalogue

end Replay
