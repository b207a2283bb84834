import Mathlib.Data.List.Forall2
import Replay.Proofs.Json.Grammar

/-!
# Items read as something else

A reader that knows what it wants takes items as other things than JSON values.
If every such thing is written as one of its images among values, then a list of
them is written as a list of images.
-/

namespace Replay.Json.Grammar

variable {α β : Type} {form : α → Bytes → Prop} {other : β → Bytes → Prop}
  {image : α → β → Prop}

/-- What is written in one form is written as an image of it in another form. -/
def Mirrors (form : α → Bytes → Prop) (image : α → β → Prop) (other : β → Bytes → Prop) : Prop :=
  ∀ value octets, form value octets ↔ ∃ mirrored, image value mirrored ∧ other mirrored octets

theorem Mirrors.later (mirrors : Mirrors form image other) {values : List α} {octets : Bytes} :
    Later form values octets ↔
      ∃ images, List.Forall₂ image values images ∧ Later other images octets := by
  constructor
  · intro later
    induction later with
    | done blank => exact ⟨[], .nil, .done blank⟩
    | more blankBefore blankAfter item _ ih =>
      obtain ⟨mirrored, reflects, written⟩ := (mirrors _ _).1 item
      obtain ⟨images, all, later⟩ := ih
      exact ⟨mirrored :: images, .cons reflects all,
        .more blankBefore blankAfter written later⟩
  · rintro ⟨images, all, later⟩
    induction later generalizing values with
    | done blank =>
      cases all
      exact .done blank
    | more blankBefore blankAfter item _ ih =>
      cases all with
      | cons reflects all =>
        exact .more blankBefore blankAfter ((mirrors _ _).2 ⟨_, reflects, item⟩) (ih all)

theorem Mirrors.items (mirrors : Mirrors form image other) {values : List α} {octets : Bytes} :
    Items form values octets ↔
      ∃ images, List.Forall₂ image values images ∧ Items other images octets := by
  constructor
  · intro items
    cases items with
    | empty blank => exact ⟨[], .nil, .empty blank⟩
    | filled blank first later =>
      obtain ⟨mirrored, reflects, written⟩ := (mirrors _ _).1 first
      obtain ⟨images, all, later⟩ := mirrors.later.1 later
      exact ⟨mirrored :: images, .cons reflects all, .filled blank written later⟩
  · rintro ⟨images, all, items⟩
    cases items with
    | empty blank =>
      cases all
      exact .empty blank
    | filled blank first later =>
      cases all with
      | cons reflects all =>
        exact .filled blank ((mirrors _ _).2 ⟨_, reflects, first⟩) (mirrors.later.2 ⟨_, all, later⟩)

/-- Members are mirrored under their names. -/
theorem Mirrors.member (mirrors : Mirrors form image other) :
    Mirrors (Member form) (fun named mirrored => named.1 = mirrored.1 ∧ image named.2 mirrored.2)
      (Member other) := by
  intro named octets
  constructor
  · rintro ⟨quoted, blankBefore, blankAfter, item⟩
    obtain ⟨mirrored, reflects, written⟩ := (mirrors _ _).1 item
    exact ⟨(_, mirrored), ⟨rfl, reflects⟩, .named quoted blankBefore blankAfter written⟩
  · rintro ⟨⟨name, mirrored⟩, ⟨same, reflects⟩, member⟩
    obtain ⟨key, value⟩ := named
    cases same
    cases member with
    | named quoted blankBefore blankAfter item =>
      exact .named quoted blankBefore blankAfter ((mirrors _ _).2 ⟨_, reflects, item⟩)

end Replay.Json.Grammar
