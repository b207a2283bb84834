import Mathlib.Data.List.Dedup
import Replay.Proofs.Catalogue.Shapes

/-!
# Views of a catalogue

A catalogue can be asked for the stub of an identifier, for the list of its identifiers,
for their number, and whether there are any. The answers agree. After loading, the list
holds the names of the document's members, each once however often it stands there, in
the order of their octets; no other arrangement of the names is in that order, so it does
not matter from which one they were sorted.
-/

namespace Replay

open Json.Grammar

/-- Texts are ordered as the octets of their UTF-8 forms are. -/
theorem Text.order_eq_lt_iff {left right : String} :
    Text.order left right = .lt ↔ Utf8.encode left < Utf8.encode right :=
  Text.compareOctets_eq_lt_iff

namespace Catalogue

variable {document : Bytes} {catalogue : Catalogue} {identifier : String}

/-! ## The identifiers -/

theorem pairwise_identifiers (catalogue : Catalogue) :
    catalogue.identifiers.Pairwise fun left right => Utf8.encode left < Utf8.encode right :=
  Std.TreeMap.ordered_keys.imp Text.order_eq_lt_iff.1

theorem nodup_identifiers (catalogue : Catalogue) : catalogue.identifiers.Nodup := by
  apply catalogue.pairwise_identifiers.imp
  rintro left _ before rfl
  exact List.lt_irrefl _ before

theorem length_identifiers (catalogue : Catalogue) :
    catalogue.identifiers.length = catalogue.size :=
  Std.TreeMap.length_keys

theorem mem_identifiers_iff :
    identifier ∈ catalogue.identifiers ↔ (catalogue.resolve? identifier).isSome :=
  Std.TreeMap.mem_keys.trans Std.TreeMap.mem_iff_isSome_getElem?

theorem isEmpty_iff :
    catalogue.isEmpty = true ↔ ∀ identifier, catalogue.resolve? identifier = none := by
  rw [isEmpty, Std.TreeMap.isEmpty_iff_forall_not_mem]
  refine forall_congr' fun identifier => ?_
  rw [Std.TreeMap.mem_iff_isSome_getElem?, Option.not_isSome_iff_eq_none, resolve?]

/-- A list is that of the identifiers exactly if it arranges the same names, each of them
once, in the order of their octets. -/
theorem eq_identifiers_iff {names sorted : List String} (nodup : names.Nodup)
    (same : ∀ name, name ∈ names ↔ name ∈ catalogue.identifiers) :
    sorted = catalogue.identifiers ↔
      sorted.Perm names ∧
        sorted.Pairwise fun left right => Utf8.encode left ≤ Utf8.encode right := by
  have arranged : catalogue.identifiers.Perm names :=
    (List.perm_ext_iff_of_nodup catalogue.nodup_identifiers nodup).2 fun name => (same name).symm
  have ordered : catalogue.identifiers.Pairwise
      fun left right => Utf8.encode left ≤ Utf8.encode right :=
    catalogue.pairwise_identifiers.imp List.le_of_lt
  constructor
  · rintro rfl
    exact ⟨arranged, ordered⟩
  · -- Texts of which neither stands behind the other are the same, so ties do not matter.
    rintro ⟨permuted, sorts⟩
    refine List.Perm.eq_of_pairwise ?_ sorts ordered (permuted.trans arranged.symm)
    intro left right _ _ atMost atLeast
    exact Utf8.encode_injective (List.le_antisymm atMost atLeast)

/-! ## The names of a document -/

/-- A catalogue is returned for a document: at hand as octets, as a text, or delivered by a
source; or it may come of it where the entries are taken in another order. -/
inductive Returned (document : Bytes) (catalogue : Catalogue) : Prop where
  | octets (loaded : load document = .ok catalogue)
  | text {text : String} (same : Utf8.encode text = document)
      (loaded : loadText text = .ok catalogue)
  | delivered {delivery : Delivery} (same : delivery.octets = document)
      (received : receive delivery = .ok catalogue)
  | reordered (loads : Loads document (.ok catalogue))

theorem loads_of_load (loaded : load document = .ok catalogue) :
    Loads document (.ok catalogue) := by
  rw [← loaded]
  exact .octets (outcome_ofParsed (Drafts.parse document))

/-- What is returned in any way may come of the document. -/
theorem Returned.loads (returned : Returned document catalogue) :
    Loads document (.ok catalogue) := by
  cases returned with
  | octets loaded => exact loads_of_load loaded
  | text same loaded =>
    subst same
    exact loads_of_load loaded
  | delivered same received =>
    subst same
    exact loads_of_load (receive_eq_ok_iff.1 received).2
  | reordered loads => exact loads

/-- What resolves is what the members of the document are named. -/
theorem Returned.exists_members (returned : Returned document catalogue) :
    ∃ members, Document (.object members) document ∧ ∀ identifier,
      (catalogue.resolve? identifier).isSome ↔ identifier ∈ members.map Prod.fst := by
  rcases outcome_of_loads returned.loads with ⟨drafts, parsed, outcome⟩ | ⟨_, _, _, failed⟩
  · rcases outcome_cases parsed outcome with ⟨replayable, _, same, resolves⟩ | ⟨_, _, _, failed⟩
    · cases same
      obtain ⟨members, derived, all⟩ := Drafts.parse_eq_ok_iff.1 parsed
      refine ⟨members, derived, fun identifier => ?_⟩
      rw [Option.isSome_iff_exists, ← map_fst_eq all, ← exists_lastNamed_iff]
      constructor
      · rintro ⟨stub, found⟩
        obtain ⟨draft, last, _⟩ := (resolves identifier stub).1 found
        exact ⟨draft, last⟩
      · -- A catalogue was returned, so no last entry was refused.
        rintro ⟨draft, last⟩
        obtain ⟨stub, _, replays⟩ := exists_stub (replayable identifier draft last)
        exact ⟨stub, (resolves identifier stub).2 ⟨draft, last, replays⟩⟩
    · cases failed
  · cases failed

/-- The views of a loaded catalogue agree. Its identifiers strictly increase in the order of
their octets, there are as many as it counts, and they are what it resolves; it is empty
exactly if it resolves nothing. They are the names of the document's members, each once, in
the one arrangement that is sorted. -/
theorem views_agree (returned : Returned document catalogue) :
    (catalogue.identifiers.Pairwise fun left right => Utf8.encode left < Utf8.encode right) ∧
    catalogue.identifiers.length = catalogue.size ∧
    (∀ identifier, identifier ∈ catalogue.identifiers ↔
      (catalogue.resolve? identifier).isSome) ∧
    (catalogue.isEmpty = true ↔ ∀ identifier, catalogue.resolve? identifier = none) ∧
    ∃ members, Document (.object members) document ∧ ∀ sorted : List String,
      sorted = catalogue.identifiers ↔ sorted.Perm (members.map Prod.fst).dedup ∧
        sorted.Pairwise fun left right => Utf8.encode left ≤ Utf8.encode right := by
  refine ⟨catalogue.pairwise_identifiers, catalogue.length_identifiers,
    fun _ => mem_identifiers_iff, isEmpty_iff, ?_⟩
  obtain ⟨members, derived, named⟩ := returned.exists_members
  refine ⟨members, derived, fun sorted => ?_⟩
  apply eq_identifiers_iff (List.nodup_dedup _)
  intro name
  rw [List.mem_dedup, mem_identifiers_iff, named]

/-- A name that is repeated counts once, and a name beyond the basic plane stands behind the
others, though it is written in escapes. -/
theorem views_agree_of_repeated :
    let entry := ":\x7b\"status\":200,\"body\":\"\"\x7d"
    let document := Utf8.encode ("\x7b\"\\uD83D\\uDE00\"" ++ entry ++ ",\"b\"" ++ entry
      ++ ",\"\uFF5E\"" ++ entry ++ ",\"b\"" ++ entry ++ "\x7d")
    ∃ catalogue, Returned document catalogue ∧
      catalogue.identifiers = ["b", "\uFF5E", "😀"] ∧ catalogue.size = 3 ∧
      catalogue.isEmpty = false ∧ (catalogue.resolve? "b").isSome := by
  intro entry document
  have loads : (load document).toOption.map identifiers = some ["b", "\uFF5E", "😀"] := by
    decide +kernel
  cases loaded : load document with
  | error failure =>
    rw [loaded] at loads
    cases loads
  | ok catalogue =>
    rw [loaded] at loads
    have listed : catalogue.identifiers = ["b", "\uFF5E", "😀"] := Option.some.inj loads
    have returned : Returned document catalogue := .octets loaded
    obtain ⟨_, counted, resolved, nothing, _⟩ := views_agree returned
    rw [listed] at counted resolved
    have known : (catalogue.resolve? "b").isSome := (resolved "b").1 List.mem_cons_self
    refine ⟨catalogue, returned, listed, counted.symm, ?_, known⟩
    rw [← Bool.not_eq_true, nothing]
    intro unknown
    rw [unknown] at known
    cases known

end Catalogue

end Replay
