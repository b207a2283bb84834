import Replay.Proofs.Catalogue.Document
import Replay.Proofs.Catalogue.Entries

/-!
# Loading a catalogue

What becomes of a configuration document. Its shape is judged first, in every
member; then the last entry of each identifier counts, and only its status is
judged. What is loaded maps each identifier to the stub of its last entry.
-/

namespace Replay

open Json Json.Grammar

/-! ## The last entries -/

/-- Entries are folded into a map so that behind all of them the last one counts. -/
theorem getElem?_foldl_insert {drafts : Drafts} {map : Std.TreeMap String Draft Text.order}
    {identifier : String} {draft : Draft} :
    (drafts.foldl (fun latest draft => latest.insert draft.1 draft.2) map)[identifier]? =
        some draft ↔
      LastNamed identifier draft drafts ∨
        Unnamed identifier drafts ∧ map[identifier]? = some draft := by
  induction drafts generalizing map with
  | nil => simp
  | cons entry drafts ih =>
    simp only [List.foldl_cons, ih, Std.TreeMap.getElem?_insert,
      Std.LawfulEqCmp.compare_eq_iff_eq]
    exact lastNamed_or_cons

theorem latest_eq_some_iff {drafts : Drafts} {identifier : String} {draft : Draft} :
    drafts.latest[identifier]? = some draft ↔ LastNamed identifier draft drafts := by
  simp [Drafts.latest, getElem?_foldl_insert]

namespace Catalogue

/-! ## Loading -/

/-- Loading entries judges the statuses of the last ones, and maps each identifier to
the stub of its last entry. In which order the last ones are taken decides only which
of the refused ones is reported. -/
theorem ofEntries_cases {drafts entries : Drafts} (order : entries.Perm drafts.latest.toList) :
    ((∀ identifier draft, LastNamed identifier draft drafts → Replayable draft.status) ∧
      ∃ catalogue, ofEntries entries = .ok catalogue ∧
        ∀ identifier stub, catalogue.resolve? identifier = some stub ↔
          ∃ draft, LastNamed identifier draft drafts ∧ Replays stub draft) ∨
    ∃ identifier draft, LastNamed identifier draft drafts ∧ ¬ Replayable draft.status ∧
      ofEntries entries = .error (.statusRefused identifier draft.status) := by
  have yields := yields_ofEntries order
  generalize ofEntries entries = result at yields
  simp only [← latest_eq_some_iff]
  cases yields with
  | loaded replayable resolves => exact .inl ⟨replayable, _, rfl, resolves⟩
  | refused listed refused => exact .inr ⟨_, _, listed, refused, rfl⟩

/-- The entries of a document are taken in the order of their identifiers. -/
theorem ofDrafts_cases (drafts : Drafts) :
    ((∀ identifier draft, LastNamed identifier draft drafts → Replayable draft.status) ∧
      ∃ catalogue, ofDrafts drafts = .ok catalogue ∧
        ∀ identifier stub, catalogue.resolve? identifier = some stub ↔
          ∃ draft, LastNamed identifier draft drafts ∧ Replays stub draft) ∨
    ∃ identifier draft, LastNamed identifier draft drafts ∧ ¬ Replayable draft.status ∧
      ofDrafts drafts = .error (.statusRefused identifier draft.status) :=
  ofEntries_cases (.refl _)

/-! ## Entries and members -/

theorem unnamed_iff {drafts : Drafts} {members : List (String × Json.Value)}
    (all : List.Forall₂ Drafts.Describes drafts members) {identifier : String} :
    Unnamed identifier drafts ↔ Unnamed identifier members := by
  induction all with
  | nil => simp
  | cons describes _ ih => rw [unnamed_cons, unnamed_cons, ih, describes.1]

/-- Entries are named as the members are that describe them. -/
theorem map_fst_eq {drafts : Drafts} {members : List (String × Json.Value)}
    (all : List.Forall₂ Drafts.Describes drafts members) :
    drafts.map Prod.fst = members.map Prod.fst := by
  induction all with
  | nil => rfl
  | cons describes _ ih => rw [List.map_cons, List.map_cons, describes.1, ih]

/-- The last entry of an identifier is described by the last member of that name. -/
theorem lastNamed_iff {drafts : Drafts} {members : List (String × Json.Value)}
    (all : List.Forall₂ Drafts.Describes drafts members) {identifier : String} {draft : Draft} :
    LastNamed identifier draft drafts ↔
      ∃ value, LastNamed identifier value members ∧ Describes draft value := by
  induction all with
  | nil => simp
  | @cons entry member drafts members describes rest ih =>
    simp only [lastNamed_cons, unnamed_iff rest, ih]
    obtain ⟨name, value⟩ := member
    obtain ⟨key, last⟩ := entry
    obtain ⟨rfl, describes⟩ := describes
    constructor
    · rintro (⟨other, counts, reads⟩ | ⟨unnamed, same⟩)
      · exact ⟨other, .inl counts, reads⟩
      · cases same
        exact ⟨value, .inr ⟨unnamed, rfl⟩, describes⟩
    · rintro ⟨other, counts | ⟨unnamed, same⟩, reads⟩
      · exact .inl ⟨other, counts, reads⟩
      · cases same
        rw [reads.unique describes]
        exact .inr ⟨unnamed, rfl⟩

/-! ## Documents -/

theorem load_of_refused {document : Bytes} {error : Json.Error}
    (refused : Drafts.parse document = .error error) :
    load document = .error (.document error) := by
  rw [load, refused, ofParsed_error]

theorem load_of_parsed {document : Bytes} {drafts : Drafts}
    (parsed : Drafts.parse document = .ok drafts) : load document = ofDrafts drafts := by
  rw [load, parsed, ofParsed_ok]

/-- Entries can be read from members exactly if each of them describes one. -/
theorem exists_drafts_iff {members : List (String × Json.Value)} :
    (∃ drafts, List.Forall₂ Drafts.Describes drafts members) ↔
      ∀ member ∈ members, ∃ draft, Describes draft member.2 := by
  induction members with
  | nil => simp
  | cons member members ih =>
    rw [List.forall_mem_cons, ← ih]
    constructor
    · rintro ⟨_, all⟩
      cases all with
      | cons describes rest => exact ⟨⟨_, describes.2⟩, _, rest⟩
    · rintro ⟨⟨draft, describes⟩, drafts, rest⟩
      exact ⟨(member.1, draft) :: drafts, .cons ⟨rfl, describes⟩ rest⟩

section Members

variable {document : Bytes} {members : List (String × Json.Value)}

/-- Every member describes an entry. -/
def Described (members : List (String × Json.Value)) : Prop :=
  ∀ member ∈ members, ∃ draft, Describes draft member.2

/-- The last member of a name describes an entry. -/
def LastDescribes (members : List (String × Json.Value)) (identifier : String)
    (draft : Draft) : Prop :=
  ∃ value, LastNamed identifier value members ∧ Describes draft value

/-- A document is refused for its shape, or loaded, or refused for a status. -/
theorem load_cases (derived : Document (.object members) document) :
    (¬ Described members ∧ ∃ error, load document = .error (.document error)) ∨
    (Described members ∧
      (∀ identifier draft, LastDescribes members identifier draft → Replayable draft.status) ∧
      ∃ catalogue, load document = .ok catalogue ∧
        ∀ identifier stub, catalogue.resolve? identifier = some stub ↔
          ∃ draft, LastDescribes members identifier draft ∧ Replays stub draft) ∨
    (Described members ∧
      ∃ identifier draft, LastDescribes members identifier draft ∧ ¬ Replayable draft.status ∧
        load document = .error (.statusRefused identifier draft.status)) := by
  cases parsed : Drafts.parse document with
  | error error =>
    refine .inl ⟨?_, error, load_of_refused parsed⟩
    intro described
    obtain ⟨drafts, all⟩ := exists_drafts_iff.2 described
    rw [Drafts.parse_eq_ok_iff.2 ⟨members, derived, all⟩] at parsed
    cases parsed
  | ok drafts =>
    obtain ⟨others, derivedOthers, all⟩ := Drafts.parse_eq_ok_iff.1 parsed
    cases derivedOthers.unique derived
    have described : Described members := exists_drafts_iff.1 ⟨drafts, all⟩
    rw [load_of_parsed parsed]
    rcases ofDrafts_cases drafts with ⟨replayable, loaded⟩ |
      ⟨identifier, draft, last, refused, failed⟩
    · simp only [lastNamed_iff all] at replayable loaded
      exact .inr (.inl ⟨described, replayable, loaded⟩)
    · exact .inr (.inr ⟨described, identifier, draft, (lastNamed_iff all).1 last, refused, failed⟩)

theorem load_document_iff (derived : Document (.object members) document) :
    (∃ error, load document = .error (.document error)) ↔ ¬ Described members := by
  rcases load_cases derived with ⟨undescribed, failed⟩ | ⟨described, _, catalogue, loaded, _⟩ |
    ⟨described, identifier, draft, _, _, failed⟩
  · exact iff_of_true failed undescribed
  · simp [loaded, described]
  · simp [failed, described]

theorem load_refused_iff (derived : Document (.object members) document) :
    (∃ identifier status, load document = .error (.statusRefused identifier status)) ↔
      Described members ∧
        ∃ identifier draft, LastDescribes members identifier draft ∧
          ¬ Replayable draft.status := by
  rcases load_cases derived with ⟨undescribed, error, failed⟩ |
    ⟨described, replayable, catalogue, loaded, _⟩ |
    ⟨described, identifier, draft, last, refused, failed⟩
  · simp [failed, undescribed]
  · simpa [loaded, described] using replayable
  · exact iff_of_true ⟨identifier, _, failed⟩ ⟨described, identifier, draft, last, refused⟩

/-- What is reported as refused is refused. -/
theorem refused_of_load (derived : Document (.object members) document) {identifier : String}
    {status : Nat} (failed : load document = .error (.statusRefused identifier status)) :
    ∃ draft, LastDescribes members identifier draft ∧ draft.status = status ∧
      ¬ Replayable status := by
  rcases load_cases derived with ⟨_, error, other⟩ | ⟨_, _, catalogue, loaded, _⟩ |
    ⟨_, refusedIdentifier, draft, last, refused, same⟩
  · rw [failed] at other
    cases other
  · rw [failed] at loaded
    cases loaded
  · rw [failed] at same
    cases same
    exact ⟨draft, last, rfl, refused⟩

theorem load_ok_iff (derived : Document (.object members) document) :
    (∃ catalogue, load document = .ok catalogue) ↔
      Described members ∧
        ∀ identifier draft, LastDescribes members identifier draft →
          Replayable draft.status := by
  rcases load_cases derived with ⟨undescribed, error, failed⟩ |
    ⟨described, replayable, catalogue, loaded, _⟩ |
    ⟨described, identifier, draft, last, refused, failed⟩
  · simp [failed, undescribed]
  · exact iff_of_true ⟨catalogue, loaded⟩ ⟨described, replayable⟩
  · simpa [failed, described] using ⟨identifier, draft, last, refused⟩

theorem resolve?_eq_some_iff (derived : Document (.object members) document)
    {catalogue : Catalogue} (loaded : load document = .ok catalogue) {identifier : String}
    {stub : Stub} :
    catalogue.resolve? identifier = some stub ↔
      ∃ draft, LastDescribes members identifier draft ∧ Replays stub draft := by
  rcases load_cases derived with ⟨_, error, failed⟩ | ⟨_, _, other, same, resolves⟩ |
    ⟨_, _, _, _, _, failed⟩
  · rw [loaded] at failed
    cases failed
  · rw [loaded] at same
    cases same
    exact resolves identifier stub
  · rw [loaded] at failed
    cases failed

/-- Exactly the names that do not occur are not resolved. -/
theorem resolve?_eq_none_iff (derived : Document (.object members) document)
    {catalogue : Catalogue} (loaded : load document = .ok catalogue) {identifier : String} :
    catalogue.resolve? identifier = none ↔ Unnamed identifier members := by
  obtain ⟨described, replayable⟩ := (load_ok_iff derived).1 ⟨catalogue, loaded⟩
  constructor
  · intro absent
    by_contra named
    obtain ⟨value, last⟩ := exists_lastNamed named
    obtain ⟨draft, describes⟩ := described _ last.mem
    obtain ⟨stub, _, replays⟩ := exists_stub (replayable identifier draft ⟨value, last, describes⟩)
    have found := (resolve?_eq_some_iff derived loaded).2 ⟨draft, ⟨value, last, describes⟩, replays⟩
    rw [absent] at found
    cases found
  · intro unnamed
    cases found : catalogue.resolve? identifier with
    | none => rfl
    | some stub =>
      obtain ⟨draft, ⟨value, last, _⟩, _⟩ := (resolve?_eq_some_iff derived loaded).1 found
      exact absurd rfl (unnamed _ last.mem)

end Members

/-- A document whose members describe entries that can all be replayed is loaded, and
the last entry of an identifier is what the catalogue holds for it. -/
theorem exists_load {document : Bytes} {members : List (String × Json.Value)} {drafts : Drafts}
    (derived : Document (.object members) document)
    (all : List.Forall₂ Drafts.Describes drafts members)
    (replayable : ∀ entry ∈ drafts, Replayable entry.2.status) {identifier : String}
    {draft : Draft} (last : LastNamed identifier draft drafts) :
    ∃ catalogue stub, load document = .ok catalogue ∧
      catalogue.resolve? identifier = some stub ∧ Replays stub draft := by
  have described : Described members := exists_drafts_iff.1 ⟨drafts, all⟩
  have lastReplayable : ∀ identifier draft, LastDescribes members identifier draft →
      Replayable draft.status := by
    intro identifier draft last
    exact replayable _ ((lastNamed_iff all).2 last).mem
  obtain ⟨catalogue, loaded⟩ := (load_ok_iff derived).2 ⟨described, lastReplayable⟩
  obtain ⟨stub, _, replays⟩ := exists_stub (replayable _ last.mem)
  refine ⟨catalogue, stub, loaded, ?_, replays⟩
  exact (resolve?_eq_some_iff derived loaded).2 ⟨draft, (lastNamed_iff all).1 last, replays⟩

/-- Values that are no lists describe an entry exactly if they are objects with one
status, one body and nothing else. -/
theorem describes_iff_of_no_list {value : Json.Value} {draft : Draft}
    (noList : ∀ elements, value ≠ .list elements) :
    Describes draft value ↔
      ∃ fields, value = .object fields ∧ draft.status ≤ 65535 ∧
        fields.Perm [("status", .scalar (.number (.natural draft.status))),
          ("body", .scalar (.text draft.body))] := by
  constructor
  · intro describes
    cases describes with
    | statusFirst small => exact ⟨_, rfl, Nat.le_of_lt_succ small, .refl _⟩
    | bodyFirst small => exact ⟨_, rfl, Nat.le_of_lt_succ small, .swap _ _ []⟩
    | pair _ => exact absurd rfl (noList _)
  · rintro ⟨fields, rfl, small, permutation⟩
    have small : draft.status < UInt16.size := Nat.lt_succ_of_le small
    rcases List.perm_pair.1 permutation with rfl | rfl
    · exact .statusFirst small
    · exact .bodyFirst small

/-- The outcome of loading a document. What is not an object with entries only is
refused as a document, shadowed members included; of the entries then the last ones
decide, and one of them is reported if it is refused. -/
theorem load_exact (document : Bytes) :
    ((¬ ∃ members, Document (.object members) document) →
      ∃ error, load document = .error (.document error)) ∧
    (∀ members, Document (.object members) document →
      ((∃ error, load document = .error (.document error)) ↔ ¬ Described members) ∧
      ((∃ identifier status, load document = .error (.statusRefused identifier status)) ↔
        Described members ∧ ∃ identifier draft, LastDescribes members identifier draft ∧
          ¬ Replayable draft.status) ∧
      (∀ identifier status, load document = .error (.statusRefused identifier status) →
        ∃ draft, LastDescribes members identifier draft ∧ draft.status = status ∧
          ¬ Replayable status) ∧
      ((∃ catalogue, load document = .ok catalogue) ↔
        Described members ∧ ∀ identifier draft, LastDescribes members identifier draft →
          Replayable draft.status) ∧
      (∀ catalogue, load document = .ok catalogue → ∀ identifier,
        (catalogue.resolve? identifier = none ↔ Unnamed identifier members) ∧
        ∀ stub, catalogue.resolve? identifier = some stub ↔
          ∃ draft, LastDescribes members identifier draft ∧
            stub.status.code = draft.status ∧ stub.body = Utf8.encode draft.body)) ∧
    (∀ value draft, (∀ elements, value ≠ .list elements) →
      (Describes draft value ↔
        ∃ fields, value = .object fields ∧ draft.status ≤ 65535 ∧
          fields.Perm [("status", .scalar (.number (.natural draft.status))),
            ("body", .scalar (.text draft.body))])) ∧
    (∀ number octets, Grammar.Scalar (.number (.natural number)) octets ↔
      Whole octets ∧ digitsValue 0 octets = number ∧ number < UInt64.size) := by
  refine ⟨?_, ?_, fun _ _ => describes_iff_of_no_list, fun _ _ => scalar_natural_iff⟩
  · intro noObject
    cases parsed : Drafts.parse document with
    | error error => exact ⟨error, load_of_refused parsed⟩
    | ok drafts =>
      obtain ⟨members, derived, _⟩ := Drafts.parse_eq_ok_iff.1 parsed
      exact absurd ⟨members, derived⟩ noObject
  · intro members derived
    refine ⟨load_document_iff derived, load_refused_iff derived, ?_, load_ok_iff derived, ?_⟩
    · intro identifier status failed
      exact refused_of_load derived failed
    · intro catalogue loaded identifier
      exact ⟨resolve?_eq_none_iff derived loaded, fun stub => resolve?_eq_some_iff derived loaded⟩

end Catalogue

end Replay
