import Mathlib.Data.List.Permutation
import Replay.Catalogue
import Replay.Proofs.LastNamed

/-!
# Entries in any order

The entries that make a catalogue are those of a map, which leaves open in which order
they are taken. An entry becomes a stub unless its status is refused. Taken in any order,
the entries of a map load exactly if all of them become stubs, and then always under the
same identifiers; otherwise one of those that do not is reported. Which one it is, is all
that the order decides.
-/

namespace Replay

/-- A status that is sent together with a body. -/
def Replayable (status : Nat) : Prop :=
  200 ≤ status ∧ status ≤ 999 ∧ status ≠ 204 ∧ status ≠ 304

/-- A stub with the status and the body of an entry. -/
def Replays (stub : Stub) (draft : Draft) : Prop :=
  stub.status.code = draft.status ∧ stub.body = Utf8.encode draft.body

/-! ## Stubs -/

theorem Replays.unique {stub other : Stub} {draft : Draft} (replays : Replays stub draft)
    (replaysOther : Replays other draft) : stub = other := by
  obtain ⟨⟨code, _⟩, body, _⟩ := stub
  obtain ⟨⟨otherCode, _⟩, otherBody, _⟩ := other
  obtain ⟨sameCode, sameBody⟩ := replays
  obtain ⟨sameOtherCode, sameOtherBody⟩ := replaysOther
  subst sameCode sameOtherBody
  subst sameOtherCode sameBody
  rfl

theorem replayable_of_stub (stub : Stub) : Replayable stub.status.code := by
  have carries := stub.carries_body
  have digits := stub.status.three_digits
  simp only [Status.carriesBody, Bool.not_eq_true', Bool.or_eq_false_iff, decide_eq_false_iff_not,
    beq_eq_false_iff_ne] at carries
  unfold Replayable
  omega

theorem exists_stub {draft : Draft} (replayable : Replayable draft.status) :
    ∃ stub, draft.stub? = some stub ∧ Replays stub draft := by
  obtain ⟨atLeast, atMost, noContent, notModified⟩ := replayable
  have digits : 100 ≤ draft.status ∧ draft.status < 1000 := by omega
  have carries : Status.carriesBody ⟨draft.status, digits⟩ = true := by
    simp only [Status.carriesBody, Bool.not_eq_true', Bool.or_eq_false_iff,
      decide_eq_false_iff_not, beq_eq_false_iff_ne]
    omega
  refine ⟨⟨⟨draft.status, digits⟩, Utf8.encode draft.body, carries⟩, ?_, rfl, rfl⟩
  simp [Draft.stub?, Stub.ofCode?, Status.ofCode?, digits, carries]

/-- An entry becomes a stub that replays it, unless its status is refused. -/
theorem stub?_eq_some_iff {draft : Draft} {stub : Stub} :
    draft.stub? = some stub ↔ Replays stub draft := by
  constructor
  · intro found
    unfold Draft.stub? Stub.ofCode? at found
    split at found
    · cases found
    · next status valid =>
      split at found
      · cases found
        simp only [Status.ofCode?, Option.dite_none_right_eq_some, Option.some.injEq] at valid
        obtain ⟨_, rfl⟩ := valid
        exact ⟨rfl, rfl⟩
      · cases found
  · intro replays
    have replayable := replayable_of_stub stub
    rw [replays.1] at replayable
    obtain ⟨other, found, replaysOther⟩ := exists_stub replayable
    rw [found, replays.unique replaysOther]

theorem stub?_eq_none_iff {draft : Draft} :
    draft.stub? = none ↔ ¬ Replayable draft.status := by
  constructor
  · intro absent replayable
    obtain ⟨stub, found, _⟩ := exists_stub replayable
    rw [absent] at found
    cases found
  · intro refused
    cases found : draft.stub? with
    | none => rfl
    | some stub =>
      have replayable := replayable_of_stub stub
      rw [(stub?_eq_some_iff.1 found).1] at replayable
      exact absurd replayable refused

namespace Catalogue

/-! ## Adding entries -/

theorem resolve?_insert {catalogue : Catalogue} {name identifier : String} {stub : Stub} :
    (catalogue.insert name stub).resolve? identifier =
      if name = identifier then some stub else catalogue.resolve? identifier := by
  simp [insert, resolve?, Std.TreeMap.getElem?_insert]

theorem add_of_replays {catalogue : Catalogue} {entry : String × Draft} {stub : Stub}
    (replays : Replays stub entry.2) :
    catalogue.add entry = .ok (catalogue.insert entry.1 stub) := by
  rw [add, stub?_eq_some_iff.2 replays]

theorem add_of_refused {catalogue : Catalogue} {entry : String × Draft}
    (refused : ¬ Replayable entry.2.status) :
    catalogue.add entry = .error (.statusRefused entry.1 entry.2.status) := by
  rw [add, stub?_eq_none_iff.2 refused]

/-- Adding entries one after another succeeds if all of them can be replayed, and
otherwise reports one that cannot. -/
theorem foldlM_add_cases (entries : Drafts) (start : Catalogue) :
    ((∀ entry ∈ entries, Replayable entry.2.status) ∧
      ∃ final, entries.foldlM add start = .ok final) ∨
    ∃ entry ∈ entries, ¬ Replayable entry.2.status ∧
      entries.foldlM add start = .error (.statusRefused entry.1 entry.2.status) := by
  induction entries generalizing start with
  | nil => exact .inl ⟨by simp, start, rfl⟩
  | cons entry entries ih =>
    rw [List.foldlM_cons]
    by_cases replayable : Replayable entry.2.status
    · obtain ⟨stub, _, replays⟩ := exists_stub replayable
      rw [add_of_replays replays]
      rcases ih (start.insert entry.1 stub) with ⟨all, added⟩ | ⟨refused, within, failed⟩
      · exact .inl ⟨List.forall_mem_cons.2 ⟨replayable, all⟩, added⟩
      · exact .inr ⟨refused, List.mem_cons_of_mem entry within, failed⟩
    · rw [add_of_refused replayable]
      exact .inr ⟨entry, List.mem_cons_self, replayable, rfl⟩

/-- Behind all entries the last one of an identifier counts. -/
theorem resolve?_foldlM_add {entries : Drafts} {start final : Catalogue}
    (added : entries.foldlM add start = .ok final) {identifier : String} {stub : Stub} :
    final.resolve? identifier = some stub ↔
      (∃ draft, LastNamed identifier draft entries ∧ Replays stub draft) ∨
        Unnamed identifier entries ∧ start.resolve? identifier = some stub := by
  induction entries generalizing start with
  | nil =>
    cases added
    simp
  | cons entry entries ih =>
    rw [List.foldlM_cons] at added
    by_cases replayable : Replayable entry.2.status
    · obtain ⟨entryStub, _, replays⟩ := exists_stub replayable
      rw [add_of_replays replays] at added
      rw [ih added, resolve?_insert, unnamed_cons]
      simp only [lastNamed_cons]
      obtain ⟨name, last⟩ := entry
      constructor
      · rintro (⟨draft, counts, same⟩ | ⟨unnamed, found⟩)
        · exact .inl ⟨draft, .inl counts, same⟩
        · by_cases named : name = identifier
          · rw [if_pos named] at found
            injection found with found
            subst named found
            exact .inl ⟨last, .inr ⟨unnamed, rfl⟩, replays⟩
          · rw [if_neg named] at found
            exact .inr ⟨⟨named, unnamed⟩, found⟩
      · rintro (⟨draft, counts | ⟨unnamed, named⟩, same⟩ | ⟨⟨apart, unnamed⟩, found⟩)
        · exact .inl ⟨draft, counts, same⟩
        · cases named
          rw [if_pos rfl, replays.unique same]
          exact .inr ⟨unnamed, rfl⟩
        · rw [if_neg apart]
          exact .inr ⟨unnamed, found⟩
    · rw [add_of_refused replayable] at added
      cases added

/-! ## The entries of a map -/

section Map

variable {map : Std.TreeMap String Draft Text.order} {entries first second : Drafts}

/-- The entries of a map, in whatever order they are taken, are found in it. -/
theorem lastNamed_iff_getElem? (order : entries.Perm map.toList) {identifier : String}
    {draft : Draft} : LastNamed identifier draft entries ↔ map[identifier]? = some draft := by
  have distinct : map.toList.Pairwise fun left right => left.1 ≠ right.1 := by
    apply Std.TreeMap.distinct_keys_toList.imp
    intro left right apart same
    exact apart (Std.LawfulEqCmp.compare_eq_iff_eq.2 same)
  rw [lastNamed_iff_mem ((order.pairwise_iff fun apart => apart.symm).2 distinct),
    order.mem_iff, Std.TreeMap.mem_toList_iff_getElem?_eq_some]

/-- What comes of the entries of a map. -/
inductive Yields (map : Std.TreeMap String Draft Text.order) : Except Failure Catalogue → Prop
  | loaded {catalogue : Catalogue}
      (replayable : ∀ (identifier : String) (draft : Draft), map[identifier]? = some draft →
        Replayable draft.status)
      (resolves : ∀ identifier stub, catalogue.resolve? identifier = some stub ↔
        ∃ draft, map[identifier]? = some draft ∧ Replays stub draft) :
      Yields map (.ok catalogue)
  | refused {identifier : String} {draft : Draft} (listed : map[identifier]? = some draft)
      (refused : ¬ Replayable draft.status) :
      Yields map (.error (.statusRefused identifier draft.status))

/-- In whatever order the entries of a map are taken, what comes of them is what the map
yields. -/
theorem yields_ofEntries (order : entries.Perm map.toList) : Yields map (ofEntries entries) := by
  rcases foldlM_add_cases entries empty with ⟨all, catalogue, added⟩ |
    ⟨⟨identifier, draft⟩, within, refused, failed⟩
  · rw [ofEntries, added]
    refine .loaded ?_ ?_
    · intro identifier draft listed
      exact all _ ((lastNamed_iff_getElem? order).2 listed).mem
    · intro identifier stub
      have nothing : empty.resolve? identifier = none := by simp [empty, resolve?]
      rw [resolve?_foldlM_add added, nothing]
      simp [lastNamed_iff_getElem? order]
  · rw [order.mem_iff, Std.TreeMap.mem_toList_iff_getElem?_eq_some] at within
    rw [ofEntries, failed]
    exact .refused within refused

/-- An entry of a map makes no stub. -/
def Refused (map : Std.TreeMap String Draft Text.order) (entry : String × Draft) : Prop :=
  map[entry.1]? = some entry.2 ∧ Stub.ofCode? entry.2.status (Utf8.encode entry.2.body) = none

theorem refused_iff {entry : String × Draft} :
    Refused map entry ↔ map[entry.1]? = some entry.2 ∧ ¬ Replayable entry.2.status :=
  and_congr_right fun _ => stub?_eq_none_iff

namespace Yields

variable {result : Except Failure Catalogue}

/-- A map fails to load exactly if one of its entries is refused. -/
theorem error_iff (yields : Yields map result) :
    (∃ failure, result = .error failure) ↔ ∃ entry, Refused map entry := by
  simp only [refused_iff]
  cases yields with
  | loaded replayable _ =>
    refine iff_of_false (by simp) ?_
    rintro ⟨entry, listed, refused⟩
    exact refused (replayable entry.1 entry.2 listed)
  | refused listed refused => exact iff_of_true ⟨_, rfl⟩ ⟨(_, _), listed, refused⟩

theorem ok_iff (yields : Yields map result) :
    (∃ catalogue, result = .ok catalogue) ↔ ¬ ∃ entry, Refused map entry := by
  rw [← yields.error_iff]
  cases result with
  | ok catalogue => simp
  | error failure => simp

/-- What is reported is a refused entry. -/
theorem reports {failure : Failure} (yields : Yields map (.error failure)) :
    ∃ entry, Refused map entry ∧ failure = .statusRefused entry.1 entry.2.status := by
  simp only [refused_iff]
  cases yields with
  | refused listed refused => exact ⟨(_, _), ⟨listed, refused⟩, rfl⟩

/-- A loaded map resolves an identifier to the stub of its entry. -/
theorem resolve?_eq {catalogue : Catalogue} (yields : Yields map (.ok catalogue))
    (identifier : String) :
    catalogue.resolve? identifier = map[identifier]?.bind Draft.stub? := by
  cases yields with
  | loaded _ resolves =>
    apply Option.ext
    intro stub
    simp only [resolves, Option.bind_eq_some_iff, stub?_eq_some_iff]

/-- A refused entry is reported if it is the only one. -/
theorem error_of_alone (yields : Yields map result) {entry : String × Draft}
    (alone : ∀ other, Refused map other ↔ other = entry) :
    result = .error (.statusRefused entry.1 entry.2.status) := by
  obtain ⟨failure, rfl⟩ := yields.error_iff.2 ⟨entry, (alone entry).2 rfl⟩
  obtain ⟨other, refused, rfl⟩ := yields.reports
  rw [(alone other).1 refused]

end Yields

/-- Catalogues that resolve alike list the same stubs. -/
theorem toList_congr {catalogue other : Catalogue}
    (same : ∀ identifier, catalogue.resolve? identifier = other.resolve? identifier) :
    catalogue.toList = other.toList :=
  (Std.TreeMap.Equiv.of_forall_constGet?_eq same).toList_eq

/-- The order in which the entries of a map are taken decides neither whether they load nor
what they load to. They fail to load exactly if one of them makes no stub; such an entry is
what is reported, and if there is only one, then in every order. -/
theorem ofEntries_of_orders (firstOrder : first.Perm map.toList)
    (secondOrder : second.Perm map.toList) :
    ((∃ catalogue, ofEntries first = .ok catalogue) ↔
      ∃ catalogue, ofEntries second = .ok catalogue) ∧
    (∀ catalogue other, ofEntries first = .ok catalogue → ofEntries second = .ok other →
      catalogue.toList = other.toList ∧ ∀ identifier,
        catalogue.resolve? identifier = other.resolve? identifier ∧
        catalogue.resolve? identifier = map[identifier]?.bind Draft.stub?) ∧
    ((∃ failure, ofEntries first = .error failure) ↔ ∃ entry, Refused map entry) ∧
    (∀ failure, ofEntries first = .error failure →
      ∃ entry, Refused map entry ∧ failure = .statusRefused entry.1 entry.2.status) ∧
    ∀ entry, (∀ other, Refused map other ↔ other = entry) →
      ofEntries first = .error (.statusRefused entry.1 entry.2.status) ∧
      ofEntries second = .error (.statusRefused entry.1 entry.2.status) := by
  have yields := yields_ofEntries firstOrder
  have yieldsOther := yields_ofEntries secondOrder
  refine ⟨yields.ok_iff.trans yieldsOther.ok_iff.symm, ?_, yields.error_iff, ?_,
    fun entry alone => ⟨yields.error_of_alone alone, yieldsOther.error_of_alone alone⟩⟩
  · intro catalogue other loaded loadedOther
    rw [loaded] at yields
    rw [loadedOther] at yieldsOther
    have same : ∀ identifier, catalogue.resolve? identifier = other.resolve? identifier := by
      intro identifier
      rw [yields.resolve?_eq, yieldsOther.resolve?_eq]
    exact ⟨toList_congr same, fun identifier => ⟨same identifier, yields.resolve?_eq identifier⟩⟩
  · intro failure failed
    rw [failed] at yields
    exact yields.reports

end Map

/-- One of two identifiers has a status that is refused, the other one only in an entry that
is overruled. -/
theorem ofEntries_of_reversed :
    let map := Drafts.latest [("b", ⟨204, ""⟩), ("a", ⟨304, "x"⟩), ("a", ⟨201, "y"⟩)]
    let entries : Drafts := [("a", ⟨201, "y"⟩), ("b", ⟨204, ""⟩)]
    entries.Perm map.toList ∧ entries.reverse.Perm map.toList ∧
      ofEntries entries = .error (.statusRefused "b" 204) ∧
      ofEntries entries.reverse = .error (.statusRefused "b" 204) := by
  intro map entries
  have listed : entries = map.toList := by decide +kernel
  have order : entries.Perm map.toList := .of_eq listed
  have reversed : entries.reverse.Perm map.toList := entries.reverse_perm.trans order
  have alone : ∀ other, Refused map other ↔ other = ("b", ⟨204, ""⟩) := by
    intro other
    rw [Refused, ← Std.TreeMap.mem_toList_iff_getElem?_eq_some, ← listed]
    constructor
    · rintro ⟨within, refused⟩
      obtain ⟨identifier, draft⟩ := other
      rcases List.mem_pair.1 within with same | same
      · cases same
        cases refused
      · exact same
    · rintro rfl
      exact ⟨List.mem_pair.2 (.inr rfl), rfl⟩
  obtain ⟨_, _, _, _, reported⟩ := ofEntries_of_orders order reversed
  exact ⟨order, reversed, reported _ alone⟩

end Catalogue

end Replay
