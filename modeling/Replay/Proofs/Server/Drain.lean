import Replay.Proofs.Server.Tracker
import Replay.Server.Lifecycle

/-!
# Draining

What holds of a server after every run, whatever the order in which connections are
accepted, take notice of the closing signal and end, and wherever the order to stop falls:
the tracker counts the connections that have not ended, and the server stops only when
there are none, and then at its next look. `Moves` says once what each step can do. The
account of a run, `Account`, is proved from it step by step.
-/

namespace Replay

@[simp] theorem Stage.isOpen_eq_false_iff {stage : Stage} :
    stage.isOpen = false ↔ stage = .ended := by
  cases stage <;> decide

theorem Stage.ne_ended {stage : Stage} (isOpen : stage.isOpen = true) : stage ≠ .ended := by
  rintro rfl
  cases isOpen

@[simp] theorem Stage.isOpen_signal (stage : Stage) : stage.signal.isOpen = stage.isOpen := by
  cases stage <;> rfl

theorem Stage.signal_ne_serving (stage : Stage) : stage.signal ≠ .serving := by
  cases stage <;> decide

/-- An open connection that the signal has reached. -/
theorem Stage.signalled_or_closing {stage : Stage} (isOpen : stage.isOpen = true)
    (reached : stage ≠ .serving) : stage = .signalled ∨ stage = .closing := by
  cases stage with
  | serving => exact absurd rfl reached
  | signalled => exact .inl rfl
  | closing => exact .inr rfl
  | ended => cases isOpen

@[simp] theorem Stage.signal_eq_ended_iff {stage : Stage} :
    stage.signal = .ended ↔ stage = .ended := by
  cases stage <;> decide

namespace Server

variable {server next : Server} {step : ServerStep} {steps : List ServerStep}

/-! ## Steps -/

/-- The steps that a server can take, and where they lead. -/
inductive Moves (server : Server) : ServerStep → Server → Prop where
  | accept (accepting : server.phase = .accepting) : Moves server .accept server.accept
  | acceptFailed (accepting : server.phase = .accepting) : Moves server .acceptFailed server
  | arrive {index : Nat} {octets : Bytes} {passes : Bool} {link : Link}
      (listed : server.links[index]? = some link) (isOpen : link.stage.isOpen = true) :
      Moves server (.arrive index octets passes)
        (server.setLink index (link.exchange server.responder (.arrive octets passes)))
  | hangUp {index : Nat} {link : Link} (listed : server.links[index]? = some link)
      (isOpen : link.stage.isOpen = true) :
      Moves server (.hangUp index) (server.setLink index (link.exchange server.responder .hangUp))
  | notice {index : Nat} {link : Link} (listed : server.links[index]? = some link)
      (signalled : link.stage = .signalled) :
      Moves server (.notice index)
        (server.setLink index { link.exchange server.responder .notice with stage := .closing })
  | finish {index : Nat} {link : Link} (listed : server.links[index]? = some link)
      (isOpen : link.stage.isOpen = true) :
      Moves server (.finish index)
        { server.setLink index { link with stage := .ended } with tracker := server.tracker.finish }
  | stop (accepting : server.phase = .accepting) : Moves server .stop server.stop
  | look {waiter : Nat} (draining : server.phase = .draining waiter) :
      Moves server .look (server.look waiter)

theorem turn?_eq_some_iff {index : Nat} {turn : Turn} :
    server.turn? index turn = some next ↔
      ∃ link, server.links[index]? = some link ∧ link.stage.isOpen = true ∧
        server.setLink index (link.exchange server.responder turn) = next := by
  unfold turn?
  cases server.links[index]? with
  | none => simp
  | some link => simp [Option.ite_none_right_eq_some]

theorem step?_eq_some_iff : server.step? step = some next ↔ server.Moves step next := by
  constructor
  · intro stepped
    cases step with
    | accept =>
      obtain ⟨accepting, same⟩ := Option.ite_none_right_eq_some.1 stepped
      cases same
      exact .accept accepting
    | acceptFailed =>
      obtain ⟨accepting, same⟩ := Option.ite_none_right_eq_some.1 stepped
      cases same
      exact .acceptFailed accepting
    | arrive index octets passes =>
      obtain ⟨link, listed, isOpen, rfl⟩ := turn?_eq_some_iff.1 stepped
      exact .arrive listed isOpen
    | hangUp index =>
      obtain ⟨link, listed, isOpen, rfl⟩ := turn?_eq_some_iff.1 stepped
      exact .hangUp listed isOpen
    | notice index =>
      simp only [step?] at stepped
      split at stepped
      · cases stepped
      · next link listed =>
        obtain ⟨signalled, same⟩ := Option.ite_none_right_eq_some.1 stepped
        cases same
        exact .notice listed signalled
    | finish index =>
      simp only [step?] at stepped
      split at stepped
      · cases stepped
      · next link listed =>
        obtain ⟨isOpen, same⟩ := Option.ite_none_right_eq_some.1 stepped
        cases same
        exact .finish listed isOpen
    | stop =>
      obtain ⟨accepting, same⟩ := Option.ite_none_right_eq_some.1 stepped
      cases same
      exact .stop accepting
    | look =>
      simp only [step?] at stepped
      split at stepped
      · next waiter draining =>
        cases stepped
        exact .look draining
      · cases stepped
  · intro moves
    cases moves with
    | accept accepting => simp [step?, accepting]
    | acceptFailed accepting => simp [step?, accepting]
    | arrive listed isOpen => exact turn?_eq_some_iff.2 ⟨_, listed, isOpen, rfl⟩
    | hangUp listed isOpen => exact turn?_eq_some_iff.2 ⟨_, listed, isOpen, rfl⟩
    | notice listed signalled => simp [step?, listed, signalled]
    | finish listed isOpen => simp [step?, listed, isOpen]
    | stop accepting => simp [step?, accepting]
    | look draining => simp [step?, draining]

theorem run?_concat_eq_some_iff {before : Server} :
    before.run? (steps ++ [step]) = some next ↔
      ∃ reached, before.run? steps = some reached ∧ reached.Moves step next := by
  simp only [run?, List.foldlM_append, List.foldlM_cons, List.foldlM_nil, bind_pure,
    Option.bind_eq_bind, Option.bind_eq_some_iff, step?_eq_some_iff]

/-- What holds before the first step and is kept by every step holds after every run. -/
theorem of_run {before : Server} {property : List ServerStep → Server → Prop}
    (initial : property [] before)
    (kept : ∀ steps reached step next, property steps reached → reached.Moves step next →
      property (steps ++ [step]) next)
    (ran : before.run? steps = some server) : property steps server := by
  induction steps using List.reverseRecOn generalizing server with
  | nil =>
    cases ran
    exact initial
  | append_singleton steps step ih =>
    obtain ⟨reached, ranBefore, moves⟩ := run?_concat_eq_some_iff.1 ran
    exact kept steps reached step server (ih ranBefore) moves

/-! ## Connections -/

/-- The connection of a number was accepted and has ended. -/
def HasEnded (server : Server) (index : Nat) : Prop :=
  ∃ link, server.links[index]? = some link ∧ link.stage = .ended

/-- Replacing a connection changes the number of open ones by what it changes of this one. -/
theorem openLinks_setLink {index : Nat} {link : Link}
    (listed : server.links[index]? = some link) (replaced : Link) :
    (server.setLink index replaced).openLinks + (if link.stage.isOpen = true then 1 else 0) =
      server.openLinks + if replaced.stage.isOpen = true then 1 else 0 := by
  obtain ⟨within, same⟩ := List.getElem?_eq_some_iff.1 listed
  unfold setLink openLinks
  rw [List.countP_set within, same]
  by_cases isOpen : link.stage.isOpen = true
  · have positive : 0 < server.links.countP fun link => link.stage.isOpen :=
      List.countP_pos_iff.2 ⟨link, List.mem_of_getElem? listed, isOpen⟩
    rw [if_pos isOpen]
    omega
  · rw [if_neg isOpen]
    omega

theorem getElem?_setLink {index : Nat} {link : Link} (listed : server.links[index]? = some link)
    (replaced : Link) (other : Nat) :
    (server.setLink index replaced).links[other]? =
      if index = other then some replaced else server.links[other]? := by
  obtain ⟨within, _⟩ := List.getElem?_eq_some_iff.1 listed
  unfold setLink
  rw [List.getElem?_set]
  by_cases same : index = other
  · rw [if_pos same, if_pos same, if_pos within]
  · rw [if_neg same, if_neg same]

theorem hasEnded_setLink {index other : Nat} {link replaced : Link}
    (listed : server.links[index]? = some link) :
    (server.setLink index replaced).HasEnded other ↔
      if index = other then replaced.stage = .ended else server.HasEnded other := by
  unfold HasEnded
  rw [getElem?_setLink listed]
  by_cases same : index = other
  · simp [same]
  · simp [same]

/-- If the signal has reached every connection, it still has when one is replaced by one that
it reached. -/
theorem reached_setLink {index : Nat} {replaced : Link}
    (reached : ∀ link ∈ server.links, link.stage ≠ .serving)
    (still : replaced.stage ≠ .serving) :
    ∀ link ∈ (server.setLink index replaced).links, link.stage ≠ .serving := by
  intro link within
  rcases List.mem_or_eq_of_mem_set within with before | rfl
  · exact reached link before
  · exact still

theorem openLinks_accept (server : Server) : server.accept.openLinks = server.openLinks + 1 := by
  simp [openLinks, accept, Link.start, Stage.isOpen]

theorem hasEnded_accept {index : Nat} : server.accept.HasEnded index ↔ server.HasEnded index := by
  unfold HasEnded accept
  rw [List.getElem?_append]
  split
  · rfl
  · next beyond =>
    rw [List.getElem?_eq_none (Nat.le_of_not_lt beyond), List.getElem?_singleton]
    split <;> simp [Link.start]

theorem openLinks_stop (server : Server) : server.stop.openLinks = server.openLinks := by
  simp [openLinks, stop, List.countP_map, Function.comp_def]

theorem hasEnded_stop {index : Nat} : server.stop.HasEnded index ↔ server.HasEnded index := by
  simp [HasEnded, stop]

theorem openLinks_eq_zero_iff :
    server.openLinks = 0 ↔ ∀ link ∈ server.links, link.stage = .ended := by
  simp [openLinks]

theorem phase_look (server : Server) (waiter : Nat) : (server.look waiter).phase =
    if (server.tracker.poll waiter).2 = .ready then .stopped else server.phase := rfl

/-! ## The account of a run -/

/-- No connection is accepted after the order to stop. -/
def Orderly (steps : List ServerStep) : Prop :=
  steps.Pairwise fun earlier later => earlier = .stop → later ≠ .accept

theorem Orderly.concat (orderly : Orderly steps) (allowed : .stop ∈ steps → step ≠ .accept) :
    Orderly (steps ++ [step]) := by
  refine List.pairwise_append.2 ⟨orderly, List.pairwise_singleton _ _, ?_⟩
  rintro earlier before later last rfl
  rw [List.mem_singleton.1 last]
  exact allowed before

/-- The account of a run: which connections were accepted and have ended, what the tracker
counts, and what the order to stop has changed. Two entries hold as long as the count does
not wrap. -/
structure Account (steps : List ServerStep) (server : Server) : Prop where
  accepted : server.links.length = steps.count .accept
  ended : ∀ index, server.HasEnded index ↔ .finish index ∈ steps
  counted : server.tracker.count = UInt64.ofNat server.openLinks
  stopping : server.phase ≠ .accepting ↔ .stop ∈ steps
  orderly : Orderly steps
  signalled : server.phase ≠ .accepting → ∀ link ∈ server.links, link.stage ≠ .serving
  waiting : ∀ waiter, server.phase = .draining waiter → server.tracker.waiter waiter ≠ .finished
  watchful : steps.count .accept < UInt64.size → server.tracker.Watchful
  stopped : steps.count .accept < UInt64.size → server.phase = .stopped → server.openLinks = 0

namespace Account

theorem start (responder : Responder) : Account [] (Server.start responder) where
  accepted := rfl
  ended index := by simp [HasEnded, Server.start]
  counted := rfl
  stopping := by simp [Server.start]
  orderly := .nil
  signalled := by simp [Server.start]
  waiting := by simp [Server.start]
  watchful _ := Tracker.watchful_start
  stopped _ _ := rfl

theorem openLinks_le (account : Account steps server) : server.openLinks ≤ steps.count .accept := by
  rw [← account.accepted]
  exact List.countP_le_length

/-- The count is the number of open connections, unless it wraps. -/
theorem toNat_count (account : Account steps server) (few : steps.count .accept < UInt64.size) :
    server.tracker.count.toNat = server.openLinks := by
  rw [account.counted, UInt64.toNat_ofNat']
  exact Nat.mod_eq_of_lt (Nat.lt_of_le_of_lt account.openLinks_le few)

theorem accept (account : Account steps server) (accepting : server.phase = .accepting) :
    Account (steps ++ [.accept]) server.accept where
  accepted := by simp [Server.accept, account.accepted]
  ended index := by simp [hasEnded_accept, account.ended]
  counted := by
    rw [openLinks_accept, UInt64.ofNat_add, ← account.counted]
    rfl
  stopping := by simpa [Server.accept] using account.stopping
  orderly := account.orderly.concat fun stop => absurd accepting (account.stopping.2 stop)
  signalled stopping := absurd accepting stopping
  waiting waiter draining := by
    rw [Server.accept, accepting] at draining
    cases draining
  watchful few := by
    rw [List.count_append, List.count_singleton_self] at few
    apply Tracker.watchful_begin
    rw [account.toNat_count (by omega)]
    have bound := account.openLinks_le
    omega
  stopped _ stopped := by
    rw [Server.accept, accepting] at stopped
    cases stopped

/-- A step that leaves everything as it is keeps the account, unless it is one of those
that the account counts. -/
theorem skip {step : ServerStep} (account : Account steps server) (counts : step ≠ .accept)
    (stops : step ≠ .stop) (ends : ∀ index, step ≠ .finish index) :
    Account (steps ++ [step]) server where
  accepted := by simp [account.accepted, counts]
  ended index := by simp [account.ended, (ends index).symm]
  counted := account.counted
  stopping := by simp [account.stopping, stops.symm]
  orderly := account.orderly.concat fun _ => counts
  signalled := account.signalled
  waiting := account.waiting
  watchful few := account.watchful (by simpa [List.count_singleton, counts] using few)
  stopped few := account.stopped (by simpa [List.count_singleton, counts] using few)

/-- The account does not depend on what a connection is doing beyond whether it is open
and whether the signal reached it. -/
theorem setLink {index : Nat} {link replaced : Link} (account : Account steps server)
    (listed : server.links[index]? = some link) (isOpen : link.stage.isOpen = true)
    (staysOpen : replaced.stage.isOpen = true)
    (staysSignalled : link.stage ≠ .serving → replaced.stage ≠ .serving) :
    Account steps (server.setLink index replaced) := by
  have same : (server.setLink index replaced).openLinks = server.openLinks := by
    simpa [isOpen, staysOpen] using openLinks_setLink listed replaced
  exact {
    accepted := by simpa [Server.setLink] using account.accepted
    ended := by
      intro other
      rw [hasEnded_setLink listed, ← account.ended]
      split
      · next same =>
        subst same
        simp [HasEnded, listed, Stage.ne_ended isOpen, Stage.ne_ended staysOpen]
      · rfl
    counted := same ▸ account.counted
    stopping := account.stopping
    orderly := account.orderly
    signalled := by
      intro stopping
      have reached := account.signalled stopping
      exact reached_setLink reached (staysSignalled (reached link (List.mem_of_getElem? listed)))
    waiting := account.waiting
    watchful := account.watchful
    stopped := same ▸ account.stopped }

theorem finish {index : Nat} {link : Link} (account : Account steps server)
    (listed : server.links[index]? = some link) (isOpen : link.stage.isOpen = true) :
    Account (steps ++ [.finish index])
      { server.setLink index { link with stage := .ended } with
        tracker := server.tracker.finish } := by
  have fewer : (server.setLink index { link with stage := .ended }).openLinks + 1 =
      server.openLinks := by
    have counts := openLinks_setLink listed { link with stage := .ended }
    rwa [if_pos isOpen, if_neg (by simp [Stage.isOpen])] at counts
  exact {
    accepted := by simpa [Server.setLink] using account.accepted
    ended := by
      intro other
      refine (hasEnded_setLink listed).trans ?_
      rw [account.ended]
      by_cases same : index = other
      · simp [same]
      · simp [same, eq_comm]
    counted := by
      change server.tracker.count - 1 =
        UInt64.ofNat (server.setLink index { link with stage := .ended }).openLinks
      rw [account.counted, ← fewer, UInt64.ofNat_add]
      exact UInt64.add_sub_cancel _ _
    stopping := by simpa [Server.setLink] using account.stopping
    orderly := account.orderly.concat (by simp)
    signalled := fun stopping => reached_setLink (account.signalled stopping) (by simp)
    waiting := by
      intro waiter draining
      have waits := account.waiting waiter draining
      change server.tracker.finish.waiter waiter ≠ .finished
      rw [Tracker.waiter_finish]
      split
      · exact Waiter.notify_ne_finished_iff.2 waits
      · exact waits
    watchful := fun _ => Tracker.watchful_finish server.tracker
    stopped := by
      intro few stopped
      have none := account.stopped (by simpa using few) stopped
      omega }

theorem stop (account : Account steps server) : Account (steps ++ [.stop]) server.stop where
  accepted := by simp [Server.stop, account.accepted]
  ended index := by simp [hasEnded_stop, account.ended]
  counted := by
    rw [openLinks_stop]
    exact account.counted
  stopping := by simp [Server.stop]
  orderly := account.orderly.concat (by simp)
  signalled _ link within := by
    obtain ⟨before, _, rfl⟩ := List.mem_map.1 within
    exact before.stage.signal_ne_serving
  waiting waiter draining := by
    cases draining
    change server.tracker.wait.waiter server.tracker.waiters.length ≠ .finished
    rw [Tracker.waiter_wait, if_pos rfl]
    simp
  watchful few := (account.watchful (by simpa using few)).wait
  stopped _ stopped := by cases stopped

theorem look {waiter : Nat} (account : Account steps server)
    (draining : server.phase = .draining waiter) :
    Account (steps ++ [.look]) (server.look waiter) where
  accepted := by simpa [Server.look] using account.accepted
  ended index := by simpa [HasEnded, Server.look] using account.ended index
  counted := account.counted
  stopping := by
    have stopping : .stop ∈ steps := account.stopping.1 (by simp [draining])
    rw [phase_look]
    split
    · simp [stopping]
    · simp [draining, stopping]
  orderly := account.orderly.concat (by simp)
  signalled _ := account.signalled (by simp [draining])
  waiting other still := by
    rw [phase_look] at still
    split at still
    · cases still
    · next unready =>
      cases draining.symm.trans still
      change (server.tracker.poll waiter).1.waiter waiter ≠ .finished
      rw [Tracker.waiter_poll, if_pos rfl]
      exact Waiter.poll_ne_finished_iff.2 ⟨account.waiting waiter draining, unready⟩
  watchful few := (account.watchful (by simpa using few)).poll waiter
  stopped few stopped := by
    rw [phase_look] at stopped
    split at stopped
    · next ready =>
      change server.openLinks = 0
      rw [← account.toNat_count (by simpa using few), Waiter.poll_eq_ready ready]
      rfl
    · cases draining.symm.trans stopped

/-- Every step keeps the account. -/
theorem move {step : ServerStep} {next : Server} (account : Account steps server)
    (moves : server.Moves step next) : Account (steps ++ [step]) next := by
  cases moves with
  | accept accepting => exact account.accept accepting
  | acceptFailed => exact account.skip (by simp) (by simp) (by simp)
  | arrive listed isOpen | hangUp listed isOpen =>
    refine skip ?_ (by simp) (by simp) (by simp)
    exact account.setLink listed isOpen isOpen id
  | notice listed signalled =>
    refine skip ?_ (by simp) (by simp) (by simp)
    exact account.setLink listed (by rw [signalled]; rfl) rfl (by simp)
  | finish listed isOpen => exact account.finish listed isOpen
  | stop => exact account.stop
  | look draining => exact account.look draining

theorem of_run {responder : Responder} (ran : (Server.start responder).run? steps = some server) :
    Account steps server :=
  Server.of_run (start responder) (fun _ _ _ _ account moves => account.move moves) ran

/-- A look finds the server drained when every connection has ended, and only then. -/
theorem look_eq_stopped_iff {waiter : Nat} (account : Account steps server)
    (few : steps.count .accept < UInt64.size) (draining : server.phase = .draining waiter) :
    (server.look waiter).phase = .stopped ↔ ∀ link ∈ server.links, link.stage = .ended := by
  have answer := (account.watchful few).poll_eq (account.waiting waiter draining)
  have counted : server.openLinks = 0 ↔ server.tracker.count = 0 := by
    rw [← account.toNat_count few, ← UInt64.toNat_inj]
    rfl
  rw [phase_look, answer, ← openLinks_eq_zero_iff, counted]
  by_cases none : server.tracker.count = 0
  · simp [none]
  · simp [none, draining]

end Account

/-- Draining is exact, as long as fewer connections are accepted than the count can hold.
After every run of a server its connections are the accepted ones, those have ended whose
end took place, and the tracker counts the others. No connection is accepted after the
order to stop, and each that is still open then has the closing signal pending or has taken
notice of it. A server has stopped only when every connection has ended, and it stops at
the first look that finds this. -/
theorem drain_exact {responder : Responder}
    (ran : (Server.start responder).run? steps = some server)
    (few : steps.count .accept < UInt64.size) :
    (server.links.length = steps.count .accept ∧
      (∀ index, server.HasEnded index ↔ .finish index ∈ steps) ∧
      server.tracker.count.toNat = server.openLinks) ∧
    (Orderly steps ∧ (server.phase ≠ .accepting ↔ .stop ∈ steps)) ∧
    (.stop ∈ steps → ∀ link ∈ server.links, link.stage.isOpen = true →
      link.stage = .signalled ∨ link.stage = .closing) ∧
    (server.phase = .stopped →
      server.tracker.count = 0 ∧ ∀ link ∈ server.links, link.stage = .ended) ∧
    ∀ waiter, server.phase = .draining waiter →
      ((server.look waiter).phase = .stopped ↔ ∀ link ∈ server.links, link.stage = .ended) := by
  have account := Account.of_run ran
  refine ⟨⟨account.accepted, account.ended, account.toNat_count few⟩,
    ⟨account.orderly, account.stopping⟩, ?_, ?_, ?_⟩
  · intro stop link within isOpen
    exact Stage.signalled_or_closing isOpen
      (account.signalled (account.stopping.2 stop) link within)
  · intro stopped
    have none := account.stopped few stopped
    refine ⟨?_, openLinks_eq_zero_iff.1 none⟩
    rw [account.counted, none]
    rfl
  · intro waiter draining
    exact account.look_eq_stopped_iff few draining

/-- Two connections, one that ends before the order to stop and one that drains. -/
theorem drain_exact_of_two_connections : ∃ server,
    (Server.start (Responder.ofCatalogue .empty)).run?
      [.accept, .accept, .finish 0, .stop, .notice 1, .finish 1, .look] = some server ∧
    server.phase = .stopped ∧ server.tracker.count = 0 ∧
    ∀ link ∈ server.links, link.stage = .ended := by
  have stops : ∃ server, (Server.start (Responder.ofCatalogue .empty)).run?
      [.accept, .accept, .finish 0, .stop, .notice 1, .finish 1, .look] = some server ∧
      server.phase = .stopped := ⟨_, rfl, rfl⟩
  obtain ⟨server, ran, stopped⟩ := stops
  exact ⟨server, ran, stopped, (drain_exact ran (by decide)).2.2.2.1 stopped⟩

end Server

end Replay
