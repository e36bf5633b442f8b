import Oppa.Desktop.Supervisor

/-!
# Deadlocks of the supervisor

Whether an operation that holds `provider_operation` and waits for room in the control channel can
meet a supervisor that waits for `provider_operation`.

* `Host.Consistent` — who has the lock and who stands in line agrees with where everybody stands;
  every step keeps it.
* `Host.Deadlocked` — the state in question.  `deadlocked_forever` says that it is never left again,
  and `deadlock_reachable` that it is near whenever such an operation has to wait.
* **`never_deadlocked`** — as long as such an operation never has to wait at a point where the
  supervisor does not receive, no run gets there; `forget_server_deadlocks` is a run that does.
-/

namespace Oppa.Desktop

open Foundation History

/-! ## The lock and the line -/

/-- The operation has the lock. -/
def Operation.HasLock : Option Operation → Prop
  | some (.holding _) | some .told => True
  | _ => False

/-- The operation has called `send`. -/
def Operation.HasSent : Option Operation → Prop
  | some .told | some .asked => True
  | _ => False

/-- Who has the lock and who stands in line agrees with where everybody stands. -/
structure Host.Consistent (host : Host) : Prop where
  supervisor : host.providerOperation = some .supervisor ↔ host.supervisor.phase.Holds
  operation : ∀ n, host.providerOperation = some (.operation n) ↔
    Operation.HasLock (host.operations n)
  line : ∀ n, host.connectionControl.Blocks n → Operation.HasSent (host.operations n)
  nodup : (host.connectionControl.line.map Prod.fst).Nodup

namespace Host

variable {host next : Host} {action : Action}

@[simp] lemma operations_move (host : Host) (n m : ℕ) (operation : Option Operation) :
    (host.move n operation).operations m = if m = n then operation else host.operations m :=
  Function.update_apply _ _ _ _

/-- Sending for somebody who does not stand in line. -/
lemma Consistent.nodup_send (hconsistent : host.Consistent) {n : ℕ} {control : ConnectionControl}
    (hfresh : ¬ host.connectionControl.Blocks n) :
    ((host.connectionControl.send n control).line.map Prod.fst).Nodup := by
  by_cases hroom : host.connectionControl.HasRoom
  · rw [Channel.line_send_of_hasRoom hroom]
    exact hconsistent.nodup
  · rw [Channel.line_send_of_not_hasRoom hroom, List.map_append, List.map_singleton,
      List.nodup_append]
    refine ⟨hconsistent.nodup, by simp, ?_⟩
    rintro i hi j hj rfl
    rw [List.mem_singleton] at hj
    subst hj
    exact hfresh hi

/-- The supervisor gets somewhere without the lock. -/
lemma Consistent.settles (hconsistent : host.Consistent) (hfree : ¬ host.supervisor.phase.Holds)
    (hsettles : host.Settles next) : next.Consistent where
  supervisor := by
    rw [hsettles.providerOperation, hconsistent.supervisor]
    exact iff_of_false hfree hsettles.free
  operation n := by
    rw [hsettles.providerOperation, hsettles.operations]
    exact hconsistent.operation n
  line n hblocks := by
    rw [hsettles.operations]
    rcases hsettles.connectionControl with hsame | hclosed
    · exact hconsistent.line n (hsame ▸ hblocks)
    · exact absurd (hclosed ▸ hblocks) Channel.blocks_close
  nodup := by
    rcases hsettles.connectionControl with hsame | hclosed
    · rw [hsame]
      exact hconsistent.nodup
    · rw [hclosed]
      exact List.nodup_nil

/-- A receipt changes the line only. -/
lemma Consistent.receives (hconsistent : host.Consistent) {control : ConnectionControl}
    {channel : Channel ℕ ConnectionControl}
    (hreceive : host.connectionControl.receive = some (control, channel)) :
    Consistent { host with connectionControl := channel } where
  supervisor := hconsistent.supervisor
  operation := hconsistent.operation
  line n hblocks := hconsistent.line n (Channel.blocks_of_receive hreceive hblocks)
  nodup := by
    rw [Channel.line_receive hreceive, List.map_tail]
    exact hconsistent.nodup.tail

/-- The supervisor lets the lock go. -/
lemma Consistent.unlocks (hconsistent : host.Consistent) (hholds : host.supervisor.phase.Holds)
    (hsettles : host.unlock.Settles next) : next.Consistent where
  supervisor := by
    rw [hsettles.providerOperation]
    exact iff_of_false nofun hsettles.free
  operation n := by
    have hlock := hconsistent.supervisor.mpr hholds
    have hthis := hconsistent.operation n
    rw [hlock] at hthis
    rw [hsettles.providerOperation, hsettles.operations]
    exact iff_of_false nofun fun h => nomatch hthis.mpr h
  line n hblocks := by
    rw [hsettles.operations]
    rcases hsettles.connectionControl with hsame | hclosed
    · exact hconsistent.line n (hsame ▸ hblocks)
    · exact absurd (hclosed ▸ hblocks) Channel.blocks_close
  nodup := by
    rcases hsettles.connectionControl with hsame | hclosed
    · rw [hsame]
      exact hconsistent.nodup
    · rw [hclosed]
      exact List.nodup_nil

/-- A step of the supervisor. -/
lemma Consistent.supervise (hconsistent : host.Consistent) (hsupervises : host.Supervises next) :
    next.Consistent := by
  cases hsupervises with
  | locked station hwaiting hfree hnext =>
      subst hnext
      refine ⟨iff_of_true rfl trivial, fun n => ?_, hconsistent.line, hconsistent.nodup⟩
      have hthis := hconsistent.operation n
      rw [hfree] at hthis
      exact iff_of_false nofun fun h => nomatch hthis.mpr h
  | received control channel hreceive hfree hobey =>
      exact (hconsistent.receives hreceive).settles hfree (settles_obey hobey hfree)
  | settled hfree hsettles _ => exact hconsistent.settles hfree hsettles
  | attended hholds hattends =>
      cases hattends with
      | released hsettles => exact hconsistent.unlocks hholds hsettles
      | kept hoperations hlock hcontrol hkeeps =>
          refine ⟨?_, ?_, ?_, ?_⟩
          · rw [hlock, hconsistent.supervisor]
            exact iff_of_true hholds hkeeps
          · rw [hlock, hoperations]
            exact hconsistent.operation
          · rw [hcontrol, hoperations]
            exact hconsistent.line
          · rw [hcontrol]
            exact hconsistent.nodup

/-- Somebody who has not called `send` does not stand in line. -/
lemma Consistent.not_blocks (hconsistent : host.Consistent) {n : ℕ}
    (hsent : ¬ Operation.HasSent (host.operations n)) : ¬ host.connectionControl.Blocks n :=
  fun hblocks => hsent (hconsistent.line n hblocks)

/-- How an operation moves: what becomes of the lock. -/
inductive Passes (host next : Host) (n : ℕ) (operation : Option Operation) : Prop
  | same (hlock : next.providerOperation = host.providerOperation)
      (hiff : Operation.HasLock operation ↔ Operation.HasLock (host.operations n))
  | taken (hfree : host.providerOperation = none)
      (hlock : next.providerOperation = some (.operation n)) (hhas : Operation.HasLock operation)
      (hsilent : ¬ Operation.HasSent operation)
  | released (hhad : Operation.HasLock (host.operations n)) (hlock : next.providerOperation = none)
      (hhas : ¬ Operation.HasLock operation)

/-- How an operation moves: what becomes of the line. -/
inductive Queues (host next : Host) (n : ℕ) (operation : Option Operation) : Prop
  | same (hcontrol : next.connectionControl = host.connectionControl)
      (hblocks : ¬ host.connectionControl.Blocks n)
  | sent (control : ConnectionControl)
      (hcontrol : next.connectionControl = host.connectionControl.send n control)
      (hblocks : ¬ host.connectionControl.Blocks n) (hsent : Operation.HasSent operation)

/-- An operation moves. -/
lemma Consistent.moves (hconsistent : host.Consistent) {n : ℕ} {operation : Option Operation}
    (hsupervisor : next.supervisor = host.supervisor)
    (hoperations : next.operations = Function.update host.operations n operation)
    (hpasses : host.Passes next n operation) (hqueues : host.Queues next n operation) :
    next.Consistent where
  supervisor := by
    rw [hsupervisor, ← hconsistent.supervisor]
    cases hpasses with
    | same hlock _ => rw [hlock]
    | taken hfree hlock _ _ => rw [hlock, hfree]; simp
    | released hhad hlock _ =>
        rw [hlock, (hconsistent.operation n).mpr hhad]
        simp
  operation m := by
    have hthis := hconsistent.operation m
    rw [hoperations, Function.update_apply]
    split_ifs with hm
    · subst hm
      cases hpasses with
      | same hlock hiff => rw [hlock, hiff, hthis]
      | taken hfree hlock hhas _ => exact iff_of_true hlock hhas
      | released hhad hlock hhas => exact iff_of_false (by simp [hlock]) hhas
    · cases hpasses with
      | same hlock hiff => rw [hlock, hthis]
      | taken hfree hlock hhas _ =>
          rw [hfree] at hthis
          rw [hlock, ← hthis]
          simp [Ne.symm hm]
      | released hhad hlock hhas =>
          rw [(hconsistent.operation n).mpr hhad] at hthis
          rw [hlock, ← hthis]
          simp [Ne.symm hm]
  line m hblocks := by
    rw [hoperations, Function.update_apply]
    cases hqueues with
    | same hcontrol hfresh =>
        rw [hcontrol] at hblocks
        split_ifs with hm
        · exact absurd (hm ▸ hblocks) hfresh
        · exact hconsistent.line m hblocks
    | sent control hcontrol hfresh hsent =>
        split_ifs with hm
        · exact hsent
        · rw [hcontrol, Channel.blocks_send] at hblocks
          rcases hblocks with hblocks | ⟨rfl, _⟩
          · exact hconsistent.line m hblocks
          · exact absurd rfl hm
  nodup := by
    cases hqueues with
    | same hcontrol _ =>
        rw [hcontrol]
        exact hconsistent.nodup
    | sent control hcontrol hfresh _ =>
        rw [hcontrol]
        exact hconsistent.nodup_send hfresh

/-- What a step of an operation does. -/
inductive Operates (host : Host) (action : Action) (next : Host) : Prop
  | moved (n : ℕ) (operation : Option Operation) (hsupervisor : next.supervisor = host.supervisor)
      (hoperations : next.operations = Function.update host.operations n operation)
      (hpasses : host.Passes next n operation) (hqueues : host.Queues next n operation)
      (htells : Operation.HasLock (host.operations n) → Operation.HasSent operation →
        action = .tell n)
  | published (hnext : next =
      { host with connectionControl := host.connectionControl.trySend .publishInventory })

/-- **Every step of an operation is one of these.** -/
theorem operates (hconsistent : host.Consistent) (hstep : host.operate action = some next) :
    host.Operates action next := by
  cases action with
  | call n request =>
      simp only [Host.operate] at hstep
      split at hstep <;> cases hstep
      rename_i hnone
      refine .moved n _ rfl rfl (.same rfl ?_) (.same rfl (hconsistent.not_blocks ?_)) nofun
      · simp [hnone, Operation.HasLock]
      · simp [hnone, Operation.HasSent]
  | acquire n =>
      simp only [Host.operate] at hstep
      split at hstep <;> cases hstep
      rename_i hwaiting hfree
      refine .moved n _ rfl rfl (.taken hfree rfl trivial id) (.same rfl (hconsistent.not_blocks ?_))
        nofun
      simp [hwaiting, Operation.HasSent]
  | abort n forgotten =>
      simp only [Host.operate] at hstep
      split at hstep <;> cases hstep
      rename_i hholding
      refine .moved n _ rfl rfl (.released ?_ rfl id) (.same rfl (hconsistent.not_blocks ?_)) nofun
      · simp [hholding, Operation.HasLock]
      · simp [hholding, Operation.HasSent]
  | tell n =>
      simp only [Host.operate] at hstep
      split at hstep
      · rename_i hholding
        split at hstep <;> cases hstep
        refine .moved n _ rfl rfl (.same rfl ?_) (.sent _ rfl (hconsistent.not_blocks ?_) trivial)
          fun _ _ => rfl
        · simp [hholding, Operation.HasLock]
        · simp [hholding, Operation.HasSent]
      · rename_i hholding
        cases hstep
        refine .moved n _ rfl rfl (.same rfl ?_) (.sent _ rfl (hconsistent.not_blocks ?_) trivial)
          fun _ _ => rfl
        · simp [hholding, Operation.HasLock]
        · simp [hholding, Operation.HasSent]
      · cases hstep
  | finish n =>
      simp only [Host.operate, Option.ite_none_left_eq_some] at hstep
      rcases hstep with ⟨hblocks, hstep⟩
      split at hstep <;> cases hstep
      · rename_i htold
        refine .moved n _ rfl rfl (.released ?_ rfl id) (.same rfl hblocks) nofun
        simp [htold, Operation.HasLock]
      · rename_i hasked
        refine .moved n _ rfl rfl (.same rfl ?_) (.same rfl hblocks) nofun
        simp [hasked, Operation.HasLock]
  | reconnect n | shutdown n =>
      simp only [Host.operate] at hstep
      split at hstep <;> cases hstep
      rename_i hnone
      refine .moved n _ rfl rfl (.same rfl ?_) (.sent _ rfl (hconsistent.not_blocks ?_) trivial)
        fun hlock _ => ?_
      · simp [hnone, Operation.HasLock]
      · simp [hnone, Operation.HasSent]
      · simp [hnone, Operation.HasLock] at hlock
  | publishInventory =>
      cases hstep
      exact .published rfl
  | _ => cases hstep

/-- A step of an operation keeps the lock and the line consistent. -/
lemma Consistent.operate (hconsistent : host.Consistent) (hoperates : host.Operates action next) :
    next.Consistent := by
  cases hoperates with
  | moved n operation hsupervisor hoperations hpasses hqueues _ =>
      exact hconsistent.moves hsupervisor hoperations hpasses hqueues
  | published hnext =>
      subst hnext
      refine ⟨hconsistent.supervisor, hconsistent.operation, ?_, ?_⟩
      · intro n hblocks
        exact hconsistent.line n (Channel.blocks_trySend.mp hblocks)
      · rw [Channel.line_trySend]
        exact hconsistent.nodup

/-- **Every step keeps the lock and the line consistent.** -/
theorem Consistent.step (hconsistent : host.Consistent) (hstep : host.step action = some next) :
    next.Consistent := by
  rw [Host.step, Option.or_eq_some_iff] at hstep
  rcases hstep with hoperate | ⟨_, hsupervise⟩
  · exact hconsistent.operate (operates hconsistent hoperate)
  · exact hconsistent.supervise (supervises hsupervise)

lemma consistent_initial (paired : Bool) : (initial paired).Consistent where
  supervisor := by simp [initial, Phase.Holds]
  operation n := by simp [initial, Operation.HasLock]
  line n hblocks := absurd hblocks (Channel.blocks_empty 8)
  nodup := List.nodup_nil

/-! ## Deadlocks -/

/-- An operation that has the lock waits for room in the channel, and the supervisor waits for the
lock. -/
def Deadlocked (host : Host) : Prop :=
  ∃ n, host.providerOperation = some (.operation n) ∧ host.connectionControl.Blocks n ∧
    ∃ station, host.supervisor.phase = .waiting station

/-- Whoever stands in line does not move. -/
lemma Queues.not_blocks {n : ℕ} {operation : Option Operation}
    (hqueues : host.Queues next n operation) : ¬ host.connectionControl.Blocks n := by
  cases hqueues with
  | same _ hblocks => exact hblocks
  | sent _ _ hblocks _ => exact hblocks

/-- A move leaves the others in line. -/
lemma Queues.blocks {n m : ℕ} {operation : Option Operation}
    (hqueues : host.Queues next n operation) (hblocks : host.connectionControl.Blocks m) :
    next.connectionControl.Blocks m := by
  cases hqueues with
  | same hcontrol _ => exact hcontrol ▸ hblocks
  | sent control hcontrol _ _ =>
      rw [hcontrol, Channel.blocks_send]
      exact .inl hblocks

/-- A move takes the lock from nobody else. -/
lemma Passes.keeps {n m : ℕ} {operation : Option Operation} (hconsistent : host.Consistent)
    (hpasses : host.Passes next n operation) (hlock : host.providerOperation = some (.operation m))
    (hother : n ≠ m) : next.providerOperation = some (.operation m) := by
  cases hpasses with
  | same hsame _ => exact hsame.trans hlock
  | taken hfree _ _ _ => simp [hlock] at hfree
  | released hhad _ _ =>
      have hheld := (hconsistent.operation n).mpr hhad
      rw [hlock, Option.some.injEq, Holder.operation.injEq] at hheld
      exact absurd hheld.symm hother

/-- A supervisor that waits for a lock somebody has does nothing else. -/
lemma supervise_waiting {station : Station} {holder : Holder}
    (hwaiting : host.supervisor.phase = .waiting station)
    (hlock : host.providerOperation = some holder) : host.supervise action = none := by
  cases action with
  | receive =>
      simp only [supervise]
      split
      · simp [obey, hwaiting]
      · rfl
  | lock => simp [supervise, hwaiting, hlock]
  | answer outcome => simp [supervise, proceed, attend, hwaiting]
  | observeShutdown | elapse | timeOut | report | incoming _ | helloAccepted | inventoryRequested
  | invalidated | describe => simp [supervise, hwaiting]
  | _ => rfl

/-- **A deadlock is never left.** -/
theorem deadlocked_forever (hconsistent : host.Consistent) (hdeadlocked : host.Deadlocked)
    (hstep : host.step action = some next) : next.Deadlocked := by
  rcases hdeadlocked with ⟨n, hlock, hblocks, station, hwaiting⟩
  rw [Host.step, Option.or_eq_some_iff] at hstep
  rcases hstep with hoperate | ⟨_, hsupervise⟩
  · cases operates hconsistent hoperate with
    | moved m operation hsupervisor hoperations hpasses hqueues _ =>
        have hother : m ≠ n := by
          rintro rfl
          exact hqueues.not_blocks hblocks
        exact ⟨n, hpasses.keeps hconsistent hlock hother, hqueues.blocks hblocks, station,
          hsupervisor ▸ hwaiting⟩
    | published hnext =>
        subst hnext
        exact ⟨n, hlock, Channel.blocks_trySend.mpr hblocks, station, hwaiting⟩
  · rw [supervise_waiting hwaiting hlock] at hsupervise
    cases hsupervise

/-- Where some run from a state leads. -/
def Reaches (host last : Host) : Prop := ∃ history, system.Runs anyStep host history last

lemma Reaches.refl (host : Host) : host.Reaches host := ⟨[], .start⟩

/-- One more step of the supervisor. -/
lemma Reaches.supervise {last : Host} (hreaches : host.Reaches last) (action : Action)
    (hstep : last.supervise action = some next) (hoperate : last.operate action = none) :
    host.Reaches next := by
  rcases hreaches with ⟨history, hrun⟩
  refine ⟨history ++ [], hrun.step (a := action) trivial ?_⟩
  simp [system, Host.step, hoperate, hstep]

/-- **A deadlock is near** whenever an operation that has the lock waits for room while the supervisor
tries to stay connected, and does not wait for a reconnect request. -/
theorem deadlock_reachable {n : ℕ} (hconsistent : host.Consistent)
    (hlock : host.providerOperation = some (.operation n))
    (hblocks : host.connectionControl.Blocks n)
    (hbusy : host.supervisor.phase ≠ .waitingForReconnect)
    (hrunning : host.supervisor.phase ≠ .stopped)
    (hautomatic : host.supervisor.automaticReconnect = true) (hshutdown : host.shutdown = false) :
    ∃ last, host.Reaches last ∧ last.Deadlocked := by
  have hfree : ¬ host.supervisor.phase.Holds := by
    rw [← hconsistent.supervisor, hlock]
    simp
  -- the lock and the line stay what they are, and the supervisor comes to a station
  have harrives : ∀ station, (host.goto (.waiting station)).Deadlocked :=
    fun station => ⟨n, hlock, hblocks, station, rfl⟩
  cases hphase : host.supervisor.phase with
  | waitingForReconnect => exact absurd hphase hbusy
  | stopped => exact absurd hphase hrunning
  | waiting station => exact ⟨host, .refl host, n, hlock, hblocks, station, hphase⟩
  | holding _ | refreshing | describing _ | sending _ | flushing =>
      exact absurd (by simp [hphase, Phase.Holds]) hfree
  | discovering =>
      refine ⟨host.goto (.waiting .connecting), ?_, harrives _⟩
      exact (Reaches.refl host).supervise (.answer .done)
        (by simp [supervise, proceed, hphase]) rfl
  | opening =>
      refine ⟨host.goto (.waiting .connected), ?_, harrives _⟩
      exact (Reaches.refl host).supervise (.answer .done)
        (by simp [supervise, proceed, hphase]) rfl
  | greeting =>
      refine ⟨host.goto (.waiting .helloFailed), ?_, harrives _⟩
      exact (Reaches.refl host).supervise (.answer .giveUp)
        (by simp [supervise, proceed, hphase]) rfl
  | session =>
      refine ⟨host.goto (.waiting .reporting), ?_, harrives _⟩
      exact (Reaches.refl host).supervise .report (by simp [supervise, hphase]) rfl
  | authenticating =>
      have hgreeting : host.Reaches (host.goto .greeting) :=
        (Reaches.refl host).supervise (.answer .done)
          (by simp [supervise, proceed, hphase]) rfl
      refine ⟨host.goto (.waiting .helloFailed), ?_, harrives _⟩
      exact hgreeting.supervise (.answer .giveUp)
        (by simp [supervise, proceed, goto]) rfl
  | backingOff afterConnect =>
      cases afterConnect with
      | false =>
          refine ⟨host.goto (.waiting .planning), ?_, harrives _⟩
          exact (Reaches.refl host).supervise .elapse (by simp [supervise, hphase]) rfl
      | true =>
          have hresume : host.Reaches host.schedule :=
            (Reaches.refl host).supervise .elapse
              (by simp [supervise, hphase, resume, hshutdown, hautomatic]) rfl
          by_cases hretry : host.supervisor.retryAfter = true
          · refine ⟨host.schedule.goto (.waiting .planning), ?_, n, ?_, ?_, _, rfl⟩
            · exact hresume.supervise .elapse
                (by simp [supervise, schedule, hretry]) rfl
            · simpa [schedule, hretry, goto] using hlock
            · simpa [schedule, hretry, goto] using hblocks
          · refine ⟨host.schedule, hresume, ?_⟩
            simpa [schedule, hretry] using harrives .planning

/-- The operation that has the lock does not have to wait, unless the supervisor is about to receive
and nobody is in line. -/
def Unobstructed (host : Host) : Action → Prop
  | .tell _ => host.connectionControl.HasRoom ∨
      host.supervisor.phase = .waitingForReconnect ∧ host.connectionControl.line = []
  | _ => True

instance : ∀ action, Decidable (host.Unobstructed action)
  | .tell _ => inferInstanceAs (Decidable (_ ∨ _ ∧ _))
  | .call _ _ | .acquire _ | .abort _ _ | .finish _ | .reconnect _ | .shutdown _
  | .publishInventory | .lock | .receive | .observeShutdown | .elapse | .answer _ | .timeOut
  | .report | .incoming _ | .helloAccepted | .inventoryRequested | .invalidated | .describe =>
      inferInstanceAs (Decidable True)

/-- Whoever has the lock and waits for room is the next to get it, from a supervisor that does nothing
but receive. -/
def Untroubled (host : Host) : Prop :=
  ∀ n, host.providerOperation = some (.operation n) → host.connectionControl.Blocks n →
    host.supervisor.phase = .waitingForReconnect ∧
      (host.connectionControl.line.map Prod.fst).head? = some n

lemma Untroubled.not_deadlocked (huntroubled : host.Untroubled) : ¬ host.Deadlocked := by
  rintro ⟨n, hlock, hblocks, station, hwaiting⟩
  have hphase := (huntroubled n hlock hblocks).1
  rw [hwaiting] at hphase
  cases hphase

/-- A step of an operation. -/
lemma Untroubled.operate (hconsistent : host.Consistent) (huntroubled : host.Untroubled)
    (hclear : host.Unobstructed action) (hoperates : host.Operates action next) :
    next.Untroubled := by
  intro n hlock hblocks
  cases hoperates with
  | published hnext =>
      subst hnext
      rw [Channel.line_trySend]
      exact huntroubled n hlock (Channel.blocks_trySend.mp hblocks)
  | moved m operation hsupervisor hoperations hpasses hqueues htells =>
      rw [hsupervisor]
      cases hpasses with
      | released _ hfree _ => simp [hfree] at hlock
      | taken hfree htaken _ hsilent =>
          -- it has just been taken, by somebody who is not in line
          rw [htaken, Option.some.injEq, Holder.operation.injEq] at hlock
          subst hlock
          cases hqueues with
          | same hcontrol hfresh => exact absurd (hcontrol ▸ hblocks) hfresh
          | sent control hcontrol hfresh hsent => exact absurd hsent hsilent
      | same hsame hiff =>
          rw [hsame] at hlock
          cases hqueues with
          | same hcontrol _ =>
              rw [hcontrol] at hblocks ⊢
              exact huntroubled n hlock hblocks
          | sent control hcontrol hfresh hsent =>
              rw [hcontrol, Channel.blocks_send] at hblocks
              rw [hcontrol]
              rcases hblocks with hblocks | ⟨rfl, hfull⟩
              · rcases huntroubled n hlock hblocks with ⟨hphase, hfirst⟩
                refine ⟨hphase, ?_⟩
                by_cases hroom : host.connectionControl.HasRoom
                · rw [Channel.line_send_of_hasRoom hroom]
                  exact hfirst
                · rw [Channel.line_send_of_not_hasRoom hroom, List.map_append, List.head?_append,
                    hfirst]
                  rfl
              · have htell := htells ((hconsistent.operation n).mp hlock) hsent
                subst htell
                rcases hclear with hroom | ⟨hphase, hempty⟩
                · exact absurd hroom hfull
                · refine ⟨hphase, ?_⟩
                  rw [Channel.line_send_of_not_hasRoom hfull, hempty]
                  rfl

/-- A step of the supervisor. -/
lemma Untroubled.supervise (hconsistent : host.Consistent) (huntroubled : host.Untroubled)
    (hsupervises : host.Supervises next) : next.Untroubled := by
  intro n hlock hblocks
  cases hsupervises with
  | locked station hwaiting hfree hnext =>
      subst hnext
      cases hlock
  | received control channel hreceive hfree hobey =>
      -- the first in line has been served
      exfalso
      have hsettles := settles_obey hobey hfree
      rw [hsettles.providerOperation] at hlock
      have hline : n ∈ host.connectionControl.line.tail.map Prod.fst := by
        rcases hsettles.connectionControl with hsame | hclosed
        · rw [hsame, Channel.Blocks, Channel.line_receive hreceive] at hblocks
          exact hblocks
        · exact absurd (hclosed ▸ hblocks) Channel.blocks_close
      have hfirst := (huntroubled n hlock (Channel.blocks_of_mem_tail hline)).2
      exact Channel.not_mem_tail_of_head hconsistent.nodup hfirst hline
  | settled hfree hsettles hleaves =>
      rw [hsettles.providerOperation] at hlock
      rcases hsettles.connectionControl with hsame | hclosed
      · have hphase := (huntroubled n hlock (hsame ▸ hblocks)).1
        exact absurd (hleaves hphase ▸ hblocks) Channel.blocks_close
      · exact absurd (hclosed ▸ hblocks) Channel.blocks_close
  | attended hholds hattends =>
      have hheld := hconsistent.supervisor.mpr hholds
      cases hattends with
      | released hsettles =>
          rw [hsettles.providerOperation] at hlock
          cases hlock
      | kept _ hsame _ _ =>
          rw [hsame, hheld] at hlock
          cases hlock

/-- A step that meets the condition. -/
lemma Untroubled.step (hconsistent : host.Consistent) (huntroubled : host.Untroubled)
    (hclear : host.Unobstructed action) (hstep : host.step action = some next) :
    next.Untroubled := by
  rw [Host.step, Option.or_eq_some_iff] at hstep
  rcases hstep with hoperate | ⟨_, hsupervise⟩
  · exact huntroubled.operate hconsistent hclear (operates hconsistent hoperate)
  · exact huntroubled.supervise hconsistent (supervises hsupervise)

/-- **The supervisor never deadlocks with an operation**, in any run in which no operation that has
the lock has to wait for room, unless the supervisor is about to receive and nobody is in line. -/
theorem never_deadlocked {paired : Bool} {history : List Empty}
    (hrun : system.Runs (fun _ host action => host.Unobstructed action) (initial paired) history
      host) : ¬ host.Deadlocked := by
  have hinvariant : host.Consistent ∧ host.Untroubled := by
    induction hrun with
    | start => exact ⟨consistent_initial paired, fun n hlock => nomatch hlock⟩
    | step _ hclear hstep ih =>
        simp only [system, Option.map_eq_some_iff, Prod.mk.injEq] at hstep
        rcases hstep with ⟨_, hstep, rfl, rfl⟩
        exact ⟨ih.1.step hstep, ih.2.step ih.1 hclear hstep⟩
  exact hinvariant.2.not_deadlocked

end Host

open Host

namespace Sample

/-- The supervisor looks for the server, which takes its time, while eight printers are changed. -/
def filling : List Action := [.lock, .answer .done] ++ List.replicate 8 .publishInventory

/-- The server is forgotten meanwhile. -/
def forgetting : List Action :=
  filling ++ [.call 0 .forgetServer, .acquire 0, .tell 0, .answer .done]

/-- No step is refused. -/
def anything : List Empty → Host → Action → Bool := fun _ _ _ => true

/-- Steps that leave room are not refused. -/
def clear : List Empty → Host → Action → Bool := fun _ host action => host.Unobstructed action

/-- The server is forgotten while the channel is empty. -/
def forgotten : List Action :=
  [.lock, .answer .done, .call 0 .forgetServer, .acquire 0, .tell 0, .answer .done, .finish 0]

end Sample

/-- A server is forgotten while the supervisor looks for it. -/
theorem never_deadlocked_forgotten :
    (system.run Sample.clear (initial true) Sample.forgotten).2.supervisor.phase =
        .waiting .connecting ∧
      ¬ (system.run Sample.clear (initial true) Sample.forgotten).2.Deadlocked :=
  ⟨by decide +kernel,
    never_deadlocked (System.runs_run (fun _ _ _ h => of_decide_eq_true h) Sample.forgotten)⟩

/-- **Forgetting a server deadlocks** when eight printer operations have filled the channel. -/
theorem forget_server_deadlocks :
    ∃ history host, system.Runs anyStep (initial true) history host ∧ host.Deadlocked := by
  refine ⟨(system.run Sample.anything (initial true) Sample.forgetting).1,
    (system.run Sample.anything (initial true) Sample.forgetting).2,
    System.runs_run (fun _ _ _ _ => trivial) _, 0, ?_, ?_, .connecting, ?_⟩
  all_goals decide +kernel

end Oppa.Desktop
