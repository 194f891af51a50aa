import ResponseCache.Server.AcceptLoop
/-!
# Conservation of connection permits

Every permit of the connection semaphore is at all times in one of three places: free in the
semaphore, held by the accept loop between taking it and handing it on, or held by a connection
task that has not ended. No event makes or loses one: taking a permit moves it from the semaphore
to the loop, a connection moves it from the loop to a new task, an error moves it back to the
semaphore (at once, or when the pause after it ends), and the end of a connection moves it from
its task back to the semaphore.

The main statement, `AcceptLoop.permits_conserved`, says this of every run of the loop the
server starts, for every semaphore that counts its permits exactly: the three always add up to
`workerConnections`, so at most that many connections are served at once, and no error keeps a
permit from the next round.
-/

namespace ResponseCache
namespace Server

/-- How many permits the loop holds in a phase: one from taking a permit until it moves into a
task or goes back. -/
def Phase.held : Phase → Nat
  | .acquiring => 0
  | .accepting => 1
  | .pausing => 1

namespace AcceptLoop

variable {σ : Type} {sem : Semaphore σ}

/-- The permits the semaphore, the loop and the connection tasks hold between them. -/
def permits (sem : Semaphore σ) (l : AcceptLoop σ) : Nat :=
  sem.available l.semaphore + l.phase.held + l.serving.length

/-- Every event moves permits between the semaphore, the loop and the connection tasks, and none
makes or loses one. -/
theorem permits_step (counts : sem.Counts) {l l' : AcceptLoop σ} {event : AcceptEvent}
    (stepped : l.step sem event = some l') : l'.permits sem = l.permits sem := by
  obtain ⟨semaphore, phase, serving⟩ := l
  cases event with
  | acquire =>
      cases phase <;> simp only [step, reduceCtorEq] at stepped
      obtain ⟨s, taken, rfl⟩ := Option.map_eq_some_iff.mp stepped
      have moved := counts.available_acquire _ _ taken
      simp only [permits, Phase.held]
      omega
  | accept outcome =>
      cases phase <;> cases outcome <;> simp only [step, reduceCtorEq] at stepped
      case accepting.connected client =>
        cases stepped
        simp only [permits, Phase.held, List.length_append, List.length_singleton]
        omega
      case accepting.failed kind =>
        split at stepped <;> cases stepped
        · simp only [permits, Phase.held, counts.available_release]
        · rfl
  | wake =>
      cases phase <;> simp only [step, reduceCtorEq] at stepped
      cases stepped
      simp only [permits, Phase.held, counts.available_release]
  | finish task result =>
      simp only [step] at stepped
      split at stepped
      · rename_i live
        cases stepped
        simp only [permits, counts.available_release, List.length_eraseIdx, if_pos live]
        omega
      · cases stepped

/-- A run of events keeps the number of permits held between the three. -/
theorem permits_run (counts : sem.Counts) :
    ∀ (events : List AcceptEvent) {l l' : AcceptLoop σ}, l.run sem events = some l' →
      l'.permits sem = l.permits sem
  | [], _, _, ran => by
      cases Option.some.inj ran
      rfl
  | event :: events, _, _, ran => by
      obtain ⟨next, stepped, rest⟩ := Option.bind_eq_some_iff.mp ran
      rw [permits_run counts events rest, permits_step counts stepped]

theorem permits_start (counts : sem.Counts) (settings : Config.Settings) :
    (start sem settings).permits sem = settings.global.workerConnections := by
  simp [permits, start, Phase.held, counts.available_create]

/-- At the top of a round, a free permit lets the loop take one at once. -/
theorem step_acquire_isSome (counts : sem.Counts) {l : AcceptLoop σ} (top : l.phase = .acquiring)
    (free : 0 < sem.available l.semaphore) : (l.step sem .acquire).isSome := by
  simp only [step, top, Option.isSome_map]
  exact counts.acquire_isSome _ free

/-- What the accept loop keeps with `permits` permits in all. -/
structure Conserves (sem : Semaphore σ) (permits : Nat) (l : AcceptLoop σ) : Prop where
  /-- Every permit is free in the semaphore, held by the loop, or held by a connection task that
  has not ended. -/
  accounted : sem.available l.semaphore + l.phase.held + l.serving.length = permits
  /-- At most `permits` connections are served at once. -/
  serving_le : l.serving.length ≤ permits
  /-- At the top of a round with fewer connections than permits, the loop takes a permit at once:
  no error has kept one back. -/
  acquire_ready :
    l.phase = .acquiring → l.serving.length < permits → (l.step sem .acquire).isSome

/-- Connection permits are conserved: for every semaphore that counts its permits exactly, every
sequence of accept outcomes, pauses and permit grants, and every order in which connections end,
the free permits, the permit the loop holds and the unfinished connections add up to
`workerConnections`. -/
theorem permits_conserved (counts : sem.Counts) (settings : Config.Settings)
    {events : List AcceptEvent} {l : AcceptLoop σ}
    (ran : (start sem settings).run sem events = some l) :
    l.Conserves sem settings.global.workerConnections := by
  have accounted : l.permits sem = settings.global.workerConnections := by
    rw [permits_run counts events ran, permits_start counts]
  refine ⟨accounted, by unfold permits at accounted; omega, fun top fewer => ?_⟩
  apply step_acquire_isSome counts top
  simp only [permits, top, Phase.held] at accounted
  omega

end AcceptLoop

/-- The semaphore that is nothing but its count of free permits. -/
def Semaphore.counter : Semaphore Nat where
  create n := n
  available n := n
  acquire
    | 0 => none
    | n + 1 => some n
  release n := n + 1

theorem Semaphore.counter_counts : Semaphore.counter.Counts where
  available_create _ := rfl
  available_acquire s t taken := by
    cases s with
    | zero => cases taken
    | succ n =>
        cases taken
        rfl
  acquire_isSome s free := by
    cases s with
    | zero => cases free
    | succ n => rfl
  available_release _ := rfl

namespace AcceptLoop

/-- Two permits, through a pause after an error, a connection, a client's reset and the end of
the connection with an error: one is held by the loop again and the other is free. -/
theorem permits_conserved_through_errors :
    let settings : Config.Settings := { global := { workerConnections := 2 } }
    let events : List AcceptEvent :=
      [.acquire, .accept (.failed .other), .wake, .acquire, .accept (.connected "10.0.0.7:41000"),
        .acquire, .accept (.failed .connectionReset), .acquire,
        .finish 0 (.error "connection reset by peer")]
    let l : AcceptLoop Nat := ⟨1, .accepting, []⟩
    Semaphore.counter.Counts ∧
      (start Semaphore.counter settings).run Semaphore.counter events = some l ∧
      l.Conserves Semaphore.counter settings.global.workerConnections := by
  intro settings events l
  have ran : (start Semaphore.counter settings).run Semaphore.counter events = some l := rfl
  exact ⟨Semaphore.counter_counts, ran, permits_conserved Semaphore.counter_counts settings ran⟩

end AcceptLoop

end Server
end ResponseCache
