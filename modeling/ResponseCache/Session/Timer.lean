/-!
# The timer clock

A session's timers run on a clock of seconds that moves only while the session waits. No timer
waits longer than thirty years of 365 days: a longer sleep, or a longer sweeper period, waits
thirty years. When a tick and the end of a sleep fall on one second, the session goes on first,
and the tick runs when the session next waits.

The session waits when it sleeps for a positive time, and also when it has spent its budget of
ready sleeps since it last waited: a sleep of no time is ready at once and spends one unit, as
does the sleep that woke the session. With the budget spent, the next sleep first waits, which
lets the sweeper run, and starts a fresh budget.

The sweeper is a ticker started when the session first waits: its first tick falls at once and
does nothing, and every later tick, one period after the one before, purges the cache.
-/

namespace ResponseCache
namespace Session

/-- The longest wait of any timer: thirty years of 365 days, in seconds. -/
def maxWait : Nat := 946080000

/-- How many ready sleeps the session runs between two waits. -/
def pollBudget : Nat := 128

/-- The first point at or after `target` of the grid `due`, `due + step`, `due + 2 * step`, … -/
def gridCeil (due step target : Nat) : Nat :=
  if target ≤ due then due else due + (target - due + step - 1) / step * step

/-- The sweeper's ticker. -/
inductive Ticker where
  /-- Not started: the session has not waited yet. -/
  | idle
  /-- Waiting for a tick at `due`. -/
  | waiting (due : Nat)
  /-- Its tick at `due` fell as the session woke, and runs when the session next waits. -/
  | ready (due : Nat)
deriving DecidableEq, Repr

namespace Ticker

/-- The wait between two ticks of a ticker with period `period`. -/
def gap (period : Nat) : Nat := min period maxWait

/-- What the ticker does when the session waits at `now`: it starts, its first tick falling at
once and doing nothing, or runs a tick left ready, which purges. Whether it purged, and the
ticker after. -/
def onWait (period now : Nat) : Ticker → Bool × Ticker
  | .idle => (false, .waiting (now + gap period))
  | .ready due => (true, .waiting (due + gap period))
  | t => (false, t)

/-- A ticker waiting for `due` while the session sleeps until `wake`: its ticks before `wake`
purge, and a tick at `wake` is left ready. Whether it purged, and the ticker when the session
wakes. -/
def runUntil (period due wake : Nat) : Bool × Ticker :=
  let after (next : Nat) : Ticker := if next = wake then .ready next else .waiting next
  if wake ≤ due then (false, after due)
  else (true, after (gridCeil due (gap period) wake))

end Ticker

/-- The timers of a session: the clock, the sweeper's ticker, and what is left of the budget of
ready sleeps. -/
structure Timer where
  /-- The clock reading, in seconds. -/
  clock : Nat := 0
  /-- The sweeper's ticker. -/
  ticker : Ticker := .idle
  /-- Ready sleeps left before the session waits. -/
  budget : Nat := pollBudget
deriving DecidableEq, Repr

namespace Timer

/-- The session waits at the clock's reading, and the sweeper of period `period`, if one runs,
does what is due. Whether it purged, and the timers after. -/
def wait (period : Option Nat) (t : Timer) : Bool × Timer :=
  match period with
  | none => (false, t)
  | some p =>
    let (purged, ticker) := t.ticker.onWait p t.clock
    (purged, { t with ticker })

/-- Sleeps `secs` seconds, with a sweeper of period `period` if one runs: whether the sweeper
purged, and the timers after. -/
def sleep (period : Option Nat) (t : Timer) (secs : Nat) : Bool × Timer :=
  let (spent, t) :=
    if t.budget = 0 then
      let (purged, t) := t.wait period
      (purged, { t with budget := pollBudget })
    else (false, t)
  if secs = 0 then (spent, { t with budget := t.budget - 1 })
  else
    let (early, t) := t.wait period
    let wake := t.clock + min secs maxWait
    let (late, ticker) := match period, t.ticker with
      | some p, .waiting due => Ticker.runUntil p due wake
      | _, ticker => (false, ticker)
    (spent || early || late, { clock := wake, ticker, budget := pollBudget - 1 })

end Timer

/-- Rounding a gap up to whole steps covers the gap. -/
theorem le_div_ceil_mul (gap step : Nat) (h : 0 < step) :
    gap ≤ (gap + step - 1) / step * step := by
  have key := Nat.lt_div_mul_add (a := gap + step - 1) h
  have : (gap + step - 1) / step * step + step = ((gap + step - 1) / step + 1) * step := by
    rw [Nat.add_mul, Nat.one_mul]
  omega

theorem le_gridCeil (due step target : Nat) (h : 0 < step) : target ≤ gridCeil due step target := by
  unfold gridCeil
  split
  · assumption
  · have := le_div_ceil_mul (target - due) step h
    omega

theorem wait_clock (period : Option Nat) (t : Timer) : (t.wait period).2.clock = t.clock := by
  unfold Timer.wait
  split <;> rfl

theorem clock_le_sleep (period : Option Nat) (t : Timer) (secs : Nat) :
    t.clock ≤ (t.sleep period secs).2.clock := by
  unfold Timer.sleep
  by_cases hb : t.budget = 0 <;> by_cases hs : secs = 0 <;>
    simp only [hb, hs, if_true, if_false, wait_clock] <;> omega

end Session
end ResponseCache
