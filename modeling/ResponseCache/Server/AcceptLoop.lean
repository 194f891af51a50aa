import ResponseCache.Config.Settings
/-!
# The accept loop

The server accepts connections forever, one task per connection, and bounds how many it serves
at once by a counting semaphore that starts with `workerConnections` permits. Each round of the
loop first takes a permit, waiting while none is free, and then accepts:

* a connection moves the permit into the task that serves it, and the task gives it back when the
  connection ends, well or with an error;
* an error that concerns one client only (the client refused, aborted or reset the connection)
  gives the permit back at once, and the next round starts;
* any other error, such as running out of file descriptors, keeps the permit through a short
  pause, and gives it back when the next round starts.

The semaphore is a parameter: a type of states, with how many permits are free, the state a new
semaphore starts in, taking a permit, which has no outcome while none is free, and giving one
back. Nothing closes the semaphore, so taking a permit only ever waits. The loop runs on events
that its surroundings decide: when a permit comes free, what an accept gives, when a pause ends,
and which connection ends next.
-/

namespace ResponseCache
namespace Server

/-- The kind of an I/O error, as far as accepting tells kinds apart. -/
inductive ErrorKind where
  /-- The client refused the connection. -/
  | connectionRefused
  /-- The connection was aborted before it was taken. -/
  | connectionAborted
  /-- The client reset the connection. -/
  | connectionReset
  /-- Any other kind, such as running out of file descriptors or memory. -/
  | other
deriving DecidableEq, Repr

/-- Whether an accept error concerns one client only, so that the next accept may succeed at
once. -/
def ErrorKind.isConnectionError : ErrorKind → Bool
  | .connectionRefused | .connectionAborted | .connectionReset => true
  | .other => false

/-- What an accept gives: a connection from a client, or an error. -/
inductive AcceptOutcome where
  /-- A connection from the client at this address. -/
  | connected (client : String)
  /-- An error of this kind. -/
  | failed (kind : ErrorKind)
deriving DecidableEq, Repr

/-- A counting semaphore over states `σ`. -/
structure Semaphore (σ : Type) where
  /-- A new semaphore with this many permits. -/
  create : Nat → σ
  /-- How many permits are free. -/
  available : σ → Nat
  /-- Takes a permit; no outcome while none is free, where the caller waits. -/
  acquire : σ → Option σ
  /-- Gives a permit back, as dropping it does. -/
  release : σ → σ

/-- What the loop relies on of its semaphore: it counts its permits exactly. A new one has the
permits it was made with, taking a permit takes one and succeeds whenever one is free, and giving
one back adds one. -/
structure Semaphore.Counts {σ : Type} (sem : Semaphore σ) : Prop where
  /-- A new semaphore has the permits it was made with. -/
  available_create : ∀ n, sem.available (sem.create n) = n
  /-- Taking a permit takes exactly one. -/
  available_acquire : ∀ s t, sem.acquire s = some t → sem.available t + 1 = sem.available s
  /-- Taking a permit succeeds while one is free. -/
  acquire_isSome : ∀ s, 0 < sem.available s → (sem.acquire s).isSome
  /-- Giving a permit back adds exactly one. -/
  available_release : ∀ s, sem.available (sem.release s) = sem.available s + 1

/-- Where the loop stands in its round. -/
inductive Phase where
  /-- At the top of a round, waiting for a permit; the loop holds none. -/
  | acquiring
  /-- Holding a permit, waiting for an accept to complete. -/
  | accepting
  /-- Holding a permit through the pause after an error that is not one client's. -/
  | pausing
deriving DecidableEq, Repr

/-- What happens next around the loop. -/
inductive AcceptEvent where
  /-- The loop gets a permit. -/
  | acquire
  /-- The pending accept completes. -/
  | accept (outcome : AcceptOutcome)
  /-- The pause after an error ends. -/
  | wake
  /-- The task serving the connection at this position ends, with this result. -/
  | finish (task : Nat) (result : Except String Unit)
deriving Repr

/-- The accept loop together with the semaphore it shares with the connection tasks. -/
structure AcceptLoop (σ : Type) where
  /-- The semaphore. -/
  semaphore : σ
  /-- Where the loop stands. -/
  phase : Phase
  /-- The clients whose connection tasks have not ended, oldest first; each task holds the
  permit it was given. -/
  serving : List String

namespace AcceptLoop

variable {σ : Type} (sem : Semaphore σ)

/-- The loop as the server starts it: a new semaphore of `workerConnections` permits, the first
round about to take one, and no connections. -/
def start (settings : Config.Settings) : AcceptLoop σ :=
  ⟨sem.create settings.global.workerConnections, .acquiring, []⟩

/-- The loop after an event, or nothing when the event cannot happen now. -/
def step (l : AcceptLoop σ) : AcceptEvent → Option (AcceptLoop σ)
  | .acquire =>
    match l.phase with
    | .acquiring =>
      (sem.acquire l.semaphore).map fun s => { l with semaphore := s, phase := .accepting }
    | _ => none
  | .accept outcome =>
    match l.phase, outcome with
    | .accepting, .connected client =>
      -- the permit moves into the task spawned for the connection
      some { l with phase := .acquiring, serving := l.serving ++ [client] }
    | .accepting, .failed kind =>
      if kind.isConnectionError then
        some { l with semaphore := sem.release l.semaphore, phase := .acquiring }
      else some { l with phase := .pausing }
    | _, _ => none
  | .wake =>
    match l.phase with
    | .pausing => some { l with semaphore := sem.release l.semaphore, phase := .acquiring }
    | _ => none
  | .finish task _ =>
    if task < l.serving.length then
      some { l with semaphore := sem.release l.semaphore, serving := l.serving.eraseIdx task }
    else none

/-- The loop after a sequence of events, or nothing when one of them cannot happen in turn. -/
def run : AcceptLoop σ → List AcceptEvent → Option (AcceptLoop σ)
  | l, [] => some l
  | l, event :: events => (l.step sem event).bind fun l' => run l' events

end AcceptLoop

end Server
end ResponseCache
