import Tether.Timers
import Tether.Worker

/-!
# The timer service

A thread that delivers timers when they are due. Time is counted in milliseconds from the making of
the service, and passes only while somebody waits for a timer. The thread can run once: timers that
are still pending when it is stopped never fire.
-/

namespace Tether

/-- The pending timers, the time, and the thread that delivers them. -/
structure TimerService where
  timers : Timers
  now : Nat
  worker : Worker

namespace TimerService

/-- A service without timers whose thread has not been started. -/
def new : TimerService :=
  ⟨.empty, 0, .new "broker-timer"⟩

instance : Inhabited TimerService := ⟨new⟩

/-- Schedules an event after a delay within the bounds that timers honour; the result is the number
of the timer. -/
def schedule (service : TimerService) (event : Event) (topic : Topic) (delay : Nat) :
    TimerService × Nat :=
  let (timers, id) := service.timers.insert (service.now + Timers.clampDelay delay) event topic
  ({ service with timers := timers }, id)

def pendingCount (service : TimerService) : Nat :=
  service.timers.pending.length

/-- Starts the thread, if it has never run. -/
def start (service : TimerService) : TimerService :=
  { service with worker := service.worker.start }

def stop (service : TimerService) : TimerService :=
  { service with worker := service.worker.stop }

def isRunning (service : TimerService) : Bool :=
  service.worker.isRunning

/-- Lets time pass until the next deadline; the result is what fires then. -/
def fireNext (service : TimerService) : List Timer × TimerService :=
  match service.timers.nextDeadline? with
  | none => ([], service)
  | some deadline =>
      let now := max service.now deadline
      let (due, timers) := service.timers.takeDue now
      (due, { service with timers := timers, now := now })

/-- Lets time pass, for at most `deadlines` deadlines, until at most `keep` timers are pending; the
result is what fires meanwhile. -/
def fireDownTo (keep : Nat) : Nat → TimerService → List Timer × TimerService
  | 0, service => ([], service)
  | deadlines + 1, service =>
      if service.pendingCount ≤ keep then ([], service)
      else
        let (due, service) := service.fireNext
        let (later, service) := fireDownTo keep deadlines service
        (due ++ later, service)

/-- Runs the thread until at most `keep` timers are pending, and stops it. -/
def run (service : TimerService) (keep : Nat) : List Timer × TimerService :=
  let service := service.start
  let (fired, service) :=
    if service.isRunning then fireDownTo keep service.pendingCount service else ([], service)
  (fired, service.stop)

end TimerService

end Tether
