/-!
# Limits and defaults

Queue sizes, timer bounds and the constants of the remote link, in one place.
-/

namespace Tether

namespace Limits

/-- How many messages a machine's mailbox holds. -/
def mailbox : Nat := 100

/-- How many events a machine holds back. -/
def deferred : Nat := 100

/-- How many frames wait for the remote client. -/
def outbound : Nat := 1000

/-- The shortest delay of a timer, in milliseconds. -/
def minDelayMs : Nat := 50

/-- The longest delay of a timer, in milliseconds: a hundred years of 365 days. -/
def maxDelayMs : Nat := 100 * 365 * 24 * 60 * 60 * 1000

/-- The port of the remote link when none is configured. -/
def defaultPort : Nat := 60099

/-- The greatest length of a frame body, in bytes. -/
def maxFrame : Nat := 1024 * 1024

/-- The length of the prefix of a frame, in bytes. -/
def frameHeader : Nat := 4

/-- The key of the number of an event in its JSON form. -/
def eventKey : String := "event_id"

/-- How many states, delegations or initial transitions in a row a statechart follows. -/
def maxStateDepth : Nat := 16

/-- How many batches of held events the program replays in a row. A statechart itself sets no such
limit; a replay that takes no more batches is carried out to its end. -/
def replayRounds : Nat := Nat.pow 2 32

end Limits

end Tether
