/-!
The time of day, and the time that a player has for one function, in seconds since the epoch. The server
sets its end.
-/

namespace GuessClient

def epochSeconds (microseconds : Int) : Float := Float.ofInt microseconds / 1000000.0

/-- The whole seconds left until `finish`; none when it is past or undefined. The conversion cuts off
the fraction and keeps to the range of the result. -/
def secondsUntil (finish now : Float) : UInt64 := (finish - now).toUInt64

structure Window where
  start : Float
  finish : Float

def Window.total (w : Window) : Float := w.finish - w.start

/-- The remaining time from which on the hint is shown. -/
def Window.threshold (w : Window) : Float := w.total / 3.0

def Window.remaining (w : Window) (now : Float) : UInt64 := secondsUntil w.finish now

end GuessClient
