/-!
Steps of a machine that puts something out as it goes.
-/

namespace GuessClient

/-- From a state to the next one and what is put out on the way. -/
abbrev Transition (State Output : Type) := State → State × List Output

namespace Transition

def andThen (first second : Transition σ ω) : Transition σ ω := fun s =>
  let (s, before) := first s
  let (s, after) := second s
  (s, before ++ after)

def stay : Transition σ ω := fun s => (s, [])

def emit (o : ω) : Transition σ ω := fun s => (s, [o])

def change (f : σ → σ) : Transition σ ω := fun s => (f s, [])

def all : List (Transition σ ω) → Transition σ ω
  | [] => stay
  | step :: rest => step.andThen (all rest)

end Transition

end GuessClient
