namespace InferenceDispatch

/-- A point on the clock, or a length of time, in whole microseconds. -/
abbrev Time := Nat

def milliseconds (n : Nat) : Time := n * 1000

def seconds (n : Nat) : Time := n * 1000000

def elapsed (earlier now : Time) : Time := now - earlier

def wholeMilliseconds (t : Time) : Nat := t / 1000

def wholeSeconds (t : Time) : Nat := t / 1000000

/-- How late a loop may run without putting off its next run. -/
def tolerance : Time := milliseconds 5

/-- When a loop comes due again that was due at `due` and ran at `now`: a period after it was due,
or after it ran if that was too late. -/
def nextDue (period due now : Time) : Time :=
  (if due + tolerance < now then now else due) + period

end InferenceDispatch
