/-
# Generations

Every call that may be superseded carries the number under which it was issued.  Only the number
issued last is current; zero is never issued.

Models `Generation` and `GenerationCounter`.
-/

namespace QueryConsole

/-- Counts the numbers issued so far.  Numbers of 64 bits would start anew after 2^64 of them; consoles
that issue so many are out of scope, so the numbers have no bound here. -/
structure GenerationCounter where
  latest : Nat
  deriving DecidableEq, Repr

namespace GenerationCounter

/-- No number issued. -/
def start : GenerationCounter := ⟨0⟩

/-- The number that is issued next. -/
def next (g : GenerationCounter) : Nat := g.latest + 1

/-- The counter after issuing a number. -/
def issue (g : GenerationCounter) : GenerationCounter := ⟨g.next⟩

/-- Whether a number is the one issued last. -/
def isCurrent (g : GenerationCounter) (generation : Nat) : Bool :=
  g.latest ≠ 0 && generation = g.latest

@[simp] theorem isCurrent_issue (g : GenerationCounter) : g.issue.isCurrent g.next = true := by
  simp [isCurrent, issue, next]

/-- A number issued earlier is not current any more. -/
theorem isCurrent_of_lt {g : GenerationCounter} {n : Nat} (h : n < g.latest) :
    g.isCurrent n = false := by
  simp [isCurrent]; omega

end GenerationCounter
end QueryConsole
