-- Answers with notes: what was noted on the way to an answer, or on the way to a failure. Nothing
-- noted is lost when a later step fails.
namespace DesktopPolicy

/-- The notes taken in their order, and the answer unless a step failed. -/
structure Noted (ν ε α : Type) where
  notes : List ν
  outcome : Except ε α

namespace Noted

variable {ν μ ε δ α β : Type}

def answer (a : α) : Noted ν ε α := ⟨[], .ok a⟩

def fail (e : ε) : Noted ν ε α := ⟨[], .error e⟩

def note (notes : List ν) : Noted ν ε Unit := ⟨notes, .ok ()⟩

/-- One step and, if it has an answer, the next. -/
def next (step : Noted ν ε α) (f : α → Noted ν ε β) : Noted ν ε β :=
  match step.outcome with
  | .error e => ⟨step.notes, .error e⟩
  | .ok a => ⟨step.notes ++ (f a).notes, (f a).outcome⟩

instance : Monad (Noted ν ε) where
  pure := answer
  bind := next

/-- The outcome of a step without notes. -/
def of (outcome : Except ε α) : Noted ν ε α := ⟨[], outcome⟩

/-- The notes in other words, and the failure too. -/
def retell (f : ν → μ) (g : ε → δ) (step : Noted ν ε α) : Noted μ δ α :=
  ⟨step.notes.map f, step.outcome.mapError g⟩

/-- Some item passes. The items behind the first that does are not tested. -/
def any (test : α → Noted ν ε Bool) : List α → Noted ν ε Bool
  | [] => answer false
  | item :: rest => (test item).next fun passed => if passed then answer true else any test rest

def keep (test : α → Noted ν ε Bool) : List α → Noted ν ε (List α)
  | [] => answer []
  | item :: rest =>
    (test item).next fun passed =>
      (keep test rest).next fun kept => answer (if passed then item :: kept else kept)

end Noted

end DesktopPolicy
