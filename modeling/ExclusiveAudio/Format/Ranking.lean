import ExclusiveAudio.Failure

/-!
The ranking of the formats that a stream offers, against the one that is asked for.
-/

namespace ExclusiveAudio.StreamFormat

/-- How far a rate is from the desired one. -/
def rateDistance (desired f : StreamFormat) : Binary64 := (f.rate.sub desired.rate).abs

/-- Whether `candidate` fits `desired` strictly better than `current` does. A valid format is
better than one that is not; then, most significant first, the family counts, a smaller distance
of the rates, more bits per channel, and the channel count. Distances that do not compare are
passed over. -/
def isBetter (desired current candidate : StreamFormat) : Bool :=
  if !candidate.isValid then false
  else if !current.isValid then true
  else
    let inFamily (f : StreamFormat) : Bool := f.family? == desired.family?
    if inFamily candidate != inFamily current then inFamily candidate
    else
      let near := desired.rateDistance candidate
      let far := desired.rateDistance current
      if near.lessThan far then true
      else if far.lessThan near then false
      else if candidate.bitsPerChannel ≠ current.bitsPerChannel then
        decide (current.bitsPerChannel < candidate.bitsPerChannel)
      else candidate.channels == desired.channels && current.channels != desired.channels

/-- The better of the best format so far and the next one; the earlier wins a tie. -/
def better (desired : StreamFormat) (best : Option StreamFormat) (candidate : StreamFormat) :
    Option StreamFormat :=
  if !candidate.isValid then best
  else match best with
    | none => some candidate
    | some current => some (if isBetter desired current candidate then candidate else current)

/-- The first of the best valid formats, if its family is the desired one. -/
def selectBest? (desired : StreamFormat) (candidates : List StreamFormat) :
    Option StreamFormat :=
  (candidates.foldl (better desired) none).filter (·.family? == desired.family?)

/-- The format to run a stream in. -/
def selectBest (desired : StreamFormat) (candidates : List StreamFormat) :
    Except AudioError StreamFormat :=
  match desired.selectBest? candidates with
  | some target => .ok target
  | none => .error (.noMatchingFormat desired)

end ExclusiveAudio.StreamFormat
