import ChannelKeeper.Action
import ChannelKeeper.Calendar

/-!
# Clock

A moment is known by its two texts, one to read and one for file names. Of other
moments a clock knows what they are in its time zone.
-/

namespace ChannelKeeper

structure Moment where
  display : String
  stamp : String
deriving DecidableEq, Repr

/-- The texts of a number of seconds since 1970, as the clocks of a zone show it. -/
def Moment.ofSeconds (seconds : Int) (zone : Zone := .universal) : Moment where
  display := Calendar.dateTimeText (zone.wallTime seconds)
  stamp := Calendar.stampText (zone.wallTime seconds)

/-- Reading the clock may change the state it is read from, but never fails. -/
structure Clock (σ : Type) where
  now : StateM σ Moment
  zone : σ → Zone := fun _ => .universal

namespace Clock

variable {σ ε : Type}

def display (clock : Clock σ) : Action σ ε String :=
  .ofFunction fun s =>
    let (moment, s) := Id.run (StateT.run clock.now s)
    (.ok moment.display, s)

def stamp (clock : Clock σ) : Action σ ε String :=
  .ofFunction fun s =>
    let (moment, s) := Id.run (StateT.run clock.now s)
    (.ok moment.stamp, s)

/-- The zone that the clock is set to. -/
def localZone (clock : Clock σ) : Action σ ε Zone := .ask fun s => .ok (clock.zone s)

def fixed (moment : Moment) : Clock σ := { now := pure moment }

end Clock

end ChannelKeeper
