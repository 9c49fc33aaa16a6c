import Gateway.Proofs.EntryStamps
import Gateway.Proofs.Removals

/-! # An unchanged list: which of its routes are the same when it is fetched again -/
namespace Gateway

namespace Batch
section
variable {α : Type} {f g : α → Option Route} {as : List α} {n : String} {r : Route}

end

end Batch

namespace RouteService
open Text
variable {c c' : Nat → Int} {es : List Json} {rs rs' : Revisions} {n : String}

/-- The definitions in the entries that have versions. -/
def versioned (es : List Json) : List Definition := (es.filter isVersioned).filterMap definition?

/-! ## Revisions in the second pass -/

section
variable {before after : List Json} {e : Json}

end

/-! ## Routes in the second pass -/

end RouteService
end Gateway
