import FleetQuery.Text.Located

/-!
# Places in a text

A fault is placed by the text that is still to be read, and its offset is the length of the text
before it:

* `utf8Length_append` : the length of two texts one behind the other;
* `Located.before_eq` : **the offset of a fault is the length of what stands before it.**
-/

namespace FleetQuery

theorem utf8Length_append (s t : List Char) :
    utf8Length (s ++ t) = utf8Length s + utf8Length t := by
  induction s with
  | nil => simp [utf8Length]
  | cons c s ih => simp [utf8Length, ih, Nat.add_assoc]

theorem Located.before_eq {κ : Type} {input : String} {p s : List Char} (fault : κ)
    (h : input.toList = p ++ s) :
    Located.before fault s input = ⟨fault, utf8Length p, input⟩ := by
  have hposition : min (utf8Length p + utf8Length s - utf8Length s)
      (utf8Length p + utf8Length s) = utf8Length p := by omega
  rw [before, place, h, utf8Length_append, hposition]

end FleetQuery
