import Intake.Pattern.Engine
import Intake.Pattern.Matching
import Intake.Pattern.Reader

/-! # Patterns

A pattern is a source text that can be read, together with what it was read as. Patterns are equal
when their sources are. A source is taken if it can be read and the engine has room for it.
-/

namespace Intake

structure Pattern where
  source : String
  regex : Regex
  read : Regex.read? source = some regex

namespace Pattern

def ofSource? [Engine] (source : String) : Option Pattern :=
  match h : Regex.read? source with
  | none => none
  | some regex => if Engine.affords source then some ⟨source, regex, h⟩ else none

/-- Whether a part of the text matches. -/
def matchesIn (p : Pattern) (text : String) : Bool := p.regex.matchesIn text.toList

theorem ext {p q : Pattern} (h : p.source = q.source) : p = q := by
  obtain ⟨s, r, hr⟩ := p
  obtain ⟨t, u, hu⟩ := q
  obtain rfl : s = t := h
  obtain rfl : r = u := Option.some.inj (hr.symm.trans hu)
  rfl

instance : DecidableEq Pattern := fun p q =>
  decidable_of_iff (p.source = q.source) ⟨ext, fun h => h ▸ rfl⟩

end Pattern

end Intake
