/-!
# Switches

Fields and filters can be switched off, for good or depending on a flag of the
surroundings that is looked up each time.  An operation that asks whether something is
on takes the flags as they are then; it never remembers them.

## Main definitions

* `Flags`: the state of all flags;
* `Switch`, `Switch.isOn`: a switch, and its position under given flags.
-/

namespace FacetedSearch

/-- The state of all flags, by name. -/
abbrev Flags := String → Bool

/-- A switch that is fixed, or follows a flag. -/
inductive Switch where
  | fixed (on : Bool)
  | flag (name : String)
  deriving DecidableEq

namespace Switch

/-- Whether the switch is on while the flags are as given. -/
def isOn (flags : Flags) : Switch → Bool
  | .fixed on => on
  | .flag name => flags name

/-- A short description: what follows a flag does not show which. -/
def shown : Switch → String
  | .fixed true => "Fixed(true)"
  | .fixed false => "Fixed(false)"
  | .flag _ => "Dynamic(<fn>)"

@[simp] theorem isOn_fixed (flags : Flags) (on : Bool) : isOn flags (.fixed on) = on := rfl

@[simp] theorem isOn_flag (flags : Flags) (name : String) :
    isOn flags (.flag name) = flags name := rfl

end Switch

end FacetedSearch
