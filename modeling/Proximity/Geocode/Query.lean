import Proximity.Digest.Sha256
import Proximity.Json.Printer
import Proximity.Text.Lowercase

/-!
# Queries

A query asks a geocoder for a place, by a text or by the fields of an address. Queries that mean
the same have one canonical text: a text is folded, and fields are written with the keys of every
object in order. The key under which an answer is kept is taken from the digest of that text.
-/

namespace Proximity

namespace Json

mutual

/-- The value with the keys of every object in it in ascending order. -/
def sorted : Json → Json
  | .array items => .array (sortedItems items)
  | .object fields => .object ((sortedFields fields).mergeSort fun a b => a.1 ≤ b.1)
  | v => v

/-- The items with their keys in order. -/
def sortedItems : List Json → List Json
  | [] => []
  | v :: vs => sorted v :: sortedItems vs

/-- The fields, in the order they have, with the keys inside their values in order. -/
def sortedFields : List (String × Json) → List (String × Json)
  | [] => []
  | (k, v) :: fields => (k, sorted v) :: sortedFields fields

end

end Json

/-- A question to a geocoder. -/
inductive GeocodeQuery where
  | text (text : String)
  | structured (fields : Keyed Json)

namespace GeocodeQuery

/-- The text that a query asks for: its own, or the address among its fields. -/
def address : GeocodeQuery → String
  | text t => t
  | structured fields => ((Keyed.get? "address" fields).bind Json.string?).getD ""

/-- The text that is the same for queries that mean the same, and for no others. -/
def canonical : GeocodeQuery → String
  | text t => "text:" ++ Text.fold t
  | structured fields => "structured:" ++ (Json.object fields).sorted.compact

/-- What the keys of kept answers begin with. -/
def cacheNamespace : String := "wm:geocode:"

/-- The number of digits of the digest that a key holds. -/
def cacheDigits : Nat := 16

/-- The beginning of the digest of a text. -/
def digest (s : String) : String :=
  String.ofList ((Sha256.hexDigits s.toUTF8.toList).take cacheDigits)

/-- The key under which the answer to a query is kept. -/
def cacheKey (q : GeocodeQuery) : String :=
  cacheNamespace ++ digest q.canonical

end GeocodeQuery

end Proximity
