import Mathlib.Logic.Function.Basic
import Proximity.Search.Compile

/-!
# Several searches

Searches that share one geocoder, one compiled after the other. Each works on one of several
queries, be it a fresh one or one that an earlier search was added to, and goes on with the
geocoder as the search before it left it. The geocoder may also have several faces, such as
gazetteers with other results that note their queries in one list.
-/

namespace Proximity

open Sql

/-- A search that is to be added to one of several queries. -/
structure SearchRequest where
  config : SearchConfig
  field : AddressField
  options : SearchOptions
  /-- The number of the query that it is added to. -/
  slot : Nat

variable {σ : Type}

/-- The search that is asked for. -/
def SearchRequest.compile (r : SearchRequest) (g : Geocoder σ) (query : ElementQuery) (s : σ) :
    Outcome σ :=
  r.config.compile g r.field r.options query s

/-- One search after the other: what came of each, with its query as it left it, and the state of
the geocoder in the end. -/
def compileAll (g : Geocoder σ) : List SearchRequest → (Nat → ElementQuery) → σ →
    List (Except Error CompiledSearch × ElementQuery) × σ
  | [], _, s => ([], s)
  | r :: rs, queries, s =>
    let out := r.compile g (queries r.slot) s
    let (outs, s) := compileAll g rs (Function.update queries r.slot out.query) out.state
    ((out.result, out.query) :: outs, s)

/-- One search after the other, each through its own one of several geocoders that share a
state. -/
def compileEach : List (Geocoder σ × SearchRequest) → (Nat → ElementQuery) → σ →
    List (Except Error CompiledSearch × ElementQuery) × σ
  | [], _, s => ([], s)
  | (g, r) :: rs, queries, s =>
    let out := r.compile g (queries r.slot) s
    let (outs, s) := compileEach rs (Function.update queries r.slot out.query) out.state
    ((out.result, out.query) :: outs, s)

theorem compileEach_same (g : Geocoder σ) : ∀ (rs : List SearchRequest)
    (queries : Nat → ElementQuery) (s : σ),
    compileEach (rs.map (g, ·)) queries s = compileAll g rs queries s
  | [], _, _ => rfl
  | r :: rs, queries, s => by
    rw [List.map_cons, compileEach, compileAll, compileEach_same g rs]

end Proximity
